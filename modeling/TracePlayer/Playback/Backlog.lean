import TracePlayer.Playback.Step

/-!
# The backlog

The steps that wait to be played, first in first out, and how many have ever joined it.
-/

namespace TracePlayer

/-- The steps that wait to be played. -/
structure Backlog where
  steps : List Step
  totalEnqueued : Nat
  deriving DecidableEq, Repr

namespace Backlog

/-- No step waits and none ever did. -/
def empty : Backlog := ⟨[], 0⟩

/-- Adds steps at the end. -/
def extend (b : Backlog) (steps : List Step) : Backlog :=
  ⟨b.steps ++ steps, b.totalEnqueued + steps.length⟩

/-- Adds one step at the end. -/
def push (b : Backlog) (step : Step) : Backlog := b.extend [step]

/-- Takes the first step. -/
def pop? (b : Backlog) : Option (Step × Backlog) :=
  match b.steps with
  | [] => none
  | step :: rest => some (step, { b with steps := rest })

/-- The first step. -/
def peek? (b : Backlog) : Option Step := b.steps.head?

/-- How many steps wait. -/
def size (b : Backlog) : Nat := b.steps.length

/-- Whether no step waits. -/
def isEmpty (b : Backlog) : Bool := b.steps.isEmpty

end Backlog

end TracePlayer
