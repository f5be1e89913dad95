import TracePlayer.Display.Play
import TracePlayer.Playback.Backlog
import TracePlayer.Session

/-!
# The prompter

Each drive does one thing: it plays the next step of the backlog, or, when none waits, asks the interpreter for more of the
trace. An answer is awaited before the interpreter is asked again, and nothing is asked of one that has ended or has refused
a command.
-/

namespace TracePlayer

/-- Whether the interpreter may be asked for more. -/
inductive Readiness where
  | idle
  | awaiting
  | stopped
  deriving DecidableEq, Repr

/-- What a drive did. -/
inductive Outcome where
  | stepped (step : Step)
  | requested
  | waiting
  | finished
  deriving DecidableEq, Repr

/-- The prompter: whether it may ask, and how often it has asked. -/
structure Prompter where
  readiness : Readiness
  requests : Nat
  deriving DecidableEq, Repr

/-- Takes commands: accepts one, or tells why not. -/
abbrev Sink := Command → Except SessionFault Unit

/-- What comes of offering commands one after the other until one is refused: the refusal, if there is one, the commands
that were tried, and those that were accepted. -/
structure Offer where
  result : Except SessionFault Unit
  tried : List Command
  sent : List Command

/-- Offers commands one after the other until one is refused. -/
def offer (sink : Sink) : List Command → Offer
  | [] => ⟨.ok (), [], []⟩
  | command :: rest =>
    match sink command with
    | .error fault => ⟨.error fault, [command], []⟩
    | .ok () =>
      let next := offer sink rest
      ⟨next.result, command :: next.tried, command :: next.sent⟩

/-- What a drive leaves behind: the prompter, the backlog and the stage, what it did, the commands that were tried, and those
that were accepted. -/
structure Drive where
  prompter : Prompter
  backlog : Backlog
  stage : Stage
  outcome : Except SessionFault Outcome
  tried : List Command
  sent : List Command

namespace Prompter

/-- Nothing has been asked. -/
def initial : Prompter := ⟨.idle, 0⟩

/-- Asks nothing any more. -/
def stop (p : Prompter) : Prompter := { p with readiness := .stopped }

/-- The readiness once a step has been played: an answer has come. -/
def answered (p : Prompter) : Prompter :=
  { p with readiness := if p.readiness = .awaiting then .idle else p.readiness }

/-- Asks for a snapshot and then for a step; the second only when the first was accepted. -/
def request (sink : Sink) : Offer := offer sink [.env, .step]

/-- Plays the next step, or asks for more when none waits. -/
def drive (p : Prompter) (backlog : Backlog) (stage : Stage) (sink : Sink) : Drive :=
  match backlog.pop? with
  | some (step, rest) => ⟨p.answered, rest, stage.play step, .ok (.stepped step), [], []⟩
  | none =>
    match p.readiness with
    | .stopped => ⟨p, backlog, stage, .ok .finished, [], []⟩
    | .awaiting => ⟨p, backlog, stage, .ok .waiting, [], []⟩
    | .idle =>
      let asked := request sink
      match asked.result with
      | .ok () => ⟨⟨.awaiting, p.requests + 1⟩, backlog, stage, .ok .requested, asked.tried, asked.sent⟩
      | .error fault => ⟨p.stop, backlog, stage, .error fault, asked.tried, asked.sent⟩

end Prompter

end TracePlayer
