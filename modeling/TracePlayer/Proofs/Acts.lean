import TracePlayer.Player
import TracePlayer.Proofs.Drive

/-!
# Runs of a player

A run is a list of acts: chunks of the trace arrive, the animation ticks, the interpreter ends, in any order and as often as
one likes. Here is what an act is answered with, which steps it adds to the backlog, and what each act does to the parts of a
player. `Event.steps` are all the steps that an event comes to: its storyboard, or none when it has no storyboard. What is shown of
every storyboard (`Storyboard.Yields`) is shown of them.
-/

namespace TracePlayer

/-- The steps that an event comes to. -/
def Event.steps (event : Event) : List Step :=
  match event.storyboard with
  | .ok steps => steps
  | .error _ => []

/-- A property of all the steps of an event, if it has a storyboard. -/
def Storyboard.Yields (P : List Step → Prop) (result : Except StoryFault (List Step)) : Prop :=
  ∀ steps, result = .ok steps → P steps

/-- The events that the lines of a chunk tell. -/
def Trace.events (chunk : String) : List Event := (Trace.verdicts chunk).filterMap Trace.Verdict.event?

namespace Storyboard

variable {P : List Step → Prop}

theorem yields_ok {steps : List Step} (h : P steps) : Yields P (.ok steps) := by
  intro steps' heq
  obtain rfl := Except.ok.inj heq
  exact h

theorem yields_error (fault : StoryFault) : Yields P (.error fault) := nofun

/-- What has to be found out before there are steps has no part in what they are. -/
theorem yields_bind {α : Type} (x : Except StoryFault α) {f : α → Except StoryFault (List Step)}
    (h : ∀ a, Yields P (f a)) : Yields P (x >>= f) := by
  cases x with
  | ok a => exact h a
  | error fault => exact yields_error fault

/-- What holds of a storyboard, and of no steps, holds of the steps that an event comes to. -/
theorem Yields.steps {e : Event} (h : Yields P e.storyboard) (hnil : P []) : P e.steps := by
  unfold Event.steps
  cases hstory : e.storyboard with
  | ok steps => exact h steps hstory
  | error fault => exact hnil

end Storyboard

namespace Player

/-- What can happen to a player. -/
inductive Act where
  | ingest (chunk : String)
  | tick (sink : Sink)
  | ended (code : Option Int)

namespace Act

/-- The steps that an act adds to the backlog. -/
def output : Act → List Step
  | ingest chunk => (Trace.events chunk).flatMap Event.steps
  | tick _ => []
  | ended code => [.notify (exitNotice code)]

/-- Whether the act tells that the interpreter has ended. -/
def isEnd : Act → Bool
  | ended _ => true
  | _ => false

end Act

/-- What an act is answered with. -/
inductive Reply where
  /-- The number of steps that a chunk added to the backlog. -/
  | enqueued (count : Nat)
  | ticked (outcome : Except SessionFault Outcome)
  | noted

namespace Reply

/-- The step that was played. -/
def step? : Reply → Option Step
  | ticked (.ok (.stepped step)) => some step
  | _ => none

/-- The number of steps that a chunk is said to have added. -/
def count : Reply → Nat
  | enqueued n => n
  | _ => 0

end Reply

/-- The sum of some counts. -/
def total (counts : List Nat) : Nat := counts.foldr (· + ·) 0

/-- How many steps an event is said to add when it takes effect. -/
def answer : Event → Nat
  | .memorySize _ => 0
  | .memoryDump _ => 0
  | .snapshotReady => 0
  | event =>
    match event.storyboard with
    | .ok steps => steps.length
    | .error _ => 0

/-- The player after an act. -/
def after (source : SnapshotSource) (p : Player) : Act → Player
  | .ingest chunk => p.ingest source chunk
  | .tick sink => (p.tick sink).player
  | .ended code => p.sessionEnded code

/-- The answer to an act. -/
def reply (p : Player) : Act → Reply
  | .ingest chunk => .enqueued (total ((Trace.events chunk).map answer))
  | .tick sink => .ticked (p.tick sink).outcome
  | .ended _ => .noted

/-- The player after a run. -/
def run (source : SnapshotSource) (p : Player) (acts : List Act) : Player := acts.foldl (after source) p

/-- The answers to the acts of a run. -/
def replies (source : SnapshotSource) (p : Player) : List Act → List Reply
  | [] => []
  | act :: acts => p.reply act :: (p.after source act).replies source acts

/-- The steps that have been played in a run. -/
def played (source : SnapshotSource) (p : Player) (acts : List Act) : List Step :=
  (p.replies source acts).filterMap Reply.step?

@[simp]
theorem total_cons (n : Nat) (counts : List Nat) : total (n :: counts) = n + total counts := rfl

@[simp]
theorem run_nil (source : SnapshotSource) (p : Player) : p.run source [] = p := rfl

@[simp]
theorem run_cons (source : SnapshotSource) (p : Player) (act : Act) (acts : List Act) :
    p.run source (act :: acts) = (p.after source act).run source acts := rfl

@[simp]
theorem played_nil (source : SnapshotSource) (p : Player) : p.played source [] = [] := rfl

@[simp]
theorem played_cons (source : SnapshotSource) (p : Player) (act : Act) (acts : List Act) :
    p.played source (act :: acts) = (p.reply act).step?.toList ++ (p.after source act).played source acts := by
  rw [played, replies, List.filterMap_cons]
  cases (p.reply act).step? <;> rfl

/-! ## Events -/

/-- An event that is shown adds all its steps to the backlog. -/
theorem enqueue_backlog (p : Player) (event : Event) : (p.enqueue event).backlog = p.backlog.extend event.steps := by
  unfold enqueue Event.steps
  cases event.storyboard with
  | ok steps => rfl
  | error fault => exact (Backlog.extend_nil _).symm

theorem enqueue_prompter (p : Player) (event : Event) : (p.enqueue event).prompter = p.prompter := by
  unfold enqueue
  cases event.storyboard <;> rfl

theorem enqueue_stage (p : Player) (event : Event) : (p.enqueue event).stage = p.stage := by
  unfold enqueue
  cases event.storyboard <;> rfl

theorem enqueue_fetches (p : Player) (event : Event) : (p.enqueue event).fetches = p.fetches := by
  unfold enqueue
  cases event.storyboard <;> rfl

/-- An event adds its steps to the backlog; one that loads a state has none. -/
theorem apply_backlog (source : SnapshotSource) (p : Player) (event : Event) :
    (p.apply source event).backlog = p.backlog.extend event.steps := by
  cases event with
  | memorySize kilobytes => exact (Backlog.extend_nil _).symm
  | memoryDump bytes => exact (Backlog.extend_nil _).symm
  | snapshotReady => exact (Backlog.extend_nil _).symm
  | _ => exact enqueue_backlog p _

theorem apply_prompter (source : SnapshotSource) (p : Player) (event : Event) :
    (p.apply source event).prompter = p.prompter := by
  cases event with
  | memorySize kilobytes => rfl
  | memoryDump bytes => rfl
  | snapshotReady => rfl
  | _ => exact enqueue_prompter p _

/-- A snapshot tells nothing and is no step. -/
theorem told_present (s : Stage) (snapshot : Snapshot) :
    (s.present snapshot).commentary = s.commentary ∧ (s.present snapshot).stepsPlayed = s.stepsPlayed := by
  simp [Stage.present, Register.general, Flag.all, GeneralValues.get?, Stage.load, Stage.setText]

/-- No event touches the commentary or counts a step: that is done by playing steps alone. -/
theorem apply_told (source : SnapshotSource) (p : Player) (event : Event) :
    (p.apply source event).stage.commentary = p.stage.commentary ∧
      (p.apply source event).stage.stepsPlayed = p.stage.stepsPlayed := by
  cases event with
  | memorySize kilobytes => exact ⟨rfl, rfl⟩
  | memoryDump bytes => exact ⟨rfl, rfl⟩
  | snapshotReady =>
    simp only [apply, loadSnapshot]
    cases source p.fetches with
    | ok snapshot => exact told_present p.stage snapshot
    | error fault => exact ⟨rfl, rfl⟩
  | _ =>
    have h := enqueue_stage p
    simp only [apply, h, and_self]

/-- What an event is said to add is what it adds. -/
theorem answer_eq (event : Event) : answer event = event.steps.length := by
  cases event with
  | memorySize kilobytes => rfl
  | memoryDump bytes => rfl
  | snapshotReady => rfl
  | _ =>
    simp only [answer, Event.steps]
    split <;> rfl

/-! ## Chunks -/

/-- A chunk is taken in event by event, once it has been counted. -/
theorem ingest_eq (source : SnapshotSource) (p : Player) (chunk : String) :
    p.ingest source chunk = (Trace.events chunk).foldl (apply source) { p with tally := (Trace.decode p.tally chunk).2 } :=
  rfl

/-- What holds of a player whatever its tally, and is kept by every event, is kept by every chunk. -/
theorem ingest_induction {P : Player → Prop} (source : SnapshotSource)
    (htally : ∀ p t, P p → P { p with tally := t }) (happly : ∀ p event, P p → P (p.apply source event))
    {p : Player} (h : P p) (chunk : String) : P (p.ingest source chunk) := by
  rw [ingest_eq]
  have hfold : ∀ (events : List Event) (q : Player), P q → P (events.foldl (apply source) q) := by
    intro events
    induction events with
    | nil => exact fun q hq => hq
    | cons event rest ih => exact fun q hq => ih _ (happly q event hq)
  exact hfold _ _ (htally p _ h)

theorem ingest_prompter (source : SnapshotSource) (p : Player) (chunk : String) :
    (p.ingest source chunk).prompter = p.prompter :=
  ingest_induction (P := fun q => q.prompter = p.prompter) source (fun _ _ h => h)
    (fun q event h => (apply_prompter source q event).trans h) rfl chunk

theorem ingest_told (source : SnapshotSource) (p : Player) (chunk : String) :
    (p.ingest source chunk).stage.commentary = p.stage.commentary ∧
      (p.ingest source chunk).stage.stepsPlayed = p.stage.stepsPlayed := by
  refine ingest_induction (P := fun q => q.stage.commentary = p.stage.commentary ∧
    q.stage.stepsPlayed = p.stage.stepsPlayed) source (fun _ _ h => h) ?_ ⟨rfl, rfl⟩ chunk
  intro q event h
  have he := apply_told source q event
  exact ⟨he.1.trans h.1, he.2.trans h.2⟩

/-- The events of a list add their steps in order. -/
theorem foldl_apply_backlog (source : SnapshotSource) (p : Player) (events : List Event) :
    (events.foldl (apply source) p).backlog = p.backlog.extend (events.flatMap Event.steps) := by
  induction events generalizing p with
  | nil => exact (Backlog.extend_nil _).symm
  | cons event rest ih => rw [List.foldl_cons, ih, apply_backlog, Backlog.extend_extend, List.flatMap_cons]

theorem ingest_backlog (source : SnapshotSource) (p : Player) (chunk : String) :
    (p.ingest source chunk).backlog = p.backlog.extend ((Trace.events chunk).flatMap Event.steps) := by
  rw [ingest_eq, foldl_apply_backlog]

/-- What a chunk is said to add is the number of its steps. -/
theorem total_answer (events : List Event) : total (events.map answer) = (events.flatMap Event.steps).length := by
  induction events with
  | nil => rfl
  | cons event rest ih => rw [List.map_cons, total_cons, ih, answer_eq, List.flatMap_cons, List.length_append]

/-- The answer to a chunk is how many steps joined the backlog while it was taken in. -/
theorem enqueuedSince_ingest (source : SnapshotSource) (p : Player) (chunk : String) :
    enqueuedSince p (p.ingest source chunk) = total ((Trace.events chunk).map answer) := by
  rw [enqueuedSince, ingest_backlog, total_answer]
  exact Nat.add_sub_cancel_left _ _

/-! ## Ticks -/

/-- A tick while a step waits plays it. -/
theorem tick_of_cons {p : Player} {step : Step} {rest : List Step} (h : p.backlog.steps = step :: rest) (sink : Sink) :
    p.tick sink = ⟨{ p with
      prompter := p.prompter.answered
      backlog := ⟨rest, p.backlog.totalEnqueued⟩
      stage := p.stage.play step }, .ok (.stepped step), []⟩ := by
  simp only [tick, Prompter.drive_of_cons h]

/-- A tick while no step waits leaves the backlog and the stage alone, and plays nothing. -/
theorem tick_of_nil {p : Player} (h : p.backlog.steps = []) (sink : Sink) :
    (p.tick sink).player.backlog = p.backlog ∧ (p.tick sink).player.stage = p.stage ∧
      ∀ step, (p.tick sink).outcome ≠ .ok (.stepped step) :=
  Prompter.drive_of_nil h

/-- As many ticks as steps play just those steps, if they are the first that wait. -/
theorem stage_run_ticks (source : SnapshotSource) {p : Player} {steps rest : List Step} (h : p.backlog.steps = steps ++ rest)
    {sinks : List Sink} (hsinks : sinks.length = steps.length) :
    (p.run source (sinks.map .tick)).stage = steps.foldl Stage.play p.stage := by
  induction steps generalizing p sinks with
  | nil =>
    obtain rfl := List.eq_nil_of_length_eq_zero hsinks
    rfl
  | cons step steps ih =>
    obtain ⟨sink, sinks, rfl⟩ := List.exists_cons_of_length_eq_add_one hsinks
    have htick := tick_of_cons h sink
    have hrest := ih (p := (p.tick sink).player) (by rw [htick]; rfl) (Nat.succ.inj hsinks)
    rw [List.map_cons, run_cons, after, hrest, htick, List.foldl_cons]

/-- The answer to a tick while no step waits tells of no step. -/
theorem reply_tick_of_nil {p : Player} (h : p.backlog.steps = []) (sink : Sink) :
    (p.reply (.tick sink)).step? = none := by
  obtain ⟨-, -, hno⟩ := tick_of_nil h sink
  unfold Reply.step? reply
  split
  · rename_i step ho
    exact absurd (Reply.ticked.inj ho) (hno step)
  · rfl

end Player

end TracePlayer
