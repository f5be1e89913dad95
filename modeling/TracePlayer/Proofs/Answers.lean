import Mathlib.Data.List.Induction
import TracePlayer.Console.Run
import TracePlayer.Proofs.Lines

/-!
# Requests and their answers

The prompter does not know where an answer of the interpreter ends. It awaits an answer from the tick that asks for it to the
first tick that plays a step, whatever has arrived by then, and takes the answer to have come with that step.

An `Exchange` is a player with an interpreter whose lines arrive one by one, at any time. `asks_one_line_ahead` says when a
step is asked for: when all that has arrived is played and something has arrived since the last time. Where the rest of an
answer is still owed then, steps are asked for too early (`asks_before_answer_ends`). `awaiting_since_last_tick` says what
waits while an answer is awaited: what has arrived since the last tick.
-/

namespace TracePlayer

/-- The lines with which the interpreter answers each step that it is asked for, by the number of the step. -/
abbrev Answers := Nat → List String

/-- Every answer has lines, and every line comes to steps. -/
structure Answers.Proper (answers : Answers) : Prop where
  ne_nil : ∀ n, answers n ≠ []
  steps : ∀ n, ∀ line ∈ answers n, (Trace.events line).flatMap Event.steps ≠ []

/-- A player and an interpreter that answers it. -/
structure Exchange where
  player : Player
  /-- How many steps the interpreter has been asked for. -/
  asked : Nat
  /-- The lines that have arrived. -/
  arrived : List String
  /-- The lines of answers that have yet to arrive. -/
  owed : List String
  /-- How many lines have arrived since a step was last asked for. -/
  since : Nat

/-- What can happen between a player and an interpreter: the next line arrives, or the animation ticks. -/
inductive Exchange.Move where
  | deliver
  | tick (sink : Sink)

namespace Exchange

/-- Nothing has been asked for. -/
def initial : Exchange := ⟨.initial, 0, [], [], 0⟩

/-- The exchange after a move. All lines of an answer are owed once the step is asked for. -/
def after (source : SnapshotSource) (answers : Answers) (x : Exchange) : Move → Exchange
  | .deliver =>
    match x.owed with
    | [] => x
    | line :: rest => ⟨x.player.ingest source line, x.asked, x.arrived ++ [line], rest, x.since + 1⟩
  | .tick sink =>
    let t := x.player.tick sink
    if .step ∈ t.sent then ⟨t.player, x.asked + 1, x.arrived, x.owed ++ answers x.asked, 0⟩
    else { x with player := t.player }

/-- The exchange after some moves. -/
def run (source : SnapshotSource) (answers : Answers) (x : Exchange) (moves : List Move) : Exchange :=
  moves.foldl (after source answers) x

end Exchange

/-! ## Ticks -/

namespace Player

/-- With a step that is played, an answer has come. -/
theorem readiness_tick_of_cons {p : Player} {step : Step} {rest : List Step} (h : p.backlog.steps = step :: rest)
    (sink : Sink) : (p.tick sink).player.prompter.readiness ≠ .awaiting := by
  rw [tick_of_cons h]
  simp only [Prompter.answered]
  split
  · exact nofun
  · assumption

/-- A tick while no step waits: what is not idle stays as it is, and what is idle asks for a step, or stops when it is
refused. -/
theorem tick_cases_of_nil {p : Player} (h : p.backlog.steps = []) (sink : Sink) :
    (p.prompter.readiness ≠ .idle ∧ (p.tick sink).player.prompter = p.prompter ∧ .step ∉ (p.tick sink).sent) ∨
    (p.prompter.readiness = .idle ∧ ¬(sink .env = .ok () ∧ sink .step = .ok ()) ∧
      (p.tick sink).player.prompter.readiness = .stopped ∧ .step ∉ (p.tick sink).sent) ∨
    (p.prompter.readiness = .idle ∧ (sink .env = .ok () ∧ sink .step = .ok ()) ∧
      (p.tick sink).player.prompter.readiness = .awaiting ∧ .step ∈ (p.tick sink).sent) := by
  cases hready : p.prompter.readiness with
  | stopped => simp [tick, Prompter.drive_of_stopped h hready]
  | awaiting => simp [tick, Prompter.drive_of_awaiting h hready]
  | idle =>
    cases he : sink .env with
    | error fault => simp [tick, Prompter.drive_of_env_refused h hready he, Prompter.stop]
    | ok u =>
      cases hs : sink .step with
      | error fault => simp [tick, Prompter.drive_of_step_refused h hready he hs, Prompter.stop]
      | ok u' => simp [tick, Prompter.drive_of_accepted h hready he hs]

/-- A tick asks for a step when none waits, nothing is awaited, and both commands are accepted. -/
theorem step_mem_sent_iff (p : Player) (sink : Sink) :
    .step ∈ (p.tick sink).sent ↔
      p.backlog.steps = [] ∧ p.prompter.readiness = .idle ∧ sink .env = .ok () ∧ sink .step = .ok () := by
  cases hsteps : p.backlog.steps with
  | cons step rest =>
    rw [tick_of_cons hsteps]
    simp
  | nil =>
    rcases tick_cases_of_nil hsteps sink with ⟨hidle, -, hsent⟩ | ⟨-, hsink, -, hsent⟩ | ⟨hidle, hsink, -, hsent⟩
    · exact ⟨fun hmem => absurd hmem hsent, fun hasks => absurd hasks.2.1 hidle⟩
    · exact ⟨fun hmem => absurd hmem hsent, fun hasks => absurd hasks.2.2 hsink⟩
    · exact ⟨fun _ => ⟨rfl, hidle, hsink⟩, fun _ => hsent⟩

/-- When no step waits, a tick leaves nothing idle, and an answer is awaited after it if it was before or has been asked for. -/
theorem readiness_tick_of_nil {p : Player} (h : p.backlog.steps = []) (sink : Sink) :
    (p.tick sink).player.prompter.readiness ≠ .idle ∧
      ((p.tick sink).player.prompter.readiness = .awaiting →
        p.prompter.readiness = .awaiting ∨ .step ∈ (p.tick sink).sent) := by
  rcases tick_cases_of_nil h sink with ⟨hidle, hsame, -⟩ | ⟨-, -, hstopped, -⟩ | ⟨-, -, hawaiting, hsent⟩
  · rw [hsame]
    exact ⟨hidle, .inl⟩
  · rw [hstopped]
    exact ⟨nofun, nofun⟩
  · rw [hawaiting]
    exact ⟨nofun, fun _ => .inr hsent⟩

/-- After a tick no step waits while an answer is awaited. -/
theorem steps_tick_of_awaiting {p : Player} {sink : Sink} (h : (p.tick sink).player.prompter.readiness = .awaiting) :
    (p.tick sink).player.backlog.steps = [] := by
  cases hsteps : p.backlog.steps with
  | nil => rw [(tick_of_nil hsteps sink).1, hsteps]
  | cons step rest => exact absurd h (readiness_tick_of_cons hsteps sink)

end Player

/-! ## Exchanges -/

namespace Exchange

/-- What an exchange keeps to. -/
structure Paced (answers : Answers) (x : Exchange) : Prop where
  /-- The lines that have arrived and those that are owed are the answers. -/
  ledger : x.arrived ++ x.owed = (List.range x.asked).flatMap answers
  pace : x.asked + x.since ≤ x.arrived.length + 1
  /-- Until something arrives, nothing is to be played and nothing more is asked for; all of the last answer is owed. -/
  asking : 0 < x.asked → x.since = 0 →
    x.player.backlog.steps = [] ∧ x.player.prompter.readiness ≠ .idle ∧ answers (x.asked - 1) <:+ x.owed
  /-- What has arrived is not awaited any more when it has been played. -/
  answered : x.asked = 0 ∨ 0 < x.since → x.player.backlog.steps = [] → x.player.prompter.readiness ≠ .awaiting

namespace Paced

variable {source : SnapshotSource} {answers : Answers} {x : Exchange}

theorem initial (answers : Answers) : Paced answers .initial where
  ledger := rfl
  pace := Nat.zero_le _
  asking := fun h => absurd h (Nat.lt_irrefl 0)
  answered := fun _ _ => nofun

theorem deliver (h : Paced answers x) (hproper : answers.Proper) : Paced answers (x.after source answers .deliver) := by
  cases howed : x.owed with
  | nil =>
    rw [after, howed]
    exact h
  | cons line rest =>
    have hledger := h.ledger
    have hpace := h.pace
    rw [howed] at hledger
    simp only [after, howed]
    refine ⟨by rw [List.append_assoc, List.singleton_append, hledger], ?_, fun _ hsince => ?_, fun _ hsteps => ?_⟩
    · simp only [List.length_append, List.length_singleton]
      omega
    · exact absurd hsince (Nat.succ_ne_zero _)
    · -- The line is of some answer, and so it comes to steps, which wait.
      have hmem : line ∈ (List.range x.asked).flatMap answers := by
        rw [← hledger]
        exact List.mem_append_right _ List.mem_cons_self
      obtain ⟨n, -, hline⟩ := List.mem_flatMap.1 hmem
      rw [Player.ingest_backlog] at hsteps
      exact absurd (List.append_eq_nil_iff.1 hsteps).2 (hproper.steps n line hline)

/-- A step is asked for when all that has arrived is played, and something has arrived since the last time. -/
theorem asks_iff (h : Paced answers x) (sink : Sink) :
    .step ∈ (x.player.tick sink).sent ↔
      x.player.backlog.steps = [] ∧ (x.asked = 0 ∨ 0 < x.since) ∧ x.player.prompter.readiness ≠ .stopped ∧
        sink .env = .ok () ∧ sink .step = .ok () := by
  rw [Player.step_mem_sent_iff]
  constructor
  · rintro ⟨hsteps, hidle, hsink⟩
    refine ⟨hsteps, ?_, by rw [hidle]; exact nofun, hsink⟩
    by_contra hnot
    exact (h.asking (by omega) (by omega)).2.1 hidle
  · rintro ⟨hsteps, hready, hstopped, hsink⟩
    refine ⟨hsteps, ?_, hsink⟩
    have hawaiting := h.answered hready hsteps
    cases hreadiness : x.player.prompter.readiness with
    | idle => rfl
    | awaiting => exact absurd hreadiness hawaiting
    | stopped => exact absurd hreadiness hstopped

theorem tick (h : Paced answers x) (sink : Sink) : Paced answers (x.after source answers (.tick sink)) := by
  have hpace := h.pace
  simp only [after]
  split
  · rename_i hasks
    obtain ⟨hsteps, hready, -⟩ := (h.asks_iff sink).1 hasks
    refine ⟨?_, ?_, fun _ _ => ⟨?_, ?_, List.suffix_append _ _⟩, fun hnot => ?_⟩
    · rw [← List.append_assoc, h.ledger, List.range_succ, List.flatMap_append, List.flatMap_singleton]
    · change x.asked + 1 + 0 ≤ x.arrived.length + 1
      omega
    · rw [(Player.tick_of_nil hsteps sink).1, hsteps]
    · exact (Player.readiness_tick_of_nil hsteps sink).1
    · change x.asked + 1 = 0 ∨ 0 < 0 at hnot
      omega
  · rename_i hasks
    refine ⟨h.ledger, hpace, fun hasked hsince => ?_, fun hready hsteps => ?_⟩
    · obtain ⟨hsteps, -, howed⟩ := h.asking hasked hsince
      exact ⟨by rw [(Player.tick_of_nil hsteps sink).1, hsteps], (Player.readiness_tick_of_nil hsteps sink).1, howed⟩
    · cases hold : x.player.backlog.steps with
      | nil =>
        intro hawaiting
        exact ((Player.readiness_tick_of_nil hold sink).2 hawaiting).elim (h.answered hready hold) hasks
      | cons step rest => exact Player.readiness_tick_of_cons hold sink

theorem after (h : Paced answers x) (hproper : answers.Proper) (move : Move) :
    Paced answers (x.after source answers move) := by
  cases move with
  | deliver => exact h.deliver hproper
  | tick sink => exact h.tick sink

theorem run (h : Paced answers x) (hproper : answers.Proper) (moves : List Move) :
    Paced answers (x.run source answers moves) := by
  induction moves generalizing x with
  | nil => exact h
  | cons move rest ih => exact ih (h.after hproper move)

/-- Nothing is owed before anything is asked for. -/
theorem owed_of_asked (h : Paced answers x) (hasked : x.asked = 0) : x.owed = [] := by
  have hledger := h.ledger
  rw [hasked] at hledger
  exact (List.append_eq_nil_iff.1 hledger).2

end Paced

/-- Answers that have no more than some number of lines each. -/
theorem length_flatMap_le {answers : Answers} {most : Nat} (h : ∀ n, (answers n).length ≤ most) (asked : Nat) :
    ((List.range asked).flatMap answers).length ≤ most * asked := by
  induction asked with
  | zero => exact Nat.zero_le _
  | succ asked ih =>
    rw [List.range_succ, List.flatMap_append, List.flatMap_singleton, List.length_append, Nat.mul_succ]
    exact Nat.add_le_add ih (h asked)

/-- Steps are asked for line by line, in five parts, at every moment of every exchange, whenever its lines arrive and the
animation ticks.
1. The lines that have arrived and those that are owed are the answers to all steps that were asked for, in order.
2. A tick asks for a step exactly when all that has arrived is played, at least one line has arrived since a step was last
   asked for, if one was, and the prompter has not stopped and is not refused.
3. While an answer is awaited and nothing can be played, all of that answer is owed, and so there is something to wait for.
4. No step is asked for while lines are owed, if they always arrive before what has arrived before them is played.
5. There are never more steps asked for than lines that have arrived and one; and if no answer has more than some number of
   lines, then, where a step is asked for, no more is owed than as many lines but one for each answer. With answers of a
   single line, nothing is. -/
theorem asks_one_line_ahead (source : SnapshotSource) {answers : Answers} (h : answers.Proper) (moves : List Move) :
    let x := initial.run source answers moves
    x.arrived ++ x.owed = (List.range x.asked).flatMap answers ∧
    (∀ sink, .step ∈ (x.player.tick sink).sent ↔
      x.player.backlog.steps = [] ∧ (x.asked = 0 ∨ 0 < x.since) ∧ x.player.prompter.readiness ≠ .stopped ∧
        sink .env = .ok () ∧ sink .step = .ok ()) ∧
    (x.player.prompter.readiness = .awaiting → x.player.backlog.steps = [] →
      answers (x.asked - 1) <:+ x.owed ∧ x.owed ≠ []) ∧
    (∀ sink, (x.player.backlog.steps = [] → x.since = 0 ∨ x.owed = []) →
      .step ∈ (x.player.tick sink).sent → x.owed = []) ∧
    (x.asked ≤ x.arrived.length + 1 ∧
      ∀ most sink, (∀ n, (answers n).length ≤ most) → .step ∈ (x.player.tick sink).sent →
        x.asked + x.owed.length ≤ most * x.asked) := by
  intro x
  have hx : Paced answers x := (Paced.initial answers).run h moves
  have hpace := hx.pace
  refine ⟨hx.ledger, hx.asks_iff, fun hawaiting hsteps => ?_, fun sink hintime hasks => ?_, by omega,
    fun most sink hmost hasks => ?_⟩
  · have hnot : ¬(x.asked = 0 ∨ 0 < x.since) := fun hready => hx.answered hready hsteps hawaiting
    obtain ⟨-, -, howed⟩ := hx.asking (by omega) (by omega)
    refine ⟨howed, fun hnil => h.ne_nil (x.asked - 1) ?_⟩
    rw [hnil] at howed
    exact List.suffix_nil.1 howed
  · obtain ⟨hsteps, hready, -⟩ := (hx.asks_iff sink).1 hasks
    rcases hready with hasked | hsince
    · exact hx.owed_of_asked hasked
    · exact (hintime hsteps).resolve_left (Nat.pos_iff_ne_zero.1 hsince)
  · obtain ⟨-, hready, -⟩ := (hx.asks_iff sink).1 hasks
    have hlength := congrArg List.length hx.ledger
    have hle := length_flatMap_le hmost x.asked
    rw [List.length_append] at hlength
    rcases hready with hasked | hsince
    · rw [hx.owed_of_asked hasked, hasked]
      exact Nat.zero_le _
    · omega

/-- Answers of one line, of which the second has arrived: nothing is owed when the third step is asked for. -/
theorem asks_one_line_ahead_single :
    let source : SnapshotSource := fun _ => .error (.unreadable "state.json" .notFound)
    let answers : Answers := fun _ => ["decode MOV"]
    let accept : Sink := fun _ => .ok ()
    let x := initial.run source answers [.tick accept, .deliver, .tick accept, .tick accept, .deliver, .tick accept]
    answers.Proper ∧ .step ∈ (x.player.tick accept).sent ∧ x.asked = 2 ∧ x.owed = [] := by
  intro source answers accept x
  have hproper : answers.Proper := ⟨fun _ => List.cons_ne_nil _ _, fun _ => by decide +kernel⟩
  have hask : .step ∈ (x.player.tick accept).sent ∧ x.asked = 2 := by decide +kernel
  obtain ⟨-, -, -, -, -, hpace⟩ := asks_one_line_ahead source hproper
    [.tick accept, .deliver, .tick accept, .tick accept, .deliver, .tick accept]
  have howed : x.asked + x.owed.length ≤ 1 * x.asked := hpace 1 accept (fun _ => Nat.le_refl 1) hask.1
  exact ⟨hproper, hask.1, hask.2, List.eq_nil_of_length_eq_zero (by omega)⟩

/-- With answers of two lines a step is asked for while the second line of the first answer is owed; and then another one,
while both lines of the second answer are. -/
theorem asks_before_answer_ends :
    let source : SnapshotSource := fun _ => .error (.unreadable "state.json" .notFound)
    let answers : Answers := fun _ => ["decode MOV", "decode ADD"]
    let accept : Sink := fun _ => .ok ()
    let x := initial.run source answers [.tick accept, .deliver, .tick accept]
    let y := initial.run source answers [.tick accept, .deliver, .tick accept, .tick accept, .deliver, .tick accept]
    answers.Proper ∧
    (.step ∈ (x.player.tick accept).sent ∧ x.asked = 1 ∧ x.owed = ["decode ADD"]) ∧
    .step ∈ (y.player.tick accept).sent ∧ y.asked = 2 ∧ y.owed = answers 1 := by
  intro source answers accept x y
  have hx : .step ∈ (x.player.tick accept).sent ∧ x.asked = 1 ∧ x.owed = ["decode ADD"] := by decide +kernel
  have hy : .step ∈ (y.player.tick accept).sent ∧ y.asked = 2 ∧ y.owed = answers 1 := by decide +kernel
  exact ⟨⟨fun _ => List.cons_ne_nil _ _, fun _ => by decide +kernel⟩, hx, hy⟩

end Exchange

/-! ## What waits while an answer is awaited -/

/-- A status line says that the player is waiting only while an answer is awaited. -/
theorem StatusLine.readiness_of_waiting {s : StatusLine} {color : Color} (h : s.activity? = some (" WAITING ", color)) :
    s.readiness = .awaiting := by
  unfold activity? at h
  split at h
  · simp at h
  · split at h
    · simp at h
    · split at h
      · assumption
      · cases h

namespace Player

/-- Chunks add their steps, and leave it to the next tick to find that an answer has come. -/
theorem run_ingest (source : SnapshotSource) (p : Player) (chunks : List String) :
    (p.run source (chunks.map .ingest)).prompter = p.prompter ∧
      (p.run source (chunks.map .ingest)).backlog.steps =
        p.backlog.steps ++ chunks.flatMap fun chunk => (Trace.events chunk).flatMap Event.steps := by
  induction chunks generalizing p with
  | nil => exact ⟨rfl, (List.append_nil _).symm⟩
  | cons chunk rest ih =>
    obtain ⟨hprompter, hsteps⟩ := ih (p.ingest source chunk)
    rw [List.map_cons, run_cons, after, hprompter, hsteps, ingest_prompter, ingest_backlog, List.flatMap_cons]
    exact ⟨rfl, List.append_assoc _ _ _⟩

/-- While an answer is awaited there has been a tick, and since the last one there have been chunks alone. -/
theorem exists_tick_of_awaiting (source : SnapshotSource) (acts : List Act)
    (h : (initial.run source acts).prompter.readiness = .awaiting) :
    ∃ before sink, ∃ chunks : List String, acts = before ++ .tick sink :: chunks.map .ingest := by
  induction acts using List.reverseRecOn with
  | nil =>
    have hidle : Readiness.idle = .awaiting := h
    cases hidle
  | append_singleton acts act ih =>
    rw [run_append, run_cons, run_nil] at h
    cases act with
    | ingest chunk =>
      rw [after, ingest_prompter] at h
      obtain ⟨before, sink, chunks, hacts⟩ := ih h
      refine ⟨before, sink, chunks ++ [chunk], ?_⟩
      rw [hacts, List.append_assoc, List.cons_append, List.map_append, List.map_singleton]
    | tick sink => exact ⟨acts, sink, [], rfl⟩
    | ended code =>
      have hstopped : Readiness.stopped = .awaiting := h
      cases hstopped

/-- An answer is awaited from one tick to the next, whatever arrives, in three parts, for every run of a fresh player.
1. After a tick that leaves an answer awaited no step waits, whatever state the player was in.
2. While an answer is awaited, only chunks have come since the last tick, and the steps that wait are those that they tell.
3. A status line that says that the player is waiting counts these steps. -/
theorem awaiting_since_last_tick (source : SnapshotSource) (acts : List Act) :
    let p := initial.run source acts
    (∀ (q : Player) (sink : Sink), (q.tick sink).player.prompter.readiness = .awaiting →
      (q.tick sink).player.backlog.steps = []) ∧
    (p.prompter.readiness = .awaiting → ∃ before sink, ∃ chunks : List String,
      acts = before ++ .tick sink :: chunks.map .ingest ∧
      p.backlog.steps = chunks.flatMap fun chunk => (Trace.events chunk).flatMap Event.steps) ∧
    (∀ (c : Console) (color : Color), c.player = p → c.statusLine.activity? = some (" WAITING ", color) →
      p.prompter.readiness = .awaiting ∧ c.statusLine.queued = p.backlog.steps.length) := by
  intro p
  refine ⟨fun q sink => steps_tick_of_awaiting, fun hawaiting => ?_, fun c color hplayer hactivity => ?_⟩
  · obtain ⟨before, sink, chunks, hacts⟩ := exists_tick_of_awaiting source acts hawaiting
    refine ⟨before, sink, chunks, hacts, ?_⟩
    have hp : p = (((initial.run source before).tick sink).player).run source (chunks.map .ingest) := by
      change initial.run source acts = _
      rw [hacts, run_append, run_cons, after]
    obtain ⟨hprompter, hsteps⟩ := run_ingest source ((initial.run source before).tick sink).player chunks
    rw [hp, hprompter] at hawaiting
    rw [hp, hsteps, steps_tick_of_awaiting hawaiting, List.nil_append]
  · rw [← hplayer]
    exact ⟨StatusLine.readiness_of_waiting hactivity, rfl⟩

/-- A line that arrives between two ticks: an answer is awaited and a step waits, and the status line of a console that has
met the same says both. -/
theorem awaiting_with_steps :
    let source : SnapshotSource := fun _ => .error (.unreadable "state.json" .notFound)
    let p := initial.run source [.tick (fun _ => .ok ()), .ingest "decode MOV"]
    let round (arrivals : List Arrival) (key : Key) := Console.Round.steady (.ok ()) ⟨arrivals, 80, 24, 0, key⟩
    let rounds := [round [] .right, round [.message (.trace "decode MOV")] .other]
    let c := ((Console.initial initial ⟨.running, some 0, 1, []⟩ 100 0).loop source .empty rounds).2
    (p.prompter.readiness = .awaiting ∧ p.backlog.steps = [.notify "Decoded as MOV"]) ∧
      c.statusLine.activity? = some (" WAITING ", Palette.success) ∧ c.statusLine.queued = 1 := by
  intro source p round rounds c
  have hp : p.prompter.readiness = .awaiting ∧ p.backlog.steps = [.notify "Decoded as MOV"] := by decide +kernel
  have hc : c.statusLine.activity? = some (" WAITING ", Palette.success) ∧ c.statusLine.queued = 1 := by decide +kernel
  exact ⟨hp, hc⟩

end Player

end TracePlayer
