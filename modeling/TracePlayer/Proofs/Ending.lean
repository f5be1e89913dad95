import TracePlayer.Proofs.Incidents
import TracePlayer.Proofs.Notices

/-!
# The end of the interpreter

The interpreter ends when it says so, or when its channel is found closed while it still counts as running. `exit?` tells which
incidents are such ends. The main statement is `ends_once_and_for_all`: in every run, whatever is sent in whatever order, and
whatever keys are pressed when, an end is final, and every end leaves one notice, in its place among the steps of the trace.
-/

namespace TracePlayer

/-- A player whose prompter has stopped asks nothing any more. -/
theorem Player.stopped_after (source : SnapshotSource) {p : Player} (h : p.prompter.readiness = .stopped) (act : Player.Act) :
    (p.after source act).prompter.readiness = .stopped := by
  cases act with
  | ingest chunk =>
    rw [after, ingest_prompter]
    exact h
  | tick sink =>
    rw [after, tick, (Prompter.drive_stopped h).1]
    exact h
  | ended code => rfl

theorem Player.stopped_run (source : SnapshotSource) {p : Player} (h : p.prompter.readiness = .stopped)
    (acts : List Player.Act) : (p.run source acts).prompter.readiness = .stopped := by
  induction acts generalizing p with
  | nil => exact h
  | cons act rest ih => exact ih (stopped_after source h act)

namespace Console

/-- Whether an incident is the interpreter's own word that it has ended. -/
def Incident.tellsExit : Incident → Bool
  | received (.exited _) => true
  | _ => false

/-- The line of the trace that is received. -/
def Incident.line? : Incident → Option String
  | received (.trace line) => some line
  | _ => none

/-- The exit code that an incident tells, if it is an end of the interpreter. A channel that is found closed tells none, and
is an end only while the interpreter counts as running. -/
def exit? (c : Console) : Incident → Option (Option Int)
  | .received (.exited code) => some code
  | .foundClosed => if c.session.isRunning then some none else none
  | _ => none

/-- The interpreter has gone: the session and the prompter have both stopped. -/
structure Over (c : Console) : Prop where
  session : c.session.state = .stopped
  prompter : c.player.prompter.readiness = .stopped

/-- The channel is found closed somewhere in the log while the interpreter still counts as running. -/
def Lost (source : SnapshotSource) (c : Console) (log : List Incident) : Prop :=
  ∃ before after, log = before ++ .foundClosed :: after ∧ (c.through source before).session.isRunning = true

namespace EndingAux

variable {source : SnapshotSource} {c : Console} {i : Incident} {log : List Incident}

/-! ### The session -/

theorem state_deliver (s : Session) (commands : List Command) : (s.deliver commands).state = s.state := by
  unfold Session.deliver
  cases s.target? <;> rfl

/-- Nothing is delivered to an interpreter that has gone. -/
theorem deliver_of_stopped {s : Session} (h : s.state = .stopped) (commands : List Command) : s.deliver commands = s := by
  have htarget : s.target? = none := by
    rw [Session.target?, Session.isRunning, h]
    rfl
  rw [Session.deliver, htarget]

/-! ### One incident -/

theorem exit?_eq_some {code : Option Int} (h : c.exit? i = some code) :
    i = .received (.exited code) ∨ (i = .foundClosed ∧ c.session.isRunning = true ∧ code = none) := by
  cases i with
  | received m =>
    cases m with
    | exited code' =>
      obtain rfl := Option.some.inj h
      exact Or.inl rfl
    | trace line => cases h
    | diagnostic line => cases h
  | foundClosed =>
    rw [exit?] at h
    cases hr : c.session.isRunning with
    | true =>
      rw [hr] at h
      exact Or.inr ⟨rfl, rfl, (Option.some.inj h).symm⟩
    | false =>
      rw [hr] at h
      cases h
  | framed width height => cases h
  | ticked pipe now => cases h
  | pressed pipe now key => cases h

/-- An end ends the session and stops the prompter. -/
theorem meet_of_exit {code : Option Int} (h : c.exit? i = some code) : c.meet source i = c.ended code := by
  rcases exit?_eq_some h with rfl | ⟨rfl, hr, rfl⟩
  · rfl
  · rw [meet, lose, if_pos hr]

/-- To the player, an end is one, and puts a notice into the backlog. -/
theorem acts_of_exit {code : Option Int} (h : c.exit? i = some code) : c.acts i = [.ended code] := by
  rcases exit?_eq_some h with rfl | ⟨rfl, hr, rfl⟩
  · rfl
  · rw [acts, if_pos hr]

/-- An incident that is no end does to the session no more than playing a step does. -/
theorem session_meet_of_no_exit (source : SnapshotSource) (h : c.exit? i = none) :
    (c.meet source i).session = c.session ∨ ∃ pipe, (c.meet source i).session = (c.step pipe).session := by
  cases i with
  | received m =>
    cases m with
    | exited code => cases h
    | trace line => exact Or.inl rfl
    | diagnostic line => exact Or.inl rfl
  | foundClosed =>
    rw [exit?] at h
    rw [meet, lose]
    cases hr : c.session.isRunning with
    | true =>
      rw [hr] at h
      cases h
    | false => exact Or.inl rfl
  | framed width height => exact Or.inl rfl
  | ticked pipe now =>
    rw [meet, (alike_autoplay pipe now c).2]
    cases c.isDue now with
    | true => exact Or.inr ⟨pipe, rfl⟩
    | false => exact Or.inl rfl
  | pressed pipe now key =>
    rw [meet, (alike_press pipe now c key).2]
    cases key.asksStep with
    | true => exact Or.inr ⟨pipe, rfl⟩
    | false => exact Or.inl rfl

/-- Only an end changes the state of the session. -/
theorem state_meet_of_no_exit (h : c.exit? i = none) : (c.meet source i).session.state = c.session.state := by
  rcases session_meet_of_no_exit source h with hs | ⟨pipe, hs⟩
  · rw [hs]
  · rw [hs]
    exact state_deliver c.session _

/-- An incident that is no end is not the interpreter's word for one. -/
theorem tellsExit_of_no_exit (h : c.exit? i = none) : i.tellsExit = false := by
  cases i with
  | received m =>
    cases m with
    | exited code => cases h
    | trace line => rfl
    | diagnostic line => rfl
  | foundClosed => rfl
  | framed width height => rfl
  | ticked pipe now => rfl
  | pressed pipe now key => rfl

/-! ### The steps that an incident comes to -/

/-- A line adds its steps to the backlog, and an end its notice; nothing else adds any. -/
theorem output_acts (c : Console) (i : Incident) :
    (c.acts i).flatMap Player.Act.output =
      (i.line?.toList.flatMap fun line => (Trace.events line).flatMap Event.steps) ++
        (c.exit? i).toList.map fun code => .notify (Player.exitNotice code) := by
  cases i with
  | received m =>
    cases m with
    | exited code => rfl
    | trace line => exact (List.append_nil _).symm
    | diagnostic line => rfl
  | foundClosed =>
    rw [acts, exit?]
    cases c.session.isRunning <;> rfl
  | framed width height => rfl
  | ticked pipe now =>
    rw [acts]
    cases c.isDue now <;> rfl
  | pressed pipe now key =>
    rw [acts]
    cases key.asksStep <;> rfl

/-- No step of a line is a notice of an end. -/
theorem tellsExit_of_mem_lines {lines : List String} {s : Step}
    (h : s ∈ lines.flatMap fun line => (Trace.events line).flatMap Event.steps) : s.tellsExit = false := by
  obtain ⟨line, -, hline⟩ := List.mem_flatMap.1 h
  obtain ⟨e, -, he⟩ := List.mem_flatMap.1 hline
  exact tellsExit_of_mem_steps he

theorem countP_output_acts (c : Console) (i : Incident) :
    ((c.acts i).flatMap Player.Act.output).countP Step.tellsExit = (c.exit? i).toList.length := by
  rw [output_acts, List.countP_append, List.countP_eq_zero.2, List.countP_map, Nat.zero_add]
  · exact List.countP_eq_length.2 fun code _ => tellsExit_exitNotice code
  · intro s hs
    rw [tellsExit_of_mem_lines hs]
    exact Bool.false_ne_true

theorem filter_output_acts (c : Console) (i : Incident) :
    ((c.acts i).flatMap Player.Act.output).filter (fun s => !s.tellsExit) =
      i.line?.toList.flatMap fun line => (Trace.events line).flatMap Event.steps := by
  rw [output_acts, List.filter_append, List.filter_eq_self.2, List.filter_eq_nil_iff.2, List.append_nil]
  · intro s hs
    obtain ⟨code, -, rfl⟩ := List.mem_map.1 hs
    rw [tellsExit_exitNotice]
    exact Bool.false_ne_true
  · intro s hs
    rw [tellsExit_of_mem_lines hs]
    rfl

end EndingAux

open EndingAux

variable {source : SnapshotSource} {c : Console} {i : Incident} {log : List Incident}

/-! ## An end is final -/

/-- An end is one for the session and for the prompter. -/
theorem over_of_exit (source : SnapshotSource) {code : Option Int} (h : c.exit? i = some code) : (c.meet source i).Over := by
  rw [meet_of_exit h]
  exact ⟨rfl, rfl⟩

/-- No incident brings the interpreter back, and no command is written any more. -/
theorem Over.meet (h : c.Over) (source : SnapshotSource) (i : Incident) :
    (c.meet source i).Over ∧ (c.meet source i).session.delivered = c.session.delivered := by
  cases he : c.exit? i with
  | some code =>
    refine ⟨over_of_exit source he, ?_⟩
    rw [meet_of_exit he]
    rfl
  | none =>
    refine ⟨⟨(state_meet_of_no_exit he).trans h.session, ?_⟩, ?_⟩
    · rw [player_meet]
      exact Player.stopped_run source h.prompter _
    · rcases session_meet_of_no_exit source he with hs | ⟨pipe, hs⟩
      · rw [hs]
      · rw [hs, step, deliver_of_stopped h.session]

theorem Over.through (h : c.Over) (source : SnapshotSource) (log : List Incident) :
    (c.through source log).Over ∧ (c.through source log).session.delivered = c.session.delivered := by
  induction log generalizing c with
  | nil => exact ⟨h, rfl⟩
  | cons i log ih =>
    obtain ⟨hover, hdelivered⟩ := h.meet source i
    obtain ⟨ihover, ihdelivered⟩ := ih hover
    exact ⟨ihover, ihdelivered.trans hdelivered⟩

/-- When the interpreter has gone, a tick of the player tries no command, whatever would become of it. -/
theorem Over.tried (h : c.Over) (sink : Sink) :
    (c.player.prompter.drive c.player.backlog c.player.stage sink).tried = [] :=
  (Prompter.drive_stopped h.prompter).2.1

/-- Once the session has stopped, so has the prompter, if that was so at first. -/
theorem over_through (h : c.session.state = .stopped → c.Over) (source : SnapshotSource) (log : List Incident)
    (hstopped : (c.through source log).session.state = .stopped) : (c.through source log).Over := by
  induction log generalizing c with
  | nil => exact h hstopped
  | cons i log ih =>
    refine ih (fun hi => ?_) hstopped
    cases he : c.exit? i with
    | some code => exact over_of_exit source he
    | none => exact ((h ((state_meet_of_no_exit he).symm.trans hi)).meet source i).1

/-! ## Every end leaves one notice -/

/-- An interpreter that has gone is not lost once more. -/
theorem Over.not_lost (h : c.Over) (source : SnapshotSource) (log : List Incident) : ¬c.Lost source log := by
  rintro ⟨before, after, -, hr⟩
  rw [Session.isRunning, (h.through source before).1.session] at hr
  cases hr

theorem lost_cons : c.Lost source (i :: log) ↔
    (i = .foundClosed ∧ c.session.isRunning = true) ∨ (c.meet source i).Lost source log := by
  constructor
  · rintro ⟨before, after, heq, hr⟩
    cases before with
    | nil =>
      obtain ⟨rfl, -⟩ := List.cons.inj heq
      exact Or.inl ⟨rfl, hr⟩
    | cons j before =>
      obtain ⟨rfl, rfl⟩ := List.cons.inj heq
      exact Or.inr ⟨before, after, rfl, hr⟩
  · rintro (⟨rfl, hr⟩ | ⟨before, after, rfl, hr⟩)
    · exact ⟨[], log, rfl, hr⟩
    · exact ⟨i :: before, after, rfl, hr⟩

/-- The notices that the steps of a log hold: one for every time that the interpreter says that it has ended, and one more when
it is lost. -/
theorem countP_tellsExit (source : SnapshotSource) (c : Console) (log : List Incident) :
    let notices := ((c.history source log).flatMap Player.Act.output).countP Step.tellsExit
    (c.Lost source log → notices = log.countP Incident.tellsExit + 1) ∧
      (¬c.Lost source log → notices = log.countP Incident.tellsExit) := by
  induction log generalizing c with
  | nil =>
    refine ⟨?_, fun _ => rfl⟩
    rintro ⟨before, after, heq, -⟩
    cases before <;> cases heq
  | cons i log ih =>
    obtain ⟨hlost, hkept⟩ := ih (c.meet source i)
    rw [history, List.flatMap_append, List.countP_append, List.countP_cons, lost_cons]
    have hnotices := countP_output_acts c i
    cases he : c.exit? i with
    | some code =>
      rw [he] at hnotices
      rw [hnotices, Option.toList_some, List.length_singleton, Nat.add_comm]
      -- Either the interpreter says that it has ended, or it is lost here, and then it cannot be lost again.
      rcases exit?_eq_some he with rfl | ⟨rfl, hr, rfl⟩
      · refine ⟨fun h => ?_, fun h => ?_⟩
        · rcases h with ⟨heq, -⟩ | h
          · cases heq
          · rw [hlost h]
            rfl
        · rw [hkept fun hl => h (Or.inr hl)]
          rfl
      · have hnot : ¬(c.meet source .foundClosed).Lost source log := (over_of_exit source he).not_lost source log
        refine ⟨fun _ => ?_, fun h => absurd (Or.inl ⟨rfl, hr⟩) h⟩
        rw [hkept hnot]
        rfl
    | none =>
      have hhere : ¬(i = .foundClosed ∧ c.session.isRunning = true) := by
        rintro ⟨rfl, hr⟩
        rw [exit?, if_pos hr] at he
        cases he
      rw [he] at hnotices
      rw [hnotices, Option.toList_none, List.length_nil, Nat.zero_add, tellsExit_of_no_exit he]
      exact ⟨fun h => hlost (h.resolve_left hhere), fun h => hkept fun hl => h (Or.inr hl)⟩

/-- The steps of a log other than the notices are those of the lines of the trace, in order. -/
theorem filter_not_tellsExit (source : SnapshotSource) (c : Console) (log : List Incident) :
    ((c.history source log).flatMap Player.Act.output).filter (fun s => !s.tellsExit) =
      (log.filterMap Incident.line?).flatMap fun line => (Trace.events line).flatMap Event.steps := by
  induction log generalizing c with
  | nil => rfl
  | cons i log ih =>
    rw [history, List.flatMap_append, List.filter_append, ih, filter_output_acts, ← List.flatMap_append,
      List.filterMap_cons]
    cases i.line? <;> rfl

/-- The interpreter ends once and for all, in five parts, for every run: whatever session it starts with, whatever snapshots
there are, whatever is sent and in which turns it arrives, whatever keys are pressed when, and whatever becomes of each
command that is written.
1. The log of the run leads to the console behind it, and the messages in the log are those that were sent, in order, up to
   where the run stops.
2. After an end the session has stopped and so has the prompter, at every later moment; no tick tries a command any more, and
   no command is written.
3. At every moment, when the session has stopped, so has the prompter, unless the session had stopped before the run.
4. At every moment, the notices among the steps that have ever been put into the backlog are as many as the times that the
   interpreter has said that it ended, and one more if the channel was found closed while it still counted as running.
5. The notice of an end directly follows all steps put into the backlog before it, and those that are not notices are the
   steps of the lines received before it, in order. -/
theorem ends_once_and_for_all (source : SnapshotSource) (session : Session) (tickMs : Nat) (now : Int)
    (rounds : List Round) :
    let c := initial .initial session tickMs now
    let log := c.log source .empty rounds
    (c.through source log = (c.loop source .empty rounds).2 ∧
      log.filterMap Incident.message? <+: ((rounds.flatMap (·.arrivals)).foldl Channel.take .empty).waiting) ∧
    (∀ before i later code, before ++ i :: later <+: log → (c.through source before).exit? i = some code →
      let d := c.through source (before ++ i :: later)
      d.Over ∧ (∀ sink, (d.player.prompter.drive d.player.backlog d.player.stage sink).tried = []) ∧
        d.session.delivered = (c.through source before).session.delivered) ∧
    (session.state ≠ .stopped → ∀ before, before <+: log → (c.through source before).session.state = .stopped →
      (c.through source before).player.prompter.readiness = .stopped) ∧
    (∀ before, before <+: log →
      (c.Lost source before →
        (c.enqueued source before).countP Step.tellsExit = before.countP Incident.tellsExit + 1) ∧
      (¬c.Lost source before →
        (c.enqueued source before).countP Step.tellsExit = before.countP Incident.tellsExit)) ∧
    (∀ before i later code, before ++ i :: later <+: log → (c.through source before).exit? i = some code →
      (∃ rest, c.enqueued source (before ++ i :: later) =
        c.enqueued source before ++ .notify (Player.exitNotice code) :: rest) ∧
      (c.enqueued source before).filter (fun s => !s.tellsExit) =
        (before.filterMap Incident.line?).flatMap fun line => (Trace.events line).flatMap Event.steps) := by
  intro c log
  have hbacklog : ∀ before, c.enqueued source before = (c.history source before).flatMap Player.Act.output :=
    fun before => enqueued_eq source c before
  refine ⟨⟨through_log source c .empty rounds, messages_log source c .empty rounds⟩, ?_, ?_, ?_, ?_⟩
  · intro before i later code _ he d
    have hover := over_of_exit source he
    obtain ⟨hd, hdelivered⟩ := hover.through source later
    have hcode : ((c.through source before).meet source i).session.delivered =
        (c.through source before).session.delivered := by
      rw [meet_of_exit he]
      rfl
    have hpath : d = ((c.through source before).meet source i).through source later := by
      rw [show d = c.through source (before ++ i :: later) from rfl, through_append, through_cons]
    rw [hpath]
    exact ⟨hd, hd.tried, hdelivered.trans hcode⟩
  · intro hsession before _ hstopped
    exact (over_through (fun h => absurd h hsession) source before hstopped).prompter
  · intro before _
    rw [hbacklog]
    exact countP_tellsExit source c before
  · intro before i later code _ he
    rw [hbacklog, hbacklog]
    refine ⟨⟨(((c.through source before).meet source i).history source later).flatMap Player.Act.output, ?_⟩,
      filter_not_tellsExit source c before⟩
    rw [history_append, List.flatMap_append, history, acts_of_exit he]
    rfl

/-- An interpreter that says that it has ended, whose channel is found closed in this turn and in the next: one notice. -/
example :
    let c := initial .initial ⟨.running, some 0, 1, []⟩ 100 0
    let source : SnapshotSource := fun _ => .error (.unreadable "state.json" .notFound)
    let turn (arrivals : List Arrival) := Round.steady (.ok ()) ⟨arrivals, 80, 24, 0, .right⟩
    let log := c.log source .empty [turn [], turn [.message (.exited (some 0)), .closed], turn []]
    log.countP (fun i => match i with | .foundClosed => true | _ => false) = 2 ∧
      (c.through source log).session.delivered = [(0, .env), (0, .step)] ∧
      c.enqueued source log = [.notify "Interpreter exited (code 0)"] := by
  decide +kernel

end Console

end TracePlayer
