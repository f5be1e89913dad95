import TracePlayer.Proofs.Acts

/-!
# Every step is accounted for

Through any run of a player no step is lost, doubled or moved: what has been played and what still waits are, in order, all the
steps that the acts of the run came to. The counters agree with that, and the commentary is the end of what the steps played so
far have told (`steps_accounted`).
-/

namespace TracePlayer

/-- What a step tells in the commentary. -/
def Step.notice? : Step → Option String
  | .notify text => some text
  | _ => none

namespace AccountAux

/-- Keeping the last items of a list that grows, of which the last have been kept before, is keeping them of it all. -/
theorem keepLast_append {α : Type} (n : Nat) (xs ys : List α) :
    Stage.keepLast n (Stage.keepLast n xs ++ ys) = Stage.keepLast n (xs ++ ys) := by
  have hle : xs.length - n ≤ xs.length := Nat.sub_le _ _
  simp only [Stage.keepLast, List.length_append, List.length_drop]
  rw [← List.drop_append_of_le_length hle, List.drop_drop]
  congr 1
  omega

theorem length_keepLast {α : Type} (n : Nat) (xs : List α) : (Stage.keepLast n xs).length = min n xs.length := by
  rw [Stage.keepLast, List.length_drop]
  omega

theorem keepLast_of_le {α : Type} {n : Nat} {xs : List α} (h : xs.length ≤ n) : Stage.keepLast n xs = xs := by
  rw [Stage.keepLast, Nat.sub_eq_zero_of_le h, List.drop_zero]

/-- Playing a step counts it. -/
theorem stepsPlayed_play (s : Stage) (step : Step) : (s.play step).stepsPlayed = s.stepsPlayed + 1 := by
  cases step with
  | emphasize r on => cases on <;> rfl
  | _ => rfl

/-- Playing a step adds what it tells to the commentary, of which the last lines are kept. -/
theorem commentary_play {s : Stage} (h : s.commentary.length ≤ Stage.commentaryLimit) (step : Step) :
    (s.play step).commentary = Stage.keepLast Stage.commentaryLimit (s.commentary ++ step.notice?.toList) := by
  cases step with
  | notify text =>
    simp only [Stage.play, Stage.change, Stage.notify, Stage.beginStep, Step.notice?, Option.toList_some]
  | emphasize r on =>
    change _ = Stage.keepLast _ (s.commentary ++ [])
    rw [List.append_nil, keepLast_of_le h]
    cases on <;> rfl
  | _ =>
    change _ = Stage.keepLast _ (s.commentary ++ [])
    rw [List.append_nil, keepLast_of_le h]
    rfl

end AccountAux

open AccountAux

namespace Player

/-! ## One act -/

/-- The step that an act plays comes off the front of the backlog, and the steps that it adds go to the end. -/
theorem backlog_after (source : SnapshotSource) (p : Player) (act : Act) :
    (p.reply act).step?.toList ++ (p.after source act).backlog.steps = p.backlog.steps ++ act.output := by
  cases act with
  | ingest chunk =>
    rw [after, ingest_backlog]
    rfl
  | tick sink =>
    rw [Act.output, List.append_nil, after]
    cases h : p.backlog.steps with
    | cons step rest =>
      rw [reply, tick_of_cons h]
      rfl
    | nil =>
      rw [reply_tick_of_nil h, (tick_of_nil h sink).1, h]
      rfl
  | ended code => rfl

/-- An act comes to as many steps as a chunk is answered with, or to the notice of an end. -/
theorem length_output (p : Player) (act : Act) :
    act.output.length = (p.reply act).count + (if act.isEnd then 1 else 0) := by
  cases act with
  | ingest chunk => exact (total_answer (Trace.events chunk)).symm
  | tick sink => rfl
  | ended code => rfl

/-- How many steps have ever joined the backlog grows by all the steps that an act comes to. -/
theorem totalEnqueued_after (source : SnapshotSource) (p : Player) (act : Act) :
    (p.after source act).backlog.totalEnqueued = p.backlog.totalEnqueued + act.output.length := by
  cases act with
  | ingest chunk =>
    rw [after, ingest_backlog]
    rfl
  | tick sink =>
    change (p.tick sink).player.backlog.totalEnqueued = p.backlog.totalEnqueued
    cases h : p.backlog.steps with
    | cons step rest =>
      rw [tick_of_cons h]
    | nil =>
      rw [(tick_of_nil h sink).1]
  | ended code => rfl

/-- A step is counted when it is played, and what it tells is added to the commentary. -/
theorem told_after (source : SnapshotSource) {p : Player} (h : p.stage.commentary.length ≤ Stage.commentaryLimit)
    (act : Act) :
    (p.after source act).stage.stepsPlayed = p.stage.stepsPlayed + (p.reply act).step?.toList.length ∧
      (p.after source act).stage.commentary = Stage.keepLast Stage.commentaryLimit
        (p.stage.commentary ++ (p.reply act).step?.toList.filterMap Step.notice?) := by
  cases act with
  | ingest chunk =>
    obtain ⟨h1, h2⟩ := ingest_told source p chunk
    change (p.ingest source chunk).stage.stepsPlayed = _ ∧
      (p.ingest source chunk).stage.commentary = Stage.keepLast _ (p.stage.commentary ++ [])
    rw [h1, h2, List.append_nil, keepLast_of_le h]
    exact ⟨rfl, rfl⟩
  | tick sink =>
    rw [after]
    cases hb : p.backlog.steps with
    | cons step rest =>
      rw [reply, tick_of_cons hb]
      refine ⟨stepsPlayed_play p.stage step, ?_⟩
      have hnotice : [step].filterMap Step.notice? = step.notice?.toList := by cases step <;> rfl
      rw [Reply.step?, Option.toList_some, hnotice]
      exact commentary_play h step
    | nil =>
      obtain ⟨-, hs, -⟩ := tick_of_nil hb sink
      rw [hs, reply_tick_of_nil hb, Option.toList_none, List.filterMap_nil, List.append_nil, keepLast_of_le h]
      exact ⟨rfl, rfl⟩
  | ended code =>
    change p.stage.stepsPlayed = _ ∧ p.stage.commentary = Stage.keepLast _ (p.stage.commentary ++ [])
    rw [List.append_nil, keepLast_of_le h]
    exact ⟨rfl, rfl⟩

/-! ## Runs -/

/-- The steps played in a run, and then those that wait, are those that waited before it, and then those that its acts came
to. -/
theorem played_append_waiting (source : SnapshotSource) (p : Player) (acts : List Act) :
    p.played source acts ++ (p.run source acts).backlog.steps = p.backlog.steps ++ acts.flatMap Act.output := by
  induction acts generalizing p with
  | nil => simp
  | cons act rest ih =>
    rw [played_cons, run_cons, List.append_assoc, ih, ← List.append_assoc, backlog_after, List.append_assoc,
      List.flatMap_cons]

theorem length_outputs (source : SnapshotSource) (p : Player) (acts : List Act) :
    (acts.flatMap Act.output).length = total ((p.replies source acts).map Reply.count) + acts.countP Act.isEnd := by
  induction acts generalizing p with
  | nil => rfl
  | cons act rest ih =>
    rw [List.flatMap_cons, List.length_append, length_output p act, ih (p.after source act), replies, List.map_cons,
      total_cons, List.countP_cons]
    omega

theorem totalEnqueued_run (source : SnapshotSource) (p : Player) (acts : List Act) :
    (p.run source acts).backlog.totalEnqueued = p.backlog.totalEnqueued + (acts.flatMap Act.output).length := by
  induction acts generalizing p with
  | nil => rfl
  | cons act rest ih => rw [run_cons, ih, totalEnqueued_after, List.flatMap_cons, List.length_append, Nat.add_assoc]

/-- As many steps have been counted as were played, and the commentary is the end of what they told. -/
theorem told_run (source : SnapshotSource) {p : Player} (h : p.stage.commentary.length ≤ Stage.commentaryLimit)
    (acts : List Act) :
    (p.run source acts).stage.stepsPlayed = p.stage.stepsPlayed + (p.played source acts).length ∧
      (p.run source acts).stage.commentary = Stage.keepLast Stage.commentaryLimit
        (p.stage.commentary ++ (p.played source acts).filterMap Step.notice?) := by
  induction acts generalizing p with
  | nil => exact ⟨rfl, by rw [run_nil, played_nil, List.filterMap_nil, List.append_nil, keepLast_of_le h]⟩
  | cons act rest ih =>
    obtain ⟨hcount, hkept⟩ := told_after source h act
    have hle : (p.after source act).stage.commentary.length ≤ Stage.commentaryLimit := by
      rw [hkept, length_keepLast]
      exact Nat.min_le_left _ _
    obtain ⟨ih1, ih2⟩ := ih hle
    rw [run_cons, played_cons]
    constructor
    · rw [ih1, hcount, List.length_append, Nat.add_assoc]
    · rw [ih2, hkept, keepLast_append, List.filterMap_append, List.append_assoc]

/-- Every step is accounted for, in four parts, for every run of a fresh player.
1. The steps that have been played, and then those that wait, are all the steps that the events of the trace and the ends of
   the interpreter came to, in the order of their arrival.
2. The answers to the chunks, and one for every end, add up to the number of steps that have ever joined the backlog.
3. That number is the number of steps that have been played and of those that wait.
4. The commentary is the end of what the steps played so far have told: the last 1000 lines of it, or all when there are
   fewer. -/
theorem steps_accounted (source : SnapshotSource) (acts : List Act) :
    let p := initial.run source acts
    let played := initial.played source acts
    played ++ p.backlog.steps = acts.flatMap Act.output ∧
    total ((initial.replies source acts).map Reply.count) + acts.countP Act.isEnd = p.backlog.totalEnqueued ∧
    p.backlog.totalEnqueued = p.stage.stepsPlayed + p.backlog.size ∧
    (p.stage.commentary <:+ played.filterMap Step.notice? ∧
      p.stage.commentary.length = min 1000 (played.filterMap Step.notice?).length) := by
  intro p played
  have horder : played ++ p.backlog.steps = acts.flatMap Act.output := played_append_waiting source initial acts
  have htotal : p.backlog.totalEnqueued = (acts.flatMap Act.output).length := by
    rw [show p = initial.run source acts from rfl, totalEnqueued_run]
    exact Nat.zero_add _
  obtain ⟨hcount, hkept⟩ := told_run source (p := initial) (Nat.zero_le _) acts
  have hplayed : p.stage.stepsPlayed = played.length := hcount.trans (Nat.zero_add _)
  refine ⟨horder, ?_, ?_, ?_, ?_⟩
  · rw [htotal, length_outputs source initial acts]
  · rw [htotal, ← horder, List.length_append, hplayed, Backlog.size]
  · rw [show p.stage.commentary = _ from hkept]
    exact List.drop_suffix _ _
  · rw [show p.stage.commentary = _ from hkept, length_keepLast]
    rfl

end Player

end TracePlayer
