import TracePlayer.Proofs.Telling
import TracePlayer.Proofs.Words

/-!
# Line by line

A chunk of the trace is its lines: taking it in is heeding its lines one after the other (`ingest_eq_heed`). A line that is
blank, unknown, at fault, cannot be shown, or asks for a snapshot that is not to be had leaves everything but counters as it
is. A run in which such lines have been put (`Padded`) plays the same steps and shows the same stage as the run without them.
The main statement is `heeds_line_by_line`.
-/

namespace TracePlayer

namespace Trace

/-- The tags of the lines that tell an event. -/
def tags : List String := ["config", "mem", "data", "fetch", "decode", "exec_func", "found_global"]

/-- The operations that are told. -/
def operations : List String := ["cmp", "jmp", "mov_reg", "mov_mem", "lea_reg", "lea_mem", "arithmetic"]

/-- The words of a line of an unknown kind: another tag than those above, or another operation. -/
def Unknown : List (List Char) → Prop
  | [] => False
  | tag :: rest => String.ofList tag ∉ tags ∨
    (String.ofList tag = "exec_func" ∧ ∃ name args, rest = name :: args ∧ String.ofList name ∉ operations)

/-- Whether a line asks for a snapshot. -/
def Verdict.asks : Verdict → Bool
  | decoded .snapshotReady => true
  | _ => false

/-- Whether a line changes no more than counters, given the answer to the request for a snapshot that it may make. -/
def Verdict.IsInert (answer : Except Snapshot.Fault Snapshot) : Verdict → Prop
  | decoded .snapshotReady => ∃ fault, answer = .error fault
  | decoded event => ∃ fault, event.storyboard = .error fault
  | _ => True

/-- How many lines have been counted. -/
def Tally.total (t : Tally) : Nat := t.decoded + t.ignored + t.malformed

/-! ## Lines of an unknown kind -/

namespace LineAux

/-- What a reader of fields returns, if it returns. -/
def Returns {α : Type} (P : α → Prop) (r : FieldReader α) : Prop := ∀ s a s', r.run s = .ok (a, s') → P a

theorem returns_pure {α : Type} {P : α → Prop} {a : α} (h : P a) : Returns P (pure a) := by
  intro s a' s' heq
  obtain ⟨rfl, -⟩ := Prod.mk.inj (Except.ok.inj heq)
  exact h

/-- The fields that have been read have no part in it. -/
theorem returns_bind {α β : Type} {P : α → Prop} (r : FieldReader β) {f : β → FieldReader α} (h : ∀ b, Returns P (f b)) :
    Returns P (r >>= f) := by
  intro s a s' heq
  rw [StateT.run_bind] at heq
  cases hr : r.run s with
  | error fault =>
    rw [hr] at heq
    cases heq
  | ok x =>
    rw [hr] at heq
    exact h x.1 x.2 a s' heq

/-- An operation that is known is read, if its fields are. -/
theorem returns_readOperation {name : String} (h : name ∈ operations) :
    Returns (fun operation => operation.isSome = true) (readOperation name) := by
  have hread : ∀ operation : Operation, Returns (fun o => o.isSome = true) (pure (some operation)) :=
    fun operation => returns_pure rfl
  simp only [operations, List.mem_cons, List.not_mem_nil, or_false] at h
  rcases h with rfl | rfl | rfl | rfl | rfl | rfl | rfl
  all_goals
    rw [readOperation]
    repeat' refine returns_bind _ fun _ => ?_
    exact hread _

theorem readOperation_of_not_mem {name : String} (h : name ∉ operations) : readOperation name = pure none := by
  simp only [operations, List.mem_cons, List.not_mem_nil, or_false, not_or] at h
  rw [readOperation] <;> simp [h]

/-- A value that is read is one. -/
theorem map_some_ne_none {α β : Type} (x : Except LineFault α) (f : α → β) :
    (x >>= fun a => pure (some (f a))) ≠ .ok none := by
  cases x <;> nofun

end LineAux

open LineAux

theorem decodeLine_eq (line : List Char) :
    decodeLine line =
      if (Text.trim line).isEmpty then .error .emptyLine
      else decodeTagged (String.ofList (Text.cutAtBlank (Text.trim line)).1)
        (Text.trim (Text.cutAtBlank (Text.trim line)).2) := by
  simp only [decodeLine]
  split <;> rfl

theorem decodeOperation_eq (s : List Char) :
    decodeOperation s =
      if (Text.cutAtBlank s).1.isEmpty then .error (.missingField "exec_func" "funcname")
      else ((readOperation (String.ofList (Text.cutAtBlank s).1)).run
        (splitFields (Text.trim (Text.cutAtBlank s).2))).map fun r => r.1.map .executed := by
  unfold decodeOperation
  cases hempty : (Text.cutAtBlank s).1.isEmpty with
  | true => simp only [hempty]; rfl
  | false =>
    simp only [hempty]
    cases (readOperation (String.ofList (Text.cutAtBlank s).1)).run (splitFields (Text.trim (Text.cutAtBlank s).2)) <;> rfl

/-- The rest of a line that tells an operation is of an unknown kind when it names one that is not known. -/
theorem decodeOperation_eq_none_iff {s : List Char} :
    decodeOperation s = .ok none ↔
      (Text.cutAtBlank s).1 ≠ [] ∧ String.ofList (Text.cutAtBlank s).1 ∉ operations := by
  rw [decodeOperation_eq]
  generalize Text.cutAtBlank s = cut
  obtain ⟨name, args⟩ := cut
  cases name with
  | nil => simp
  | cons c rest =>
    simp only [List.isEmpty_cons, Bool.false_eq_true, if_false, ne_eq, reduceCtorEq, not_false_eq_true, true_and]
    by_cases hknown : String.ofList (c :: rest) ∈ operations
    · refine iff_of_false (fun heq => ?_) (not_not_intro hknown)
      cases hread : (readOperation (String.ofList (c :: rest))).run (splitFields (Text.trim args)) with
      | error fault =>
        rw [hread] at heq
        cases heq
      | ok r =>
        obtain ⟨operation, hsome⟩ := Option.isSome_iff_exists.1 (returns_readOperation hknown _ r.1 r.2 hread)
        rw [hread, Except.map, hsome] at heq
        cases heq
    · rw [readOperation_of_not_mem hknown]
      exact iff_of_true rfl hknown

/-- Only another tag, or another operation, makes a line unknown. -/
theorem decodeTagged_eq_none_iff {tag : String} {s : List Char} :
    decodeTagged tag s = .ok none ↔ tag ∉ tags ∨ (tag = "exec_func" ∧ decodeOperation s = .ok none) := by
  by_cases hknown : tag ∈ tags
  · simp only [tags, List.mem_cons, List.not_mem_nil, or_false] at hknown
    rcases hknown with rfl | rfl | rfl | rfl | rfl | rfl | rfl
    case inr.inr.inl => simp [decodeTagged, tags, pure, Except.pure]
    case inr.inr.inr.inr.inr.inl => simp [decodeTagged, tags]
    all_goals
      simp only [tags, List.mem_cons, true_or, or_true, not_true_eq_false, String.reduceEq, false_and, or_false, iff_false]
      exact map_some_ne_none _ _
  · refine iff_of_true ?_ (Or.inl hknown)
    simp only [tags, List.mem_cons, List.not_mem_nil, or_false, not_or] at hknown
    rw [decodeTagged]
    · rfl
    all_goals simp only [hknown, imp_self]

theorem unknown_cons {tag : List Char} {rest : List (List Char)} :
    Unknown (tag :: rest) ↔ String.ofList tag ∉ tags ∨
      (String.ofList tag = "exec_func" ∧ ∃ name args, rest = name :: args ∧ String.ofList name ∉ operations) :=
  Iff.rfl

/-- What stands behind the tag names an operation that is not known when its first word does. -/
theorem decodeOperation_trim_eq_none_iff {s : List Char} :
    decodeOperation (Text.trim s) = .ok none ↔
      ∃ name args, Text.words s = name :: args ∧ String.ofList name ∉ operations := by
  rw [decodeOperation_eq_none_iff, ← Text.words_trim s]
  cases htrim : Text.trim s with
  | nil => simp [Text.cutAtBlank, Text.words, Text.wordsFrom]
  | cons c rest =>
    have hc := Text.not_isBlank_of_trim htrim
    rw [Text.words_cutAtBlank hc]
    simp [Text.cutAtBlank, hc]

/-- A line that is not blank is unknown exactly when its words say so. -/
theorem decodeLine_eq_none_iff {line : List Char} (h : Text.trim line ≠ []) :
    decodeLine line = .ok none ↔ Unknown (Text.words line) := by
  rw [decodeLine_eq, ← Text.words_trim line]
  cases htrim : Text.trim line with
  | nil => exact absurd htrim h
  | cons c rest =>
    rw [Text.words_cutAtBlank (Text.not_isBlank_of_trim htrim), unknown_cons, List.isEmpty_cons,
      if_neg Bool.false_ne_true, decodeTagged_eq_none_iff, decodeOperation_trim_eq_none_iff]

/-! ## Verdicts -/

/-- The carriage returns at the end of a line have no part in its verdict. -/
theorem judge_eq (line : List Char) :
    judge line =
      if (Text.trim line).isEmpty then .blank
      else match decodeLine line with
        | .ok (some event) => .decoded event
        | .ok none => .ignored
        | .error fault => .malformed fault := by
  have hdecode : decodeLine (Text.dropReturns line) = decodeLine line := by
    rw [decodeLine_eq, decodeLine_eq, Text.trim_dropReturns]
  rw [← Text.trim_dropReturns line, ← hdecode]
  rfl

/-- A line is blank when it holds nothing but white space. -/
theorem judge_eq_blank_iff {line : List Char} : judge line = .blank ↔ ∀ c ∈ line, Text.isBlank c = true := by
  rw [← Text.trim_eq_nil_iff, judge_eq]
  cases htrim : Text.trim line with
  | nil => simp
  | cons c rest =>
    simp only [List.isEmpty_cons, Bool.false_eq_true, if_false, reduceCtorEq, iff_false]
    split <;> nofun

/-- A line is ignored when it is of an unknown kind. -/
theorem judge_eq_ignored_iff {line : List Char} : judge line = .ignored ↔ Unknown (Text.words line) := by
  rw [judge_eq]
  cases htrim : Text.trim line with
  | nil =>
    rw [← Text.words_trim, htrim]
    simp [Text.words, Text.wordsFrom, Unknown]
  | cons c rest =>
    rw [← decodeLine_eq_none_iff (by rw [htrim]; exact List.cons_ne_nil c rest)]
    simp only [List.isEmpty_cons, Bool.false_eq_true, if_false]
    split <;> simp_all

/-- A line that is not blank and cannot be decoded is malformed. -/
theorem judge_of_error {line : List Char} {fault : LineFault} (hne : ∃ c ∈ line, Text.isBlank c = false)
    (h : decodeLine line = .error fault) : judge line = .malformed fault := by
  have htrim : (Text.trim line).isEmpty = false := by
    obtain ⟨c, hc, hblank⟩ := hne
    rw [List.isEmpty_eq_false_iff, ne_eq, Text.trim_eq_nil_iff]
    exact fun hall => Bool.false_ne_true (hblank.symm.trans (hall c hc))
  rw [judge_eq, htrim, h]
  rfl

/-- A line that tells an event is not blank. -/
theorem judge_of_event {line : List Char} {event : Event} (h : decodeLine line = .ok (some event)) :
    judge line = .decoded event := by
  have htrim : (Text.trim line).isEmpty = false := by
    rw [decodeLine_eq] at h
    split at h
    · cases h
    · rename_i hne
      exact Bool.eq_false_iff.2 hne
  rw [judge_eq, htrim, h]
  rfl

/-- The verdicts on two texts that a line feed joins are those on both. -/
theorem verdicts_append (a b : String) : verdicts (a ++ "\n" ++ b) = verdicts a ++ verdicts b := by
  have hchars : (a ++ "\n" ++ b).toList = a.toList ++ '\n' :: b.toList := by simp
  rw [verdicts, hchars, Text.pieces_append, List.map_append]
  rfl

/-- A chunk of one line has one verdict. -/
theorem verdicts_of_not_mem {line : String} (h : '\n' ∉ line.toList) : verdicts line = [judge line.toList] := by
  rw [verdicts, Text.pieces_of_not_mem h]
  rfl

end Trace

namespace Player

/-- The player once a line has been judged: it is counted, and the event that it tells takes effect. -/
def heed (source : SnapshotSource) (p : Player) (verdict : Trace.Verdict) : Player :=
  match verdict.event? with
  | some event => { p with tally := p.tally.count verdict }.apply source event
  | none => { p with tally := p.tally.count verdict }

/-- Two players that show the same and will play the same. -/
structure Alike (p q : Player) : Prop where
  backlog : p.backlog = q.backlog
  prompter : p.prompter = q.prompter
  stage : p.stage = q.stage

/-- The acts that bring the lines of an act one by one. -/
def Act.byLine : Act → List Act
  | ingest chunk => (Text.pieces chunk.toList).map fun line => .ingest (String.ofList line)
  | act => [act]

/-- A run, line by line, and the same run with more lines put in anywhere, each of which changes no more than counters. The runs
have sources of snapshots of their own, of which so many have been asked; a line of both is given the same answer in both. -/
inductive Padded (source source' : SnapshotSource) : Nat → Nat → List Act → List Act → Prop where
  | nil (n n' : Nat) : Padded source source' n n' [] []
  | line {n n' : Nat} {line : String} {acts acts' : List Act} (hline : '\n' ∉ line.toList)
      (hsame : (Trace.judge line.toList).asks = true → source n = source' n')
      (h : Padded source source' (n + (Trace.judge line.toList).asks.toNat) (n' + (Trace.judge line.toList).asks.toNat)
        acts acts') :
      Padded source source' n n' (.ingest line :: acts) (.ingest line :: acts')
  | extra {n n' : Nat} {line : String} {acts acts' : List Act} (hline : '\n' ∉ line.toList)
      (hinert : (Trace.judge line.toList).IsInert (source' n'))
      (h : Padded source source' n (n' + (Trace.judge line.toList).asks.toNat) acts acts') :
      Padded source source' n n' acts (.ingest line :: acts')
  | tick {n n' : Nat} (sink : Sink) {acts acts' : List Act} (h : Padded source source' n n' acts acts') :
      Padded source source' n n' (.tick sink :: acts) (.tick sink :: acts')
  | ended {n n' : Nat} (code : Option Int) {acts acts' : List Act} (h : Padded source source' n n' acts acts') :
      Padded source source' n n' (.ended code :: acts) (.ended code :: acts')

/-! ## Heeding lines -/

theorem heed_decoded (source : SnapshotSource) (p : Player) (event : Event) :
    p.heed source (.decoded event) = { p with tally := p.tally.count (.decoded event) }.apply source event := rfl

theorem tally_apply (source : SnapshotSource) (p : Player) (event : Event) : (p.apply source event).tally = p.tally := by
  have h : p.apply source event = { p.apply source event with tally := p.tally } := apply_tally source p event p.tally
  rw [h]

/-- Counting all lines first and letting their events take effect then comes to the same as heeding them one by one. -/
theorem foldl_heed (source : SnapshotSource) (p : Player) (verdicts : List Trace.Verdict) :
    verdicts.foldl (heed source) p =
      (verdicts.filterMap Trace.Verdict.event?).foldl (apply source) { p with tally := verdicts.foldl Trace.Tally.count p.tally } := by
  induction verdicts generalizing p with
  | nil => rfl
  | cons v rest ih =>
    rw [List.foldl_cons, ih, List.filterMap_cons, heed]
    cases v.event? with
    | none => rfl
    | some event =>
      rw [List.foldl_cons, tally_apply, ← apply_tally]
      rfl

/-- A chunk is taken in line by line. -/
theorem ingest_eq_heed (source : SnapshotSource) (p : Player) (chunk : String) :
    p.ingest source chunk = (Trace.verdicts chunk).foldl (heed source) p :=
  (foldl_heed source p (Trace.verdicts chunk)).symm

theorem ingest_of_not_mem (source : SnapshotSource) (p : Player) {line : String} (h : '\n' ∉ line.toList) :
    p.ingest source line = p.heed source (Trace.judge line.toList) := by
  rw [ingest_eq_heed, Trace.verdicts_of_not_mem h]
  rfl

/-- A chunk is told in two parts. -/
theorem ingest_append (source : SnapshotSource) (p : Player) (a b : String) :
    p.ingest source (a ++ "\n" ++ b) = (p.ingest source a).ingest source b := by
  rw [ingest_eq_heed, Trace.verdicts_append, List.foldl_append, ← ingest_eq_heed, ← ingest_eq_heed]

theorem total_append (counts more : List Nat) : total (counts ++ more) = total counts + total more := by
  induction counts with
  | nil => exact (Nat.zero_add _).symm
  | cons n rest ih => rw [List.cons_append, total_cons, total_cons, ih, Nat.add_assoc]

theorem count_reply_append (p q : Player) (a b : String) :
    (p.reply (.ingest (a ++ "\n" ++ b))).count = (p.reply (.ingest a)).count + (q.reply (.ingest b)).count := by
  simp only [reply, Reply.count, Trace.events, Trace.verdicts_append, List.filterMap_append, List.map_append, total_append]

/-- Snapshots are asked for by lines that say so, and by no others. -/
theorem fetches_heed (source : SnapshotSource) (p : Player) (v : Trace.Verdict) :
    (p.heed source v).fetches = p.fetches + v.asks.toNat := by
  cases v with
  | decoded event =>
    cases event with
    | memorySize kilobytes => rfl
    | memoryDump bytes => rfl
    | snapshotReady => rfl
    | _ => exact enqueue_fetches _ _
  | _ => rfl

/-! ## Lines that change nothing but counters -/

theorem Alike.trans {p q r : Player} (h : Alike p q) (h' : Alike q r) : Alike p r :=
  ⟨h.backlog.trans h'.backlog, h.prompter.trans h'.prompter, h.stage.trans h'.stage⟩

/-- An event that has no storyboard is counted. -/
theorem enqueue_of_error {event : Event} {fault : StoryFault} (h : event.storyboard = .error fault) (p : Player) :
    p.enqueue event = { p with unshown := p.unshown + 1 } := by
  rw [enqueue, h]

/-- An event that has no storyboard does not load a state. -/
theorem apply_of_error {event : Event} {fault : StoryFault} (h : event.storyboard = .error fault) (source : SnapshotSource)
    (p : Player) : p.apply source event = { p with unshown := p.unshown + 1 } := by
  cases event with
  | memorySize kilobytes => cases h
  | memoryDump bytes => cases h
  | snapshotReady => cases h
  | _ => exact enqueue_of_error h p

/-- A snapshot that cannot be fetched is counted as asked for. -/
theorem apply_snapshotReady_of_error {source : SnapshotSource} {fault : Snapshot.Fault} (p : Player)
    (h : source p.fetches = .error fault) :
    p.apply source .snapshotReady = { p with fetches := p.fetches + 1 } := by
  rw [apply, loadSnapshot, h]

theorem alike_heed_of_isInert (source : SnapshotSource) (p : Player) {v : Trace.Verdict}
    (h : v.IsInert (source p.fetches)) : Alike p (p.heed source v) := by
  cases v with
  | decoded event =>
    rw [heed_decoded]
    cases event with
    | snapshotReady =>
      obtain ⟨fault, hfault⟩ := h
      rw [apply_snapshotReady_of_error { p with tally := p.tally.count (.decoded .snapshotReady) } hfault]
      exact ⟨rfl, rfl, rfl⟩
    | _ =>
      obtain ⟨fault, hfault⟩ := h
      rw [apply_of_error hfault]
      exact ⟨rfl, rfl, rfl⟩
  | _ => exact ⟨rfl, rfl, rfl⟩

/-! ## Two runs -/

section TwoRuns

variable {source source' : SnapshotSource} {p p' : Player}

/-- An event does to players that are alike the same, if it is given the same snapshot. -/
theorem Alike.apply (h : Alike p p') (event : Event)
    (hsame : event = .snapshotReady → source p.fetches = source' p'.fetches) :
    Alike (p.apply source event) (p'.apply source' event) := by
  obtain ⟨hbacklog, hprompter, hstage⟩ := h
  refine ⟨?_, ?_, ?_⟩
  · rw [apply_backlog, apply_backlog, hbacklog]
  · rw [apply_prompter, apply_prompter, hprompter]
  · cases event with
    | memorySize kilobytes => simp only [Player.apply, hstage]
    | memoryDump bytes => simp only [Player.apply, hstage]
    | snapshotReady => simp only [Player.apply, loadSnapshot, hstage, hsame rfl]
    | _ => simp only [Player.apply, enqueue_stage, hstage]

theorem Alike.heed (h : Alike p p') (v : Trace.Verdict)
    (hsame : v.asks = true → source p.fetches = source' p'.fetches) :
    Alike (p.heed source v) (p'.heed source' v) := by
  cases v with
  | decoded event =>
    have hcounted : Alike { p with tally := p.tally.count (.decoded event) }
        { p' with tally := p'.tally.count (.decoded event) } := ⟨h.backlog, h.prompter, h.stage⟩
    refine hcounted.apply event fun hready => hsame ?_
    rw [hready]
    rfl
  | _ => exact ⟨h.backlog, h.prompter, h.stage⟩

/-- A tick does to players that are alike the same, and is answered alike. -/
theorem Alike.tick (h : Alike p p') (sink : Sink) :
    (p.tick sink).outcome = (p'.tick sink).outcome ∧ (p.tick sink).sent = (p'.tick sink).sent ∧
      Alike (p.tick sink).player (p'.tick sink).player := by
  obtain ⟨hbacklog, hprompter, hstage⟩ := h
  simp only [Player.tick, hbacklog, hprompter, hstage, true_and]
  exact ⟨rfl, rfl, rfl⟩

theorem Alike.sessionEnded (h : Alike p p') (code : Option Int) : Alike (p.sessionEnded code) (p'.sessionEnded code) := by
  obtain ⟨hbacklog, hprompter, hstage⟩ := h
  simp only [Player.sessionEnded, hbacklog, hprompter, hstage]
  exact ⟨rfl, rfl, rfl⟩

/-- Lines that change no more than counters change no step and nothing that is shown, wherever they are put into a run. -/
theorem Padded.alike {n n' : Nat} {acts acts' : List Act} (hpadded : Padded source source' n n' acts acts')
    (hn : p.fetches = n) (hn' : p'.fetches = n') (h : Alike p p') :
    p.played source acts = p'.played source' acts' ∧ Alike (p.run source acts) (p'.run source' acts') := by
  induction hpadded generalizing p p' with
  | nil n n' => exact ⟨rfl, h⟩
  | @line n n' line acts acts' hline hsame _ ih =>
    rw [played_cons, played_cons, run_cons, run_cons]
    simp only [after, ingest_of_not_mem _ _ hline]
    subst hn hn'
    obtain ⟨hplayed, hrun⟩ := ih (fetches_heed _ _ _) (fetches_heed _ _ _) (h.heed _ hsame)
    exact ⟨hplayed, hrun⟩
  | @extra n n' line acts acts' hline hinert _ ih =>
    rw [played_cons, run_cons]
    simp only [after, ingest_of_not_mem _ _ hline]
    subst hn'
    exact ih hn (fetches_heed _ _ _) (h.trans (alike_heed_of_isInert source' p' hinert))
  | tick sink _ ih =>
    obtain ⟨houtcome, -, hafter⟩ := h.tick sink
    have hfetches : ∀ q : Player, (q.tick sink).player.fetches = q.fetches := fun q => rfl
    obtain ⟨hplayed, hrun⟩ := ih ((hfetches p).trans hn) ((hfetches p').trans hn') hafter
    refine ⟨?_, hrun⟩
    rw [played_cons, played_cons, reply, reply, houtcome, after, after, hplayed]
  | ended code _ ih => exact ih hn hn' (h.sessionEnded code)

example (fault : Snapshot.Fault) : Padded source (fun _ => .error fault) 0 0 [.ingest "decode mov"]
    [.ingest "bogus", .ingest "decode mov", .ingest "data"] := by
  have hbogus : Trace.judge "bogus".toList = .ignored := by cbv
  have hmov : (Trace.judge "decode mov".toList).asks = false := by cbv
  have hdata : Trace.judge "data".toList = .decoded .snapshotReady := by cbv
  refine .extra (by decide) ?_ (.line (by decide) ?_ (.extra (by decide) ?_ (.nil _ _)))
  · rw [hbogus]
    trivial
  · exact fun h => absurd (hmov.symm.trans h) Bool.false_ne_true
  · rw [hdata]
    exact ⟨fault, rfl⟩

end TwoRuns

/-! ## Runs line by line -/

theorem run_append (source : SnapshotSource) (p : Player) (acts later : List Act) :
    p.run source (acts ++ later) = (p.run source acts).run source later :=
  List.foldl_append

theorem played_append (source : SnapshotSource) (p : Player) (acts later : List Act) :
    p.played source (acts ++ later) = p.played source acts ++ (p.run source acts).played source later := by
  induction acts generalizing p with
  | nil => rfl
  | cons act rest ih => rw [List.cons_append, played_cons, ih, played_cons, run_cons, List.append_assoc]

/-- Bringing lines plays nothing. -/
theorem played_lines (source : SnapshotSource) (p : Player) (lines : List (List Char)) :
    p.played source (lines.map fun line => .ingest (String.ofList line)) = [] := by
  induction lines generalizing p with
  | nil => rfl
  | cons line rest ih => rw [List.map_cons, played_cons, ih]; rfl

theorem run_lines (source : SnapshotSource) (p : Player) {lines : List (List Char)} (h : ∀ line ∈ lines, '\n' ∉ line) :
    p.run source (lines.map fun line => .ingest (String.ofList line)) = (lines.map Trace.judge).foldl (heed source) p := by
  induction lines generalizing p with
  | nil => rfl
  | cons line rest ih =>
    obtain ⟨hline, hrest⟩ := List.forall_mem_cons.1 h
    have hchars : '\n' ∉ (String.ofList line).toList := by rwa [String.toList_ofList]
    rw [List.map_cons, run_cons, after, ingest_of_not_mem source p hchars, ih _ hrest, String.toList_ofList]
    rfl

/-- An act is the same line by line. -/
theorem run_byLine (source : SnapshotSource) (p : Player) (act : Act) :
    p.run source act.byLine = p.after source act ∧ p.played source act.byLine = (p.reply act).step?.toList := by
  cases act with
  | ingest chunk =>
    refine ⟨?_, played_lines source p _⟩
    rw [Act.byLine, run_lines source p fun line hline => Text.not_mem_of_mem_pieces hline, after, ingest_eq_heed]
    rfl
  | tick sink => exact ⟨rfl, (played_cons source p (.tick sink) []).trans (List.append_nil _)⟩
  | ended code => exact ⟨rfl, rfl⟩

/-- A run is the same line by line. -/
theorem run_flatMap_byLine (source : SnapshotSource) (p : Player) (acts : List Act) :
    p.run source (acts.flatMap Act.byLine) = p.run source acts ∧
      p.played source (acts.flatMap Act.byLine) = p.played source acts := by
  induction acts generalizing p with
  | nil => exact ⟨rfl, rfl⟩
  | cons act rest ih =>
    obtain ⟨hrun, hplayed⟩ := run_byLine source p act
    rw [List.flatMap_cons, run_append, played_append, hrun, hplayed, run_cons, played_cons]
    exact ⟨(ih _).1, by rw [(ih _).2]⟩

/-! ## Counting lines -/

/-- A line is counted once, unless it is blank. -/
theorem total_count (t : Trace.Tally) (line : List Char) :
    (t.count (Trace.judge line)).total = t.total + (if line.any (!Text.isBlank ·) then 1 else 0) := by
  have hblank : Trace.judge line = .blank ↔ line.any (!Text.isBlank ·) = false := by
    rw [Trace.judge_eq_blank_iff, List.any_eq_false]
    simp
  cases hany : line.any (!Text.isBlank ·) with
  | false =>
    rw [hblank.2 hany]
    rfl
  | true =>
    have hne : Trace.judge line ≠ .blank := fun h => Bool.false_ne_true ((hblank.1 h).symm.trans hany)
    rw [if_pos rfl]
    cases hjudge : Trace.judge line with
    | blank => exact absurd hjudge hne
    | _ =>
      simp only [Trace.Tally.count, Trace.Tally.total]
      omega

theorem tally_heed (source : SnapshotSource) (p : Player) (v : Trace.Verdict) : (p.heed source v).tally = p.tally.count v := by
  cases v with
  | decoded event => rw [heed_decoded, tally_apply]
  | _ => rfl

/-- Every line of a chunk is counted, unless it is blank. -/
theorem total_foldl_heed (source : SnapshotSource) (p : Player) (lines : List (List Char)) :
    ((lines.map Trace.judge).foldl (heed source) p).tally.total =
      p.tally.total + lines.countP (fun line => line.any (!Text.isBlank ·)) := by
  induction lines generalizing p with
  | nil => rfl
  | cons line rest ih =>
    rw [List.map_cons, List.foldl_cons, ih, tally_heed, total_count, List.countP_cons]
    omega

/-- Every line that arrives in a run is counted, unless it is blank. -/
theorem total_run (source : SnapshotSource) (p : Player) (acts : List Act) :
    (p.run source acts).tally.total =
      p.tally.total + (acts.flatMap Act.lines).countP (fun line => line.any (!Text.isBlank ·)) := by
  induction acts generalizing p with
  | nil => rfl
  | cons act rest ih =>
    have hafter : (p.after source act).tally.total =
        p.tally.total + act.lines.countP (fun line => line.any (!Text.isBlank ·)) := by
      cases act with
      | ingest chunk =>
        rw [after, ingest_eq_heed]
        exact total_foldl_heed source p _
      | tick sink => rfl
      | ended code => rfl
    rw [run_cons, ih, hafter, List.flatMap_cons, List.countP_append, Nat.add_assoc]

/-- The trace is heeded line by line, in four parts, for every player.
1. A line feed between two texts makes no difference to bringing one after the other: the same player comes of it, and the
   answers add up.
2. What a line changes that comes to nothing: a blank one nothing at all; one of another tag or operation than those known, one
   that cannot be decoded, one that cannot be shown, and one whose snapshot cannot be fetched, no more than their counters.
3. Wherever such lines are put into a run, every step is played that is played without them, and no other; and the same steps
   wait, the prompter is in the same state, and the stage shows the same. The sources of snapshots may be others, so long as
   they answer alike to the lines of both runs.
4. Through every run, decoded, ignored and malformed lines together are as many more as lines have arrived that are not blank. -/
theorem heeds_line_by_line (source : SnapshotSource) (p : Player) :
    (∀ a b : String, p.ingest source (a ++ "\n" ++ b) = (p.ingest source a).ingest source b ∧
      (p.reply (.ingest (a ++ "\n" ++ b))).count =
        (p.reply (.ingest a)).count + ((p.ingest source a).reply (.ingest b)).count) ∧
    (∀ line : String, '\n' ∉ line.toList →
      ((∀ c ∈ line.toList, Text.isBlank c = true) → p.ingest source line = p) ∧
      (Trace.Unknown (Text.words line.toList) →
        p.ingest source line = { p with tally := { p.tally with ignored := p.tally.ignored + 1 } }) ∧
      (∀ fault, (∃ c ∈ line.toList, Text.isBlank c = false) → Trace.decodeLine line.toList = .error fault →
        p.ingest source line = { p with tally := { p.tally with malformed := p.tally.malformed + 1 } }) ∧
      (∀ event fault, Trace.decodeLine line.toList = .ok (some event) → event.storyboard = .error fault →
        p.ingest source line =
          { p with tally := { p.tally with decoded := p.tally.decoded + 1 }, unshown := p.unshown + 1 }) ∧
      (∀ fault, Trace.decodeLine line.toList = .ok (some .snapshotReady) → source p.fetches = .error fault →
        p.ingest source line =
          { p with tally := { p.tally with decoded := p.tally.decoded + 1 }, fetches := p.fetches + 1 })) ∧
    (∀ (source' : SnapshotSource) (p' : Player) (acts acts' : List Act), Alike p p' →
      Padded source source' p.fetches p'.fetches (acts.flatMap Act.byLine) (acts'.flatMap Act.byLine) →
      p.played source acts = p'.played source' acts' ∧ Alike (p.run source acts) (p'.run source' acts')) ∧
    (∀ acts : List Act, (p.run source acts).tally.total =
      p.tally.total + (acts.flatMap Act.lines).countP (fun line => line.any (!Text.isBlank ·))) := by
  refine ⟨fun a b => ⟨ingest_append source p a b, count_reply_append p _ a b⟩, fun line hline => ?_, ?_, total_run source p⟩
  · rw [ingest_of_not_mem source p hline]
    refine ⟨fun h => ?_, fun h => ?_, fun fault hne h => ?_, fun event fault h hstory => ?_, fun fault h hfault => ?_⟩
    · rw [Trace.judge_eq_blank_iff.2 h]
      rfl
    · rw [Trace.judge_eq_ignored_iff.2 h]
      rfl
    · rw [Trace.judge_of_error hne h]
      rfl
    · rw [Trace.judge_of_event h, heed_decoded, apply_of_error hstory]
      rfl
    · rw [Trace.judge_of_event h, heed_decoded]
      exact apply_snapshotReady_of_error { p with tally := p.tally.count (.decoded .snapshotReady) } hfault
  · intro source' p' acts acts' halike hpadded
    obtain ⟨hplayed, hrun⟩ := hpadded.alike rfl rfl halike
    rw [(run_flatMap_byLine source p acts).1, (run_flatMap_byLine source' p' acts').1] at hrun
    rw [(run_flatMap_byLine source p acts).2, (run_flatMap_byLine source' p' acts').2] at hplayed
    exact ⟨hplayed, hrun⟩

end Player

end TracePlayer
