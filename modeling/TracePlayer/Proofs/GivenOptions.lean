import Mathlib.Logic.Function.Basic
import TracePlayer.Settings.CommandLine

/-!
# The options that words give

Reading a command line goes by a scan that settles each value only later, when the next option or free word is reached. What the
words give is said here without the scan (`Gives`): an option has the value that stands behind it, as the next word or behind an
equals sign in the same word, as long as no word `--` has gone before. `parse_holds` says that a command line that is accepted
holds just these values.
-/

namespace TracePlayer

/-- An option as a word of its own. -/
def Setting.word (o : Setting) : String := "--" ++ o.name

/-- An option and its value as one word. -/
def Setting.attached (o : Setting) (value : String) : String := o.word ++ "=" ++ value

namespace CommandLine

/-- The words give an option a value, ahead of any word `--`. -/
def Gives (words : List String) (o : Setting) (value : String) : Prop :=
  ∃ front back, "--" ∉ front ∧ (words = front ++ o.word :: value :: back ∨ words = front ++ o.attached value :: back)

/-- A draft holds what some texts say, one for each option that is settled. -/
structure Draft.Holds (d : Draft) (texts : Setting → Option String) : Prop where
  properties : d.properties = texts .properties
  interpreter : d.interpreter = texts .interpreter
  envFile : d.envFile = texts .envFile
  tickMs : d.tickMs.map some = (texts .tickMs).map fun value => Text.readNatural wordBound value.toList
  debugLevel : d.debugLevel.map some = (texts .debugLevel).map debugLevel?
  logFile : d.logFile = texts .logFile
  logLevel : d.logLevel = texts .logLevel

/-- The draft that a command line comes from. -/
def draft (line : CommandLine) : Draft :=
  ⟨some line.bytecode, line.properties, line.interpreter, line.envFile, line.tickMs, line.debugLevel, line.logFile, line.logLevel⟩

namespace GivenOptionsAux

variable {words : List String} {word value : String} {o : Setting} {d d' : Draft} {s s' : Scan}
  {texts : Setting → Option String}

/-! ### Words -/

theorem ofName?_eq {name : List Char} (h : Setting.ofName? name = some o) : o.name.toList = name := by
  have hfound := List.find?_some h
  exact beq_iff_eq.1 hfound

theorem name_injective {o o' : Setting} (h : o.name = o'.name) : o = o' := by
  revert h
  cases o <;> cases o' <;> decide

theorem not_mem_name (o : Setting) : '=' ∉ o.name.toList := by cases o <;> decide

theorem toList_word (o : Setting) : o.word.toList = '-' :: '-' :: o.name.toList := by
  rw [Setting.word, String.toList_append]
  rfl

theorem toList_attached (o : Setting) (value : String) :
    (o.attached value).toList = '-' :: '-' :: (o.name.toList ++ '=' :: value.toList) := by
  rw [Setting.attached, String.toList_append, String.toList_append, toList_word]
  simp

theorem word_ne (o : Setting) : o.word ≠ "--" := by cases o <;> decide

theorem word_injective : Function.Injective Setting.word := by
  intro o o'
  cases o <;> cases o' <;> decide

theorem attached_ne (o : Setting) (value : String) : o.attached value ≠ "--" := by
  intro h
  have hlist := congrArg String.toList h
  rw [toList_attached] at hlist
  simp at hlist

theorem attached_ne_word (o o' : Setting) (value : String) : o.attached value ≠ o'.word := by
  intro h
  have hlist := congrArg String.toList h
  rw [toList_attached, toList_word, List.cons.injEq, List.cons.injEq] at hlist
  have hmem := not_mem_name o'
  rw [← hlist.2.2] at hmem
  exact hmem (List.mem_append_right _ List.mem_cons_self)

/-- At the first equals sign an option is cut off its value. -/
theorem cutAtEquals_append (o : Setting) (value : List Char) :
    Scan.cutAtEquals (o.name.toList ++ '=' :: value) = (o.name.toList, some (String.ofList value)) := by
  have hname : ∀ c ∈ o.name.toList, (c != '=') = true := fun c hc => bne_iff_ne.2 fun heq => not_mem_name o (heq ▸ hc)
  rw [Scan.cutAtEquals, List.takeWhile_append_of_pos hname, List.dropWhile_append_of_pos hname]
  simp

/-- The two parts into which a word is cut. -/
theorem eq_of_cutAtEquals {body name : List Char} {attached : Option String}
    (h : Scan.cutAtEquals body = (name, attached)) :
    attached = none ∧ body = name ∨ ∃ value, attached = some value ∧ body = name ++ '=' :: value.toList := by
  have hparts := List.takeWhile_append_dropWhile (p := (· != '=')) (l := body)
  obtain ⟨rfl, rfl⟩ := Prod.mk.inj h
  cases hrest : body.dropWhile (· != '=') with
  | nil =>
    rw [hrest, List.append_nil] at hparts
    exact .inl ⟨rfl, hparts.symm⟩
  | cons c rest =>
    have hstop := List.head?_dropWhile_not (· != '=') body
    rw [hrest] at hstop
    obtain rfl : c = '=' := by simpa using hstop
    refine .inr ⟨String.ofList rest, rfl, ?_⟩
    rw [hrest] at hparts
    rw [String.toList_ofList, hparts]

theorem attached_inj {o o' : Setting} {value value' : String} :
    o.attached value = o'.attached value' ↔ o = o' ∧ value = value' := by
  refine ⟨fun h => ?_, ?_⟩
  · have hlist := congrArg String.toList h
    rw [toList_attached, toList_attached, List.cons.injEq, List.cons.injEq] at hlist
    have hcut := congrArg Scan.cutAtEquals hlist.2.2
    rw [cutAtEquals_append, cutAtEquals_append, Prod.mk.injEq, Option.some.injEq, String.ofList_toList,
      String.ofList_toList, String.toList_inj] at hcut
    exact ⟨name_injective hcut.1, hcut.2⟩
  · rintro ⟨rfl, rfl⟩
    rfl

/-! ### What one more word gives -/

theorem gives_concat : Gives (words ++ [word]) o value ↔
    Gives words o value ∨ (∃ front, "--" ∉ front ∧ words = front ++ [o.word] ∧ word = value) ∨
      "--" ∉ words ∧ word = o.attached value := by
  constructor
  · rintro ⟨front, back, hfront, heq⟩
    rcases List.eq_nil_or_concat back with rfl | ⟨back, last, rfl⟩
    · rcases heq with heq | heq
      · have hsplit : words ++ [word] = (front ++ [o.word]) ++ [value] := by simpa using heq
        obtain ⟨hwords, hword⟩ := List.append_inj' hsplit rfl
        exact .inr (.inl ⟨front, hfront, hwords, List.singleton_inj.1 hword⟩)
      · obtain ⟨rfl, hword⟩ := List.append_inj' heq rfl
        exact .inr (.inr ⟨hfront, List.singleton_inj.1 hword⟩)
    · refine .inl ⟨front, back, hfront, heq.imp (fun h => ?_) fun h => ?_⟩
      · have hsplit : words ++ [word] = (front ++ o.word :: value :: back) ++ [last] := by simpa using h
        exact (List.append_inj' hsplit rfl).1
      · have hsplit : words ++ [word] = (front ++ o.attached value :: back) ++ [last] := by simpa using h
        exact (List.append_inj' hsplit rfl).1
  · rintro (⟨front, back, hfront, heq⟩ | ⟨front, hfront, rfl, rfl⟩ | ⟨hwords, rfl⟩)
    · refine ⟨front, back ++ [word], hfront, heq.imp (fun h => ?_) fun h => ?_⟩ <;> simp [h]
    · exact ⟨front, [], hfront, .inl (by simp)⟩
    · exact ⟨words, [], hwords, .inr rfl⟩

/-! ### Settling -/

theorem Holds.has_eq (h : d.Holds texts) (o : Setting) : d.has o = (texts o).isSome := by
  have hisSome : ∀ {n : Option Nat} {t : Option String} {read : String → Option Nat}, n.map some = t.map read →
      n.isSome = t.isSome := by
    intro n t read heq
    simpa using congrArg Option.isSome heq
  cases o with
  | tickMs => exact hisSome h.tickMs
  | debugLevel => exact hisSome h.debugLevel
  | properties => exact congrArg Option.isSome h.properties
  | interpreter => exact congrArg Option.isSome h.interpreter
  | envFile => exact congrArg Option.isSome h.envFile
  | logFile => exact congrArg Option.isSome h.logFile
  | logLevel => exact congrArg Option.isSome h.logLevel

theorem exists_of_map_eq_ok {α β ε : Type} {x : Except ε α} {f : α → β} {b : β} (h : x.map f = .ok b) :
    ∃ a, x = .ok a ∧ f a = b := by
  cases x with
  | error fault => cases h
  | ok a => exact ⟨a, rfl, Except.ok.inj h⟩

theorem exists_of_bind_eq_ok {α β ε : Type} {x : Except ε α} {f : α → Except ε β} {b : β} (h : x.bind f = .ok b) :
    ∃ a, x = .ok a ∧ f a = .ok b := by
  cases x with
  | error fault => cases h
  | ok a => exact ⟨a, rfl, h⟩

theorem of_fileName {what name : String} (h : fileName what value = .ok name) : name = value := by
  unfold fileName at h
  split at h
  · cases h
  · exact (Except.ok.inj h).symm

theorem of_numberOf {number : Option Nat} {n : Nat} (h : numberOf o value number = .ok n) : number = some n := by
  unfold numberOf at h
  split at h
  · exact congrArg some (Except.ok.inj h)
  · cases h

/-- An option is settled once, with the value given. -/
theorem holds_settle (h : d.Holds texts) (hsettle : d.settle o value = .ok d') :
    texts o = none ∧ d'.Holds (Function.update texts o (some value)) := by
  unfold Draft.settle at hsettle
  split at hsettle
  · cases hsettle
  rename_i hnew
  rw [Holds.has_eq h, Bool.not_eq_true, Option.isSome_eq_false_iff, Option.isNone_iff_eq_none] at hnew
  refine ⟨hnew, ?_⟩
  obtain ⟨hproperties, hinterpreter, henvFile, htickMs, hdebugLevel, hlogFile, hlogLevel⟩ := h
  cases o with
  | properties =>
    obtain ⟨v, hv, rfl⟩ := exists_of_map_eq_ok hsettle
    obtain rfl := of_fileName hv
    exact ⟨rfl, hinterpreter, henvFile, htickMs, hdebugLevel, hlogFile, hlogLevel⟩
  | interpreter =>
    obtain ⟨v, hv, rfl⟩ := exists_of_map_eq_ok hsettle
    obtain rfl := of_fileName hv
    exact ⟨hproperties, rfl, henvFile, htickMs, hdebugLevel, hlogFile, hlogLevel⟩
  | envFile =>
    obtain ⟨v, hv, rfl⟩ := exists_of_map_eq_ok hsettle
    obtain rfl := of_fileName hv
    exact ⟨hproperties, hinterpreter, rfl, htickMs, hdebugLevel, hlogFile, hlogLevel⟩
  | tickMs =>
    obtain ⟨n, hn, rfl⟩ := exists_of_map_eq_ok hsettle
    exact ⟨hproperties, hinterpreter, henvFile, congrArg some (of_numberOf hn).symm, hdebugLevel, hlogFile, hlogLevel⟩
  | debugLevel =>
    obtain ⟨n, hn, rfl⟩ := exists_of_map_eq_ok hsettle
    exact ⟨hproperties, hinterpreter, henvFile, htickMs, congrArg some (of_numberOf hn).symm, hlogFile, hlogLevel⟩
  | logFile =>
    obtain ⟨v, hv, rfl⟩ := exists_of_map_eq_ok hsettle
    obtain rfl := of_fileName hv
    exact ⟨hproperties, hinterpreter, henvFile, htickMs, hdebugLevel, rfl, hlogLevel⟩
  | logLevel =>
    obtain rfl := Except.ok.inj hsettle
    exact ⟨hproperties, hinterpreter, henvFile, htickMs, hdebugLevel, hlogFile, rfl⟩

/-- Where the scan of some words stands: what is settled, whether `--` has been read, which option waits for its value, and what
the words have given. -/
structure Reads (s : Scan) (words : List String) (texts : Setting → Option String) : Prop where
  holds : s.draft.Holds texts
  free : s.free = true ↔ "--" ∈ words
  waits : ∀ o, s.pending = .option o none ↔ ∃ front, "--" ∉ front ∧ words = front ++ [o.word]
  gives : ∀ o value, Gives words o value ↔ texts o = some value ∨ s.pending = .option o (some value)

/-- A scan that waits for a value behind the word `--`, where none can come. -/
def Stuck (s : Scan) : Prop := s.free = true ∧ ∃ o, s.pending = .option o none

/-- Settling what is pending leaves a draft that holds all that the words have given. -/
theorem Reads.settled (h : Reads s words texts) (hsettled : s.settled = .ok d) :
    ∃ texts', d.Holds texts' ∧ (∀ o value, Gives words o value ↔ texts' o = some value) ∧
      ∀ o, s.pending ≠ .option o none := by
  have hgives := h.gives
  unfold Scan.settled at hsettled
  split at hsettled
  · rename_i hpending
    obtain rfl := Except.ok.inj hsettled
    simp only [hpending, reduceCtorEq, or_false] at hgives
    exact ⟨texts, h.holds, hgives, fun o => by rw [hpending]; nofun⟩
  · cases hsettled
  · rename_i o value hpending
    obtain ⟨hnone, hholds⟩ := holds_settle h.holds hsettled
    refine ⟨_, hholds, fun o' value' => ?_, fun o' => by rw [hpending]; simp⟩
    rw [hgives, hpending, Function.update_apply]
    by_cases ho : o' = o
    · subst ho
      simp [hnone]
    · simp [ho, Ne.symm ho]
  · rename_i value hpending
    obtain ⟨v, -, rfl⟩ := exists_of_map_eq_ok hsettled
    simp only [hpending, reduceCtorEq, or_false] at hgives
    obtain ⟨hproperties, hinterpreter, henvFile, htickMs, hdebugLevel, hlogFile, hlogLevel⟩ := h.holds
    exact ⟨texts, ⟨hproperties, hinterpreter, henvFile, htickMs, hdebugLevel, hlogFile, hlogLevel⟩, hgives,
      fun o => by rw [hpending]; nofun⟩

/-! ### Taking in one more word -/

/-- What a word is that can be taken in, and what comes of it. -/
inductive Took (s : Scan) (word : String) : Scan → Prop
  | freed (hfree : s.free = false) (hword : word = "--") : Took s word { s with free := true }
  | option (o : Setting) (d : Draft) (hfree : s.free = false) (hword : word = o.word) (hsettled : s.settled = .ok d) :
      Took s word { s with draft := d, pending := .option o none }
  | attached (o : Setting) (value : String) (d d' : Draft) (hfree : s.free = false) (hword : word = o.attached value)
      (hsettled : s.settled = .ok d) (hsettle : d.settle o value = .ok d') :
      Took s word { s with draft := d', pending := .nothing }
  | value (o : Setting) (hfree : s.free = false) (hword : ∀ body, word.toList ≠ '-' :: '-' :: body)
      (hpending : s.pending = .option o none) : Took s word { s with pending := .option o (some word) }
  | bytecode (d : Draft) (hword : s.free = false → ∀ body, word.toList ≠ '-' :: '-' :: body) (hsettled : s.settled = .ok d) :
      Took s word { s with draft := d, pending := .bytecode word }

theorem took_of_takeFree (hword : s.free = false → ∀ body, word.toList ≠ '-' :: '-' :: body)
    (h : s.takeFree word = .ok s') : Took s word s' := by
  unfold Scan.takeFree at h
  split at h
  · rename_i o hfree hpending
    obtain rfl := Except.ok.inj h
    exact .value o hfree (hword hfree) hpending
  · split at h
    · cases h
    · obtain ⟨d, hd, rfl⟩ := exists_of_map_eq_ok h
      exact .bytecode d hword hd

theorem stopWith_ne (s : Scan) (refusal : Refusal) : s.stopWith refusal ≠ .ok s' := by
  unfold Scan.stopWith
  cases s.settled <;> exact nofun

theorem took_of_takeLong {body name : List Char} {attached : Option String} (hfree : s.free = false)
    (hword : word.toList = '-' :: '-' :: body) (hcut : Scan.cutAtEquals body = (name, attached))
    (h : s.takeLong word name attached = .ok s') : Took s word s' := by
  unfold Scan.takeLong at h
  cases hname : Setting.ofName? name with
  | some o =>
    rw [hname] at h
    rcases eq_of_cutAtEquals hcut with ⟨rfl, rfl⟩ | ⟨value, rfl, rfl⟩
    · obtain ⟨d, hd, rfl⟩ := exists_of_map_eq_ok h
      refine .option o d hfree (String.toList_inj.1 ?_) hd
      rw [hword, toList_word, ofName?_eq hname]
    · obtain ⟨d, hd, h⟩ := exists_of_bind_eq_ok h
      obtain ⟨d', hd', rfl⟩ := exists_of_map_eq_ok h
      refine .attached o value d d' hfree (String.toList_inj.1 ?_) hd hd'
      rw [hword, toList_attached, ofName?_eq hname]
  | none =>
    rw [hname] at h
    cases attached with
    | none =>
      simp only at h
      split at h
      · exact absurd h (stopWith_ne s _)
      · split at h
        · exact absurd h (stopWith_ne s _)
        · cases h
    | some value =>
      simp only at h
      split at h <;> cases h

theorem took_of_take (h : s.take word = .ok s') : Took s word s' := by
  unfold Scan.take at h
  split at h
  · rename_i hfree
    exact took_of_takeFree (fun hnot => absurd (hfree.symm.trans hnot) nofun) h
  · rename_i hfree
    rw [Bool.not_eq_true] at hfree
    split at h
    · rename_i hword
      obtain rfl := Except.ok.inj h
      exact .freed hfree (String.toList_inj.1 hword)
    · rename_i body hne hword
      exact took_of_takeLong hfree hword rfl h
    · exact absurd h (stopWith_ne s _)
    · exact absurd h (stopWith_ne s _)
    · cases h
    · rename_i hdashes _ _ _
      exact took_of_takeFree (fun _ => hdashes) h

theorem reads_start : Reads .start [] fun _ => none where
  holds := ⟨rfl, rfl, rfl, rfl, rfl, rfl, rfl⟩
  free := by simp [Scan.start]
  waits o := by simp [Scan.start]
  gives o value := by simp [Scan.start, Gives]

theorem waits_concat : (∃ front, "--" ∉ front ∧ words ++ [word] = front ++ [o.word]) ↔ "--" ∉ words ∧ word = o.word := by
  constructor
  · rintro ⟨front, hfront, heq⟩
    obtain ⟨rfl, hword⟩ := List.append_inj' heq rfl
    exact ⟨hfront, List.singleton_inj.1 hword⟩
  · rintro ⟨hwords, rfl⟩
    exact ⟨words, hwords, rfl⟩

theorem Reads.gives_concat (h : Reads s words texts) : Gives (words ++ [word]) o value ↔
    Gives words o value ∨ s.pending = .option o none ∧ word = value ∨ "--" ∉ words ∧ word = o.attached value := by
  rw [GivenOptionsAux.gives_concat, h.waits]
  refine or_congr_right (or_congr_left ⟨?_, ?_⟩)
  · rintro ⟨front, hfront, hwords, hword⟩
    exact ⟨⟨front, hfront, hwords⟩, hword⟩
  · rintro ⟨⟨front, hfront, hwords⟩, hword⟩
    exact ⟨front, hfront, hwords, hword⟩

theorem Reads.not_mem (h : Reads s words texts) : s.free = false ↔ "--" ∉ words := by
  rw [← h.free, Bool.not_eq_true]

/-- A word that does not begin with two dashes is neither `--` nor an option, with a value or without. -/
theorem ne_of_not_dashed (h : ∀ body, word.toList ≠ '-' :: '-' :: body) :
    word ≠ "--" ∧ (∀ o, word ≠ Setting.word o) ∧ ∀ o value, word ≠ Setting.attached o value := by
  refine ⟨?_, fun o => ?_, fun o value => ?_⟩ <;> rintro rfl
  · exact h [] rfl
  · exact h _ (toList_word o)
  · exact h _ (toList_attached o value)

/-- One more word: the scan is stuck behind it, or it stands where the words lead with that one among them. -/
theorem Reads.take (h : Reads s words texts) (htake : s.take word = .ok s') :
    Stuck s' ∨ ∃ texts', Reads s' (words ++ [word]) texts' := by
  cases took_of_take htake with
  | freed hfree hword =>
    by_cases hwaits : ∃ o, s.pending = .option o none
    · exact .inl ⟨rfl, hwaits⟩
    · rw [not_exists] at hwaits
      refine .inr ⟨texts, h.holds, by simp [hword], fun o => ?_, fun o value => ?_⟩
      · rw [waits_concat, hword]
        simp [hwaits, (word_ne o).symm]
      · rw [h.gives_concat, h.gives, hword]
        simp [hwaits, (attached_ne o value).symm]
  | option o d hfree hword hsettled =>
    obtain ⟨texts', hholds, hgives, hwaits⟩ := h.settled hsettled
    refine .inr ⟨texts', hholds, ?_, fun o' => ?_, fun o' value => ?_⟩
    · simp [h.free, hword, (word_ne o).symm]
    · rw [waits_concat, hword, ← h.not_mem]
      simp [hfree, ← (word_injective).eq_iff]
    · rw [h.gives_concat, hgives, hword]
      simp [hwaits, (attached_ne_word o' o value).symm]
  | attached o value d d' hfree hword hsettled hsettle =>
    obtain ⟨texts', hholds, hgives, hwaits⟩ := h.settled hsettled
    obtain ⟨hnone, hholds'⟩ := holds_settle hholds hsettle
    refine .inr ⟨_, hholds', ?_, fun o' => ?_, fun o' value' => ?_⟩
    · simp [h.free, hword, (attached_ne o value).symm]
    · rw [waits_concat, hword]
      simp [attached_ne_word]
    · rw [h.gives_concat, hgives, hword, ← h.not_mem, Function.update_apply, attached_inj]
      by_cases ho : o' = o
      · subst ho
        simp [hnone, hwaits, hfree]
      · simp [ho, Ne.symm ho, hwaits]
  | value o hfree hword hpending =>
    obtain ⟨hdashes, hoption, hattached⟩ := ne_of_not_dashed hword
    refine .inr ⟨texts, h.holds, ?_, fun o' => ?_, fun o' value => ?_⟩
    · simp [h.free, hdashes.symm]
    · rw [waits_concat]
      simp [hoption]
    · rw [h.gives_concat, h.gives, hpending]
      simp [hattached]
  | bytecode d hword hsettled =>
    obtain ⟨texts', hholds, hgives, hwaits⟩ := h.settled hsettled
    have hother : "--" ∉ words → word ≠ "--" ∧ (∀ o, word ≠ Setting.word o) ∧ ∀ o value, word ≠ Setting.attached o value :=
      fun hwords => ne_of_not_dashed (hword (h.not_mem.2 hwords))
    refine .inr ⟨texts', hholds, ?_, fun o => ?_, fun o value => ?_⟩
    · rw [List.mem_append, List.mem_singleton, h.free]
      exact ⟨.inl, fun hmem => hmem.elim id fun heq => by_contra fun hwords => (hother hwords).1 heq.symm⟩
    · rw [waits_concat]
      exact ⟨nofun, fun hword => absurd hword.2 ((hother hword.1).2.1 o)⟩
    · have hnot : ¬("--" ∉ words ∧ word = o.attached value) := fun hword => (hother hword.1).2.2 o value hword.2
      rw [h.gives_concat, hgives]
      simp [hwaits, hnot]

/-- From where it is stuck, a scan goes nowhere. -/
theorem Stuck.settled_ne (h : Stuck s) : s.settled ≠ .ok d := by
  obtain ⟨-, o, hpending⟩ := h
  rw [Scan.settled, hpending]
  exact nofun

theorem Stuck.take_ne (h : Stuck s) : s.take word ≠ .ok s' := by
  intro htake
  cases took_of_take htake with
  | bytecode d _ hsettled => exact h.settled_ne hsettled
  | freed hfree _ => exact absurd (h.1.symm.trans hfree) nofun
  | option o d hfree => exact absurd (h.1.symm.trans hfree) nofun
  | attached o value d d' hfree => exact absurd (h.1.symm.trans hfree) nofun
  | value o hfree => exact absurd (h.1.symm.trans hfree) nofun

theorem Reads.foldlM {rest : List String} (h : Reads s words texts) (hfold : rest.foldlM Scan.take s = .ok s') :
    Stuck s' ∨ ∃ texts', Reads s' (words ++ rest) texts' := by
  induction rest generalizing s words texts with
  | nil =>
    obtain rfl := Except.ok.inj hfold
    exact .inr ⟨texts, by rwa [List.append_nil]⟩
  | cons word rest ih =>
    obtain ⟨t, htake, hfold⟩ := exists_of_bind_eq_ok hfold
    rcases h.take htake with hstuck | ⟨texts', ht⟩
    · cases rest with
      | nil =>
        obtain rfl := Except.ok.inj hfold
        exact .inl hstuck
      | cons word' rest =>
        obtain ⟨t', htake', -⟩ := exists_of_bind_eq_ok hfold
        exact absurd htake' hstuck.take_ne
    · rw [List.append_cons]
      exact ih ht hfold

end GivenOptionsAux

open GivenOptionsAux

/-- A command line that is accepted holds, for each option, the value that its words give, and none where they give none. -/
theorem parse_holds {words : List String} {line : CommandLine} (h : parse words = .ok line) :
    ∃ texts, line.draft.Holds texts ∧ ∀ o value, Gives words o value ↔ texts o = some value := by
  obtain ⟨d, hd, hcomplete⟩ := exists_of_bind_eq_ok h
  obtain ⟨s, hs, hsettled⟩ := exists_of_bind_eq_ok hd
  have hline : line.draft = d := by
    unfold Draft.complete at hcomplete
    split at hcomplete
    · rename_i bytecode hbytecode
      obtain rfl := Except.ok.inj hcomplete
      rw [draft, ← hbytecode]
    · cases hcomplete
  rcases reads_start.foldlM hs with hstuck | ⟨texts, hreads⟩
  · exact absurd hsettled hstuck.settled_ne
  · obtain ⟨texts', hholds, hgives, -⟩ := hreads.settled hsettled
    exact ⟨texts', hline ▸ hholds, hgives⟩

end CommandLine

end TracePlayer
