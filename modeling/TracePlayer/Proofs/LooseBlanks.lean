import Mathlib.Data.List.Induction
import TracePlayer.Proofs.Fields

/-!
# Loose white space

Splitting a line leaves out its loose white space, that which stands outside every string and every bracket, and cuts the line
where it stood. What is loose is said here without regard to how a line is read: strings by a grammar, and brackets by counting
(`LooseBlank`). The main statement is `splitFields_normalizes`: whatever the text, with brackets that have no partner and strings
that are never closed, nothing else is lost, and fields with blanks between them are split into just them.
-/

namespace TracePlayer.Trace

variable {c : Char} {s bare inside before rest : List Char} {depth : Nat}

/-! ## Strings and brackets -/

/-- A text that a string may hold: each quote in it stands behind a backslash, and that one behind no other that escapes it. -/
inductive KeepsOpen : List Char → Prop
  | nil : KeepsOpen []
  | char {c : Char} {s : List Char} (hquote : c ≠ '"') (hescape : c ≠ '\\') (h : KeepsOpen s) : KeepsOpen (c :: s)
  | escape (c : Char) {s : List Char} (h : KeepsOpen s) : KeepsOpen ('\\' :: c :: s)

/-- A text of single characters and whole strings, and what is left of it without the strings. -/
inductive Strips : List Char → List Char → Prop
  | nil : Strips [] []
  | char {c : Char} {s bare : List Char} (hquote : c ≠ '"') (h : Strips s bare) : Strips (c :: s) (c :: bare)
  | string {inside s bare : List Char} (hinside : KeepsOpen inside) (h : Strips s bare) :
      Strips ('"' :: (inside ++ '"' :: s)) bare

/-- Whether a character opens a bracket. -/
def opensBracket (c : Char) : Bool := c == '[' || c == '\x7b'

/-- Whether a character closes a bracket. -/
def closesBracket (c : Char) : Bool := c == ']' || c == '\x7d'

/-- Behind a text no bracket is open: what of it stands behind any place opens no more brackets than it closes. A bracket that is
closed without having been opened counts for nothing. -/
def NoneOpen (s : List Char) : Prop := ∀ tail, tail <:+ s → tail.countP opensBracket ≤ tail.countP closesBracket

/-- The character behind a text is white space outside every string and every bracket. -/
def LooseBlank (before : List Char) (c : Char) : Prop :=
  Text.isBlank c = true ∧ ∃ bare, Strips before bare ∧ NoneOpen bare

/-! ## How they are read -/

namespace LooseBlanksAux

/-- The nesting behind a text that is read from some nesting on. -/
def reading (n : Nesting) (s : List Char) : Nesting := s.foldl Nesting.after n

/-- The number of open brackets after one more character that is in no string. -/
def levelAfter (depth : Nat) (c : Char) : Nat :=
  if opensBracket c then depth + 1 else if closesBracket c then depth - 1 else depth

theorem after_quoted (depth : Nat) (hquote : c ≠ '"') (hescape : c ≠ '\\') :
    (Nesting.quoted depth).after c = .quoted depth := by
  simp [Nesting.after, Nesting.quoted, hquote, hescape]

theorem after_level (depth : Nat) (hquote : c ≠ '"') : (Nesting.level depth).after c = .level (levelAfter depth c) := by
  simp only [Nesting.after, Nesting.level, hquote, levelAfter, opensBracket, closesBracket, Bool.or_eq_true, beq_iff_eq,
    Bool.false_eq_true, if_false]
  split
  · rfl
  · split <;> rfl

theorem reading_of_keepsOpen (h : KeepsOpen inside) (depth : Nat) (s : List Char) :
    reading (.quoted depth) (inside ++ s) = reading (.quoted depth) s := by
  induction h with
  | nil => rfl
  | char hquote hescape _ ih =>
    rw [List.cons_append, reading, List.foldl_cons, after_quoted depth hquote hescape]
    exact ih
  | escape c _ ih => exact ih

theorem reading_of_strips (h : Strips s bare) (depth : Nat) : reading (.level depth) s = .level (bare.foldl levelAfter depth) := by
  induction h generalizing depth with
  | nil => rfl
  | char hquote _ ih =>
    rw [reading, List.foldl_cons, after_level depth hquote, List.foldl_cons]
    exact ih _
  | @string inside s bare hinside _ ih =>
    have hopen : reading (.level depth) ('"' :: (inside ++ '"' :: s)) = reading (.quoted depth) (inside ++ '"' :: s) := rfl
    rw [hopen, reading_of_keepsOpen hinside]
    exact ih depth

/-- A text behind which the string is no longer open holds the quote that closes it. The backslash that may stand in front of the
text is told apart, since it escapes the first character whatever that is. -/
theorem exists_of_closed (depth : Nat) (s : List Char) :
    ((reading (.quoted depth) s).inString = false → ∃ inside rest, KeepsOpen inside ∧ s = inside ++ '"' :: rest) ∧
      ((reading ((Nesting.quoted depth).after '\\') s).inString = false →
        ∃ c inside rest, KeepsOpen inside ∧ s = c :: (inside ++ '"' :: rest)) := by
  induction s with
  | nil => exact ⟨nofun, nofun⟩
  | cons c s ih =>
    refine ⟨fun h => ?_, fun h => ?_⟩
    · by_cases hquote : c = '"'
      · exact ⟨[], s, .nil, by rw [hquote]; rfl⟩
      · by_cases hescape : c = '\\'
        · rw [hescape] at h
          obtain ⟨c', inside, rest, hinside, rfl⟩ := ih.2 h
          exact ⟨'\\' :: c' :: inside, rest, .escape c' hinside, by rw [hescape]; rfl⟩
        · rw [reading, List.foldl_cons, after_quoted depth hquote hescape] at h
          obtain ⟨inside, rest, hinside, rfl⟩ := ih.1 h
          exact ⟨c :: inside, rest, .char hquote hescape hinside, rfl⟩
    · obtain ⟨inside, rest, hinside, rfl⟩ := ih.1 h
      exact ⟨c, inside, rest, hinside, rfl⟩

/-- A text behind which no string is open is made of single characters and whole strings. -/
theorem exists_strips (h : (reading (.level depth) s).inString = false) : ∃ bare, Strips s bare := by
  induction hlength : s.length using Nat.strong_induction_on generalizing s depth with
  | _ length ih =>
    cases s with
    | nil => exact ⟨[], .nil⟩
    | cons c s =>
      rw [List.length_cons] at hlength
      by_cases hquote : c = '"'
      · rw [hquote] at h
        obtain ⟨inside, rest, hinside, rfl⟩ := (exists_of_closed depth s).1 h
        have hrest : (reading (.level depth) rest).inString = false := by
          have hclosed : (reading (.quoted depth) (inside ++ '"' :: rest)).inString = false := h
          rwa [reading_of_keepsOpen hinside] at hclosed
        rw [List.length_append, List.length_cons] at hlength
        obtain ⟨bare, hbare⟩ := ih _ (by omega) hrest rfl
        exact ⟨bare, hquote ▸ .string hinside hbare⟩
      · rw [reading, List.foldl_cons, after_level depth hquote] at h
        obtain ⟨bare, hbare⟩ := ih _ (by omega) h rfl
        exact ⟨c :: bare, .char hquote hbare⟩

/-- The number of open brackets is the largest number of brackets that an end of the text opens more than it closes. -/
theorem foldl_levelAfter_le_iff (s : List Char) (n : Nat) :
    s.foldl levelAfter 0 ≤ n ↔ ∀ tail, tail <:+ s → tail.countP opensBracket ≤ tail.countP closesBracket + n := by
  induction s using List.reverseRecOn generalizing n with
  | nil => simp
  | append_singleton s c ih =>
    have htails : (∀ tail, tail <:+ s ++ [c] → tail.countP opensBracket ≤ tail.countP closesBracket + n) ↔
        ∀ tail, tail <:+ s → (tail ++ [c]).countP opensBracket ≤ (tail ++ [c]).countP closesBracket + n := by
      constructor
      · exact fun h tail htail => h _ (List.suffix_concat_iff.2 (.inr ⟨tail, rfl, htail⟩))
      · intro h tail htail
        rcases List.suffix_concat_iff.1 htail with rfl | ⟨front, rfl, hfront⟩
        · simp
        · exact h front hfront
    rw [htails, List.foldl_append, List.foldl_cons, List.foldl_nil, levelAfter]
    simp only [List.countP_append, List.countP_singleton]
    cases hopens : opensBracket c with
    | true =>
      have hcloses : closesBracket c = false := by
        rw [opensBracket, Bool.or_eq_true, beq_iff_eq, beq_iff_eq] at hopens
        rcases hopens with rfl | rfl <;> rfl
      simp only [hcloses, if_true, Bool.false_eq_true, if_false, Nat.add_zero]
      cases n with
      | zero =>
        refine iff_of_false (Nat.not_succ_le_zero _) fun h => ?_
        have hempty := h [] List.nil_suffix
        simp at hempty
      | succ n => simp only [← Nat.add_assoc, Nat.add_le_add_iff_right, ih n]
    | false =>
      cases closesBracket c with
      | true =>
        simp only [Bool.false_eq_true, if_false, if_true, Nat.add_zero, Nat.sub_le_iff_le_add, ih (n + 1), Nat.add_assoc,
          Nat.add_comm 1 n]
      | false => simp only [Bool.false_eq_true, if_false, Nat.add_zero, ih n]

theorem noneOpen_iff : NoneOpen bare ↔ bare.foldl levelAfter 0 = 0 := by
  rw [← Nat.le_zero, foldl_levelAfter_le_iff]
  rfl

theorem looseBlank_iff : LooseBlank before c ↔ ((reading .outside before).isOutside && Text.isBlank c) = true := by
  have houtside : (∃ bare, Strips before bare ∧ NoneOpen bare) ↔ (reading .outside before).isOutside = true := by
    constructor
    · rintro ⟨bare, hbare, hnone⟩
      have hreading : reading .outside before = .level (bare.foldl levelAfter 0) := reading_of_strips hbare 0
      rw [hreading, noneOpen_iff.1 hnone]
      rfl
    · intro h
      rw [Nesting.isOutside, Bool.and_eq_true, Bool.not_eq_true', beq_iff_eq] at h
      have hclosed : (reading (.level 0) before).inString = false := h.1
      obtain ⟨bare, hbare⟩ := exists_strips hclosed
      have hreading : reading .outside before = .level (bare.foldl levelAfter 0) := reading_of_strips hbare 0
      rw [hreading] at h
      exact ⟨bare, hbare, noneOpen_iff.2 h.2⟩
  rw [LooseBlank, houtside, Bool.and_eq_true, and_comm]

end LooseBlanksAux

open LooseBlanksAux

instance (before : List Char) (c : Char) : Decidable (LooseBlank before c) := decidable_of_iff _ looseBlank_iff.symm

/-- A text without its loose white space, given what stands before it. -/
def withoutLoose (before : List Char) : List Char → List Char
  | [] => []
  | c :: rest =>
    if LooseBlank before c then withoutLoose (before ++ [c]) rest else c :: withoutLoose (before ++ [c]) rest

/-- A text that begins with another character than white space. -/
def BeginsSolid (s : List Char) : Prop := ∃ c rest, s = c :: rest ∧ Text.isBlank c = false

/-- Fields that splitting comes out of as it went in, outside every string and bracket. Behind the last it may be anywhere. -/
def Fit : List (List Char) → Prop
  | [] => True
  | [field] => BeginsSolid field ∧ ∃ n, Carries .outside field n
  | field :: rest => BeginsSolid field ∧ Carries .outside field .outside ∧ Fit rest

namespace LooseBlanksAux

/-- Where the splitting stands: what has been read of a field, last character first, and the nesting that this leads to. -/
structure Reads (n : Nesting) (field : List Char) : Prop where
  carries : Carries .outside field.reverse n
  escaped : n.escaped = true → n.inString = true
  begun : field = [] ∧ n = .outside ∨ BeginsSolid field.reverse

variable {n : Nesting} {field : List Char}

theorem reads_nil : Reads .outside [] := ⟨Carries.nil _, nofun, .inl ⟨rfl, rfl⟩⟩

theorem Reads.eq_outside (h : Reads n field) (houtside : n.isOutside = true) : n = .outside := by
  obtain ⟨depth, inString, escaped⟩ := n
  simp only [Nesting.isOutside, Bool.and_eq_true, Bool.not_eq_true', beq_iff_eq] at houtside
  obtain ⟨rfl, rfl⟩ := houtside
  cases escaped with
  | false => rfl
  | true => exact absurd (h.escaped rfl) Bool.false_ne_true

/-- Reading goes on with a character that does not end the field. -/
theorem Reads.cons (h : Reads n field) (hc : (n.isOutside && Text.isBlank c) = false) : Reads (n.after c) (c :: field) := by
  refine ⟨?_, fun hescaped => ?_, .inr ?_⟩
  · rw [List.reverse_cons]
    exact h.carries.append (carries_char hc)
  · unfold Nesting.after at hescaped ⊢
    grind [h.escaped]
  · rw [List.reverse_cons]
    rcases h.begun with ⟨rfl, rfl⟩ | ⟨first, rest, hfield, hfirst⟩
    · exact ⟨c, [], rfl, hc⟩
    · exact ⟨first, rest ++ [c], by rw [hfield]; rfl, hfirst⟩

theorem Reads.beginsSolid (h : Reads n field) (hne : field ≠ []) : BeginsSolid field.reverse :=
  h.begun.resolve_left fun hempty => hne hempty.1

theorem fit_cons {fields : List (List Char)} (hbegins : BeginsSolid s) (hcarries : Carries .outside s .outside)
    (h : Fit fields) : Fit (s :: fields) := by
  cases fields with
  | nil => exact ⟨hbegins, .outside, hcarries⟩
  | cons s' rest => exact ⟨hbegins, hcarries, h⟩

theorem fit_fieldsFrom (h : Reads n field) (s : List Char) : Fit (fieldsFrom n field s) := by
  induction s generalizing n field with
  | nil =>
    cases field with
    | nil => exact trivial
    | cons c field => exact ⟨h.beginsSolid (List.cons_ne_nil c field), n, h.carries⟩
  | cons c s ih =>
    rw [fieldsFrom]
    by_cases hends : (n.isOutside && Text.isBlank c) = true
    · obtain rfl := h.eq_outside (Bool.and_eq_true_iff.1 hends).1
      rw [if_pos hends]
      cases field with
      | nil => exact ih reads_nil
      | cons d field => exact fit_cons (h.beginsSolid (List.cons_ne_nil d field)) h.carries (ih reads_nil)
    · rw [if_neg hends]
      exact ih (h.cons (Bool.not_eq_true _ ▸ hends))

theorem beginsSolid_of_fit {fields : List (List Char)} (h : Fit fields) : ∀ field ∈ fields, BeginsSolid field := by
  induction fields with
  | nil => exact List.forall_mem_nil _
  | cons s rest ih =>
    cases rest with
    | nil => exact List.forall_mem_singleton.2 h.1
    | cons s' rest => exact List.forall_mem_cons.2 ⟨h.1, ih h.2.2⟩

theorem ne_nil_of_beginsSolid (h : BeginsSolid s) : s ≠ [] := by
  obtain ⟨c, rest, rfl, -⟩ := h
  exact List.cons_ne_nil c rest

/-- Such fields with blanks between them are split into just them. -/
theorem splitFields_join_of_fit {fields : List (List Char)} (h : Fit fields) : splitFields (Text.join ' ' fields) = fields := by
  induction fields with
  | nil => rfl
  | cons s rest ih =>
    cases rest with
    | nil =>
      obtain ⟨hbegins, n, hcarries⟩ := h
      have hread := hcarries [] []
      have hempty : s.reverse.isEmpty = false := by simpa using ne_nil_of_beginsSolid hbegins
      rw [List.append_nil, List.append_nil, fieldsFrom, hempty, if_neg Bool.false_ne_true, List.reverse_reverse] at hread
      exact hread
    | cons s' rest =>
      obtain ⟨hbegins, hcarries, hrest⟩ := h
      have hblank : ∀ c ∈ [' '], Text.isBlank c = true := List.forall_mem_singleton.2 (by decide)
      have hsplit := hcarries.fieldsFrom_blanks (ne_nil_of_beginsSolid hbegins) (List.cons_ne_nil _ _) hblank
        (Text.join ' ' (s' :: rest))
      exact hsplit.trans (congrArg (s :: ·) (ih hrest))

/-- White space that ends a field leaves the nesting as it is. -/
theorem after_of_loose (h : (n.isOutside && Text.isBlank c) = true) : n.after c = n := by
  rw [Bool.and_eq_true, Nesting.isOutside, Bool.and_eq_true, Bool.not_eq_true'] at h
  have hother : ∀ d, Text.isBlank d = false → c ≠ d := fun d hd heq => Bool.false_ne_true (hd.symm.trans (heq ▸ h.2))
  simp [Nesting.after, h.1.1, hother '"' rfl, hother '[' rfl, hother ']' rfl, hother '\x7b' rfl, hother '\x7d' rfl]

theorem reading_concat (before : List Char) (c : Char) :
    reading .outside (before ++ [c]) = (reading .outside before).after c := by
  rw [reading, List.foldl_append]
  rfl

/-- Reading the rest of a text, no more is lost than what is loose in it. -/
theorem flatten_fieldsFrom (before field s : List Char) :
    (fieldsFrom (reading .outside before) field s).flatten = field.reverse ++ withoutLoose before s := by
  induction s generalizing before field with
  | nil => cases field <;> simp [fieldsFrom, withoutLoose]
  | cons c s ih =>
    rw [fieldsFrom, withoutLoose]
    by_cases hends : ((reading .outside before).isOutside && Text.isBlank c) = true
    · rw [if_pos hends, if_pos (looseBlank_iff.2 hends)]
      have hnext := ih (before ++ [c]) []
      rw [reading_concat, after_of_loose hends] at hnext
      cases field with
      | nil => exact hnext
      | cons d field =>
        rw [List.isEmpty_cons, if_neg Bool.false_ne_true, List.flatten_cons, hnext]
        rfl
    · rw [if_neg hends, if_neg fun h => hends (looseBlank_iff.1 h), ← reading_concat, ih, List.reverse_cons, List.append_assoc]
      rfl

end LooseBlanksAux

/-- Splitting loses nothing but loose white space, in three parts, for every text, whatever brackets and quotes it holds that have no
partner.
1. Every field begins with another character than white space.
2. The fields together are the text without its loose white space: that which stands outside every string and every bracket, where
   a bracket that is closed without having been opened counts for nothing.
3. The fields with blanks between them are split into the same fields. -/
theorem splitFields_normalizes (s : List Char) :
    (∀ field ∈ splitFields s, BeginsSolid field) ∧
      (splitFields s).flatten = withoutLoose [] s ∧
      splitFields (Text.join ' ' (splitFields s)) = splitFields s := by
  have hfit : Fit (splitFields s) := fit_fieldsFrom reads_nil s
  exact ⟨beginsSolid_of_fit hfit, flatten_fieldsFrom [] [] s, splitFields_join_of_fit hfit⟩

/-- A bracket without partner in front, an escaped quote in a string, and at the end a bracket that is never closed. -/
example : withoutLoose [] "] a \"[ \\\" ]\" b [ c".toList = "]a\"[ \\\" ]\"b[ c".toList := by decide +kernel

end TracePlayer.Trace
