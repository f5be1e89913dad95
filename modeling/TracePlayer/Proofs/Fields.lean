import TracePlayer.Proofs.PrintedJson
import TracePlayer.Proofs.Words
import TracePlayer.Trace.Field

/-!
# Fields written with blanks between them

A line that is written as fields with a blank between each two is cut into those fields again, whether it is cut at its first
blank, into words, or into fields along the white space outside strings and brackets. For the last of these a field has to
keep its white space inside (`Passes`): the nesting at its end is the nesting at its beginning, and nothing between ends the
field. Plain text does so, and so does the compact text of a JSON value. Neither holds a line feed.
-/

namespace TracePlayer.Text

variable {mark : Char} {s front back : List Char} {fields : List (List Char)}

/-- The pieces with a mark between each two of them. -/
def join (mark : Char) : List (List Char) → List Char
  | [] => []
  | [s] => s
  | s :: rest => s ++ mark :: join mark rest

theorem join_cons_cons (mark : Char) (s s' : List Char) (rest : List (List Char)) :
    join mark (s :: s' :: rest) = s ++ mark :: join mark (s' :: rest) := rfl

/-- What the pieces do not hold stands in the joined text only as the mark. -/
theorem not_mem_join {c : Char} (hmark : c ≠ mark) (h : ∀ s ∈ fields, c ∉ s) : c ∉ join mark fields := by
  induction fields with
  | nil => exact List.not_mem_nil
  | cons s rest ih =>
    obtain ⟨hs, hrest⟩ := List.forall_mem_cons.1 h
    cases rest with
    | nil => exact hs
    | cons s' rest =>
      rw [join_cons_cons, List.mem_append, List.mem_cons]
      rintro (hc | hc | hc)
      · exact hs hc
      · exact hmark hc
      · exact ih hrest hc

/-- Lines that hold no line feed are the pieces of the text they are joined to. -/
theorem pieces_join (hne : fields ≠ []) (h : ∀ s ∈ fields, '\n' ∉ s) : pieces (join '\n' fields) = fields := by
  induction fields with
  | nil => exact absurd rfl hne
  | cons s rest ih =>
    obtain ⟨hs, hrest⟩ := List.forall_mem_cons.1 h
    cases rest with
    | nil => exact pieces_of_not_mem hs
    | cons s' rest =>
      rw [join_cons_cons, pieces_append, pieces_of_not_mem hs, ih (List.cons_ne_nil s' rest) hrest]
      rfl

/-! ## Solid texts -/

/-- A text that begins and ends with other characters than white space. -/
def IsSolid (s : List Char) : Prop :=
  (∃ c, s.head? = some c ∧ isBlank c = false) ∧ ∃ c, s.getLast? = some c ∧ isBlank c = false

theorem IsSolid.trim_eq (h : IsSolid s) : trim s = s := by
  obtain ⟨⟨first, hfirst, hf⟩, last, hlast, hl⟩ := h
  exact trim_of_ends hfirst hlast hf hl

theorem IsSolid.ne_nil (h : IsSolid s) : s ≠ [] := by
  rintro rfl
  obtain ⟨⟨first, hfirst, -⟩, -⟩ := h
  cases hfirst

/-- What stands between two solid texts is of no matter. -/
theorem IsSolid.append (hfront : IsSolid front) (hback : IsSolid back) (s : List Char) : IsSolid (front ++ s ++ back) := by
  obtain ⟨⟨first, hfirst, hf⟩, -⟩ := hfront
  obtain ⟨-, last, hlast, hl⟩ := hback
  refine ⟨⟨first, ?_, hf⟩, last, ?_, hl⟩
  · simp [hfirst]
  · simp [hlast]

theorem isSolid_between {opening closing : Char} (hopening : isBlank opening = false) (hclosing : isBlank closing = false)
    (s : List Char) : IsSolid (opening :: (s ++ [closing])) :=
  ⟨⟨opening, rfl, hopening⟩, closing, by simp [List.getLast?_cons], hclosing⟩

/-- A text without white space is solid, unless it is empty. -/
theorem isSolid_of_forall (hne : s ≠ []) (h : ∀ c ∈ s, isBlank c = false) : IsSolid s := by
  refine ⟨⟨s.head hne, List.head?_eq_some_head hne, h _ (List.head_mem hne)⟩, s.getLast hne, ?_, h _ (List.getLast_mem hne)⟩
  exact List.getLast?_eq_some_getLast hne

theorem isSolid_join (hne : fields ≠ []) (h : ∀ s ∈ fields, IsSolid s) : IsSolid (join ' ' fields) := by
  induction fields with
  | nil => exact absurd rfl hne
  | cons s rest ih =>
    obtain ⟨hs, hrest⟩ := List.forall_mem_cons.1 h
    cases rest with
    | nil => exact hs
    | cons s' rest =>
      rw [join_cons_cons, ← List.singleton_append, ← List.append_assoc]
      exact hs.append (ih (List.cons_ne_nil s' rest) hrest) [' ']

/-- There is nothing to trim at solid fields with blanks between them. -/
theorem trim_join (h : ∀ s ∈ fields, IsSolid s) : trim (join ' ' fields) = join ' ' fields := by
  cases fields with
  | nil => rfl
  | cons s rest => exact (isSolid_join (List.cons_ne_nil s rest) h).trim_eq

/-! ## Cuts -/

/-- The first field, when it holds no white space, is cut off the others. -/
theorem cutAtBlank_join (hs : ∀ c ∈ s, isBlank c = false) (rest : List (List Char)) :
    cutAtBlank (join ' ' (s :: rest)) = (s, join ' ' rest) := by
  have htake : ∀ c ∈ s, (!isBlank c) = true := fun c hc => by rw [hs c hc]; rfl
  have hblank : isBlank ' ' = true := by decide
  cases rest with
  | nil => simp [join, cutAtBlank, List.takeWhile_eq_self_iff.2 htake, List.dropWhile_eq_nil_iff.2 htake]
  | cons s' rest =>
    rw [join_cons_cons, cutAtBlank, List.takeWhile_append_of_pos htake, List.dropWhile_append_of_pos htake]
    simp [hblank]

/-- Words with blanks between them. -/
theorem words_join (h : ∀ s ∈ fields, s ≠ [] ∧ ∀ c ∈ s, isBlank c = false) : words (join ' ' fields) = fields := by
  induction fields with
  | nil => rfl
  | cons s rest ih =>
    obtain ⟨⟨hne, hs⟩, hrest⟩ := List.forall_mem_cons.1 h
    have hcut := cutAtBlank_join hs rest
    obtain ⟨c, tail, rfl⟩ := List.exists_cons_of_ne_nil hne
    have hhead : ∃ tail', join ' ' ((c :: tail) :: rest) = c :: tail' := by
      cases rest <;> exact ⟨_, rfl⟩
    obtain ⟨tail', htail⟩ := hhead
    rw [htail] at hcut ⊢
    rw [words_cutAtBlank (hs c List.mem_cons_self), hcut, ih hrest]

end TracePlayer.Text

namespace TracePlayer.Trace

variable {n n' n'' : Nesting} {s s' : List Char}

/-- Outside every string, with so many brackets open. -/
def Nesting.level (depth : Nat) : Nesting := ⟨depth, false, false⟩

/-- Inside a string, with so many brackets open. -/
def Nesting.quoted (depth : Nat) : Nesting := ⟨depth, true, false⟩

/-- Reading a text leads from one nesting to another, and no field ends on the way. -/
def Carries (n : Nesting) (s : List Char) (n' : Nesting) : Prop :=
  ∀ field rest, fieldsFrom n field (s ++ rest) = fieldsFrom n' (s.reverse ++ field) rest

theorem Carries.nil (n : Nesting) : Carries n [] n := fun _ _ => rfl

theorem Carries.append (h : Carries n s n') (h' : Carries n' s' n'') : Carries n (s ++ s') n'' := by
  intro field rest
  rw [List.append_assoc, h, h', List.reverse_append, List.append_assoc]

/-- A character that does not end the field is carried. -/
theorem carries_char {c : Char} (h : (n.isOutside && Text.isBlank c) = false) : Carries n [c] (n.after c) := by
  intro field rest
  rw [List.singleton_append, fieldsFrom, h]
  rfl

theorem Carries.cons {c : Char} (hc : (n.isOutside && Text.isBlank c) = false) (h : Carries (n.after c) s n') :
    Carries n (c :: s) n' :=
  (carries_char hc).append h

/-- A text that may stand in a field: at any depth it keeps the nesting and ends no field, and it ends no line. -/
def Passes (s : List Char) : Prop := (∀ depth, Carries (.level depth) s (.level depth)) ∧ '\n' ∉ s

theorem passes_nil : Passes [] := ⟨fun _ => Carries.nil _, List.not_mem_nil⟩

theorem Passes.append (h : Passes s) (h' : Passes s') : Passes (s ++ s') := by
  refine ⟨fun depth => (h.1 depth).append (h'.1 depth), ?_⟩
  rw [List.mem_append, not_or]
  exact ⟨h.2, h'.2⟩

/-- Whether a character is neither white space nor a quote nor a bracket. -/
def isPlainChar (c : Char) : Bool :=
  !(Text.isBlank c || c == '"' || c == '[' || c == ']' || c == '\x7b' || c == '\x7d')

theorem isBlank_of_isPlainChar {c : Char} (h : isPlainChar c = true) : Text.isBlank c = false := by
  simp only [isPlainChar, Bool.not_eq_true', Bool.or_eq_false_iff] at h
  exact h.1.1.1.1.1

theorem passes_char {c : Char} (h : isPlainChar c = true) : Passes [c] := by
  have hblank := isBlank_of_isPlainChar h
  refine ⟨fun depth => ?_, ?_⟩
  · have hafter : (Nesting.level depth).after c = .level depth := by
      simp only [isPlainChar, Bool.not_eq_true', Bool.or_eq_false_iff, beq_eq_false_iff_ne] at h
      simp [Nesting.after, Nesting.level, h]
    have hcarries := carries_char (n := .level depth) (c := c) (by rw [hblank, Bool.and_false])
    rwa [hafter] at hcarries
  · rw [List.mem_singleton]
    rintro rfl
    exact absurd hblank (by decide)

theorem passes_of_all (h : s.all isPlainChar = true) : Passes s := by
  induction s with
  | nil => exact passes_nil
  | cons c s ih =>
    rw [List.all_cons, Bool.and_eq_true] at h
    exact (passes_char h.1).append (ih h.2)

/-! ## JSON values -/

theorem hexDigit_ne : ∀ d < 16, Json.hexDigit d ≠ '\\' ∧ Json.hexDigit d ≠ '"' ∧ Json.hexDigit d ≠ '\n' := by decide

theorem carries_quoted {c : Char} (depth : Nat) (hescape : c ≠ '\\') (hquote : c ≠ '"') :
    Carries (.quoted depth) [c] (.quoted depth) := by
  have hafter : (Nesting.quoted depth).after c = .quoted depth := by
    simp [Nesting.after, Nesting.quoted, hescape, hquote]
  have hcarries := carries_char (n := .quoted depth) (c := c) rfl
  rwa [hafter] at hcarries

/-- Whatever stands behind a backslash does not close the string. -/
theorem carries_escape (depth : Nat) (c : Char) : Carries (.quoted depth) ['\\', c] (.quoted depth) :=
  Carries.cons rfl (carries_char rfl)

/-- No character closes the string from inside, the way it is written there. -/
theorem carries_escaped (depth : Nat) (c : Char) : Carries (.quoted depth) (Json.escaped c) (.quoted depth) := by
  rcases Json.escaped_cases c with ⟨d, -, -, h⟩ | ⟨hc, h⟩ | ⟨⟨hescape, hquote, -, -⟩, h⟩ <;> rw [h]
  · exact carries_escape depth d
  · obtain ⟨hhigh, hhigh', -⟩ := hexDigit_ne (c.toNat / 16) (by omega)
    obtain ⟨hlow, hlow', -⟩ := hexDigit_ne (c.toNat % 16) (by omega)
    have hzero : Carries (.quoted depth) ['0'] (.quoted depth) := carries_quoted depth (by decide) (by decide)
    exact (carries_escape depth 'u').append <| hzero.append <| hzero.append <|
      (carries_quoted depth hhigh hhigh').append (carries_quoted depth hlow hlow')
  · exact carries_quoted depth hescape hquote

theorem not_mem_escaped (c : Char) : '\n' ∉ Json.escaped c := by
  rcases Json.escaped_cases c with ⟨d, ⟨-, hd⟩, -, h⟩ | ⟨hc, h⟩ | ⟨⟨-, -, hfeed, -⟩, h⟩ <;> rw [h]
  · simp [Ne.symm hd]
  · have hhigh := (hexDigit_ne (c.toNat / 16) (by omega)).2.2
    have hlow := (hexDigit_ne (c.toNat % 16) (by omega)).2.2
    simp [Ne.symm hhigh, Ne.symm hlow]
  · simp [Ne.symm hfeed]

/-- Quotes around a text that closes no string keep what it holds. -/
theorem carries_quotes {depth : Nat} (h : Carries (.quoted depth) s (.quoted depth)) :
    Carries (.level depth) ('"' :: (s ++ ['"'])) (.level depth) := by
  have hquote : ((Nesting.level depth).isOutside && Text.isBlank '"') = false := by cases depth <;> rfl
  exact Carries.cons hquote (h.append (carries_char rfl))

/-- A string stands in a field with all that it holds. -/
theorem passes_quoted (s : String) : Passes (Json.quoted s) := by
  have hinner : ∀ depth (cs : List Char), Carries (.quoted depth) (cs.flatMap Json.escaped) (.quoted depth) := by
    intro depth cs
    induction cs with
    | nil => exact Carries.nil _
    | cons c cs ih => exact (carries_escaped depth c).append ih
  refine ⟨fun depth => carries_quotes (hinner depth s.toList), ?_⟩
  simp [Json.quoted, not_mem_escaped]

theorem passes_listed {α : Type} {write : α → List Char} {items : List α} (h : ∀ v ∈ items, Passes (write v)) (first : Bool) :
    Passes (Json.listed write first items) := by
  have hcomma : Passes [','] := passes_char (by decide)
  induction items generalizing first with
  | nil => exact passes_nil
  | cons v items ih =>
    obtain ⟨hv, hitems⟩ := List.forall_mem_cons.1 h
    cases first with
    | true => exact hv.append (ih hitems false)
    | false => exact hcomma.append (hv.append (ih hitems false))

/-- Brackets around a text keep what white space it holds. -/
theorem carries_brackets {opening closing : Char} {depth : Nat} (hopening : opening = '[' ∨ opening = '\x7b')
    (hclosing : closing = ']' ∨ closing = '\x7d') (h : Carries (.level (depth + 1)) s (.level (depth + 1))) :
    Carries (.level depth) (opening :: (s ++ [closing])) (.level depth) := by
  have hopen : Carries (.level depth) [opening] (.level (depth + 1)) := by
    rcases hopening with rfl | rfl <;> exact carries_char (by cases depth <;> rfl)
  have hclose : Carries (.level (depth + 1)) [closing] (.level depth) := by
    rcases hclosing with rfl | rfl <;> exact carries_char rfl
  exact hopen.append (h.append hclose)

theorem passes_brackets {opening closing : Char} (hopening : opening = '[' ∨ opening = '\x7b')
    (hclosing : closing = ']' ∨ closing = '\x7d') (h : Passes s) : Passes (opening :: (s ++ [closing])) := by
  refine ⟨fun depth => carries_brackets hopening hclosing (h.1 (depth + 1)), ?_⟩
  have hfeed : '\n' ≠ opening ∧ '\n' ≠ closing := by
    rcases hopening with rfl | rfl <;> rcases hclosing with rfl | rfl <;> decide
  simp [hfeed, h.2]

theorem isPlainChar_of_isDigit {c : Char} (h : c.isDigit = true) : isPlainChar c = true := by
  have hother : ∀ d : Char, d.isDigit = false → (c == d) = false := by
    rintro d hd
    rw [beq_eq_false_iff_ne]
    rintro rfl
    exact Bool.false_ne_true (hd.symm.trans h)
  have hblank : Text.isBlank c = false := by
    simp only [Char.isDigit, Bool.and_eq_true, decide_eq_true_eq] at h
    have hlow : 48 ≤ c.toNat := h.1
    have hhigh : c.toNat ≤ 57 := h.2
    simp [Text.isBlank]
    omega
  rw [isPlainChar, hblank, hother _ (by decide), hother _ (by decide), hother _ (by decide), hother _ (by decide),
    hother _ (by decide)]
  rfl

/-- The characters of an integer are plain. -/
theorem all_isPlainChar_toString (k : Int) : (toString k).toList.all isPlainChar = true := by
  rw [List.all_eq_true]
  intro c hc
  rcases Json.of_mem_toString hc with rfl | hc
  · decide
  · exact isPlainChar_of_isDigit hc

/-- The compact text of a value stands in a field as it is. -/
theorem passes_chars {depth : Nat} {v : Json} (h : Json.Exact depth v) : Passes (Json.chars v) := by
  induction h with
  | null => exact passes_of_all (by decide)
  | bool b => cases b <;> exact passes_of_all (by decide)
  | integer => exact passes_of_all (all_isPlainChar_toString _)
  | text s => exact passes_quoted s
  | list each ih =>
    rw [Json.chars, Json.itemChars_eq]
    exact passes_brackets (.inl rfl) (.inl rfl) (passes_listed ih true)
  | object keys each ih =>
    rw [Json.chars, Json.entryChars_eq]
    refine passes_brackets (.inr rfl) (.inr rfl) (passes_listed (fun e he => ?_) true)
    exact (passes_quoted e.1).append ((passes_char (c := ':') (by decide)).append (ih e he))

/-! ## The fields of a line -/

/-- A text that is a field of a line as it stands. -/
structure IsField (s : List Char) : Prop where
  passes : Passes s
  solid : Text.IsSolid s

/-- Plain text is a field, unless it is empty. -/
theorem isField_of_all (hne : s ≠ []) (h : s.all isPlainChar = true) : IsField s :=
  ⟨passes_of_all h, Text.isSolid_of_forall hne fun c hc => isBlank_of_isPlainChar (List.all_eq_true.1 h c hc)⟩

/-- The compact text of a value is a field. -/
theorem isField_chars {depth : Nat} {v : Json} (h : Json.Exact depth v) : IsField (Json.chars v) := by
  refine ⟨passes_chars h, ?_⟩
  cases h with
  | null => exact (isField_of_all (by decide) (by decide)).solid
  | bool b => cases b <;> exact (isField_of_all (by decide) (by decide)).solid
  | integer => exact (isField_of_all (Json.toString_ne_nil _) (all_isPlainChar_toString _)).solid
  | text s => exact Text.isSolid_between (by decide) (by decide) _
  | list => exact Text.isSolid_between (by decide) (by decide) _
  | object => exact Text.isSolid_between (by decide) (by decide) _

/-- White space in front of a field is passed over. -/
theorem fieldsFrom_blanks {gap : List Char} (hgap : ∀ c ∈ gap, Text.isBlank c = true) (rest : List Char) :
    fieldsFrom (.level 0) [] (gap ++ rest) = fieldsFrom (.level 0) [] rest := by
  induction gap with
  | nil => rfl
  | cons c gap ih =>
    obtain ⟨hc, hgap⟩ := List.forall_mem_cons.1 hgap
    have hends : ((Nesting.level 0).isOutside && Text.isBlank c) = true := hc
    rw [List.cons_append, fieldsFrom, if_pos hends, List.isEmpty_nil, if_pos rfl, ih hgap]

/-- White space behind a text that keeps the nesting makes a field of it. -/
theorem Carries.fieldsFrom_blanks {gap : List Char} (h : Carries (.level 0) s (.level 0)) (hne : s ≠ []) (hgap : gap ≠ [])
    (hblank : ∀ c ∈ gap, Text.isBlank c = true) (rest : List Char) :
    fieldsFrom (.level 0) [] (s ++ (gap ++ rest)) = s :: fieldsFrom (.level 0) [] rest := by
  obtain ⟨c, gap, rfl⟩ := List.exists_cons_of_ne_nil hgap
  obtain ⟨hc, hblank⟩ := List.forall_mem_cons.1 hblank
  have hends : ((Nesting.level 0).isOutside && Text.isBlank c) = true := hc
  have hempty : s.reverse.isEmpty = false := by simpa using hne
  rw [h, List.append_nil, List.cons_append, fieldsFrom, if_pos hends, hempty, if_neg Bool.false_ne_true, List.reverse_reverse,
    Trace.fieldsFrom_blanks hblank]

/-- So does the end of the line, with or without white space before it. -/
theorem Carries.fieldsFrom_end {gap : List Char} (h : Carries (.level 0) s (.level 0)) (hne : s ≠ [])
    (hblank : ∀ c ∈ gap, Text.isBlank c = true) : fieldsFrom (.level 0) [] (s ++ gap) = [s] := by
  by_cases hgap : gap = []
  · have hempty : s.reverse.isEmpty = false := by simpa using hne
    rw [hgap, h, List.append_nil, fieldsFrom, hempty, if_neg Bool.false_ne_true, List.reverse_reverse]
  · have hfield := h.fieldsFrom_blanks hne hgap hblank []
    rwa [List.append_nil] at hfield

/-- Fields with blanks between them are split into just them. -/
theorem splitFields_join {fields : List (List Char)} (h : ∀ s ∈ fields, IsField s) :
    splitFields (Text.join ' ' fields) = fields := by
  induction fields with
  | nil => rfl
  | cons s rest ih =>
    obtain ⟨hs, hrest⟩ := List.forall_mem_cons.1 h
    have hcarries := hs.passes.1 0
    cases rest with
    | nil =>
      have hend := hcarries.fieldsFrom_end hs.solid.ne_nil (List.forall_mem_nil _)
      rwa [List.append_nil] at hend
    | cons s' rest =>
      have hblank : ∀ c ∈ [' '], Text.isBlank c = true := List.forall_mem_singleton.2 (by decide)
      have hsplit := hcarries.fieldsFrom_blanks hs.solid.ne_nil (List.cons_ne_nil _ _) hblank (Text.join ' ' (s' :: rest))
      exact hsplit.trans (congrArg (s :: ·) (ih hrest))

end TracePlayer.Trace
