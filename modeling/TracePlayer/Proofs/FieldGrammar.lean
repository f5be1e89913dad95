import TracePlayer.Proofs.Fields

/-!
# The grammar of fields

What may stand as a field of a trace line: a plain text, or any JSON text. The grammar of JSON is written out here, without regard
to how JSON is read: white space between any two tokens, strings with their escapes, lists and objects at any depth. Whatever a
text of it holds, splitting comes out of it as it went in, outside every string and with as many brackets open. So
`splitFields_spaced`: fields that stand apart by white space of any kind are split into just them.
-/

namespace TracePlayer

namespace Json

/-! ## JSON texts -/

/-- White space between the tokens of a JSON text. -/
def IsGap (s : List Char) : Prop := ∀ c ∈ s, c = ' ' ∨ c = '\t' ∨ c = '\n' ∨ c = '\r'

/-- One digit or more. -/
def IsDigits (s : List Char) : Prop := s ≠ [] ∧ ∀ c ∈ s, c.isDigit = true

/-- The whole part of a number: zero, or digits of which the first is not zero. -/
def IsWhole (s : List Char) : Prop := s = ['0'] ∨ IsDigits s ∧ s.head? ≠ some '0'

/-- The fraction of a number, if it has one. -/
def IsFraction (s : List Char) : Prop := s = [] ∨ ∃ digits, IsDigits digits ∧ s = '.' :: digits

/-- The exponent of a number, if it has one. -/
def IsExponent (s : List Char) : Prop :=
  s = [] ∨ ∃ mark sign digits, (mark = 'e' ∨ mark = 'E') ∧ (sign = [] ∨ sign = ['+'] ∨ sign = ['-']) ∧ IsDigits digits ∧
    s = mark :: (sign ++ digits)

/-- A number. -/
def IsNumeral (s : List Char) : Prop :=
  ∃ sign whole fraction exponent, (sign = [] ∨ sign = ['-']) ∧ IsWhole whole ∧ IsFraction fraction ∧ IsExponent exponent ∧
    s = sign ++ whole ++ fraction ++ exponent

/-- What stands between the quotes of a string. -/
inductive IsInside : List Char → Prop
  | nil : IsInside []
  | char {c : Char} {s : List Char} (hquote : c ≠ '"') (hescape : c ≠ '\\') (hcontrol : 0x20 ≤ c.toNat) (h : IsInside s) :
      IsInside (c :: s)
  | escape {c : Char} {s : List Char} (hc : c ∈ ['"', '\\', '/', 'b', 'f', 'n', 'r', 't']) (h : IsInside s) :
      IsInside ('\\' :: c :: s)
  | unit {digits s : List Char} (hlength : digits.length = 4) (hdigits : ∀ c ∈ digits, (Text.hexDigit? c).isSome = true)
      (h : IsInside s) : IsInside ('\\' :: 'u' :: (digits ++ s))

/-- A string. -/
def IsString (s : List Char) : Prop := ∃ inside, IsInside inside ∧ s = '"' :: (inside ++ ['"'])

/-- A text between white space. -/
structure Padded where
  front : List Char
  text : List Char
  back : List Char

/-- The characters of a text and of the white space around it. -/
def Padded.chars (p : Padded) : List Char := p.front ++ p.text ++ p.back

/-- There is white space around the text, or nothing. -/
def Padded.HasGaps (p : Padded) : Prop := IsGap p.front ∧ IsGap p.back

/-- A JSON value, with no white space around it. -/
inductive IsValue : List Char → Prop
  | word {s : List Char} (h : s ∈ ["null".toList, "true".toList, "false".toList]) : IsValue s
  | number {s : List Char} (h : IsNumeral s) : IsValue s
  | text {s : List Char} (h : IsString s) : IsValue s
  | emptyList {gap : List Char} (hgap : IsGap gap) : IsValue ('[' :: (gap ++ [']']))
  | list {items : List Padded} (hne : items ≠ []) (gaps : ∀ i ∈ items, i.HasGaps) (each : ∀ i ∈ items, IsValue i.text) :
      IsValue ('[' :: (Text.join ',' (items.map Padded.chars) ++ [']']))
  | emptyObject {gap : List Char} (hgap : IsGap gap) : IsValue ('\x7b' :: (gap ++ ['\x7d']))
  | object {entries : List (Padded × Padded)} (hne : entries ≠ []) (gaps : ∀ e ∈ entries, e.1.HasGaps ∧ e.2.HasGaps)
      (keys : ∀ e ∈ entries, IsString e.1.text) (each : ∀ e ∈ entries, IsValue e.2.text) :
      IsValue ('\x7b' :: (Text.join ',' (entries.map fun e => e.1.chars ++ ':' :: e.2.chars) ++ ['\x7d']))

/-- A JSON text: a value with white space around it, or none. -/
def IsText (s : List Char) : Prop := ∃ p : Padded, p.HasGaps ∧ IsValue p.text ∧ s = p.chars

end Json

namespace Trace

open Json

/-- What may stand as a field: a plain text, or a JSON text that begins and ends with other characters than white space. -/
inductive IsItem (s : List Char) : Prop
  | plain (hne : s ≠ []) (h : ∀ c ∈ s, isPlainChar c = true)
  | json (h : IsText s) (hsolid : Text.IsSolid s)

/-- Texts with white space behind each of them, and in front of the first. -/
def spaced (front : List Char) (parts : List (List Char × List Char)) : List Char :=
  front ++ parts.flatMap fun p => p.1 ++ p.2

/-! ## JSON texts keep the nesting -/

namespace FieldGrammarAux

variable {n : Nesting} {s : List Char} {depth : Nat}

theorem carries_of_forall (h : ∀ c ∈ s, Carries n [c] n) : Carries n s n := by
  induction s with
  | nil => exact Carries.nil n
  | cons c s ih =>
    obtain ⟨hc, hs⟩ := List.forall_mem_cons.1 h
    exact hc.append (ih hs)

/-- Texts are carried with what stands between them. -/
theorem carries_join {mark : Char} (hmark : Carries n [mark] n) {texts : List (List Char)} (h : ∀ s ∈ texts, Carries n s n) :
    Carries n (Text.join mark texts) n := by
  induction texts with
  | nil => exact Carries.nil n
  | cons s rest ih =>
    obtain ⟨hs, hrest⟩ := List.forall_mem_cons.1 h
    cases rest with
    | nil => exact hs
    | cons s' rest => exact hs.append (hmark.append (ih hrest))

theorem carries_plain (h : ∀ c ∈ s, isPlainChar c = true) : Carries (.level depth) s (.level depth) :=
  (passes_of_all (List.all_eq_true.2 h)).1 depth

/-- Inside brackets white space ends nothing. -/
theorem carries_gap (h : IsGap s) : Carries (.level (depth + 1)) s (.level (depth + 1)) := by
  refine carries_of_forall fun c hc => ?_
  rcases h c hc with rfl | rfl | rfl | rfl <;> exact carries_char rfl

theorem carries_padded {p : Padded} (hgaps : p.HasGaps) (h : Carries (.level (depth + 1)) p.text (.level (depth + 1))) :
    Carries (.level (depth + 1)) p.chars (.level (depth + 1)) :=
  ((carries_gap hgaps.1).append h).append (carries_gap hgaps.2)

/-! ### Numbers and strings -/

theorem plain_digits (h : IsDigits s) : ∀ c ∈ s, isPlainChar c = true :=
  fun c hc => isPlainChar_of_isDigit (h.2 c hc)

/-- The characters of a number are plain. -/
theorem plain_numeral (h : IsNumeral s) : ∀ c ∈ s, isPlainChar c = true := by
  obtain ⟨sign, whole, fraction, exponent, hsign, hwhole, hfraction, hexponent, rfl⟩ := h
  have hsigns : ∀ c ∈ sign, isPlainChar c = true := by
    rcases hsign with rfl | rfl <;> exact List.all_eq_true.1 (by decide)
  have hwholes : ∀ c ∈ whole, isPlainChar c = true := by
    rcases hwhole with rfl | ⟨hdigits, -⟩
    · exact List.all_eq_true.1 (by decide)
    · exact plain_digits hdigits
  have hfractions : ∀ c ∈ fraction, isPlainChar c = true := by
    rcases hfraction with rfl | ⟨digits, hdigits, rfl⟩
    · exact List.forall_mem_nil _
    · exact List.forall_mem_cons.2 ⟨by decide, plain_digits hdigits⟩
  have hexponents : ∀ c ∈ exponent, isPlainChar c = true := by
    rcases hexponent with rfl | ⟨mark, sign, digits, hmark, hsign, hdigits, rfl⟩
    · exact List.forall_mem_nil _
    · refine List.forall_mem_cons.2 ⟨?_, List.forall_mem_append.2 ⟨?_, plain_digits hdigits⟩⟩
      · rcases hmark with rfl | rfl <;> decide
      · rcases hsign with rfl | rfl | rfl <;> exact List.all_eq_true.1 (by decide)
  simp only [List.forall_mem_append]
  exact ⟨⟨⟨hsigns, hwholes⟩, hfractions⟩, hexponents⟩

theorem carries_hexDigit {c : Char} (h : (Text.hexDigit? c).isSome = true) : Carries (.quoted depth) [c] (.quoted depth) := by
  refine carries_quoted depth ?_ ?_ <;> (rintro rfl; revert h; decide)

/-- Whatever a string holds, it is not closed before its end. -/
theorem carries_inside (h : IsInside s) : Carries (.quoted depth) s (.quoted depth) := by
  induction h with
  | nil => exact Carries.nil _
  | char hquote hescape _ _ ih => exact (carries_quoted depth hescape hquote).append ih
  | @escape c _ _ _ ih => exact (carries_escape depth c).append ih
  | unit _ hdigits _ ih =>
    have hfour := carries_of_forall (n := .quoted depth) fun c hc => carries_hexDigit (hdigits c hc)
    exact (carries_escape depth 'u').append (hfour.append ih)

theorem carries_string (h : IsString s) : Carries (.level depth) s (.level depth) := by
  obtain ⟨inside, hinside, rfl⟩ := h
  exact carries_quotes (carries_inside hinside)

/-! ### Values -/

/-- The words of JSON are plain. -/
theorem plain_word (h : s ∈ ["null".toList, "true".toList, "false".toList]) : ∀ c ∈ s, isPlainChar c = true := by
  simp only [List.mem_cons, List.not_mem_nil, or_false] at h
  rcases h with rfl | rfl | rfl <;> exact List.all_eq_true.1 (by decide)

/-- The splitting comes out of a value as it went in, at any depth. -/
theorem carries_value (h : IsValue s) : ∀ depth, Carries (.level depth) s (.level depth) := by
  induction h with
  | word h => exact fun depth => carries_plain (plain_word h)
  | number h => exact fun depth => carries_plain (plain_numeral h)
  | text h => exact fun depth => carries_string h
  | emptyList hgap => exact fun depth => carries_brackets (.inl rfl) (.inl rfl) (carries_gap hgap)
  | list _ gaps _ ih =>
    intro depth
    refine carries_brackets (.inl rfl) (.inl rfl) (carries_join (carries_char rfl) fun s hs => ?_)
    obtain ⟨i, hi, rfl⟩ := List.mem_map.1 hs
    exact carries_padded (gaps i hi) (ih i hi (depth + 1))
  | emptyObject hgap => exact fun depth => carries_brackets (.inr rfl) (.inr rfl) (carries_gap hgap)
  | object _ gaps keys _ ih =>
    intro depth
    refine carries_brackets (.inr rfl) (.inr rfl) (carries_join (carries_char rfl) fun s hs => ?_)
    obtain ⟨e, he, rfl⟩ := List.mem_map.1 hs
    have hkey : Carries (.level (depth + 1)) e.1.chars (.level (depth + 1)) :=
      carries_padded (gaps e he).1 (carries_string (keys e he))
    exact hkey.append ((carries_char rfl).append (carries_padded (gaps e he).2 (ih e he (depth + 1))))

theorem blank_of_mem_gap {c : Char} {gap : List Char} (h : IsGap gap) (hc : c ∈ gap) : Text.isBlank c ≠ false := by
  rcases h c hc with rfl | rfl | rfl | rfl <;> decide

/-- A text that begins and ends with other characters than white space has none around its value. -/
theorem isValue_of_solid (h : IsText s) (hsolid : Text.IsSolid s) : IsValue s := by
  obtain ⟨⟨front, text, back⟩, ⟨hfront, hback⟩, hvalue, rfl⟩ := h
  obtain ⟨⟨first, hfirst, hf⟩, last, hlast, hl⟩ := hsolid
  obtain rfl : front = [] := by
    cases front with
    | nil => rfl
    | cons c front =>
      obtain rfl := Option.some.inj hfirst
      exact absurd hf (blank_of_mem_gap hfront List.mem_cons_self)
  obtain rfl : back = [] := by
    rcases List.eq_nil_or_concat back with hnil | ⟨init, c, hinit⟩
    · exact hnil
    · rw [List.concat_eq_append] at hinit
      subst hinit
      simp only [Padded.chars, ← List.append_assoc, List.getLast?_concat] at hlast
      obtain rfl := Option.some.inj hlast
      exact absurd hl (blank_of_mem_gap hback (List.mem_append_right _ List.mem_cons_self))
  simpa [Padded.chars] using hvalue

end FieldGrammarAux

open FieldGrammarAux

/-! ## Fields of any kind -/

/-- An item is carried as one field. -/
theorem IsItem.carries {s : List Char} (h : IsItem s) : Carries (.level 0) s (.level 0) ∧ s ≠ [] := by
  cases h with
  | plain hne h => exact ⟨carries_plain h, hne⟩
  | json h hsolid => exact ⟨carries_value (isValue_of_solid h hsolid) 0, hsolid.ne_nil⟩

/-- Fields that stand apart by white space, of any kind and as much as one likes, are split into just them, in order. There may be
white space in front of the first and behind the last. -/
theorem splitFields_spaced {front : List Char} {parts : List (List Char × List Char)} (hitems : ∀ p ∈ parts, IsItem p.1)
    (hfront : ∀ c ∈ front, Text.isBlank c = true) (hgaps : ∀ p ∈ parts, ∀ c ∈ p.2, Text.isBlank c = true)
    (hbetween : ∀ p ∈ parts.dropLast, p.2 ≠ []) : splitFields (spaced front parts) = parts.map Prod.fst := by
  rw [spaced, splitFields]
  refine (fieldsFrom_blanks hfront _).trans ?_
  induction parts with
  | nil => rfl
  | cons p rest ih =>
    obtain ⟨hitem, hitems⟩ := List.forall_mem_cons.1 hitems
    obtain ⟨hgap, hgaps⟩ := List.forall_mem_cons.1 hgaps
    obtain ⟨hcarries, hne⟩ := hitem.carries
    cases rest with
    | nil =>
      rw [List.flatMap_singleton]
      exact hcarries.fieldsFrom_end hne hgap
    | cons p' rest =>
      rw [List.dropLast_cons_cons, List.forall_mem_cons] at hbetween
      rw [List.flatMap_cons, List.append_assoc, hcarries.fieldsFrom_blanks hne hbetween.1 hgap, ih hitems hgaps hbetween.2]
      rfl

/-- Neither a backslash in a plain text, nor a string that holds a bracket, a blank, a quote and a backslash, nor white space between
the tokens of a list ends a field before its end. -/
theorem splitFields_spaced_mixed :
    splitFields "\u3000a\\b\u2003\t[ \"] \\\" \\\\\" ,\n\x7b \x7d]\n-2.5e+3 ".toList =
      ["a\\b".toList, "[ \"] \\\" \\\\\" ,\n\x7b \x7d]".toList, "-2.5e+3".toList] := by
  have hstring : IsValue ['"', ']', ' ', '\\', '"', ' ', '\\', '\\', '"'] := by
    refine .text ⟨[']', ' ', '\\', '"', ' ', '\\', '\\'], ?_, rfl⟩
    exact .char (by decide) (by decide) (by decide) <| .char (by decide) (by decide) (by decide) <| .escape (by decide) <|
      .char (by decide) (by decide) (by decide) <| .escape (by decide) .nil
  have hobject : IsValue ['\x7b', ' ', '\x7d'] := @IsValue.emptyObject [' '] (by simp [IsGap])
  have hlist : IsValue "[ \"] \\\" \\\\\" ,\n\x7b \x7d]".toList :=
    @IsValue.list [⟨[' '], ['"', ']', ' ', '\\', '"', ' ', '\\', '\\', '"'], [' ']⟩, ⟨['\n'], ['\x7b', ' ', '\x7d'], []⟩]
      (List.cons_ne_nil _ _) (by simp [Padded.HasGaps, IsGap]) (by simp [hstring, hobject])
  have hdigits : ∀ {s : List Char}, s ≠ [] → s.all Char.isDigit = true → IsDigits s :=
    fun hne h => ⟨hne, List.all_eq_true.1 h⟩
  have hnumeral : IsNumeral "-2.5e+3".toList := by
    refine ⟨['-'], ['2'], ['.', '5'], ['e', '+', '3'], .inr rfl, .inr ⟨hdigits (by decide) (by decide), by decide⟩, ?_, ?_,
      by decide⟩
    · exact .inr ⟨['5'], hdigits (by decide) (by decide), rfl⟩
    · exact .inr ⟨'e', ['+'], ['3'], .inl rfl, .inr (.inl rfl), hdigits (by decide) (by decide), rfl⟩
  have htext : IsText "[ \"] \\\" \\\\\" ,\n\x7b \x7d]".toList :=
    ⟨⟨[], "[ \"] \\\" \\\\\" ,\n\x7b \x7d]".toList, []⟩, by simp [Padded.HasGaps, IsGap], hlist, by decide⟩
  have hitems : ∀ p ∈ [("a\\b".toList, ['\u2003', '\t']), ("[ \"] \\\" \\\\\" ,\n\x7b \x7d]".toList, ['\n']),
      ("-2.5e+3".toList, [' '])], IsItem p.1 := by
    refine List.forall_mem_cons.2 ⟨?plain, List.forall_mem_cons.2 ⟨?json, List.forall_mem_cons.2 ⟨?number, List.forall_mem_nil _⟩⟩⟩
    case plain => exact .plain (by decide) (List.all_eq_true.1 (by decide))
    case json => exact .json htext ⟨⟨'[', by decide, by decide⟩, ']', by decide, by decide⟩
    case number => exact .plain (by decide) (plain_numeral hnumeral)
  have hsplit := @splitFields_spaced ['\u3000'] _ hitems (List.all_eq_true.1 (by decide))
    (by simp [Text.isBlank]) (by simp)
  refine Eq.trans (congrArg splitFields ?_) hsplit
  decide +kernel

end Trace

end TracePlayer
