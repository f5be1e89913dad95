import TracePlayer.Json.Printer
import TracePlayer.Json.Record
import TracePlayer.Proofs.Numerals

/-!
# Printed JSON read back

The compact text of a value reads back as the value, when its numbers are integers of 64 bits. The reader looks one character
ahead, so each statement is made with a text behind what is read: the reader takes the value off and leaves that text. A list
and an object differ in their brackets and in what an item is; `listed` is what they share, items with commas between them.
-/

namespace TracePlayer.Json

variable {rest : List Char} {depth rounds : Nat}

/-- A value that nests at most so many levels of lists and objects, whose numbers are integers of 64 bits, with or without a
sign, and whose objects are in the order of their keys. -/
inductive Exact : Nat → Json → Prop where
  | null {depth : Nat} : Exact depth .null
  | bool {depth : Nat} (b : Bool) : Exact depth (.bool b)
  | integer {depth : Nat} {k : Int} (low : -(signedBound : Int) ≤ k) (high : k < wordBound) :
    Exact depth (.number (.integer k))
  | text {depth : Nat} (s : String) : Exact depth (.text s)
  | list {depth : Nat} {items : List Json} (each : ∀ v ∈ items, Exact depth v) : Exact (depth + 1) (.list items)
  | object {depth : Nat} {entries : List (String × Json)} (keys : entries.Pairwise (fun e e' => e.1 < e'.1))
    (each : ∀ e ∈ entries, Exact depth e.2) : Exact (depth + 1) (.object entries)

/-- More levels than needed do no harm. -/
theorem Exact.mono {depth depth' : Nat} {v : Json} (h : Exact depth v) (hle : depth ≤ depth') : Exact depth' v := by
  induction h generalizing depth' with
  | null => exact .null
  | bool b => exact .bool b
  | integer low high => exact .integer low high
  | text s => exact .text s
  | list _ ih =>
    obtain ⟨depth', rfl⟩ := Nat.exists_eq_add_one_of_ne_zero (Nat.ne_zero_of_lt hle)
    exact .list fun v hv => ih v hv (Nat.le_of_succ_le_succ hle)
  | object keys _ ih =>
    obtain ⟨depth', rfl⟩ := Nat.exists_eq_add_one_of_ne_zero (Nat.ne_zero_of_lt hle)
    exact .object keys fun e he => ih e he (Nat.le_of_succ_le_succ hle)

/-! ## Strings -/

theorem hexDigit?_hexDigit : ∀ d < 16, Text.hexDigit? (hexDigit d) = some d := by decide

theorem holdsFourBytes_cons (a b c d : Char) (rest : List Char) : holdsFourBytes (a :: b :: c :: d :: rest) = true := by
  have ha := a.utf8Size_pos
  have hb := b.utf8Size_pos
  have hc := c.utf8Size_pos
  have hd := d.utf8Size_pos
  simp [holdsFourBytes]
  omega

/-- A control character reads back from its four hexadecimal digits. -/
theorem readStringFrom_control (read : List Char) {c : Char} (hc : c.toNat < 0x20) (rest : List Char) :
    readStringFrom .plain read
        ('\\' :: 'u' :: '0' :: '0' :: hexDigit (c.toNat / 16) :: hexDigit (c.toNat % 16) :: rest) =
      readStringFrom .plain (c :: read) rest := by
  have hzero : Text.hexDigit? '0' = some 0 := by decide
  have hhigh := hexDigit?_hexDigit (c.toNat / 16) (by omega)
  have hlow := hexDigit?_hexDigit (c.toNat % 16) (by omega)
  have hvalue : 16 * (c.toNat / 16) + c.toNat % 16 = c.toNat := by omega
  have hunit : completeUnit c.toNat none = .ok (.plain, some c) := by
    rw [completeUnit, if_neg (by omega), if_neg (by omega), Char.ofNat_toNat]
  simp [readStringFrom, holdsFourBytes_cons, hzero, hhigh, hlow, hvalue, hunit]

/-- A character is escaped by a backslash and the letter that stands for it, or by its number, or it is written as it is. -/
theorem escaped_cases (c : Char) :
    (∃ d, (d ≠ 'u' ∧ d ≠ '\n') ∧ shortEscape? d = some c ∧ escaped c = ['\\', d]) ∨
      (c.toNat < 0x20 ∧ escaped c = ['\\', 'u', '0', '0', hexDigit (c.toNat / 16), hexDigit (c.toNat % 16)]) ∨
        ((c ≠ '\\' ∧ c ≠ '"' ∧ c ≠ '\n' ∧ ¬c.toNat < 0x20) ∧ escaped c = [c]) := by
  unfold escaped
  split
  · exact .inl ⟨'"', by decide, by simp [shortEscape?, *], rfl⟩
  split
  · exact .inl ⟨'\\', by decide, by simp [shortEscape?, *], rfl⟩
  split
  · exact .inl ⟨'b', by decide, by simp [shortEscape?, *], rfl⟩
  split
  · exact .inl ⟨'f', by decide, by simp [shortEscape?, *], rfl⟩
  split
  · exact .inl ⟨'n', by decide, by simp [shortEscape?, *], rfl⟩
  split
  · exact .inl ⟨'r', by decide, by simp [shortEscape?, *], rfl⟩
  split
  · exact .inl ⟨'t', by decide, by simp [shortEscape?, *], rfl⟩
  split
  · exact .inr (.inl ⟨‹_›, rfl⟩)
  · exact .inr (.inr ⟨⟨‹_›, ‹_›, ‹_›, ‹_›⟩, rfl⟩)

/-- A character reads back from the way it is written inside a string. -/
theorem readStringFrom_escaped (read : List Char) (c : Char) (rest : List Char) :
    readStringFrom .plain read (escaped c ++ rest) = readStringFrom .plain (c :: read) rest := by
  rcases escaped_cases c with ⟨d, ⟨hu, -⟩, hshort, h⟩ | ⟨hc, h⟩ | ⟨⟨hescape, hquote, -, hc⟩, h⟩ <;> rw [h]
  · simp [readStringFrom, hu, hshort]
  · exact readStringFrom_control read hc rest
  · simp only [List.singleton_append, readStringFrom, hquote, hescape, hc, if_false]

theorem readStringFrom_flatMap (read s rest : List Char) :
    readStringFrom .plain read (s.flatMap escaped ++ '"' :: rest) = .ok (String.ofList (read.reverse ++ s), rest) := by
  induction s generalizing read with
  | nil => simp [readStringFrom]
  | cons c s ih => simp [readStringFrom_escaped, ih]

/-- A string reads back from the characters between its quotes. -/
theorem readString_flatMap (s : String) (rest : List Char) :
    readString (s.toList.flatMap escaped ++ '"' :: rest) = .ok (s, rest) := by
  rw [readString, readStringFrom_flatMap, List.reverse_nil, List.nil_append, String.ofList_toList]

/-! ## Items with commas between them -/

/-- Items, each written as given, with a comma in front of each but the first. -/
def listed {α : Type} (write : α → List Char) : Bool → List α → List Char
  | _, [] => []
  | true, v :: rest => write v ++ listed write false rest
  | false, v :: rest => ',' :: (write v ++ listed write false rest)

/-- An entry of an object. -/
def entryText (e : String × Json) : List Char := quoted e.1 ++ ':' :: chars e.2

theorem itemChars_eq (items : List Json) : itemChars items = listed chars true items := by
  match items with
  | [] => rfl
  | [v] => simp [itemChars, listed]
  | v :: w :: rest => simp [itemChars, listed, itemChars_eq (w :: rest)]

theorem entryChars_eq (entries : List (String × Json)) : entryChars entries = listed entryText true entries := by
  match entries with
  | [] => rfl
  | [(k, v)] => simp [entryChars, listed, entryText]
  | (k, v) :: e :: rest => simp [entryChars, listed, entryText, entryChars_eq (e :: rest)]

/-- Behind an item stands a comma or what closes the list. -/
theorem endsNumber_listed {α : Type} (write : α → List Char) (items : List α) (h : EndsNumber rest) :
    EndsNumber (listed write false items ++ rest) := by
  cases items with
  | nil => exact h
  | cons v items => exact endsNumber_cons (by decide) _

/-- With a comma in front of it an item takes a character at least. -/
theorem length_le_listed_false {α : Type} (write : α → List Char) (items : List α) :
    items.length ≤ (listed write false items).length := by
  induction items with
  | nil => exact Nat.le_refl 0
  | cons v items ih =>
    simp only [listed, List.length_cons, List.length_append]
    omega

/-- Every item but the first takes a character at least. -/
theorem length_le_listed {α : Type} (write : α → List Char) (first : Bool) (items : List α) :
    items.length ≤ (listed write first items).length + 1 := by
  cases items with
  | nil => exact Nat.zero_le _
  | cons v items =>
    have hle := length_le_listed_false write items
    cases first <;> simp only [listed, List.length_cons, List.length_append] <;> omega

/-- An item is no longer than the list that holds it. -/
theorem length_le_of_mem {α : Type} (write : α → List Char) {items : List α} {v : α} (hv : v ∈ items) (first : Bool) :
    (write v).length ≤ (listed write first items).length := by
  induction items generalizing first with
  | nil => cases hv
  | cons w items ih =>
    rcases List.mem_cons.1 hv with rfl | hv
    · cases first <;> simp [listed]
      omega
    · have hle := ih hv false
      cases first <;> simp [listed] <;> omega

/-- A text that may stand where a value is expected: it does not begin with white space, nor with what closes a list. -/
def Starts (s : List Char) : Prop :=
  ∃ c tail, s = c :: tail ∧ (c ≠ ' ' ∧ c ≠ '\t' ∧ c ≠ '\n' ∧ c ≠ '\r') ∧ c ≠ ']'

theorem Starts.append {s : List Char} (h : Starts s) (rest : List Char) : Starts (s ++ rest) := by
  obtain ⟨c, tail, rfl, hgap, hclose⟩ := h
  exact ⟨c, tail ++ rest, rfl, hgap, hclose⟩

theorem Starts.skipGap_eq {s : List Char} (h : Starts s) : skipGap s = s := by
  obtain ⟨c, tail, rfl, hgap, -⟩ := h
  simp [skipGap, hgap]

theorem Starts.skipGap_blank {s : List Char} (h : Starts s) : skipGap (' ' :: s) = s := by
  rw [skipGap, List.dropWhile_cons]
  exact h.skipGap_eq

theorem nextItem_first {s : List Char} (h : Starts s) : nextItem true s = .ok (true, s) := by
  rw [nextItem, h.skipGap_eq]
  obtain ⟨c, tail, rfl, -, hclose⟩ := h
  simp [hclose]

theorem nextItem_comma {s : List Char} (h : Starts s) : nextItem false (',' :: s) = .ok (true, s) := by
  have hcomma : skipGap (',' :: s) = ',' :: s := by simp [skipGap]
  simp only [nextItem, hcomma, h.skipGap_eq]
  obtain ⟨c, tail, rfl, -, hclose⟩ := h
  simp [hclose]

theorem nextItem_close (first : Bool) (rest : List Char) : nextItem first (']' :: rest) = .ok (false, rest) := by
  simp [nextItem, skipGap]

/-- Items read back from a list when each of them does. -/
theorem readItems_listed {α : Type} {item : List Char → Reading α} {write : α → List Char} {items : List α}
    (hread : ∀ v ∈ items, ∀ rest, EndsNumber rest → item (write v ++ rest) = .ok (v, rest))
    (hstart : ∀ v ∈ items, Starts (write v)) (first : Bool) (hrounds : items.length < rounds) (rest : List Char) :
    readItems item rounds first (listed write first items ++ ']' :: rest) = .ok (items, rest) := by
  induction items generalizing rounds first with
  | nil =>
    obtain ⟨rounds, rfl⟩ := Nat.exists_eq_add_one_of_ne_zero (Nat.ne_zero_of_lt hrounds)
    rw [readItems]
    simp only [listed, List.nil_append, nextItem_close, bind, Except.bind, pure, Except.pure]
  | cons v items ih =>
    obtain ⟨rounds, rfl⟩ := Nat.exists_eq_add_one_of_ne_zero (Nat.ne_zero_of_lt hrounds)
    obtain ⟨hv, hitems⟩ := List.forall_mem_cons.1 hread
    obtain ⟨hstartv, hstarts⟩ := List.forall_mem_cons.1 hstart
    have hclose : EndsNumber (listed write false items ++ ']' :: rest) :=
      endsNumber_listed write items (endsNumber_cons (by decide) rest)
    have hnext : nextItem first (listed write first (v :: items) ++ ']' :: rest) =
        .ok (true, write v ++ (listed write false items ++ ']' :: rest)) := by
      cases first with
      | true =>
        rw [listed, List.append_assoc]
        exact nextItem_first (hstartv.append _)
      | false =>
        rw [listed, List.cons_append, List.append_assoc]
        exact nextItem_comma (hstartv.append _)
    rw [readItems, hnext]
    have hrest := ih hitems hstarts false (Nat.lt_of_succ_lt_succ hrounds)
    simp only [bind, Except.bind, pure, Except.pure, hv _ hclose, hrest]

theorem nextKey_first (key : String) (rest : List Char) :
    nextKey true (quoted key ++ rest) = .ok (true, key.toList.flatMap escaped ++ '"' :: rest) := by
  simp [quoted, nextKey, skipGap]

theorem nextKey_comma (key : String) (rest : List Char) :
    nextKey false (',' :: (quoted key ++ rest)) = .ok (true, key.toList.flatMap escaped ++ '"' :: rest) := by
  simp [quoted, nextKey, skipGap]

theorem nextKey_close (first : Bool) (rest : List Char) : nextKey first ('\x7d' :: rest) = .ok (false, rest) := by
  simp [nextKey, skipGap]

theorem skipColon_cons (rest : List Char) : skipColon (':' :: rest) = .ok ((), rest) := by
  simp [skipColon, skipGap]

/-- Entries read back from an object when each of their values does. -/
theorem readEntries_listed {value : List Char → Reading Json} {entries : List (String × Json)}
    (hread : ∀ e ∈ entries, ∀ rest, EndsNumber rest → value (chars e.2 ++ rest) = .ok (e.2, rest)) (first : Bool)
    (hrounds : entries.length < rounds) (rest : List Char) :
    readEntries readString value rounds first (listed entryText first entries ++ '\x7d' :: rest) = .ok (entries, rest) := by
  induction entries generalizing rounds first with
  | nil =>
    obtain ⟨rounds, rfl⟩ := Nat.exists_eq_add_one_of_ne_zero (Nat.ne_zero_of_lt hrounds)
    rw [readEntries]
    simp only [listed, List.nil_append, nextKey_close, bind, Except.bind, pure, Except.pure]
  | cons e entries ih =>
    obtain ⟨rounds, rfl⟩ := Nat.exists_eq_add_one_of_ne_zero (Nat.ne_zero_of_lt hrounds)
    obtain ⟨hv, hentries⟩ := List.forall_mem_cons.1 hread
    have hclose : EndsNumber (listed entryText false entries ++ '\x7d' :: rest) :=
      endsNumber_listed entryText entries (endsNumber_cons (by decide) rest)
    have hnext : nextKey first (listed entryText first (e :: entries) ++ '\x7d' :: rest) =
        .ok (true, e.1.toList.flatMap escaped ++
          '"' :: ':' :: (chars e.2 ++ (listed entryText false entries ++ '\x7d' :: rest))) := by
      cases first with
      | true =>
        rw [listed, entryText, List.append_assoc, List.append_assoc]
        exact nextKey_first e.1 _
      | false =>
        rw [listed, entryText, List.cons_append, List.append_assoc, List.append_assoc]
        exact nextKey_comma e.1 _
    rw [readEntries, hnext]
    have hrest := ih hentries false (Nat.lt_of_succ_lt_succ hrounds)
    simp only [bind, Except.bind, pure, Except.pure, readString_flatMap, skipColon_cons, hv _ hclose, hrest]

/-- A key behind all the others is added at the end. -/
theorem insertEntry_of_lt {key : String} (value : Json) {sorted : List (String × Json)} (h : ∀ e ∈ sorted, e.1 < key) :
    insertEntry key value sorted = sorted ++ [(key, value)] := by
  induction sorted with
  | nil => rfl
  | cons e sorted ih =>
    obtain ⟨he, hsorted⟩ := List.forall_mem_cons.1 h
    have hne : key ≠ e.1 := by
      rintro rfl
      exact String.lt_irrefl _ he
    rw [insertEntry, if_neg hne, if_neg (String.lt_asymm he), ih hsorted]
    rfl

theorem foldl_insertEntry {front entries : List (String × Json)} (h : (front ++ entries).Pairwise (fun e e' => e.1 < e'.1)) :
    entries.foldl (fun sorted e => insertEntry e.1 e.2 sorted) front = front ++ entries := by
  induction entries generalizing front with
  | nil => rw [List.foldl_nil, List.append_nil]
  | cons e entries ih =>
    have hfront : ∀ e' ∈ front, e'.1 < e.1 := fun e' he' =>
      (List.pairwise_append.1 h).2.2 e' he' e List.mem_cons_self
    rw [List.foldl_cons, insertEntry_of_lt e.2 hfront, ih (by simpa using h), List.append_assoc]
    rfl

/-- Entries in the order of their keys make up the object that holds just them. -/
theorem ofEntries_of_pairwise {entries : List (String × Json)} (h : entries.Pairwise (fun e e' => e.1 < e'.1)) :
    ofEntries entries = .object entries :=
  congrArg Json.object (foldl_insertEntry h)

/-! ## Values -/

/-- The text of an integer begins with a digit or a minus sign. -/
theorem toString_eq_cons (k : Int) : ∃ c tail, (toString k).toList = c :: tail ∧ (c = '-' ∨ c.isDigit = true) := by
  obtain ⟨c, tail, hk⟩ := List.exists_cons_of_ne_nil (toString_ne_nil k)
  exact ⟨c, tail, hk, of_mem_toString (hk ▸ List.mem_cons_self)⟩

theorem isSome_digit? {c : Char} (hc : c = '-' ∨ c.isDigit = true) : c = '-' ∨ (Text.digit? c).isSome = true :=
  hc.imp_right fun hc => by rw [Text.digit?_of_isDigit hc]; rfl

/-- What begins as a number is read as a number. -/
theorem readValue_number {c : Char} {tail : List Char} (hc : c = '-' ∨ c.isDigit = true) :
    readValue rounds depth (c :: tail) = (readNumber (c :: tail)).map (fun r => (.number r.1, r.2)) := by
  have hother : ∀ d : Char, ¬(d = '-' ∨ d.isDigit = true) → c ≠ d := by
    rintro d hd rfl
    exact hd hc
  have hgap : skipGap (c :: tail) = c :: tail := by
    simp [skipGap, hother ' ' (by decide), hother '\t' (by decide), hother '\n' (by decide), hother '\r' (by decide)]
  rw [readValue, hgap]
  simp only [hother '"' (by decide), hother '[' (by decide), hother '\x7b' (by decide), hother 'n' (by decide),
    hother 't' (by decide), hother 'f' (by decide), isSome_digit? hc, if_true, if_false]

theorem starts_toString (k : Int) : Starts (toString k).toList := by
  obtain ⟨c, tail, hk, hc⟩ := toString_eq_cons k
  refine ⟨c, tail, hk, ?_⟩
  refine ⟨⟨?_, ?_, ?_, ?_⟩, ?_⟩ <;> (rintro rfl; revert hc; decide)

theorem starts_quoted (s : String) : Starts (quoted s) := ⟨'"', _, rfl, by decide, by decide⟩

/-- The text of a value may stand where a value is expected. -/
theorem Exact.starts {v : Json} (h : Exact depth v) : Starts (chars v) := by
  cases h with
  | null => exact ⟨'n', _, rfl, by decide, by decide⟩
  | bool b => cases b <;> exact ⟨_, _, rfl, by decide, by decide⟩
  | integer => exact starts_toString _
  | text s => exact starts_quoted s
  | list => exact ⟨'[', _, rfl, by decide, by decide⟩
  | object => exact ⟨'\x7b', _, rfl, by decide, by decide⟩

theorem readValue_list (rounds depth : Nat) (s : List Char) :
    readValue rounds (depth + 1) ('[' :: s) =
      (readItems (readValue rounds depth) rounds true s).map (fun r => (.list r.1, r.2)) := by
  rw [readValue]
  simp [skipGap]

theorem readValue_object (rounds depth : Nat) (s : List Char) :
    readValue rounds (depth + 1) ('\x7b' :: s) =
      (readEntries readString (readValue rounds depth) rounds true s).map (fun r => (ofEntries r.1, r.2)) := by
  rw [readValue]
  simp [skipGap]

/-- A value reads back from its compact text. -/
theorem readValue_chars {v : Json} (h : Exact depth v) (hrounds : (chars v).length ≤ rounds) (hrest : EndsNumber rest) :
    readValue rounds depth (chars v ++ rest) = .ok (v, rest) := by
  induction h generalizing rest with
  | null => simp [chars, readValue, skipGap, expect, Except.map]
  | bool b => cases b <;> simp [chars, readValue, skipGap, expect, Except.map]
  | @integer depth k hlow hhigh =>
    have hread := readNumber_toString hlow hhigh hrest
    obtain ⟨c, tail, hk, hc⟩ := toString_eq_cons k
    rw [hk, List.cons_append] at hread
    rw [chars, Number.text, hk, List.cons_append, readValue_number hc, hread]
    rfl
  | text s => simp [chars, readValue, skipGap, quoted, readString_flatMap, Except.map]
  | @list depth items each ih =>
    rw [chars, itemChars_eq] at hrounds ⊢
    simp only [List.length_cons, List.length_append] at hrounds
    have hread : ∀ v ∈ items, ∀ rest, EndsNumber rest → readValue rounds depth (chars v ++ rest) = .ok (v, rest) := by
      intro v hv rest hrest
      -- The rounds that the brackets leave are enough for an item: it is shorter than the whole text.
      have hle := length_le_of_mem chars hv true
      exact ih v hv (by omega) hrest
    have hstart : ∀ v ∈ items, Starts (chars v) := fun v hv => (each v hv).starts
    have hmany := length_le_listed chars true items
    rw [List.cons_append, List.append_assoc, List.singleton_append, readValue_list,
      readItems_listed hread hstart true (by omega) rest]
    rfl
  | @object depth entries keys each ih =>
    rw [chars, entryChars_eq] at hrounds ⊢
    simp only [List.length_cons, List.length_append] at hrounds
    have hread : ∀ e ∈ entries, ∀ rest, EndsNumber rest →
        readValue rounds depth (chars e.2 ++ rest) = .ok (e.2, rest) := by
      intro e he rest hrest
      have hle := length_le_of_mem entryText he true
      have hvalue : (chars e.2).length ≤ (entryText e).length := by
        simp [entryText]
        omega
      exact ih e he (by omega) hrest
    have hmany := length_le_listed entryText true entries
    rw [List.cons_append, List.append_assoc, List.singleton_append, readValue_object,
      readEntries_listed hread true (by omega) rest, Except.map, ofEntries_of_pairwise keys]

/-- The compact text of a value, with nothing behind it, is read as that value. -/
theorem parse_chars {v : Json} (h : Exact nestingLimit v) : parse (chars v) = .ok v := by
  have hend : EndsNumber [] := nofun
  have hread := readValue_chars h (Nat.le_succ _) hend
  rw [List.append_nil] at hread
  rw [parse, readAll, hread]
  rfl

/-! ## Typed values -/

/-- A string reads back where only a string is wanted. -/
theorem readText_quoted (s : String) (rest : List Char) : readText (quoted s ++ rest) = .ok (s, rest) := by
  have hgap : skipGap (quoted s ++ rest) = '"' :: (s.toList.flatMap escaped ++ '"' :: rest) := by simp [quoted, skipGap]
  rw [readText, hgap]
  exact readString_flatMap s rest

/-- A natural number reads back where only one below a limit is wanted, also with white space in front of it. -/
theorem readBelow_toString {s : List Char} {n limit : Nat} (h : n < limit) (hlimit : limit ≤ wordBound)
    (hs : skipGap s = (toString n).toList ++ rest) (hrest : EndsNumber rest) : readBelow limit s = .ok (n, rest) := by
  have hbound : (n : Int) < wordBound := by omega
  have hlow : -(signedBound : Int) ≤ n := by omega
  have hread := readNumber_toString hlow hbound hrest
  obtain ⟨c, tail, hn, hc⟩ := toString_eq_cons n
  have hdigits : (toString n).toList = c :: tail := hn
  rw [hn, List.cons_append] at hread
  rw [hdigits, List.cons_append] at hs
  have hadmits : decide (0 ≤ (n : Int) ∧ (n : Int) < limit) = true := decide_eq_true ⟨by omega, by omega⟩
  rw [readBelow, readInteger, hs]
  simp only [if_pos (isSome_digit? hc), hread, bind, Except.bind, hadmits, if_true, pure, Except.pure, Except.map,
    Int.toNat_natCast]

/-- The first entry of a record fills the field of its key. -/
theorem readByKey_first {σ : Type} {slots : List (Slot σ)} {slot : Slot σ} {key : String} {draft draft' : σ} {s : List Char}
    (hslot : slots.find? (fun slot => slot.key == key) = some slot) (hfree : slot.filled draft = false)
    (hfill : slot.fill draft s = .ok (draft', rest)) (total : Nat) :
    readByKey slots total (rounds + 1) true draft (quoted key ++ ':' :: s) =
      readByKey slots total rounds false draft' rest := by
  rw [readByKey, nextKey_first]
  simp only [bind, Except.bind, readString_flatMap, hslot, hfree, Bool.false_eq_true, if_false, skipColon_cons, hfill]

/-- So does every further one, behind a comma. -/
theorem readByKey_comma {σ : Type} {slots : List (Slot σ)} {slot : Slot σ} {key : String} {draft draft' : σ} {s : List Char}
    (hslot : slots.find? (fun slot => slot.key == key) = some slot) (hfree : slot.filled draft = false)
    (hfill : slot.fill draft s = .ok (draft', rest)) (total : Nat) :
    readByKey slots total (rounds + 1) false draft (',' :: (quoted key ++ ':' :: s)) =
      readByKey slots total rounds false draft' rest := by
  rw [readByKey, nextKey_comma]
  simp only [bind, Except.bind, readString_flatMap, hslot, hfree, Bool.false_eq_true, if_false, skipColon_cons, hfill]

theorem readByKey_close {σ : Type} (slots : List (Slot σ)) (total rounds : Nat) (first : Bool) (draft : σ)
    (rest : List Char) :
    readByKey slots total (rounds + 1) first draft ('\x7d' :: rest) = .ok (draft, rest) := by
  rw [readByKey, nextKey_close]
  rfl

/-- A value that may be absent as it is written: null when it is. -/
def writeOptional {α : Type} (write : α → List Char) : Option α → List Char
  | none => "null".toList
  | some v => write v

/-- What may be absent reads back, when what is there does and cannot be taken for null. -/
theorem readOptional_writeOptional {α : Type} {write : α → List Char} {reader : List Char → Reading α} {v : Option α}
    (hstart : ∀ a ∈ v, Starts (write a) ∧ (write a).head? ≠ some 'n')
    (hread : ∀ a ∈ v, reader (write a ++ rest) = .ok (a, rest)) :
    readOptional reader (writeOptional write v ++ rest) = .ok (v, rest) := by
  cases v with
  | none => rfl
  | some a =>
    obtain ⟨hstarts, hhead⟩ := hstart a rfl
    have hgap : skipGap (write a ++ rest) = write a ++ rest := (hstarts.append rest).skipGap_eq
    obtain ⟨c, tail, hwrite, -⟩ := hstarts
    have hc : c ≠ 'n' := fun heq => hhead (by rw [hwrite, heq]; rfl)
    rw [writeOptional, readOptional, hgap, hread a rfl, hwrite, List.cons_append]
    split
    · rename_i heq
      exact absurd (List.cons.inj heq).1 hc
    · rfl

end TracePlayer.Json
