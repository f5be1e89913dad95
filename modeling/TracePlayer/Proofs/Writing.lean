import TracePlayer.Proofs.Fields
import TracePlayer.Proofs.Lines

/-!
# Writing a trace

How the interpreter writes the events that the decoder reads: a line each, the tag and the fields with blanks between them,
data as compact JSON. A trace of events that can be written so (`Event.IsWritable`) decodes to just them
(`decode_written`), whatever its strings hold.
-/

namespace TracePlayer

/-! ## The form of a trace -/

/-- A text that stands in a trace line as it is: it is not empty, and holds neither white space nor quotes nor brackets. -/
def Trace.IsPlain (s : String) : Prop := s ≠ "" ∧ s.toList.all Trace.isPlainChar = true

instance (s : String) : Decidable (Trace.IsPlain s) := inferInstanceAs (Decidable (_ ∧ _))

/-- A datum that loses nothing when it is written: its numbers are integers of 64 bits, and it nests at most 126 levels, one
less than a line may, for it may be an item of a list there. -/
def Datum.IsWritable (d : Datum) : Prop := Json.Exact 126 d.value

/-- The name of an operation in a trace. -/
def Operation.name : Operation → String
  | compare .. => "cmp"
  | jump .. => "jmp"
  | moveToRegister .. => "mov_reg"
  | moveToMemory .. => "mov_mem"
  | addressToRegister .. => "lea_reg"
  | addressToMemory .. => "lea_mem"
  | arithmetic .. => "arithmetic"

/-- The fields of an operation behind its name. -/
def Operation.fields : Operation → List (List Char)
  | compare left right result => [left.toList, right.toList, result.toList]
  | jump kind address performed => [kind.toList, address.toList, (toString performed).toList]
  | moveToRegister target size sourceKind source content =>
    [target.name.toList, (toString size).toList, sourceKind.toList, source.value.chars, content.value.chars]
  | moveToMemory target size sourceKind source content =>
    [(toString target).toList, (toString size).toList, sourceKind.toList, source.value.chars, content.value.chars]
  | addressToRegister target address => [target.name.toList, address.value.chars]
  | addressToMemory target address => [(toString target).toList, address.value.chars]
  | arithmetic operator type targetKind target operand1 operand2 result =>
    [operator.toList, type.toList, targetKind.toList, target.toList, operand1.value.chars, operand2.value.chars,
      result.toList]

/-- An operation whose texts are plain, whose numbers are words and whose data can be written. -/
def Operation.IsWritable : Operation → Prop
  | compare left right result => Trace.IsPlain left ∧ Trace.IsPlain right ∧ Trace.IsPlain result
  | jump kind address _ => Trace.IsPlain kind ∧ Trace.IsPlain address
  | moveToRegister _ size sourceKind source content =>
    size < wordBound ∧ Trace.IsPlain sourceKind ∧ source.IsWritable ∧ content.IsWritable
  | moveToMemory target size sourceKind source content =>
    target < wordBound ∧ size < wordBound ∧ Trace.IsPlain sourceKind ∧ source.IsWritable ∧ content.IsWritable
  | addressToRegister _ address => address.IsWritable
  | addressToMemory target address => target < wordBound ∧ address.IsWritable
  | arithmetic operator type targetKind target operand1 operand2 result =>
    Trace.IsPlain operator ∧ Trace.IsPlain type ∧ Trace.IsPlain targetKind ∧ Trace.IsPlain target ∧
      operand1.IsWritable ∧ operand2.IsWritable ∧ Trace.IsPlain result

namespace Event

/-- The tag of the line that tells an event. -/
def tag : Event → String
  | memorySize _ => "config"
  | memoryDump _ => "mem"
  | snapshotReady => "data"
  | fetched _ => "fetch"
  | decoded _ => "decode"
  | executed _ => "exec_func"
  | globalFound _ => "found_global"

/-- The record that gives the size of the memory. -/
def memoryRecord (kilobytes : Nat) : List Char :=
  '\x7b' :: (Json.quoted "memorykb" ++ ':' :: ' ' :: ((toString kilobytes).toList ++ ['\x7d']))

/-- The fields of the line that tells an event, behind its tag. -/
def fields : Event → List (List Char)
  | memorySize kilobytes => [memoryRecord kilobytes]
  | memoryDump bytes => bytes.map (fun b => (toString b.toNat).toList)
  | snapshotReady => []
  | fetched f =>
    [(toString f.pc).toList, f.opcode.toList, f.opbyte.toList, f.operand1.value.chars, f.operand2.value.chars]
  | decoded name => [name.toList]
  | executed operation => operation.name.toList :: operation.fields
  | globalFound g => [Json.chars (.list [.text g.name, .text g.type, g.initial.value])]

/-- The line that tells an event. -/
def line (e : Event) : List Char := Text.join ' ' (e.tag.toList :: e.fields)

/-- An event that can be written as a line: its texts are plain, its numbers are words, its memory is not too large, and its
data lose nothing. The name and the type of a global variable may be any strings. -/
def IsWritable : Event → Prop
  | memorySize kilobytes => kilobytes ≤ Machine.greatestKilobytes
  | memoryDump _ => True
  | snapshotReady => True
  | fetched f => f.pc < wordBound ∧ Trace.IsPlain f.opcode ∧ Trace.IsPlain f.opbyte ∧ f.operand1.IsWritable ∧
      f.operand2.IsWritable
  | decoded name => Trace.IsPlain name
  | executed operation => operation.IsWritable
  | globalFound g => g.initial.IsWritable

end Event

namespace Trace

/-- The trace that tells the events, a line each. -/
def written (events : List Event) : String := String.ofList (Text.join '\n' (events.map Event.line))

/-! ## Fields read back -/

namespace WritingAux

variable {n : Nat} {d : Datum}

theorem ok_bind {ε α β : Type} (x : α) (f : α → Except ε β) : (Except.ok x >>= f) = f x := rfl

theorem nextField_run (tag name : String) (s : List Char) (rest : List (List Char)) :
    (nextField tag name).run (s :: rest) = .ok (s, rest) := rfl

theorem textField_run (tag name s : String) (rest : List (List Char)) :
    (textField tag name).run (s.toList :: rest) = .ok (s, rest) := by
  rw [textField, StateT.run_bind, nextField_run, ok_bind, String.ofList_toList]
  rfl

theorem wordField_run (h : n < wordBound) (tag name : String) (rest : List (List Char)) :
    (wordField tag name).run ((toString n).toList :: rest) = .ok (n, rest) := by
  have hread : Text.readNatural wordBound (toString n).toList = some n := by
    rw [Text.toList_toString]
    exact Text.readNatural_toDigits h
  rw [wordField, StateT.run_bind, nextField_run, ok_bind, hread]
  rfl

theorem jsonField_run (h : d.IsWritable) (tag name : String) (rest : List (List Char)) :
    (jsonField tag name).run (d.value.chars :: rest) = .ok (d, rest) := by
  have hread : Json.parse d.value.chars = .ok d.value := Json.parse_chars (h.mono (by decide))
  rw [jsonField, StateT.run_bind, nextField_run, ok_bind, hread]
  rfl

theorem ofName?_name (r : Register) : Register.ofName? r.name = some r := by
  cases r <;> rfl

theorem registerField_run (r : Register) (tag name : String) (rest : List (List Char)) :
    (registerField tag name).run (r.name.toList :: rest) = .ok (r, rest) := by
  rw [registerField, StateT.run_bind, nextField_run, ok_bind, String.ofList_toList]
  simp only [ofName?_name]
  rfl

theorem toString_beq_true (b : Bool) : (toString b == "true") = b := by
  cases b <;> rfl

end WritingAux

open WritingAux

/-- An operation reads back from its fields. -/
theorem readOperation_run {o : Operation} (h : o.IsWritable) : (readOperation o.name).run o.fields = .ok (some o, []) := by
  cases o with
  | compare left right result =>
    simp only [readOperation, Operation.name, Operation.fields, StateT.run_bind, textField_run, ok_bind, StateT.run_pure]
    rfl
  | jump kind address performed =>
    simp only [readOperation, Operation.name, Operation.fields, StateT.run_bind, textField_run, ok_bind,
      toString_beq_true, StateT.run_pure]
    rfl
  | moveToRegister target size sourceKind source content =>
    obtain ⟨hsize, -, hsource, hcontent⟩ := h
    simp only [readOperation, Operation.name, Operation.fields, StateT.run_bind, registerField_run, wordField_run hsize,
      textField_run, jsonField_run hsource, jsonField_run hcontent, ok_bind, StateT.run_pure]
    rfl
  | moveToMemory target size sourceKind source content =>
    obtain ⟨htarget, hsize, -, hsource, hcontent⟩ := h
    simp only [readOperation, Operation.name, Operation.fields, StateT.run_bind, wordField_run htarget,
      wordField_run hsize, textField_run, jsonField_run hsource, jsonField_run hcontent, ok_bind, StateT.run_pure]
    rfl
  | addressToRegister target address =>
    have haddress : address.IsWritable := h
    simp only [readOperation, Operation.name, Operation.fields, StateT.run_bind, registerField_run,
      jsonField_run haddress, ok_bind, StateT.run_pure]
    rfl
  | addressToMemory target address =>
    obtain ⟨htarget, haddress⟩ := h
    simp only [readOperation, Operation.name, Operation.fields, StateT.run_bind, wordField_run htarget,
      jsonField_run haddress, ok_bind, StateT.run_pure]
    rfl
  | arithmetic operator type targetKind target operand1 operand2 result =>
    obtain ⟨-, -, -, -, hoperand1, hoperand2, -⟩ := h
    simp only [readOperation, Operation.name, Operation.fields, StateT.run_bind, textField_run,
      jsonField_run hoperand1, jsonField_run hoperand2, ok_bind, StateT.run_pure]
    rfl

/-- A fetch reads back from its fields. -/
theorem readFetch_run {f : Fetch} (h : (Event.fetched f).IsWritable) :
    readFetch.run (Event.fetched f).fields = .ok (f, []) := by
  obtain ⟨hpc, -, -, hoperand1, hoperand2⟩ := h
  simp only [readFetch, Event.fields, StateT.run_bind, textField_run, wordField_run hpc, jsonField_run hoperand1,
    jsonField_run hoperand2, ok_bind, StateT.run_pure]
  rfl

/-- Bytes read back from their numerals, wherever the first of them stands. -/
theorem readDump_numerals (bytes : List UInt8) (offset : Nat) :
    readDump offset (bytes.map (fun b => (toString b.toNat).toList)) = .ok bytes := by
  induction bytes generalizing offset with
  | nil => rfl
  | cons b bytes ih =>
    have hread : Text.readNatural 256 (toString b.toNat).toList = some b.toNat := by
      rw [Text.toList_toString]
      exact Text.readNatural_toDigits b.toNat_lt
    rw [List.map_cons, readDump, hread]
    simp only [ih, ok_bind, UInt8.ofNat_toNat]
    rfl

/-- The size of the memory reads back from its record. -/
theorem readConfig_memoryRecord {n : Nat} (h : n ≤ Machine.greatestKilobytes) :
    readConfig (Event.memoryRecord n) = .ok n := by
  have hend : Json.EndsNumber ['\x7d'] := Json.endsNumber_cons (by decide) []
  have hgap : Json.skipGap (' ' :: ((toString n).toList ++ ['\x7d'])) = (toString n).toList ++ ['\x7d'] :=
    ((Json.starts_toString n).append _).skipGap_blank
  have hread := Json.readBelow_toString (Nat.lt_of_le_of_lt h (by decide)) (Nat.le_refl wordBound) hgap hend
  have hfill : (Json.readBelow wordBound (' ' :: ((toString n).toList ++ ['\x7d']))).map (fun r => (some r.1, r.2)) =
      .ok (some n, ['\x7d']) := by
    rw [hread]
    rfl
  have hentries : ∀ total rounds, Json.readByKey configSlots total (rounds + 2) true none
      (Json.quoted "memorykb" ++ ':' :: ' ' :: ((toString n).toList ++ ['\x7d'])) = .ok (some n, []) := by
    intro total rounds
    rw [Json.readByKey_first rfl rfl hfill, Json.readByKey_close]
  have hrecord : ∀ rounds,
      Json.readRecord (rounds + 2) Json.nestingLimit configSlots none id (Event.memoryRecord n) = .ok (n, []) := by
    intro rounds
    have hopen : Json.skipGap (Event.memoryRecord n) = Event.memoryRecord n := rfl
    rw [Json.readRecord, hopen]
    simp only [Event.memoryRecord, hentries]
    rfl
  have hlength : ∃ rounds, (Event.memoryRecord n).length = rounds + 1 := ⟨_, rfl⟩
  obtain ⟨rounds, hrounds⟩ := hlength
  rw [readConfig, Json.readAll, hrounds, hrecord]
  exact if_pos h

/-- A global variable is written as a list, one level more than its initial value has. -/
theorem isExact_global {g : Global} (h : g.initial.IsWritable) :
    Json.Exact 127 (.list [.text g.name, .text g.type, g.initial.value]) := by
  refine .list ?_
  simp only [List.forall_mem_cons]
  exact ⟨.text g.name, .text g.type, h, nofun⟩

/-- A global variable reads back from the list of its name, its type and its initial value. -/
theorem readGlobal_chars {g : Global} (h : g.initial.IsWritable) :
    readGlobal (Json.chars (.list [.text g.name, .text g.type, g.initial.value])) = .ok g := by
  have hend : Json.EndsNumber [']'] := Json.endsNumber_cons (by decide) []
  have hitems : Json.chars (.list [.text g.name, .text g.type, g.initial.value]) =
      '[' :: (Json.quoted g.name ++ ',' :: (Json.quoted g.type ++ ',' :: (g.initial.value.chars ++ [']']))) := by
    simp [Json.chars, Json.itemChars]
  have hname := Json.nextItem_first ((Json.starts_quoted g.name).append
    (',' :: (Json.quoted g.type ++ ',' :: (g.initial.value.chars ++ [']']))))
  have htype := Json.nextItem_comma ((Json.starts_quoted g.type).append (',' :: (g.initial.value.chars ++ [']'])))
  have hinitial := Json.nextItem_comma (h.starts.append [']'])
  have hread : ∀ rounds, g.initial.value.chars.length ≤ rounds → readGlobalFields rounds
      ('[' :: (Json.quoted g.name ++ ',' :: (Json.quoted g.type ++ ',' :: (g.initial.value.chars ++ [']'])))) =
        .ok (g, []) := by
    intro rounds hrounds
    have hvalue : Json.readValue rounds (Json.nestingLimit - 1) (g.initial.value.chars ++ [']']) =
        .ok (g.initial.value, [']']) := Json.readValue_chars h hrounds hend
    have hopen : ∀ s, Json.skipGap ('[' :: s) = '[' :: s := fun _ => rfl
    rw [readGlobalFields, hopen]
    simp only [Json.readInOrder, hname, htype, hinitial, ok_bind, Json.readText_quoted, Except.map, hvalue]
    rfl
  rw [readGlobal, hitems, Json.readAll, hread]
  · rfl
  · simp only [List.length_cons, List.length_append]
    omega

/-! ## The fields of a written line -/

theorem isField_text {s : String} (h : IsPlain s) : IsField s.toList :=
  isField_of_all (by simpa using h.1) h.2

theorem IsPlain.not_isBlank {s : String} (h : IsPlain s) : ∀ c ∈ s.toList, Text.isBlank c = false :=
  fun c hc => isBlank_of_isPlainChar (List.all_eq_true.1 h.2 c hc)

theorem isPlain_number (n : Nat) : IsPlain (toString n) :=
  ⟨fun h => Json.toString_ne_nil n (congrArg String.toList h), all_isPlainChar_toString n⟩

theorem isField_number (n : Nat) : IsField (toString n).toList := isField_text (isPlain_number n)

theorem isField_register (r : Register) : IsField r.name.toList :=
  isField_text (by cases r <;> decide)

theorem isField_operation {o : Operation} (h : o.IsWritable) : ∀ f ∈ o.fields, IsField f := by
  cases o with
  | compare left right result =>
    obtain ⟨hleft, hright, hresult⟩ := h
    simp only [Operation.fields, List.forall_mem_cons]
    exact ⟨isField_text hleft, isField_text hright, isField_text hresult, nofun⟩
  | jump kind address performed =>
    obtain ⟨hkind, haddress⟩ := h
    have hperformed : IsPlain (toString performed) := by cases performed <;> decide
    simp only [Operation.fields, List.forall_mem_cons]
    exact ⟨isField_text hkind, isField_text haddress, isField_text hperformed, nofun⟩
  | moveToRegister target size sourceKind source content =>
    obtain ⟨-, hkind, hsource, hcontent⟩ := h
    simp only [Operation.fields, List.forall_mem_cons]
    exact ⟨isField_register target, isField_number size, isField_text hkind, isField_chars hsource,
      isField_chars hcontent, nofun⟩
  | moveToMemory target size sourceKind source content =>
    obtain ⟨-, -, hkind, hsource, hcontent⟩ := h
    simp only [Operation.fields, List.forall_mem_cons]
    exact ⟨isField_number target, isField_number size, isField_text hkind, isField_chars hsource,
      isField_chars hcontent, nofun⟩
  | addressToRegister target address =>
    have haddress : address.IsWritable := h
    simp only [Operation.fields, List.forall_mem_cons]
    exact ⟨isField_register target, isField_chars haddress, nofun⟩
  | addressToMemory target address =>
    obtain ⟨-, haddress⟩ := h
    simp only [Operation.fields, List.forall_mem_cons]
    exact ⟨isField_number target, isField_chars haddress, nofun⟩
  | arithmetic operator type targetKind target operand1 operand2 result =>
    obtain ⟨hoperator, htype, htargetKind, htarget, hoperand1, hoperand2, hresult⟩ := h
    simp only [Operation.fields, List.forall_mem_cons]
    exact ⟨isField_text hoperator, isField_text htype, isField_text htargetKind, isField_text htarget,
      isField_chars hoperand1, isField_chars hoperand2, isField_text hresult, nofun⟩

/-- The name of an operation is plain. -/
theorem isPlain_name (o : Operation) : IsPlain o.name := by
  cases o <;> (rw [Operation.name]; decide)

/-- The fields of a fetch. -/
theorem isField_fetched {f : Fetch} (h : (Event.fetched f).IsWritable) : ∀ s ∈ (Event.fetched f).fields, IsField s := by
  obtain ⟨-, hopcode, hopbyte, hoperand1, hoperand2⟩ := h
  simp only [Event.fields, List.forall_mem_cons]
  exact ⟨isField_number f.pc, isField_text hopcode, isField_text hopbyte, isField_chars hoperand1,
    isField_chars hoperand2, nofun⟩

theorem solid_memoryRecord (n : Nat) : Text.IsSolid (Event.memoryRecord n) ∧ '\n' ∉ Event.memoryRecord n := by
  have hparts : Event.memoryRecord n =
      '\x7b' :: ((Json.quoted "memorykb" ++ ':' :: ' ' :: (toString n).toList) ++ ['\x7d']) := by
    rw [Event.memoryRecord, List.append_assoc]
    rfl
  have hkey : '\n' ∉ Json.quoted "memorykb" := (passes_quoted "memorykb").2
  have hnumber : '\n' ∉ (toString n).toList := (isField_number n).passes.2
  refine ⟨hparts ▸ Text.isSolid_between (by decide) (by decide) _, ?_⟩
  simp only [Event.memoryRecord, List.mem_cons, List.mem_append, List.not_mem_nil, hkey, hnumber, or_false, false_or]
  decide

/-- No field of a line begins or ends with white space, and none holds a line feed. -/
theorem fields_solid {e : Event} (h : e.IsWritable) : ∀ s ∈ e.fields, Text.IsSolid s ∧ '\n' ∉ s := by
  have hfield : ∀ {s : List Char}, IsField s → Text.IsSolid s ∧ '\n' ∉ s := fun hs => ⟨hs.solid, hs.passes.2⟩
  intro s hs
  cases e with
  | memorySize kilobytes =>
    rw [List.mem_singleton.1 hs]
    exact solid_memoryRecord kilobytes
  | memoryDump bytes =>
    obtain ⟨b, -, rfl⟩ := List.mem_map.1 hs
    exact hfield (isField_number b.toNat)
  | snapshotReady => cases hs
  | fetched f => exact hfield (isField_fetched h s hs)
  | decoded name =>
    rw [List.mem_singleton.1 hs]
    exact hfield (isField_text h)
  | executed o =>
    rcases List.mem_cons.1 hs with rfl | hs
    · exact hfield (isField_text (isPlain_name o))
    · exact hfield (isField_operation h s hs)
  | globalFound g =>
    rw [List.mem_singleton.1 hs]
    exact hfield (isField_chars (isExact_global h))

/-- The tag of a line is plain. -/
theorem isPlain_tag (e : Event) : IsPlain e.tag := by
  cases e <;> (rw [Event.tag]; decide)

/-! ## Lines -/

/-- An operation reads back from the rest of its line. -/
theorem decodeOperation_fields {o : Operation} (h : o.IsWritable) :
    decodeOperation (Text.join ' ' (o.name.toList :: o.fields)) = .ok (some (.executed o)) := by
  have hname := isPlain_name o
  have hne : o.name.toList.isEmpty = false := by simpa using hname.1
  have hfields := isField_operation h
  have hcut := Text.cutAtBlank_join hname.not_isBlank o.fields
  rw [decodeOperation_eq, hcut, hne, Text.trim_join fun s hs => (hfields s hs).solid, splitFields_join hfields,
    String.ofList_toList, readOperation_run h]
  rfl

/-- An event reads back from the fields behind its tag. -/
theorem decodeTagged_fields {e : Event} (h : e.IsWritable) :
    decodeTagged e.tag (Text.join ' ' e.fields) = .ok (some e) := by
  cases e with
  | memorySize kilobytes =>
    rw [Event.tag, Event.fields, Text.join, decodeTagged, readConfig_memoryRecord h]
    rfl
  | memoryDump bytes =>
    have hwords : Text.words (Text.join ' ' (Event.memoryDump bytes).fields) = (Event.memoryDump bytes).fields := by
      refine Text.words_join fun s hs => ?_
      obtain ⟨b, -, rfl⟩ := List.mem_map.1 hs
      exact ⟨Json.toString_ne_nil b.toNat, (isPlain_number b.toNat).not_isBlank⟩
    rw [Event.tag, decodeTagged, hwords, Event.fields, readDump_numerals]
    rfl
  | snapshotReady => rfl
  | fetched f =>
    rw [Event.tag, decodeTagged, splitFields_join (isField_fetched h), readFetch_run h]
    rfl
  | decoded name =>
    have hsplit : splitFields name.toList = [name.toList] :=
      splitFields_join (List.forall_mem_singleton.2 (isField_text h))
    rw [Event.tag, Event.fields, Text.join, decodeTagged, hsplit, textField_run]
    rfl
  | executed o => exact decodeOperation_fields h
  | globalFound g =>
    rw [Event.tag, Event.fields, Text.join, decodeTagged, readGlobal_chars h]
    rfl

theorem line_solid {e : Event} (h : e.IsWritable) : Text.IsSolid e.line := by
  refine Text.isSolid_join (List.cons_ne_nil _ _) fun s hs => ?_
  rcases List.mem_cons.1 hs with rfl | hs
  · exact (isField_text (isPlain_tag e)).solid
  · exact (fields_solid h s hs).1

/-- What tells an event is one line. -/
theorem not_mem_line {e : Event} (h : e.IsWritable) : '\n' ∉ e.line := by
  refine Text.not_mem_join (by decide) fun s hs => ?_
  rcases List.mem_cons.1 hs with rfl | hs
  · exact (isField_text (isPlain_tag e)).passes.2
  · exact (fields_solid h s hs).2

/-- An event reads back from its line. -/
theorem decodeLine_line {e : Event} (h : e.IsWritable) : decodeLine e.line = .ok (some e) := by
  have hline := line_solid h
  have hne : e.line.isEmpty = false := List.isEmpty_eq_false_iff.2 hline.ne_nil
  have hcut := Text.cutAtBlank_join (isPlain_tag e).not_isBlank e.fields
  rw [decodeLine_eq, hline.trim_eq, hne, Event.line, hcut, String.ofList_toList,
    Text.trim_join fun s hs => (fields_solid h s hs).1]
  exact decodeTagged_fields h

example : String.ofList (Event.fetched ⟨4, "MOV", "0x8b", ⟨.text "a b"⟩, ⟨.list [.null, .null]⟩⟩).line =
    "fetch 4 MOV 0x8b \"a b\" [null,null]" := by decide

/-- The lines of a written trace, when it has any, tell its events one after the other. -/
theorem verdicts_written {events : List Event} (hne : events ≠ []) (h : ∀ e ∈ events, e.IsWritable) :
    verdicts (written events) = events.map .decoded := by
  have hlines : ∀ s ∈ events.map Event.line, '\n' ∉ s := by
    intro s hs
    obtain ⟨e, he, rfl⟩ := List.mem_map.1 hs
    exact not_mem_line (h e he)
  have hpieces := Text.pieces_join (by simpa using hne) hlines
  rw [verdicts, written, String.toList_ofList, hpieces, List.map_map]
  exact List.map_congr_left fun e he => judge_of_event (decodeLine_line (h e he))

theorem foldl_count_decoded (tally : Tally) (events : List Event) :
    (events.map Verdict.decoded).foldl Tally.count tally = { tally with decoded := tally.decoded + events.length } := by
  induction events generalizing tally with
  | nil => rfl
  | cons e events ih =>
    rw [List.map_cons, List.foldl_cons, ih, List.length_cons, Tally.count]
    simp only [Nat.add_assoc, Nat.add_comm 1]

/-- A trace that was written decodes to just the events that were written, each counted as decoded and nothing counted
otherwise. -/
theorem decode_written (tally : Tally) {events : List Event} (h : ∀ e ∈ events, e.IsWritable) :
    decode tally (written events) = (events, { tally with decoded := tally.decoded + events.length }) := by
  cases events with
  | nil => rfl
  | cons e events =>
    rw [decode, verdicts_written (List.cons_ne_nil e events) h, foldl_count_decoded]
    have hevents : ((e :: events).map Verdict.decoded).filterMap Verdict.event? = e :: events := by
      rw [List.filterMap_map]
      exact List.filterMap_some
    rw [hevents]

/-- Events of all kinds, whose strings hold quotes, brackets, line feeds and backslashes, and among whose integers are the
least and the greatest there are. -/
def mixedEvents : List Event :=
  [.memorySize 1, .memoryDump [0, 12, 255], .snapshotReady,
    .fetched ⟨4, "MOV", "0x8b", ⟨.text "a \"b\" ]\n"⟩, ⟨.list [.number (.integer (-9223372036854775808)), .null]⟩⟩,
    .decoded "mov", .executed (.jump "jne" "12" true),
    .executed (.moveToRegister .eax 4 "maddr" ⟨.number (.integer 18446744073709551615)⟩
      ⟨.object [("a", .list []), ("b", .bool false)]⟩),
    .globalFound ⟨"a [ b", "", ⟨.list [.text "\\", .object []]⟩⟩]

theorem decode_written_mixed :
    (∀ e ∈ mixedEvents, e.IsWritable) ∧ decode ⟨3, 1, 2⟩ (written mixedEvents) = (mixedEvents, ⟨11, 1, 2⟩) := by
  have hwritable : ∀ e ∈ mixedEvents, e.IsWritable := by
    simp only [mixedEvents, List.forall_mem_cons]
    refine ⟨(by decide : 1 ≤ Machine.greatestKilobytes), trivial, trivial,
      ⟨by decide, by decide, by decide, .text _, .list ?_⟩, ?_, ?_, ?_, ?_, nofun⟩
    · simp only [List.forall_mem_cons]
      exact ⟨.integer (by decide) (by decide), .null, nofun⟩
    · exact (by decide : IsPlain "mov")
    · exact (by decide : IsPlain "jne" ∧ IsPlain "12")
    · refine ⟨by decide, by decide, .integer (by decide) (by decide), .object (by decide) ?_⟩
      simp only [List.forall_mem_cons]
      exact ⟨.list nofun, .bool false, nofun⟩
    · refine .list ?_
      simp only [List.forall_mem_cons]
      exact ⟨.text _, .object .nil nofun, nofun⟩
  exact ⟨hwritable, decode_written ⟨3, 1, 2⟩ hwritable⟩

end Trace

end TracePlayer
