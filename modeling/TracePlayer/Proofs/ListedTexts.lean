import TracePlayer.Proofs.Writing

/-!
# Fields with listed texts

Some fields of an operation may hold one of a few texts only (`fieldRules`): the result of a comparison, the type of a jump and
whether it was performed, and the source of a move. A line with another text in one of them is refused, by the reader of the line or
by the storyboard. The one exception is whether a jump was performed: there every text but `true` counts as `false`. The main
statement is `unlisted_text_refused_unless_performed`, and `jump_performed_in_capitals` gives a line that is told wrongly.
-/

namespace TracePlayer

namespace Trace

/-! ## The form of operations -/

/-- A field of an operation: its name, and the texts that it may hold, if these are listed. -/
structure FieldRule where
  name : String
  texts : Option (List String)
  deriving DecidableEq, Repr

/-- A field for which no texts are listed. -/
def FieldRule.free (name : String) : FieldRule := ⟨name, none⟩

/-- The fields of an operation in order. -/
def fieldRules : String → List FieldRule
  | "cmp" => [.free "arg1", .free "arg2", ⟨"result", some ["e", "p", "n"]⟩]
  | "jmp" =>
    [⟨"type", some ["always", "e", "ne", "lt", "le", "gt", "ge"]⟩, .free "address", ⟨"performed", some ["true", "false"]⟩]
  | "mov_reg" =>
    [.free "regname", .free "size", ⟨"srctype", some ["reg", "maddr", "immediate"]⟩, .free "srcdata", .free "srccontent"]
  | "mov_mem" =>
    [.free "destaddr", .free "size", ⟨"srctype", some ["reg", "immediate"]⟩, .free "srcdata", .free "srccontent"]
  | "lea_reg" => [.free "regname", .free "addr"]
  | "lea_mem" => [.free "destaddr", .free "addr"]
  | "arithmetic" =>
    [.free "opname", .free "type", .free "desttype", .free "dest", .free "op1", .free "op2", .free "res"]
  | _ => []

/-- The name of the operation that a line tells, and its fields. -/
def operationFields? (line : List Char) : Option (String × List (List Char)) :=
  let (tag, rest) := Text.cutAtBlank (Text.trim line)
  let (name, args) := Text.cutAtBlank (Text.trim rest)
  if String.ofList tag = "exec_func" then some (String.ofList name, splitFields (Text.trim args)) else none

/-- The field of that name holds a text that is not one of those listed for it. -/
def HoldsUnlisted (operation : String) (fields : List (List Char)) (name : String) : Prop :=
  ∃ texts field, (⟨name, some texts⟩, field) ∈ (fieldRules operation).zip fields ∧ String.ofList field ∉ texts

/-- A line comes to nothing: it cannot be decoded, or what it tells cannot be shown. -/
def Refused (line : List Char) : Prop :=
  (∃ fault, decodeLine line = .error fault) ∨
    ∃ event fault, decodeLine line = .ok (some event) ∧ event.storyboard = .error fault

namespace ListedTextsAux

open WritingAux

variable {operation name : String} {line field : List Char} {fields rest more : List (List Char)}

/-! ## Readers that take one field -/

/-- A reader that takes the first field, whatever it makes of it. -/
def TakesOne {α : Type} (r : FieldReader α) : Prop :=
  ∀ field rest, ∃ result : Except LineFault α, r.run (field :: rest) = result.map fun a => (a, rest)

theorem takesOne_wordField (tag name : String) : TakesOne (wordField tag name) := by
  intro field rest
  rw [wordField, StateT.run_bind, nextField_run, ok_bind]
  cases Text.readNatural wordBound field with
  | none => exact ⟨.error _, rfl⟩
  | some n => exact ⟨.ok n, rfl⟩

theorem takesOne_jsonField (tag name : String) : TakesOne (jsonField tag name) := by
  intro field rest
  rw [jsonField, StateT.run_bind, nextField_run, ok_bind]
  cases Json.parse field with
  | error fault => exact ⟨.error _, rfl⟩
  | ok v => exact ⟨.ok ⟨v⟩, rfl⟩

theorem takesOne_registerField (tag name : String) : TakesOne (registerField tag name) := by
  intro field rest
  rw [registerField, StateT.run_bind, nextField_run, ok_bind]
  cases hregister : Register.ofName? (String.ofList field) with
  | none => exact ⟨.error (.unknownRegister (String.ofList field)), by simp only [hregister]; rfl⟩
  | some r => exact ⟨.ok r, by simp only [hregister]; rfl⟩

/-- What comes behind a field that has been read reads the fields behind it. -/
theorem TakesOne.of_bind {α β : Type} {r : FieldReader α} (hr : TakesOne r) {f : α → FieldReader β}
    {result : β × List (List Char)} (h : (r >>= f).run (field :: rest) = .ok result) : ∃ a, (f a).run rest = .ok result := by
  obtain ⟨read, hread⟩ := hr field rest
  rw [StateT.run_bind, hread] at h
  cases read with
  | error fault => cases h
  | ok a => exact ⟨a, h⟩

theorem textField_bind {β : Type} (tag name : String) (f : String → FieldReader β) (field : List Char)
    (rest : List (List Char)) : (textField tag name >>= f).run (field :: rest) = (f (String.ofList field)).run rest := rfl

/-! ## What is read of the fields with listed texts -/

theorem run_compare (left right result : List Char) (more : List (List Char)) :
    (readOperation "cmp").run (left :: right :: result :: more) =
      .ok (some (.compare (String.ofList left) (String.ofList right) (String.ofList result)), more) := rfl

theorem run_jump (kind address performed : List Char) (more : List (List Char)) :
    (readOperation "jmp").run (kind :: address :: performed :: more) =
      .ok (some (.jump (String.ofList kind) (String.ofList address) (String.ofList performed == "true")), more) := rfl

theorem of_run_moveToRegister {target size kind source content : List Char} {result : Option Operation × List (List Char)}
    (h : (readOperation "mov_reg").run (target :: size :: kind :: source :: content :: more) = .ok result) :
    ∃ r n s c, result.1 = some (.moveToRegister r n (String.ofList kind) s c) := by
  obtain ⟨r, h⟩ := (takesOne_registerField _ _).of_bind h
  obtain ⟨n, h⟩ := (takesOne_wordField _ _).of_bind h
  rw [textField_bind] at h
  obtain ⟨s, h⟩ := (takesOne_jsonField _ _).of_bind h
  obtain ⟨c, h⟩ := (takesOne_jsonField _ _).of_bind h
  obtain rfl := Except.ok.inj h
  exact ⟨r, n, s, c, rfl⟩

theorem of_run_moveToMemory {target size kind source content : List Char} {result : Option Operation × List (List Char)}
    (h : (readOperation "mov_mem").run (target :: size :: kind :: source :: content :: more) = .ok result) :
    ∃ a n s c, result.1 = some (.moveToMemory a n (String.ofList kind) s c) := by
  obtain ⟨a, h⟩ := (takesOne_wordField _ _).of_bind h
  obtain ⟨n, h⟩ := (takesOne_wordField _ _).of_bind h
  rw [textField_bind] at h
  obtain ⟨s, h⟩ := (takesOne_jsonField _ _).of_bind h
  obtain ⟨c, h⟩ := (takesOne_jsonField _ _).of_bind h
  obtain rfl := Except.ok.inj h
  exact ⟨a, n, s, c, rfl⟩

/-! ## Operations without a storyboard -/

theorem compare_refused {left right result : String} (h : result ∉ ["e", "p", "n"]) :
    ∃ fault, Storyboard.ofCompare left right result = .error fault := by
  simp only [List.mem_cons, List.not_mem_nil, or_false, not_or] at h
  have hnone : Flag.ofCode? result = none := by
    rw [Flag.ofCode?, List.find?_eq_none]
    intro flag _
    cases flag with
    | equal => simpa [Flag.code] using Ne.symm h.1
    | less => simpa [Flag.code] using Ne.symm h.2.2
    | greater => simpa [Flag.code] using Ne.symm h.2.1
  exact ⟨_, by rw [Storyboard.ofCompare, hnone]⟩

theorem jump_refused {kind address : String} {performed : Bool}
    (h : kind ∉ ["always", "e", "ne", "lt", "le", "gt", "ge"]) :
    ∃ fault, Storyboard.ofJump kind address performed = .error fault := by
  have hnone : Storyboard.jumpCondition? kind = none := by
    simp only [List.mem_cons, List.not_mem_nil, or_false, not_or] at h
    rw [Storyboard.jumpCondition?] <;> simp [h]
  exact ⟨_, by rw [Storyboard.ofJump, hnone]⟩

theorem moveToRegister_refused {r : Register} {n : Nat} {kind : String} {s c : Datum} (h : kind ∉ ["reg", "maddr", "immediate"]) :
    ∃ fault, Storyboard.ofMoveToRegister r n kind s c = .error fault := by
  simp only [List.mem_cons, List.not_mem_nil, or_false, not_or] at h
  refine ⟨.unknown "move source type" kind, ?_⟩
  rw [Storyboard.ofMoveToRegister] <;> simp [h]

theorem moveToMemory_refused {a n : Nat} {kind : String} {s c : Datum} (h : kind ∉ ["reg", "immediate"]) :
    ∃ fault, Storyboard.ofMoveToMemory a n kind s c = .error fault := by
  simp only [List.mem_cons, List.not_mem_nil, or_false, not_or] at h
  refine ⟨.unknown "move source type" kind, ?_⟩
  rw [Storyboard.ofMoveToMemory] <;> simp [h]

/-! ## Lines -/

/-- A line that tells an operation is not blank, and it is decoded by reading its fields. -/
theorem decodeLine_of_fields (h : operationFields? line = some (operation, fields)) (hname : operation ≠ "") :
    Text.trim line ≠ [] ∧ decodeLine line = ((readOperation operation).run fields).map fun r => r.1.map .executed := by
  unfold operationFields? at h
  cases hcut : Text.cutAtBlank (Text.trim line) with
  | mk tag rest =>
    cases hcut' : Text.cutAtBlank (Text.trim rest) with
    | mk word args =>
      simp only [hcut, hcut'] at h
      split at h
      · rename_i htag
        obtain ⟨rfl, rfl⟩ := Prod.mk.inj (Option.some.inj h)
        have hne : Text.trim line ≠ [] := by
          intro hnil
          rw [hnil] at hcut
          obtain ⟨rfl, -⟩ := Prod.mk.inj hcut
          exact absurd htag (by decide)
        have hword : word.isEmpty = false := by
          rw [List.isEmpty_eq_false_iff]
          rintro rfl
          exact hname rfl
        refine ⟨hne, ?_⟩
        rw [decodeLine_eq, List.isEmpty_eq_false_iff.2 hne, if_neg Bool.false_ne_true, hcut, htag]
        change decodeOperation (Text.trim rest) = _
        rw [decodeOperation_eq, hcut', hword, if_neg Bool.false_ne_true]
      · cases h

/-- An operation that cannot be read, or that has no storyboard, makes its line come to nothing. -/
theorem refused_of_run (h : operationFields? line = some (operation, fields)) (hname : operation ≠ "")
    (hrun : ∀ result, (readOperation operation).run fields = .ok result →
      ∃ o fault, result.1 = some o ∧ Storyboard.ofOperation o = .error fault) : Refused line := by
  obtain ⟨-, hdecode⟩ := decodeLine_of_fields h hname
  cases hread : (readOperation operation).run fields with
  | error fault =>
    rw [hread] at hdecode
    exact Or.inl ⟨fault, hdecode⟩
  | ok result =>
    obtain ⟨o, fault, hsome, hstory⟩ := hrun result hread
    rw [hread, Except.map, hsome] at hdecode
    exact Or.inr ⟨.executed o, fault, hdecode, hstory⟩

section Rules

variable {texts : List String} {rules : List FieldRule}

/-- A field for which no texts are listed holds none that is not. -/
theorem mem_zip_free (free : String) (first : List Char) :
    (⟨name, some texts⟩, field) ∈ (FieldRule.free free :: rules).zip (first :: fields) ↔
      (⟨name, some texts⟩, field) ∈ rules.zip fields := by
  simp [FieldRule.free]

theorem mem_zip_listed (listed : String) (allowed : List String) (first : List Char) :
    (⟨name, some texts⟩, field) ∈ (⟨listed, some allowed⟩ :: rules : List FieldRule).zip (first :: fields) ↔
      (name = listed ∧ texts = allowed ∧ field = first) ∨ (⟨name, some texts⟩, field) ∈ rules.zip fields := by
  simp [and_assoc]

end Rules

/-- Which fields have listed texts, one by one. -/
theorem of_holdsUnlisted (h : HoldsUnlisted operation fields name) (hpresent : (fieldRules operation).length ≤ fields.length) :
    (operation = "cmp" ∧ name = "result" ∧ ∃ left right result more, fields = left :: right :: result :: more ∧
      String.ofList result ∉ ["e", "p", "n"]) ∨
    (operation = "jmp" ∧ ∃ kind address performed more, fields = kind :: address :: performed :: more ∧
      (name = "type" ∧ String.ofList kind ∉ ["always", "e", "ne", "lt", "le", "gt", "ge"] ∨
        name = "performed" ∧ String.ofList performed ∉ ["true", "false"])) ∨
    (operation = "mov_reg" ∧ name = "srctype" ∧ ∃ target size kind source content more,
      fields = target :: size :: kind :: source :: content :: more ∧ String.ofList kind ∉ ["reg", "maddr", "immediate"]) ∨
    (operation = "mov_mem" ∧ name = "srctype" ∧ ∃ target size kind source content more,
      fields = target :: size :: kind :: source :: content :: more ∧ String.ofList kind ∉ ["reg", "immediate"]) := by
  obtain ⟨texts, field, hmem, htext⟩ := h
  unfold fieldRules at hmem hpresent
  split at hmem
  case h_1 =>
    match fields, hpresent with
    | left :: right :: result :: more, _ =>
      simp only [mem_zip_free, mem_zip_listed, List.zip_nil_left, List.not_mem_nil, or_false] at hmem
      obtain ⟨rfl, rfl, rfl⟩ := hmem
      exact Or.inl ⟨rfl, rfl, _, _, _, _, rfl, htext⟩
  case h_2 =>
    match fields, hpresent with
    | kind :: address :: performed :: more, _ =>
      simp only [mem_zip_free, mem_zip_listed, List.zip_nil_left, List.not_mem_nil, or_false] at hmem
      refine Or.inr (Or.inl ⟨rfl, _, _, _, _, rfl, ?_⟩)
      rcases hmem with ⟨rfl, rfl, rfl⟩ | ⟨rfl, rfl, rfl⟩
      · exact Or.inl ⟨rfl, htext⟩
      · exact Or.inr ⟨rfl, htext⟩
  case h_3 =>
    match fields, hpresent with
    | target :: size :: kind :: source :: content :: more, _ =>
      simp only [mem_zip_free, mem_zip_listed, List.zip_nil_left, List.not_mem_nil, or_false] at hmem
      obtain ⟨rfl, rfl, rfl⟩ := hmem
      exact Or.inr (Or.inr (Or.inl ⟨rfl, rfl, _, _, _, _, _, _, rfl, htext⟩))
  case h_4 =>
    match fields, hpresent with
    | target :: size :: kind :: source :: content :: more, _ =>
      simp only [mem_zip_free, mem_zip_listed, List.zip_nil_left, List.not_mem_nil, or_false] at hmem
      obtain ⟨rfl, rfl, rfl⟩ := hmem
      exact Or.inr (Or.inr (Or.inr ⟨rfl, rfl, _, _, _, _, _, _, rfl, htext⟩))
  all_goals
    obtain ⟨hrule, -⟩ := List.of_mem_zip hmem
    simp [FieldRule.free] at hrule

/-- A text that is not listed makes a line come to nothing, but for the word that tells whether a jump was performed. -/
theorem refused_of_holdsUnlisted (hfields : operationFields? line = some (operation, fields))
    (hpresent : (fieldRules operation).length ≤ fields.length) (h : HoldsUnlisted operation fields name)
    (hname : name ≠ "performed") : Refused line := by
  rcases of_holdsUnlisted h hpresent with ⟨rfl, rfl, left, right, result, more, rfl, htext⟩ |
    ⟨rfl, kind, address, performed, more, rfl, ⟨rfl, htext⟩ | ⟨rfl, -⟩⟩ |
    ⟨rfl, rfl, target, size, kind, source, content, more, rfl, htext⟩ |
    ⟨rfl, rfl, target, size, kind, source, content, more, rfl, htext⟩
  · refine refused_of_run hfields (by decide) fun result hrun => ?_
    obtain rfl := Except.ok.inj ((run_compare _ _ _ _).symm.trans hrun)
    obtain ⟨fault, hstory⟩ := compare_refused htext
    exact ⟨_, fault, rfl, hstory⟩
  · refine refused_of_run hfields (by decide) fun result hrun => ?_
    obtain rfl := Except.ok.inj ((run_jump _ _ _ _).symm.trans hrun)
    obtain ⟨fault, hstory⟩ := jump_refused htext
    exact ⟨_, fault, rfl, hstory⟩
  · exact absurd rfl hname
  · refine refused_of_run hfields (by decide) fun result hrun => ?_
    obtain ⟨r, n, s, c, hsome⟩ := of_run_moveToRegister hrun
    obtain ⟨fault, hstory⟩ := moveToRegister_refused htext
    exact ⟨_, fault, hsome, hstory⟩
  · refine refused_of_run hfields (by decide) fun result hrun => ?_
    obtain ⟨a, n, s, c, hsome⟩ := of_run_moveToMemory hrun
    obtain ⟨fault, hstory⟩ := moveToMemory_refused htext
    exact ⟨_, fault, hsome, hstory⟩

/-- A jump that is not told with the word `true` is shown as one that was not performed. -/
theorem decodeLine_of_jump {kind address performed : List Char} {condition : String}
    (hfields : operationFields? line = some ("jmp", kind :: address :: performed :: more)) (hword : String.ofList performed ≠ "true")
    (hcondition : Storyboard.jumpCondition? (String.ofList kind) = some condition) :
    ∃ event, decodeLine line = .ok (some event) ∧ (∀ source p, Player.apply source p event = p.enqueue event) ∧
      event.storyboard = .ok [.notify s!"Jump{condition} to {String.ofList address} - not done"] := by
  obtain ⟨-, hdecode⟩ := decodeLine_of_fields hfields (by decide)
  rw [run_jump] at hdecode
  refine ⟨_, hdecode, fun _ _ => rfl, ?_⟩
  have hfalse : (String.ofList performed == "true") = false := by simpa using hword
  change Storyboard.ofJump _ _ _ = _
  rw [Storyboard.ofJump, hcondition, hfalse]
  rfl

end ListedTextsAux

end Trace

namespace Player

open Trace ListedTextsAux

/-- A line that is refused changes one counter of those that tell of faults, and no more than counters. -/
theorem ingest_of_refused (source : SnapshotSource) (p : Player) {line : String} (hline : '\n' ∉ line.toList)
    (hne : Text.trim line.toList ≠ []) (h : Refused line.toList) :
    p.ingest source line = { p with tally := { p.tally with malformed := p.tally.malformed + 1 } } ∨
      p.ingest source line =
        { p with tally := { p.tally with decoded := p.tally.decoded + 1 }, unshown := p.unshown + 1 } := by
  rw [ingest_of_not_mem source p hline]
  rcases h with ⟨fault, hdecode⟩ | ⟨event, fault, hdecode, hstory⟩
  · have hword : ∃ c ∈ line.toList, Text.isBlank c = false := by
      rw [ne_eq, Text.trim_eq_nil_iff] at hne
      simpa using hne
    rw [judge_of_error hword hdecode]
    exact Or.inl rfl
  · rw [judge_of_event hdecode, heed_decoded, apply_of_error hstory]
    exact Or.inr rfl

/-- What becomes of a line without a line feed that tells an operation, with all its fields there, one of which holds a text that
is not listed for it.
1. If this is not the word that tells whether a jump was performed, the line is refused: it cannot be decoded, or what it tells
   has no storyboard. No step is added, and exactly one of the counters of malformed lines and of events that could not be shown
   grows, by one.
2. If it is that word, the line is decoded whatever the word is. Where the type of the jump is one of those listed, a step is added
   to the backlog, which says that the jump was not performed. -/
theorem unlisted_text_refused_unless_performed (source : SnapshotSource) (p : Player) {line operation name : String}
    {fields : List (List Char)} (hline : '\n' ∉ line.toList) (hfields : operationFields? line.toList = some (operation, fields))
    (hpresent : (fieldRules operation).length ≤ fields.length) (h : HoldsUnlisted operation fields name) :
    (name ≠ "performed" → Refused line.toList ∧
      (p.ingest source line = { p with tally := { p.tally with malformed := p.tally.malformed + 1 } } ∨
        p.ingest source line =
          { p with tally := { p.tally with decoded := p.tally.decoded + 1 }, unshown := p.unshown + 1 })) ∧
    (name = "performed" → ∃ kind address performed more, operation = "jmp" ∧ fields = kind :: address :: performed :: more ∧
      ∀ condition, Storyboard.jumpCondition? (String.ofList kind) = some condition →
        p.ingest source line =
          { p with
            tally := { p.tally with decoded := p.tally.decoded + 1 }
            backlog := p.backlog.extend [.notify s!"Jump{condition} to {String.ofList address} - not done"] }) := by
  refine ⟨fun hname => ?_, fun hname => ?_⟩
  · have hrefused := refused_of_holdsUnlisted hfields hpresent h hname
    have hoperation : operation ≠ "" := by
      rintro rfl
      obtain ⟨texts, field, hmem, -⟩ := h
      exact absurd hmem (by simp [fieldRules])
    exact ⟨hrefused, ingest_of_refused source p hline (decodeLine_of_fields hfields hoperation).1 hrefused⟩
  · subst hname
    rcases of_holdsUnlisted h hpresent with ⟨-, hname, -⟩ |
      ⟨rfl, kind, address, performed, more, rfl, ⟨hname, -⟩ | ⟨-, htext⟩⟩ | ⟨-, hname, -⟩ | ⟨-, hname, -⟩
    · exact absurd hname (by decide)
    · exact absurd hname (by decide)
    · refine ⟨kind, address, performed, more, rfl, rfl, fun condition hcondition => ?_⟩
      have hword : String.ofList performed ≠ "true" := fun heq => htext (by rw [heq]; decide)
      obtain ⟨event, hdecode, happly, hstory⟩ := decodeLine_of_jump hfields hword hcondition
      rw [ingest_of_not_mem source p hline, judge_of_event hdecode, heed_decoded, happly, enqueue, hstory]
      rfl
    · exact absurd hname (by decide)
    · exact absurd hname (by decide)

/-- The kinds of sources are written in small letters: a source named in capitals is refused, by the storyboard and not by the
reader of the line. -/
theorem unlisted_text_refused_unless_performed_capitals :
    HoldsUnlisted "mov_mem" (["40", "2", "REG", "\"eax\"", "[1,2]"].map String.toList) "srctype" ∧
      Refused "exec_func mov_mem 40 2 REG \"eax\" [1,2]".toList ∧
      initial.ingest (fun _ => .error (.unreadable "" .notFound)) "exec_func mov_mem 40 2 REG \"eax\" [1,2]" =
        { initial with tally := { initial.tally with decoded := 1 }, unshown := 1 } := by
  have hunlisted : HoldsUnlisted "mov_mem" (["40", "2", "REG", "\"eax\"", "[1,2]"].map String.toList) "srctype" :=
    ⟨["reg", "immediate"], "REG".toList, by decide, by decide⟩
  have hline : '\n' ∉ "exec_func mov_mem 40 2 REG \"eax\" [1,2]".toList := by decide
  obtain ⟨hrefused, hmalformed | hunshown⟩ :=
    (unlisted_text_refused_unless_performed (fun _ => .error (.unreadable "" .notFound)) initial hline (by decide +kernel)
      (by decide) hunlisted).1 (by decide)
  · have hcount := congrArg (fun q => q.tally.malformed) hmalformed
    exact absurd hcount (by decide +kernel)
  · exact ⟨hunlisted, hrefused, hunshown⟩

/-- A jump that was performed, but told so in capitals, is shown as one that was not: the word is not one of those listed for the
field, yet the line is no malformed one, and it adds a step. -/
theorem jump_performed_in_capitals :
    operationFields? "exec_func jmp always 100 True".toList =
        some ("jmp", ["always".toList, "100".toList, "True".toList]) ∧
      HoldsUnlisted "jmp" ["always".toList, "100".toList, "True".toList] "performed" ∧
      ¬ Refused "exec_func jmp always 100 True".toList ∧
      initial.ingest (fun _ => .error (.unreadable "" .notFound)) "exec_func jmp always 100 True" =
        { initial with
          tally := { initial.tally with decoded := 1 }
          backlog := initial.backlog.extend [.notify "Jump to 100 - not done"] } := by
  have hfields : operationFields? "exec_func jmp always 100 True".toList =
      some ("jmp", ["always".toList, "100".toList, "True".toList]) := by decide +kernel
  have hcondition : Storyboard.jumpCondition? (String.ofList "always".toList) = some "" := rfl
  obtain ⟨event, hdecode, happly, hstory⟩ := decodeLine_of_jump hfields (by decide) hcondition
  refine ⟨hfields, ⟨["true", "false"], "True".toList, by decide, by decide⟩, ?_, ?_⟩
  · rintro (⟨fault, hfault⟩ | ⟨other, fault, hother, hfault⟩)
    · rw [hdecode] at hfault
      cases hfault
    · obtain rfl := Option.some.inj (Except.ok.inj (hdecode.symm.trans hother))
      rw [hstory] at hfault
      cases hfault
  · rw [ingest_of_not_mem _ _ (by decide), judge_of_event hdecode, heed_decoded, happly, enqueue, hstory]
    rfl

end Player

end TracePlayer
