import TracePlayer.Regex.Part
import TracePlayer.Text.Alphanumeric
import TracePlayer.Text.Numeral

/-!
# Reading a regular expression

The patterns that are read here stand between braces and commas, so a pattern holds neither a closing brace nor a comma, and
whatever is opened by a brace in it stays open. A flag makes white space and comments mean nothing; they are called gaps.

Loops recur on a number of rounds, for which the length of the rest is enough, since every round reads a character.
-/

namespace TracePlayer.Regex

/-- Where the reading of a pattern stands. -/
structure Reading where
  rest : List Char
  place : Place
  /-- Whether gaps are passed over. -/
  spaced : Bool
  /-- Whether what stands in front can be repeated. -/
  repeatable : Bool
  /-- The groups that are open, the innermost first: where each starts, and whether gaps are passed over in front of it. -/
  groups : List (Span × Bool)
  /-- The names of groups. -/
  names : List (List Char × Span)
  /-- The parts that have been read, the latest first. -/
  parts : List Part

/-- Readers of a pattern. -/
abbrev Reader := StateT Reading (Except Fault)

/-- The reading of a pattern before its first character. -/
def Reading.initial (pattern : List Char) : Reading := ⟨pattern, .first, false, false, [], [], []⟩

/-! ## Characters and gaps -/

/-- The next character. -/
def next? : Reader (Option Char) := return (← get).rest.head?

/-- Where the next character stands. -/
def place : Reader Place := return (← get).place

/-- The stretch of the next character, which is empty at the end. -/
def nextSpan : Reader Span := do
  let s ← get
  return ⟨s.place, (s.rest.head?.map s.place.after).getD s.place⟩

/-- Reads a character. -/
def advance : Reader Unit :=
  modify fun s =>
    match s.rest with
    | [] => s
    | c :: rest => { s with rest := rest, place := s.place.after c }

/-- Passes over white space and comments, given the place where the text starts, and whether it starts in a comment. -/
def skipFrom (inComment : Bool) (place : Place) : List Char → List Char × Place
  | [] => ([], place)
  | c :: rest =>
    if inComment then skipFrom (c != '\n') (place.after c) rest
    else if c = '#' then skipFrom true (place.after c) rest
    else if Text.isBlank c then skipFrom false (place.after c) rest
    else (c :: rest, place)

/-- Passes over a gap. -/
def skipGap : Reader Unit :=
  modify fun s =>
    if s.spaced then
      let (rest, place) := skipFrom false s.place s.rest
      { s with rest := rest, place := place }
    else s

/-- Reads a character and passes over the gap behind it. -/
def advanceOverGap : Reader Unit := do
  advance
  skipGap

/-- Breaks off at a span. -/
def fail {α : Type} (cause : SyntaxCause) (span : Span) : Reader α := throw (.unreadable cause span)

/-- Breaks off at the span from a place to here. -/
def failFrom {α : Type} (cause : SyntaxCause) (first : Place) : Reader α := do
  let last ← place
  fail cause ⟨first, last⟩

/-- Breaks off here. -/
def failHere {α : Type} (cause : SyntaxCause) : Reader α := do
  let here ← place
  fail cause ⟨here, here⟩

/-- Breaks off at the span from a place to here if nothing follows. -/
def requireMore (cause : SyntaxCause) (first : Place) : Reader Unit := do
  if (← get).rest.isEmpty then failFrom cause first

/-- Adds a part. -/
def emit (part : Part) : Reader Unit := modify fun s => { s with parts := part :: s.parts }

/-- Says whether what has been read can be repeated. -/
def setRepeatable (repeatable : Bool) : Reader Unit := modify fun s => { s with repeatable := repeatable }

/-- Reads characters by steps as long as they have a property. -/
def takeRounds (step : Reader Unit) (holds : Char → Bool) : Nat → Reader (List Char)
  | 0 => return []
  | rounds + 1 => do
    match ← next? with
    | none => return []
    | some c =>
      if holds c then
        step
        return c :: (← takeRounds step holds rounds)
      else return []

/-- Reads characters by steps as long as they have a property. -/
def takeAll (step : Reader Unit) (holds : Char → Bool) : Reader (List Char) := do
  takeRounds step holds (← get).rest.length

/-- Reads so many characters. -/
def advanceBy (count : Nat) : Reader Unit := do
  let _ ← takeRounds advance (fun _ => true) count

/-! ## Escapes -/

/-- Reads so many hexadecimal digits, given the value of those before them. -/
def readHexDigits : Nat → Nat → Reader Nat
  | 0, value => return value
  | digits + 1, value => do
    match ← next? with
    | none => failHere .escapeEnds
    | some c =>
      match Text.hexDigit? c with
      | none => fail .escapeHexInvalidDigit (← nextSpan)
      | some d =>
        advanceOverGap
        readHexDigits digits (16 * value + d)

/-- Reads a character that is written as its number, behind the letter that tells how many digits the number has. -/
def readHex (first : Place) (digits : Nat) : Reader Item := do
  advanceOverGap
  match ← next? with
  | none => failHere .escapeEnds
  | some c =>
    let start ← place
    if c = '\x7b' then
      advanceOverGap
      let _ ← takeAll advanceOverGap (fun d => (Text.hexDigit? d).isSome)
      requireMore .escapeEnds start
      fail .escapeHexInvalidDigit (← nextSpan)
    else
      let value ← readHexDigits digits 0
      if value.isValidChar then return .letter ⟨Char.ofNat value, digits == 2, ⟨first, ← place⟩⟩
      else failFrom .escapeHexInvalid start

/-- Reads a property of characters, of which only those with a name of one letter are closed. -/
def readProperty (first : Place) : Reader Item := do
  advanceOverGap
  match ← next? with
  | none => failHere .escapeEnds
  | some c =>
    if c = '\x7b' then
      let _ ← takeAll advance (fun _ => true)
      failHere .escapeEnds
    else if c = '\\' then fail .propertyInvalid (← nextSpan)
    else
      advanceOverGap
      return .property ⟨first, ← place⟩

/-- Breaks off at a brace behind a boundary of words that starts a name. Any other brace starts a number of repetitions. -/
def refuseBoundaryName (first : Place) : Reader Unit := do
  let s ← get
  if s.rest.head? = some '\x7b' then
    advanceOverGap
    requireMore .boundaryNameEnds first
    let name ← takeAll advanceOverGap (fun c => c.isAlpha || c == '-')
    if name.isEmpty then set s else failFrom .boundaryNameUnclosed s.place

/-- The character that a letter stands for behind a backslash. -/
def escapeValue? (c : Char) : Option Char :=
  match c with
  | 'a' => some '\x07'
  | 'f' => some '\x0c'
  | 't' => some '\t'
  | 'n' => some '\n'
  | 'r' => some '\r'
  | 'v' => some '\x0b'
  | _ => none

/-- Whether a character stands for itself behind a backslash. -/
def isEscapable (c : Char) : Bool := c.toNat < 0x80 && !c.isAlphanum && c != '<' && c != '>'

/-- Reads what is written as a backslash and one character. -/
def readShortEscape (first : Place) (c : Char) : Reader Item := do
  advance
  let span : Span := ⟨first, ← place⟩
  if isEscapable c then return .letter ⟨c, false, span⟩
  else
    match escapeValue? c with
    | some value => return .letter ⟨value, false, span⟩
    | none =>
      if c = 'A' ∨ c = 'z' then return .condition false span
      else if c = 'B' ∨ c = '<' ∨ c = '>' then return .condition true span
      else if c = 'b' then
        refuseBoundaryName first
        return .condition true span
      else fail .escapeUnrecognized span

/-- Reads an escape. -/
def readEscape : Reader Item := do
  let first ← place
  advance
  match ← next? with
  | none => failFrom .escapeEnds first
  | some c =>
    if c.isDigit then fail .backreference (Span.through ⟨first, first⟩ (← nextSpan))
    else if c = 'x' then readHex first 2
    else if c = 'u' then readHex first 4
    else if c = 'U' then readHex first 8
    else if c = 'p' ∨ c = 'P' then readProperty first
    else if ['d', 's', 'w', 'D', 'S', 'W'].contains c then
      advance
      return .shorthand c.isUpper ⟨first, ← place⟩
    else readShortEscape first c

/-- Reads a character that stands for itself. -/
def readLetter (c : Char) : Reader Letter := do
  let span ← nextSpan
  advance
  return ⟨c, false, span⟩

/-! ## Classes -/

/-- The start of a class: a bracket with what belongs to it, and whether the class holds all other characters. -/
structure Opening where
  span : Span
  negated : Bool

/-- Reads the dashes at the start of a class, which stand for themselves, and tells whether there are any. -/
def readDashes (first : Place) : Nat → Bool → Reader Bool
  | 0, found => return found
  | rounds + 1, found => do
    if (← next?) = some '-' then
      let dash ← readLetter '-'
      skipGap
      emit (.range dash dash)
      if (← get).rest.isEmpty then fail .classUnclosed ⟨first, first⟩
      readDashes first rounds true
    else return found

/-- Reads the start of a class. A bracket that would close it there stands for itself. -/
def openClass : Reader Opening := do
  emit .classStart
  let first ← place
  advanceOverGap
  requireMore .classUnclosed first
  let negated := (← next?) = some '^'
  if negated then
    advanceOverGap
    requireMore .classUnclosed first
  let dashes ← readDashes first (← get).rest.length false
  if !dashes && (← next?) = some ']' then
    let bracket ← readLetter ']'
    skipGap
    emit (.range bracket bracket)
    requireMore .classUnclosed first
  return ⟨⟨first, ← place⟩, negated⟩

/-- The classes that have a name. -/
def classNames : List String :=
  ["alnum", "alpha", "ascii", "blank", "cntrl", "digit", "graph", "lower", "print", "punct", "space", "upper", "word", "xdigit"]

/-- Reads a class by its name, unless none stands here. -/
def readNamed : Reader Bool := do
  let s ← get
  let (negated, marks, text) := match s.rest with
    | '[' :: ':' :: '^' :: text => (true, 3, text)
    | _ :: _ :: text => (false, 2, text)
    | _ => (false, 0, [])
  let name := text.takeWhile (· != ':')
  if s.rest.take 2 == ['[', ':'] && (text.drop name.length).take 2 == [':', ']'] &&
      classNames.any (fun n => n.toList == name) then
    advanceBy (marks + name.length + 2)
    emit (.named negated ⟨s.place, ← place⟩)
    return true
  else return false

/-- Reads an item of a class. -/
def readItem (c : Char) : Reader Item := do
  if c = '\\' then readEscape else return .letter (← readLetter c)

/-- Adds an item of a class that is no end of a range. -/
def emitItem : Item → Reader Unit
  | .letter l => emit (.range l l)
  | .condition _ span => fail .classEscapeInvalid span
  | i => emit (.item i)

/-- Adds a range between two items. -/
def emitRange (first last : Item) : Reader Unit :=
  match first, last with
  | .letter a, .letter b =>
    if b.value < a.value then fail .classRangeInvalid (a.span.through b.span) else emit (.range a b)
  | .letter _, i => fail .classRangeLiteral i.span
  | i, _ => fail .classRangeLiteral i.span

/-- The character behind the next one; behind the gap there, too, if gaps are passed over, but not behind a second comment. -/
def Reading.second? (s : Reading) : Option Char :=
  let behind := s.rest.drop 1
  if s.spaced then
    match behind.dropWhile Text.isBlank with
    | '#' :: comment => (comment.dropWhile Text.isBlank).head?
    | others => others.head?
  else behind.head?

/-- Reads an item or a range of a class. A dash with a bracket or another dash behind it makes no range. -/
def readRange (opening : Opening) (c : Char) : Reader Unit := do
  let first ← readItem c
  skipGap
  let s ← get
  match s.rest with
  | [] => fail .classUnclosed opening.span
  | d :: _ =>
    if d ≠ '-' ∨ s.second? = some ']' ∨ s.second? = some '-' then emitItem first
    else
      advanceOverGap
      match ← next? with
      | none => fail .classUnclosed opening.span
      | some e => emitRange first (← readItem e)

/-- Whether two characters are a mark between two sets. -/
def isOperator (c d : Char) : Bool := c == d && (c == '&' || c == '-' || c == '~')

/-- Reads the rest of the classes that are open, given their starts, the innermost first. -/
def readClasses : Nat → List Opening → Reader Unit
  | 0, _ => return ()
  | _, [] => return ()
  | rounds + 1, opening :: outer => do
    skipGap
    let s ← get
    match s.rest with
    | [] => fail .classUnclosed opening.span
    | c :: rest =>
      if c = '[' then
        if ← readNamed then readClasses rounds (opening :: outer)
        else
          let inner ← openClass
          readClasses rounds (inner :: opening :: outer)
      else if c = ']' then
        advance
        emit (.classEnd opening.negated ⟨opening.span.first, ← place⟩)
        readClasses rounds outer
      else if (rest.head?.map (isOperator c)).getD false then
        advance
        advance
        emit .operator
        readClasses rounds (opening :: outer)
      else
        readRange opening c
        readClasses rounds (opening :: outer)

/-- Reads a class. -/
def readClass : Reader Unit := do
  let rounds := (← get).rest.length
  let opening ← openClass
  readClasses rounds [opening]

/-! ## Groups -/

/-- Whether a character can stand in the name of a group, and at its start. -/
def isNameChar (c : Char) (atStart : Bool) : Bool :=
  c == '_' || (Text.isAlphanumeric c && !(atStart && c.isDigit)) || (!atStart && ['.', '[', ']'].contains c)

/-- Reads the name of a group and the mark behind it. -/
def readName : Reader Unit := do
  let first ← place
  requireMore .groupNameEnds first
  let initial ← takeRounds advance (fun c => isNameChar c true) 1
  let others ← if initial.isEmpty then pure [] else takeAll advance (fun c => isNameChar c false)
  let last ← place
  match ← next? with
  | none => failHere .groupNameEnds
  | some c =>
    if c ≠ '>' then fail .groupNameInvalid (← nextSpan)
    else
      advance
      let name := initial ++ others
      let names := (← get).names
      if name.isEmpty then fail .groupNameEmpty ⟨first, first⟩
      match names.find? (fun n => n.1 == name) with
      | some n => fail (.groupNameDuplicate n.2) ⟨first, last⟩
      | none => modify fun s => { s with names := (name, ⟨first, last⟩) :: names }

/-- The letters of flags, and the dash in front of those that are taken away. -/
def flagMarks : List Char := ['-', 'i', 'm', 's', 'U', 'u', 'R', 'x']

/-- Reads flags up to the mark behind them, given those that have been read, the latest first. -/
def readFlags : Nat → List FlagMark → Reader (List FlagMark)
  | 0, marks => return marks.reverse
  | rounds + 1, marks => do
    let c := (← next?).getD ')'
    let span ← nextSpan
    if c = ':' ∨ c = ')' then
      match marks with
      | ⟨'-', dash⟩ :: _ => fail .flagDanglingNegation dash
      | _ => return marks.reverse
    else if !flagMarks.contains c then fail .flagUnrecognized span
    else
      match marks.find? (fun m => m.mark == c) with
      | some m => fail (if c = '-' then .flagRepeatedNegation m.span else .flagDuplicate m.span) span
      | none =>
        advance
        let here ← place
        requireMore .flagsEnd here
        readFlags rounds (⟨c, span⟩ :: marks)

/-- Enters a group, given its parenthesis and its flags. -/
def enterGroup (opening : Span) (marks : List FlagMark) : Reader Unit := do
  emit (.groupStart marks)
  modify fun s =>
    { s with
      groups := (opening, s.spaced) :: s.groups
      spaced := (flagState marks 'x').getD s.spaced
      repeatable := false }

/-- Reads flags, and enters the group that they belong to unless they are for the group around them. -/
def readFlagged (opening : Span) : Reader Unit := do
  let question ← place
  advance
  if (← get).rest.isEmpty then fail .groupUnclosed opening
  let marks ← readFlags ((← get).rest.length + 1) []
  let mark ← next?
  advance
  if mark = some ')' then
    if marks.isEmpty then fail .repetitionMissing ⟨question, question⟩
    emit (.flags marks)
    modify fun s => { s with spaced := (flagState marks 'x').getD s.spaced, repeatable := false }
  else enterGroup opening marks

/-- Reads the start of a group. -/
def openGroup : Reader Unit := do
  let opening ← nextSpan
  advanceOverGap
  match (← get).rest with
  | '?' :: '<' :: '!' :: _ =>
    advanceBy 3
    failFrom .lookAround opening.first
  | '?' :: '!' :: _ =>
    advanceBy 2
    failFrom .lookAround opening.first
  | '?' :: 'P' :: '<' :: _ =>
    advanceBy 3
    readName
    enterGroup opening []
  | '?' :: '<' :: _ =>
    advanceBy 2
    readName
    enterGroup opening []
  | '?' :: _ => readFlagged opening
  | _ => enterGroup opening []

/-- Reads the end of a group. -/
def closeGroup : Reader Unit := do
  match (← get).groups with
  | [] => fail .groupUnopened (← nextSpan)
  | (_, spaced) :: outer =>
    advance
    emit .groupEnd
    modify fun s => { s with groups := outer, spaced := spaced, repeatable := true }

/-! ## Patterns -/

/-- Breaks off if there is nothing to be repeated. -/
def requireRepeatable : Reader Unit := do
  if !(← get).repeatable then failHere .repetitionMissing

/-- Reads a mark that repeats what stands in front of it, and the question mark that may follow. -/
def readRepetition : Reader Unit := do
  requireRepeatable
  advance
  if (← next?) = some '?' then advance

/-- Breaks off at a number of repetitions, which is never closed. -/
def refuseCount : Reader Unit := do
  requireRepeatable
  let brace ← place
  advanceOverGap
  requireMore .repetitionCountUnclosed brace
  let _ ← takeAll advance Text.isBlank
  let first ← place
  let digits ← takeAll advanceOverGap Char.isDigit
  let last ← place
  let _ ← takeAll advanceOverGap Text.isBlank
  requireMore .repetitionCountUnclosed brace
  match Text.digits? digits with
  | none => fail .repetitionCountEmpty ⟨first, last⟩
  | some n => if n < 0x100000000 then failFrom .repetitionCountUnclosed brace else fail .decimalInvalid ⟨first, last⟩

/-- Reads a part that starts with a character. -/
def readPart (c : Char) : Reader Unit := do
  match c with
  | '(' => openGroup
  | ')' => closeGroup
  | '?' => readRepetition
  | '*' => readRepetition
  | '+' => readRepetition
  | '\x7b' => refuseCount
  | '|' =>
    advance
    setRepeatable false
  | '[' =>
    readClass
    setRepeatable true
  | '.' =>
    emit (.any (← nextSpan))
    advance
    setRepeatable true
  | '\\' =>
    emit (.item (← readEscape))
    setRepeatable true
  | _ =>
    let letter ← readLetter c
    if c ≠ '^' ∧ c ≠ '$' then emit (.item (.letter letter))
    setRepeatable true

/-- Reads parts to the end. -/
def readParts : Nat → Reader Unit
  | 0 => return ()
  | rounds + 1 => do
    skipGap
    match ← next? with
    | some c =>
      readPart c
      readParts rounds
    | none =>
      match (← get).groups with
      | [] => return ()
      | (opening, _) :: _ => fail .groupUnclosed opening

/-- The parts of a pattern. -/
def parts (pattern : List Char) : Except Fault (List Part) :=
  ((readParts (pattern.length + 1)).run (.initial pattern)).map (fun r => r.2.parts.reverse)

end TracePlayer.Regex
