import TracePlayer.Text.Blank

/-!
# What is wrong with a regular expression

A pattern that cannot be read breaks a rule of the notation at a span of its text. A pattern that is read may still say what no
matcher can be built for: classes that need a table of all characters, and matches of bytes that are no text. `Fault.detail` tells a
fault in full, with the pattern and the names of all parts.
-/

namespace TracePlayer.Regex

/-- A place in a pattern: the bytes in front of it, and its line and column, which are counted from one. -/
structure Place where
  offset : Nat
  line : Nat
  column : Nat
  deriving DecidableEq, Repr

/-- The place of the first character. -/
def Place.first : Place := ⟨0, 1, 1⟩

/-- The place behind a character. -/
def Place.after (p : Place) (c : Char) : Place :=
  if c = '\n' then ⟨p.offset + c.utf8Size, p.line + 1, 1⟩ else ⟨p.offset + c.utf8Size, p.line, p.column + 1⟩

/-- A stretch of a pattern. -/
structure Span where
  first : Place
  last : Place
  deriving DecidableEq, Repr

/-- The stretch from the start of one to the end of another. -/
def Span.through (a b : Span) : Span := ⟨a.first, b.last⟩

/-- What breaks a rule of the notation. -/
inductive SyntaxCause where
  | classEscapeInvalid
  | classRangeInvalid
  | classRangeLiteral
  | classUnclosed
  | decimalInvalid
  | escapeHexInvalid
  | escapeHexInvalidDigit
  | escapeEnds
  | escapeUnrecognized
  | flagDanglingNegation
  /-- A flag that has been given before. -/
  | flagDuplicate (former : Span)
  | flagRepeatedNegation (former : Span)
  | flagsEnd
  | flagUnrecognized
  /-- A name that another group has. -/
  | groupNameDuplicate (former : Span)
  | groupNameEmpty
  | groupNameInvalid
  | groupNameEnds
  | groupUnclosed
  | groupUnopened
  | repetitionCountEmpty
  | repetitionCountUnclosed
  | repetitionMissing
  | boundaryNameUnclosed
  | boundaryNameEnds
  | propertyInvalid
  | backreference
  | lookAround
  deriving DecidableEq, Repr

/-- What no matcher can be built for. -/
inductive MeaningCause where
  /-- It would match bytes that are no text. -/
  | invalidText
  /-- A character beyond ASCII stands where characters are bytes. -/
  | notAscii
  /-- A property of characters that there is no table for. -/
  | propertyNotFound
  /-- A class of all digits, blanks or letters that there is no table for. -/
  | shorthandNotFound
  /-- There is no table of upper and lower case. -/
  | caseUnavailable
  deriving DecidableEq, Repr

/-- What is wrong with a pattern. -/
inductive Fault where
  | unreadable (cause : SyntaxCause) (span : Span)
  | unmatchable (cause : MeaningCause) (span : Span)
  /-- A boundary of words that are not only of ASCII letters. -/
  | wideBoundary
  deriving DecidableEq, Repr

/-! ## Faults in full -/

/-- A place with the names of its parts. -/
def Place.detail (p : Place) : String := s!"Position(o: {p.offset}, l: {p.line}, c: {p.column})"

/-- A span with its two places. -/
def Span.detail (s : Span) : String := s!"Span({s.first.detail}, {s.last.detail})"

/-- A cause that tells where the same was said before. -/
def repeated (name : String) (former : Span) : String := s!"{name} \x7b original: {former.detail} \x7d"

/-- A broken rule by its name. -/
def SyntaxCause.detail : SyntaxCause → String
  | classEscapeInvalid => "ClassEscapeInvalid"
  | classRangeInvalid => "ClassRangeInvalid"
  | classRangeLiteral => "ClassRangeLiteral"
  | classUnclosed => "ClassUnclosed"
  | decimalInvalid => "DecimalInvalid"
  | escapeHexInvalid => "EscapeHexInvalid"
  | escapeHexInvalidDigit => "EscapeHexInvalidDigit"
  | escapeEnds => "EscapeUnexpectedEof"
  | escapeUnrecognized => "EscapeUnrecognized"
  | flagDanglingNegation => "FlagDanglingNegation"
  | flagDuplicate former => repeated "FlagDuplicate" former
  | flagRepeatedNegation former => repeated "FlagRepeatedNegation" former
  | flagsEnd => "FlagUnexpectedEof"
  | flagUnrecognized => "FlagUnrecognized"
  | groupNameDuplicate former => repeated "GroupNameDuplicate" former
  | groupNameEmpty => "GroupNameEmpty"
  | groupNameInvalid => "GroupNameInvalid"
  | groupNameEnds => "GroupNameUnexpectedEof"
  | groupUnclosed => "GroupUnclosed"
  | groupUnopened => "GroupUnopened"
  | repetitionCountEmpty => "RepetitionCountDecimalEmpty"
  | repetitionCountUnclosed => "RepetitionCountUnclosed"
  | repetitionMissing => "RepetitionMissing"
  | boundaryNameUnclosed => "SpecialWordBoundaryUnclosed"
  | boundaryNameEnds => "SpecialWordOrRepetitionUnexpectedEof"
  | propertyInvalid => "UnicodeClassInvalid"
  | backreference => "UnsupportedBackreference"
  | lookAround => "UnsupportedLookAround"

/-- What has no matcher by its name. -/
def MeaningCause.detail : MeaningCause → String
  | invalidText => "InvalidUtf8"
  | notAscii => "UnicodeNotAllowed"
  | propertyNotFound => "UnicodePropertyNotFound"
  | shorthandNotFound => "UnicodePerlClassNotFound"
  | caseUnavailable => "UnicodeCaseUnavailable"

/-- How a character of a pattern is written between quotes: quotes, backslashes and what cannot be seen are escaped. -/
def escaped (c : Char) : List Char :=
  if c = '"' ∨ c = '\\' then ['\\', c]
  else if c = '\t' then ['\\', 't']
  else if c = '\n' then ['\\', 'n']
  else if c = '\r' then ['\\', 'r']
  else if c = '\x00' then ['\\', '0']
  else if c.toNat < 0x20 ∨ (0x7F ≤ c.toNat ∧ c.toNat < 0xA0) ∨ (Text.isBlank c ∧ c ≠ ' ') then
    ['\\', 'u', '\x7b'] ++ Nat.toDigits 16 c.toNat ++ ['\x7d']
  else [c]

/-- A pattern between quotes. -/
def quoted (pattern : List Char) : String := String.ofList ('"' :: pattern.flatMap escaped ++ ['"'])

/-- What is wrong at a span of a pattern, with the names of all parts. -/
def located (stage name : String) (pattern : List Char) (span : Span) : String :=
  s!"NFA(BuildError \x7b kind: Syntax({stage}(Error \x7b kind: {name}, pattern: {quoted pattern}, span: {span.detail} \x7d)) \x7d)"

/-- The kind of a fault of a pattern, with the names of all parts. -/
def Fault.kind (pattern : List Char) : Fault → String
  | unreadable cause span => located "Parse" cause.detail pattern span
  | unmatchable cause span => located "Translate" cause.detail pattern span
  | wideBoundary =>
    "Unsupported(\"cannot build DFAs for regexes with Unicode word boundaries; switch to ASCII word boundaries, or " ++
      "heuristically enable Unicode word boundaries or use a different regex engine\")"

/-- A fault of a pattern in full, with the names of all parts. -/
def Fault.detail (fault : Fault) (pattern : List Char) : String := s!"BuildError \x7b kind: {fault.kind pattern} \x7d"

end TracePlayer.Regex
