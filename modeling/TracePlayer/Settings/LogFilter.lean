import TracePlayer.Regex.Judge
import TracePlayer.Text.Alphanumeric
import TracePlayer.Text.Blank
import TracePlayer.Text.Lines
import TracePlayer.Text.Numeral
import TracePlayer.Text.Slice

/-!
# The filter of the log

A filter is a list of directives between commas. A directive is a level, a target, or a target and a span with a level behind an
equals sign, `target[span{field=value}]=level`, of which every part may be missing. The value of a field is a number or a regular
expression. The log itself is not kept here, so a text is only judged: `LogFilter.judge` tells what keeps it from being a filter.

White space at the ends of a directive is passed over while its parts are told apart, yet the parts are cut out of the directive
as it is written, at the positions counted without the white space in front.
-/

namespace TracePlayer.LogFilter

/-- What keeps a text from being a filter. -/
inductive Fault where
  /-- A character stands where no part of a directive can have it, a part is not closed, or a field has no name. -/
  | malformed
  /-- What stands behind an equals sign is not a level. -/
  | notLevel
  /-- The value of a field is no regular expression that can be matched. -/
  | badValue (value : List Char) (fault : Regex.Fault)
  /-- A part of a directive would start or end inside a character. -/
  | insideCharacter
  deriving DecidableEq, Repr

/-- A fault in full, with the names of its parts; nothing is told of a part that cannot be cut out. -/
def Fault.detail? : Fault → Option String
  | malformed => some "ParseError \x7b kind: Other(None) \x7d"
  | notLevel => some "ParseError \x7b kind: Level(ParseLevelFilterError(())) \x7d"
  | badValue value fault => some s!"ParseError \x7b kind: Field({fault.detail value}) \x7d"
  | insideCharacter => none

/-- The names of the levels. -/
def levelNames : List String := ["off", "error", "warn", "info", "debug", "trace"]

/-- Whether a text is a level: a number up to five, or a name in letters of either case. -/
def isLevel (s : List Char) : Bool :=
  match Text.readNatural wordBound s with
  | some n => n ≤ 5
  | none => levelNames.any (fun name => name.toList == s.map Char.toLower)

/-- The part of a directive that is being read, with the position at which it starts. -/
inductive Part where
  | start
  /-- A target, or a level that stands alone. -/
  | name
  | span (first : Nat)
  | field (first : Nat)
  | afterFields
  | afterSpan
  | level (first : Nat)
  deriving DecidableEq, Repr

/-- Whether a directive can start with a character that opens no span. -/
def startsName (c : Char) : Bool := c == '-' || c == ':' || c == '_' || Text.isAlphanumeric c

/-- The part of a directive between two positions. -/
def cut (s : List Char) (first last : Nat) : Except Fault (List Char) :=
  match Text.slice? first last s with
  | some part => .ok part
  | none => .error .insideCharacter

/-- Judges a field. Its value stands between its first equals sign and its second. -/
def judgeField (field : List Char) : Except Fault Unit :=
  if field.isEmpty then .error .malformed
  else
    match Text.splitAt '=' field with
    | _ :: value :: _ => if Text.isDecimal value then .ok () else (Regex.judge value).mapError (.badValue value)
    | _ => .ok ()

/-- Takes in the character at a position of a directive. -/
def Part.take (s : List Char) (part : Part) (c : Char) (position : Nat) : Except Fault Part :=
  match part with
  | .start => if c = '[' then .ok (.span (position + 1)) else if startsName c then .ok .name else .error .malformed
  | .name =>
    if c = '=' then (cut s 0 position).map (fun _ => .level (position + 1))
    else if c = '[' then (cut s 0 position).map (fun _ => .span (position + 1))
    else .ok .name
  | .span first =>
    if c = ']' then (cut s first position).map (fun _ => .afterSpan)
    else if c = '\x7b' then (cut s first position).map (fun _ => .field (position + 1))
    else .ok (.span first)
  | .field first =>
    if c = '\x7d' then do
      judgeField (← cut s first position)
      return .afterFields
    else .ok (.field first)
  | .afterFields => if c = ']' then .ok .afterSpan else .error .malformed
  | .afterSpan => if c = '=' then .ok (.level (position + 1)) else .error .malformed
  | .level first => .ok (.level first)

/-- Judges the level of a directive, which may be missing behind its equals sign. -/
def judgeLevel (s : List Char) (first : Nat) : Except Fault Unit :=
  match Text.sliceFrom? first s with
  | none => .error .insideCharacter
  | some level => if level.isEmpty || isLevel level then .ok () else .error .notLevel

/-- Judges a directive. -/
def judgeDirective (s : List Char) : Except Fault Unit := do
  let last ← (Text.indexedFrom 0 (Text.trim s)).foldlM (fun (part : Part) (c, position) => part.take s c position) Part.start
  match last with
  | .level first => judgeLevel s first
  | .name => .ok ()
  | .afterSpan => .ok ()
  | _ => .error .malformed

/-- Judges a filter: the first directive at fault decides. -/
def judge (filter : String) : Except Fault Unit :=
  ((Text.splitAt ',' filter.toList).filter (fun d => !d.isEmpty)).forM judgeDirective

end TracePlayer.LogFilter
