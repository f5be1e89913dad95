import TracePlayer.Regex.Fault

/-!
# Parts of a regular expression

A pattern is read as the list of its parts, in the order in which they stand. Groups and classes have a part where they start and
a part where they end. What is not needed to judge a pattern leaves no part: repetitions, alternatives, and names of groups.
-/

namespace TracePlayer.Regex

/-- A character that a pattern asks for. -/
structure Letter where
  value : Char
  /-- Whether it is written as two hexadecimal digits, so that it can mean a byte. -/
  isByte : Bool
  span : Span
  deriving DecidableEq, Repr

/-- What can stand both in a class and outside. -/
inductive Item where
  | letter (letter : Letter)
  /-- All digits, blanks or letters, or all others. -/
  | shorthand (negated : Bool) (span : Span)
  /-- All characters with a property. -/
  | property (span : Span)
  /-- A condition on the text around; the boundaries of words among them. -/
  | condition (onWords : Bool) (span : Span)
  deriving DecidableEq, Repr

/-- The stretch of an item. -/
def Item.span : Item → Span
  | letter l => l.span
  | shorthand _ span => span
  | property span => span
  | condition _ span => span

/-- A letter that stands for a flag, or the dash in front of the flags that are taken away. -/
structure FlagMark where
  mark : Char
  span : Span
  deriving DecidableEq, Repr

/-- Whether a list of flags sets a flag or takes it away, if it names it. -/
def flagState (marks : List FlagMark) (flag : Char) : Option Bool :=
  if marks.any (fun m => m.mark == flag) then
    some (!(marks.takeWhile (fun m => m.mark != flag)).any (fun m => m.mark == '-'))
  else none

/-- A part of a pattern. -/
inductive Part where
  | item (i : Item)
  /-- A dot, for any character but a line feed. -/
  | any (span : Span)
  /-- Flags for the rest of the group. -/
  | flags (marks : List FlagMark)
  /-- The start of a group, with flags of its own. -/
  | groupStart (marks : List FlagMark)
  | groupEnd
  | classStart
  /-- The characters of a class from a first to a last. -/
  | range (first last : Letter)
  /-- A class by its name. -/
  | named (negated : Bool) (span : Span)
  /-- A mark between two sets of characters in a class. -/
  | operator
  | classEnd (negated : Bool) (span : Span)
  deriving DecidableEq, Repr

end TracePlayer.Regex
