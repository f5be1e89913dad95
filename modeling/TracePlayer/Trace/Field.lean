import TracePlayer.Text.Blank

/-!
# The fields of a trace line

Fields stand apart by white space, but white space inside a string or inside brackets belongs to its field, so that a JSON
value is one field however it is spaced. Brackets are only counted: a closing one that has no partner counts for nothing,
and a string that is never closed reaches to the end of the line.
-/

namespace TracePlayer.Trace

/-- Where the splitting of a line stands: how many brackets are open, whether it is inside a string, and whether a backslash
went before. -/
structure Nesting where
  depth : Nat
  inString : Bool
  escaped : Bool
  deriving DecidableEq, Repr

namespace Nesting

/-- Outside every bracket and string. -/
def outside : Nesting := ⟨0, false, false⟩

/-- Whether white space ends a field here. -/
def isOutside (n : Nesting) : Bool := !n.inString && n.depth == 0

/-- The nesting after one more character. -/
def after (n : Nesting) (c : Char) : Nesting :=
  if n.inString then
    if n.escaped then { n with escaped := false }
    else if c = '\\' then { n with escaped := true }
    else if c = '"' then { n with inString := false }
    else n
  else if c = '"' then { n with inString := true }
  else if c = '[' ∨ c = '\x7b' then { n with depth := n.depth + 1 }
  else if c = ']' ∨ c = '\x7d' then { n with depth := n.depth - 1 }
  else n

end Nesting

/-- The fields of a text, given the nesting and the characters of the field that is being read, last first. -/
def fieldsFrom (nesting : Nesting) (field : List Char) : List Char → List (List Char)
  | [] => if field.isEmpty then [] else [field.reverse]
  | c :: rest =>
    if nesting.isOutside && Text.isBlank c then
      if field.isEmpty then fieldsFrom nesting [] rest else field.reverse :: fieldsFrom nesting [] rest
    else
      fieldsFrom (nesting.after c) (c :: field) rest

/-- The fields of a line, in order. -/
def splitFields (s : List Char) : List (List Char) :=
  fieldsFrom .outside [] s

end TracePlayer.Trace
