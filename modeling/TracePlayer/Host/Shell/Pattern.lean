import TracePlayer.Host.Shell.Syntax

/-!
# Patterns

A star stands for any text, a question mark for any character, and a list in brackets for one of its characters. A quoted
character stands for itself.
-/

namespace TracePlayer.Host.Shell

/-- A character of an expanded word, and whether it is quoted. -/
structure Mark where
  char : Char
  quoted : Bool
  deriving DecidableEq, Repr

/-- The characters between brackets: from one to another, or those of a class. -/
inductive Choice where
  | range (first last : Char)
  | ofClass (name : String)
  deriving DecidableEq, Repr

/-- Whether a character is in a class. -/
def isInClass (name : String) (c : Char) : Bool :=
  let n := c.toNat
  match name with
  | "alpha" => c.isAlpha
  | "digit" => c.isDigit
  | "alnum" => c.isAlphanum
  | "upper" => c.isUpper
  | "lower" => c.isLower
  | "space" => n == 32 || (9 ≤ n && n ≤ 13)
  | "blank" => n == 32 || n == 9
  | "punct" => 33 ≤ n && n ≤ 126 && !c.isAlphanum
  | "print" => 32 ≤ n && n ≤ 126
  | "graph" => 33 ≤ n && n ≤ 126
  | "cntrl" => n < 32 || n == 127
  | "xdigit" => c.isDigit || ('a' ≤ c && c ≤ 'f') || ('A' ≤ c && c ≤ 'F')
  | _ => false

/-- Whether a choice holds a character. -/
def Choice.holds (choice : Choice) (c : Char) : Bool :=
  match choice with
  | .range first last => first ≤ c && c ≤ last
  | .ofClass name => isInClass name c

/-- An item of a pattern. -/
inductive PatternItem where
  | char (c : Char)
  | any
  | many
  | oneOf (inverted : Bool) (choices : List Choice)
  deriving DecidableEq, Repr

/-- A pattern. -/
abbrev Pattern := List PatternItem

namespace Pattern

/-- Whether a mark is this character, and not quoted. -/
def isBare (m : Mark) (c : Char) : Bool := !m.quoted && m.char == c

/-- The name of a class behind its opening bracket and colon, and what stands behind its end. -/
def cutClass (ms : List Mark) : Option (String × List Mark) :=
  let name := ms.takeWhile (fun m => m.char.isAlpha)
  match ms.drop name.length with
  | m :: n :: rest => if m.char = ':' ∧ n.char = ']' then some (String.ofList (name.map Mark.char), rest) else none
  | _ => none

/-- The choices up to the closing bracket, and what stands behind it. `first` tells that a bracket would be a choice itself. -/
def readChoices : Nat → Bool → List Mark → Option (List Choice × List Mark)
  | 0, _, _ => none
  | n + 1, first, ms => do
    match ms with
    | [] => none
    | m :: rest =>
      if isBare m ']' ∧ ¬first then return ([], rest)
      match if isBare m '[' ∧ rest.head?.any (isBare · ':') then cutClass rest.tail else none with
      | some (name, rest) =>
        let (choices, rest) ← readChoices n false rest
        return (.ofClass name :: choices, rest)
      | none =>
        match rest with
        | dash :: last :: rest' =>
          if isBare dash '-' ∧ ¬isBare last ']' then
            let (choices, rest) ← readChoices n false rest'
            return (.range m.char last.char :: choices, rest)
          else
            let (choices, rest) ← readChoices n false rest
            return (.range m.char m.char :: choices, rest)
        | _ =>
          let (choices, rest) ← readChoices n false rest
          return (.range m.char m.char :: choices, rest)

/-- What the marks behind an opening bracket choose from, if a bracket closes them. -/
def readBracket (ms : List Mark) : Option (PatternItem × List Mark) :=
  let inverted := ms.head?.any (isBare · '!')
  (readChoices (ms.length + 1) true (if inverted then ms.tail else ms)).map fun r => (.oneOf inverted r.1, r.2)

/-- The items of a pattern; every round reads a mark. -/
def read : Nat → List Mark → Pattern
  | 0, _ => []
  | _, [] => []
  | n + 1, m :: rest =>
    if isBare m '*' then .many :: read n rest
    else if isBare m '?' then .any :: read n rest
    else if isBare m '[' then
      match readBracket rest with
      | some (item, rest) => item :: read n rest
      | none => .char m.char :: read n rest
    else .char m.char :: read n rest

/-- The pattern that an expanded word is. -/
def ofMarks (ms : List Mark) : Pattern := read ms.length ms

/-- Whether nothing in a pattern stands for other characters than itself. -/
def isPlain (p : Pattern) : Bool :=
  p.all fun i => match i with
    | .char _ => true
    | _ => false

/-- Whether an item that stands for one character matches it. -/
def matchesChar (i : PatternItem) (c : Char) : Bool :=
  match i with
  | .char d => c == d
  | .any => true
  | .many => false
  | .oneOf inverted choices => choices.any (Choice.holds · c) != inverted

/-- The texts that are left of a text when some of its start is taken off, longest first. -/
def suffixes : List Char → List (List Char)
  | [] => [[]]
  | c :: rest => (c :: rest) :: suffixes rest

/-- Whether a pattern matches the whole of a text. -/
def isMatch : Pattern → List Char → Bool
  | [], s => s.isEmpty
  | .many :: p, s => (suffixes s).any (isMatch p)
  | _ :: _, [] => false
  | i :: p, c :: s => matchesChar i c && isMatch p s

/-- A text without what a pattern matches at its start; all of it when nothing matches. -/
def trimStart (p : Pattern) (longest : Bool) (s : List Char) : List Char :=
  let lengths := List.range (s.length + 1)
  match (if longest then lengths.reverse else lengths).find? (fun n => isMatch p (s.take n)) with
  | some n => s.drop n
  | none => s

/-- A text without what a pattern matches at its end; all of it when nothing matches. -/
def trimEnd (p : Pattern) (longest : Bool) (s : List Char) : List Char :=
  let lengths := List.range (s.length + 1)
  match (if longest then lengths else lengths.reverse).find? (fun n => isMatch p (s.drop n)) with
  | some n => s.take n
  | none => s

end Pattern

end TracePlayer.Host.Shell
