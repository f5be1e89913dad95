import TracePlayer.Host.Shell.Pattern
import TracePlayer.Host.Shell.State

/-!
# Reading a line

A line of the input is cut into fields for parameters. The last of them takes all that is left.
-/

namespace TracePlayer.Host.Shell

/-- A line that has been read. -/
structure InputLine where
  /-- The characters, and whether a backslash stood in front of them. -/
  marks : List Mark
  /-- How many bytes it took. -/
  length : Nat
  /-- Whether the line has an end. -/
  ended : Bool
  deriving DecidableEq, Repr

namespace InputLine

/-- A line that starts with some bytes which stand for a character, or for none. -/
def after (l : InputLine) (taken : Nat) (mark : Option Mark) : InputLine :=
  { l with marks := mark.toList ++ l.marks, length := taken + l.length }

/-- Reads a line. A backslash takes away what the character behind it means, unless the line is taken as it is. -/
def read (raw : Bool) : Octets → InputLine
  | [] => ⟨[], 0, false⟩
  | '\n' :: _ => ⟨[], 1, true⟩
  | '\\' :: c :: rest =>
    if raw then (read raw (c :: rest)).after 1 (some ⟨'\\', false⟩)
    else (read raw rest).after 2 (if c = '\n' ∨ c = '\x00' then none else some ⟨c, true⟩)
  | c :: rest =>
    (read raw rest).after 1 (if c = '\x00' ∨ (c = '\\' ∧ ¬raw) then none else some ⟨c, false⟩)

end InputLine

/-- Whether a field ends at a mark. -/
def isSeparator (separators : Octets) (m : Mark) : Bool := !m.quoted && separators.contains m.char

/-- Whether a mark is a blank at which a field ends. -/
def isBlankSeparator (separators : Octets) (m : Mark) : Bool :=
  isSeparator separators m && [' ', '\t', '\n'].contains m.char

/-- The marks without the blanks at their end. What a backslash stands in front of is not seen there: it is dropped behind a blank,
and what is dropped behind it. -/
def dropBlanksAtEnd (separators : Octets) (ms : List Mark) : List Mark :=
  let ending := (ms.reverse.takeWhile (fun m => m.quoted || isBlankSeparator separators m)).reverse
  ms.take (ms.length - ending.length) ++ ending.takeWhile (!isBlankSeparator separators ·)

/-- What stands behind the end of a field: blanks, and one other separator among them. -/
def dropFieldEnd (separators : Octets) (ms : List Mark) : List Mark :=
  let rest := ms.dropWhile (isBlankSeparator separators)
  match rest with
  | m :: behind => if isSeparator separators m then behind.dropWhile (isBlankSeparator separators) else rest
  | [] => []

/-- The fields of a line for so many parameters. -/
def lineFields (separators : Octets) : Nat → List Mark → List Octets
  | 0, _ => []
  | 1, ms =>
    let first := ms.takeWhile (!isSeparator separators ·)
    let behind := (ms.drop first.length).filter (!·.quoted)
    if (dropFieldEnd separators behind).isEmpty then [first.map Mark.char]
    else [(dropBlanksAtEnd separators ms).map Mark.char]
  | n + 2, ms =>
    let first := ms.takeWhile (!isSeparator separators ·)
    first.map Mark.char :: lineFields separators (n + 1) (dropFieldEnd separators (ms.drop first.length))

/-- Reads a line of the input into parameters; the status tells whether the line has an end. -/
def readInto (raw : Bool) (names : List Octets) : Act Nat := do
  let s ← get
  match s.descriptors.get? 0 with
  | none => return 1
  | some file =>
    match s.world.readable file with
    | .error _ => return 1
    | .ok text =>
      let l := InputLine.read raw text
      set { s with world := s.world.drop file l.length }
      let fields := lineFields s.separators names.length (l.marks.dropWhile (isBlankSeparator s.separators))
      for (name, value) in names.zip fields do
        Act.assignNamed name value
      return if l.ended then 0 else 1

end TracePlayer.Host.Shell
