/-!
# Bytes of a text

A position in a text is the number of bytes in front of it, in UTF-8. A text can be cut only where a character ends, so a
slice between two positions need not exist.
-/

namespace TracePlayer.Text

/-- The characters of a text, each with the byte at which it starts, when so many bytes stand in front of the text. -/
def indexedFrom (position : Nat) : List Char → List (Char × Nat)
  | [] => []
  | c :: rest => (c, position) :: indexedFrom (position + c.utf8Size) rest

/-- What stands in front of a position and what stands behind it; nothing when it lies inside a character, or behind the end. -/
def splitAtByte (position : Nat) : List Char → Option (List Char × List Char)
  | [] => if position = 0 then some ([], []) else none
  | c :: rest =>
    if position = 0 then some ([], c :: rest)
    else if position < c.utf8Size then none
    else (splitAtByte (position - c.utf8Size) rest).map (fun (front, back) => (c :: front, back))

/-- What stands between two positions. -/
def slice? (first last : Nat) (s : List Char) : Option (List Char) := do
  let (front, _) ← splitAtByte last s
  let (_, between) ← splitAtByte first front
  return between

/-- What stands behind a position. -/
def sliceFrom? (first : Nat) (s : List Char) : Option (List Char) :=
  (splitAtByte first s).map Prod.snd

end TracePlayer.Text
