import TracePlayer.Text.Lines

/-!
# Lines of a byte stream

What a process prints is read line by line. Reading stops for good at the first line that is not UTF-8; the lines before it
have been delivered.
-/

namespace TracePlayer.Host

/-- The bytes of a text. -/
def bytesOf (text : List Char) : List UInt8 := (String.ofList text).toUTF8.toList

/-- The text of a list of bytes, when they are UTF-8. -/
def textOf? (bytes : List UInt8) : Option String := String.fromUTF8? ⟨bytes.toArray⟩

/-- The stretches of a stream up to its line feeds, given the bytes of the stretch that is being read, last byte first. -/
def stretchesFrom (stretch : List UInt8) : List UInt8 → List (List UInt8)
  | [] => [stretch.reverse]
  | b :: rest => if b = 10 then (b :: stretch).reverse :: stretchesFrom [] rest else stretchesFrom (b :: stretch) rest

/-- The part of a stream that can be read: all of it, or what stands before the first line that is not UTF-8. -/
def readableText (bytes : List UInt8) : String :=
  match textOf? bytes with
  | some text => text
  | none => (textOf? ((stretchesFrom [] bytes).takeWhile (fun s => (textOf? s).isSome)).flatten).getD ""

/-- The lines of a stream. -/
def streamLines (bytes : List UInt8) : List String :=
  (Text.lines (readableText bytes).toList).map String.ofList

end TracePlayer.Host
