/-!
# Octets

Text as processes, files and paths hold it: a sequence of bytes. A byte is written as the character of the same number, so that
texts of bytes are handled like any other text.
-/

namespace TracePlayer.Host

/-- A sequence of bytes, of which each is the character with its number. -/
abbrev Octets := List Char

namespace Octets

/-- The octets of bytes. -/
def ofBytes (bytes : List UInt8) : Octets := bytes.map (fun b => Char.ofNat b.toNat)

/-- The bytes that octets stand for. -/
def bytes (s : Octets) : List UInt8 := s.map (fun c => UInt8.ofNat c.toNat)

/-- The octets of a text in UTF-8. -/
def ofString (s : String) : Octets := ofBytes s.toUTF8.toList

/-- The octets of the contents of a file. -/
def ofContents (contents : ByteArray) : Octets := ofBytes contents.toList

/-- The contents of a file that octets make. -/
def contents (s : Octets) : ByteArray := ⟨s.bytes.toArray⟩

/-- Whether octets stand in front of others, or are the same, in the order of their numbers. -/
def precedes : Octets → Octets → Bool
  | [], _ => true
  | _ :: _, [] => false
  | c :: s, d :: t => c < d || (c == d && precedes s t)

/-- The text of octets that are UTF-8. -/
def text? (s : Octets) : Option String := String.fromUTF8? s.contents

end Octets

end TracePlayer.Host
