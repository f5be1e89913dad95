import TracePlayer.Json.Printer
import TracePlayer.Text.Blank
import TracePlayer.Text.Numeral

/-!
# Data in a trace

The interpreter gives an operand as a JSON value. Depending on where it stands it is read as a text, as an integer, or as a
list of bytes.
-/

namespace TracePlayer

/-- A value that the interpreter wrote as JSON. -/
structure Datum where
  value : Json
  deriving Repr

namespace Datum

/-- The number of items of a list or of characters of a string; any other value has none. -/
def length (d : Datum) : Nat :=
  match d.value with
  | .list items => items.length
  | .text s => s.length
  | _ => 0

mutual

/-- The text of a value: a string as it is, nothing for null, the items of a list with commas between them, and the JSON text
of anything else. -/
def textOf : Json → List Char
  | .null => []
  | .text s => s.toList
  | .list items => textOfItems items
  | v => v.chars

/-- The texts of the items with commas between them. -/
def textOfItems : List Json → List Char
  | [] => []
  | [v] => textOf v
  | v :: rest => textOf v ++ ',' :: textOfItems rest

end

/-- The text of a datum. -/
def text (d : Datum) : String := String.ofList (textOf d.value)

/-- The datum as a 64-bit signed integer: a whole number in range, or a string that holds the numeral of one. -/
def integer? (d : Datum) : Option Int :=
  match d.value with
  | .number (.integer n) => if Text.isSigned64 n then some n else none
  | .text s => Text.readSigned64 (Text.trim s.toList)
  | _ => none

/-- A JSON value as a byte. -/
def byte? : Json → Option UInt8
  | .number (.integer n) => if 0 ≤ n ∧ n < 256 then some (UInt8.ofNat n.toNat) else none
  | _ => none

/-- The datum as bytes, when it is a list of nothing else. -/
def bytes? (d : Datum) : Option (List UInt8) :=
  match d.value with
  | .list items => items.mapM byte?
  | _ => none

end Datum

end TracePlayer
