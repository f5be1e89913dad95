/-!
# Decimal numerals

Reading of decimal integers, where the sign is optional and every digit is an ASCII digit, and the fixed-width writing of
small numbers. A numeral is refused when it is empty, holds anything but digits after its sign, or is out of range.
-/

namespace TracePlayer

/-- Numbers of 64 bits without a sign are below this bound, the 64th power of two. So are addresses and sizes. -/
def wordBound : Nat := 0x10000000000000000

/-- Numbers of 64 bits with a sign are below this bound, the 63rd power of two, and not below its negative. -/
def signedBound : Nat := 0x8000000000000000

end TracePlayer

namespace TracePlayer.Text

/-- The value of an ASCII digit. -/
def digit? (c : Char) : Option Nat :=
  if '0' ≤ c ∧ c ≤ '9' then some (c.toNat - '0'.toNat) else none

/-- The value of a hexadecimal digit, whose letter may be of either case. -/
def hexDigit? (c : Char) : Option Nat :=
  if '0' ≤ c ∧ c ≤ '9' then some (c.toNat - '0'.toNat)
  else if 'a' ≤ c ∧ c ≤ 'f' then some (c.toNat - 'a'.toNat + 10)
  else if 'A' ≤ c ∧ c ≤ 'F' then some (c.toNat - 'A'.toNat + 10)
  else none

/-- The value of a run of ASCII digits, most significant first, continuing a number already read. -/
def digitsFrom (value : Nat) : List Char → Option Nat
  | [] => some value
  | c :: rest =>
    match digit? c with
    | some d => digitsFrom (10 * value + d) rest
    | none => none

/-- The value of a non-empty run of ASCII digits. -/
def digits? (s : List Char) : Option Nat :=
  if s.isEmpty then none else digitsFrom 0 s

/-- Reads a natural number below `limit`. A plus sign may stand in front, a minus sign may not, not even before zero. -/
def readNatural (limit : Nat) (s : List Char) : Option Nat :=
  let digits := match s with
    | '+' :: rest => rest
    | _ => s
  (digits? digits).filter (· < limit)

/-- Whether an integer fits into 64 bits with a sign. -/
def isSigned64 (n : Int) : Bool :=
  decide (-(signedBound : Int) ≤ n ∧ n < signedBound)

/-- Reads a 64-bit signed integer, with an optional sign in front. -/
def readSigned64 (s : List Char) : Option Int :=
  let value : Option Int := match s with
    | '-' :: rest => (digits? rest).map (fun n => -(n : Int))
    | '+' :: rest => (digits? rest).map Int.ofNat
    | _ => (digits? s).map Int.ofNat
  value.filter isSigned64

/-- A text without the sign in front. -/
def dropSign : List Char → List Char
  | '+' :: rest => rest
  | '-' :: rest => rest
  | s => s

/-- Whether a text is an exponent: a sign at most, and digits. -/
def isExponent (s : List Char) : Bool := (digits? (dropSign s)).isSome

/-- Whether a text is a number with or without a sign, a point and an exponent, or one of the names of numbers that have no
digits, in letters of either case. -/
def isDecimal (s : List Char) : Bool :=
  let s := dropSign s
  let (whole, rest) := s.span Char.isDigit
  let (fraction, rest) := match rest with
    | '.' :: rest => rest.span Char.isDigit
    | _ => ([], rest)
  let isScientific := match rest with
    | [] => true
    | mark :: exponent => (mark == 'e' || mark == 'E') && isExponent exponent
  (!(whole.isEmpty && fraction.isEmpty) && isScientific) ||
    ["inf", "infinity", "nan"].any (fun name => name.toList == s.map Char.toLower)

/-- The text made at least `width` characters long by blanks in front. -/
def padLeft (width : Nat) (s : String) : String :=
  String.ofList (List.replicate (width - s.length) ' ') ++ s

/-- A number with at least `width` digits, zeros in front. -/
def zeroPadded (width n : Nat) : String :=
  let s := toString n
  String.ofList (List.replicate (width - s.length) '0') ++ s

end TracePlayer.Text
