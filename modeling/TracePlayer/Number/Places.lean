import TracePlayer.Number.Shortest

/-!
# Fractions to a number of places

A fraction of natural numbers as a decimal with a given number of places, rounded to the nearest, a tie to the even digit.
-/

namespace TracePlayer.Places

/-- A fraction rounded to a significand of so many bits, with no exponent below `least`. -/
def roundToBits (bits : Nat) (least : Int) (num den : Nat) : Nat × Nat :=
  if num = 0 then (0, 1)
  else
    let e := max (Binary64.floorLog2 num den - ((bits : Int) - 1)) least
    let (n, d) := Binary64.scaled num den (-e)
    Binary64.scaled (Binary64.roundQuotient n d) 1 e

/-- A number with a point in front of its last digits, if there are to be any. `keepsPoint` asks for the point even then. -/
def pointed (keepsPoint : Bool) (places n : Nat) : List Char :=
  let digits := (toString n).toList
  let digits := List.replicate (places + 1 - digits.length) '0' ++ digits
  let whole := digits.take (digits.length - places)
  if places = 0 then (if keepsPoint then whole ++ ['.'] else whole)
  else whole ++ '.' :: digits.drop (digits.length - places)

/-- A fraction with so many digits behind its point. -/
def fixed (keepsPoint : Bool) (places num den : Nat) : List Char :=
  pointed keepsPoint places (Binary64.roundQuotient (num * Nat.pow 10 places) den)

/-- A fraction as one digit with `places` digits behind it, without the point, and the power of ten that they are taken
times. -/
def normal (places num den : Nat) : Nat × Int :=
  if num = 0 then (0, 0)
  else
    let x := Binary64.floorLog10 num den
    let e := (places : Int) - x
    let m := if 0 ≤ e then Binary64.roundQuotient (num * Nat.pow 10 e.toNat) den
      else Binary64.roundQuotient num (den * Nat.pow 10 (-e).toNat)
    if m = Nat.pow 10 (places + 1) then (Nat.pow 10 places, x + 1) else (m, x)

/-- A fraction with one digit in front of its point, and the power of ten that it is taken times with a sign and two digits at
least. -/
def scientific (keepsPoint : Bool) (places num den : Nat) : List Char :=
  let (m, x) := normal places num den
  let digits := (toString x.natAbs).toList
  pointed keepsPoint places m ++ 'e' :: (if x < 0 then '-' else '+') :: (List.replicate (2 - digits.length) '0' ++ digits)

/-- A decimal without the zeros at its end, nor a point that they leave there. Behind an `e` everything stays. -/
def dropZeros (s : List Char) : List Char :=
  let mantissa := s.takeWhile (· != 'e')
  let power := s.drop mantissa.length
  if mantissa.contains '.' then
    let kept := (mantissa.reverse.dropWhile (· == '0')).reverse
    (if kept.getLast? = some '.' then kept.dropLast else kept) ++ power
  else s

/-- A fraction with so many digits in all, with a power of ten only when it is very small or has more digits in front of its
point than are asked for. Zeros at the end are dropped, unless `keepsZeros`. -/
def general (keepsZeros : Bool) (digits num den : Nat) : List Char :=
  let digits := max digits 1
  let x := (normal (digits - 1) num den).2
  let text := if -4 ≤ x ∧ x < digits then fixed keepsZeros ((digits : Int) - 1 - x).toNat num den
    else scientific keepsZeros (digits - 1) num den
  if keepsZeros then text else dropZeros text

end TracePlayer.Places
