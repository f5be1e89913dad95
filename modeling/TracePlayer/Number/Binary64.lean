/-!
# Finite binary64 numbers

A finite double is a sign, a significand below `2 ^ 53` and an exponent of two that is at least `-1074`; the significand of
a number that is not tiny is at least `2 ^ 52`, so that every value has one form. Every operation takes the exact rational
result, in natural numbers, and rounds it to the nearest double, a tie to the even significand. A result too large for a
finite double is `none`.
-/

namespace TracePlayer

/-- A finite double: `significand * 2 ^ exponent`, negated if `negative`. Zero has a sign too. -/
structure Binary64 where
  negative : Bool
  significand : Nat
  exponent : Int
  deriving DecidableEq, Repr

namespace Binary64

/-- The exponent of the smallest positive double. -/
def leastExponent : Int := -1074

/-- The exponent of the doubles of the greatest magnitude. -/
def greatestExponent : Int := 971

/-- The least significand of a number that is not tiny, the 52nd power of two. -/
def leastFull : Nat := 0x10000000000000

/-- Zero, with a sign. -/
def zero (negative : Bool) : Binary64 := ⟨negative, 0, leastExponent⟩

/-- Whether the number is zero, of either sign. -/
def isZero (x : Binary64) : Bool := x.significand == 0

/-- The quotient rounded to the nearest integer, a tie to the even one. -/
def roundQuotient (num den : Nat) : Nat :=
  let q := num / den
  let r := num % den
  if 2 * r < den then q else if den < 2 * r then q + 1 else if q % 2 = 0 then q else q + 1

/-- The numerator and the denominator of `num / den * 2 ^ e`. -/
def scaled (num den : Nat) (e : Int) : Nat × Nat :=
  if 0 ≤ e then (num * Nat.pow 2 e.toNat, den) else (num, den * Nat.pow 2 (-e).toNat)

/-- The greatest `e` with `2 ^ e ≤ num / den`, for positive arguments. -/
def floorLog2 (num den : Nat) : Int :=
  let e : Int := (Nat.log2 num : Int) - (Nat.log2 den : Int)
  let (n, d) := scaled num den (-e)
  if d ≤ n then e else e - 1

/-- The double nearest to `num / den`, for a positive denominator. -/
def ofRatio? (negative : Bool) (num den : Nat) : Option Binary64 :=
  if num = 0 then
    some (zero negative)
  else
    let e := max (floorLog2 num den - 52) leastExponent
    let (n, d) := scaled num den (-e)
    let m := roundQuotient n d
    let (m, e) := if m = 2 * leastFull then (leastFull, e + 1) else (m, e)
    if e ≤ greatestExponent then some ⟨negative, m, e⟩ else none

/-- The double nearest to a natural number. -/
def ofNat? (n : Nat) : Option Binary64 := ofRatio? false n 1

/-- The number with the other sign. -/
def neg (x : Binary64) : Binary64 := { x with negative := !x.negative }

/-- The rounded product. -/
def mul? (x y : Binary64) : Option Binary64 :=
  let (n, d) := scaled (x.significand * y.significand) 1 (x.exponent + y.exponent)
  ofRatio? (x.negative != y.negative) n d

/-- The rounded quotient, for a divisor other than zero. -/
def div? (x y : Binary64) : Option Binary64 :=
  let (n, d) := scaled x.significand y.significand (x.exponent - y.exponent)
  ofRatio? (x.negative != y.negative) n d

/-- The double nearest to `10 ^ n`. -/
def powerOfTen? (n : Nat) : Option Binary64 := ofNat? (Nat.pow 10 n)

/-- The greatest power of ten that is a finite double. -/
def greatestPowerOfTen : Nat := 308

/-- Scales a double by a power of ten in one rounded product or quotient. An exponent below `-308` is first brought nearer to
zero by quotients with `10 ^ 308`; every one but the last takes off 308, and zero stays zero. -/
def scaleByTen? (x : Binary64) (exponent : Int) : Option Binary64 :=
  if exponent.natAbs ≤ greatestPowerOfTen then
    (powerOfTen? exponent.natAbs).bind (fun p => if 0 ≤ exponent then x.mul? p else x.div? p)
  else if x.isZero then
    some x
  else if 0 ≤ exponent then
    none
  else
    ((powerOfTen? greatestPowerOfTen).bind x.div?).bind (scaleByTen? · (exponent + greatestPowerOfTen))
termination_by exponent.natAbs
decreasing_by simp [greatestPowerOfTen] at *; omega

/-- A decimal numeral as a double: the significand rounded to a double, then scaled by the power of ten. The result of two
roundings need not be the double nearest to the numeral. -/
def ofDecimal? (negative : Bool) (significand : Nat) (exponent : Int) : Option Binary64 :=
  ((ofNat? significand).bind (scaleByTen? · exponent)).map (fun x => if negative then x.neg else x)

end Binary64

end TracePlayer
