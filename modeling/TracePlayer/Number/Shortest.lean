import TracePlayer.Number.Binary64

/-!
# The shortest decimal that reads back

Every real number nearer to a double than to its neighbours rounds to that double; the reals exactly between two doubles
round to the one with the even significand. Of the decimals that round to a double, `Binary64.shortest` takes one with the
fewest digits, and of those the nearest. `Binary64.text` writes it: plainly when its leading digit stands between the places
`10 ^ (-5)` and `10 ^ 15`, with an exponent otherwise.
-/

namespace TracePlayer.Binary64

/-- The number of decimal digits of a positive number. -/
def decimalLength (n : Nat) : Nat := (toString n).length

/-- The greatest `k` with `10 ^ k ≤ num / den`, for positive arguments. -/
def floorLog10 (num den : Nat) : Int :=
  if den ≤ num then (decimalLength (num / den) : Int) - 1 else -(decimalLength ((den + num - 1) / num - 1) : Int)

/-- A grid of decimals beside a double, in a common unit: the decimal `c * 10 ^ place` is `c * step` units, and the double's
significand `m` stands for `4 * m * quarter` units. -/
structure Grid where
  step : Nat
  quarter : Nat

/-- The grid of the multiples of `10 ^ place`. -/
def grid (x : Binary64) (place : Int) : Grid :=
  let e := x.exponent - 2
  ⟨Nat.pow 10 place.toNat * Nat.pow 2 (-e).toNat, Nat.pow 2 e.toNat * Nat.pow 10 (-place).toNat⟩

/-- Whether a length, in units of the grid, rounds to the double. The doubles lie twice as dense below a power of two. -/
def roundsTo (x : Binary64) (g : Grid) (units : Nat) : Bool :=
  let m := 4 * x.significand
  let low := if x.significand = leastFull ∧ leastExponent < x.exponent then m - 1 else m - 2
  let closed := x.significand % 2 == 0
  (low * g.quarter < units || (closed && low * g.quarter == units)) &&
    (units < (m + 2) * g.quarter || (closed && units == (m + 2) * g.quarter))

/-- The multiple of `10 ^ place` nearest to the double among those that round to it, if there is one: one of the double's two
neighbours on the grid. -/
def onGrid? (x : Binary64) (place : Int) : Option Nat :=
  let g := x.grid place
  let units := 4 * x.significand * g.quarter
  let c := units / g.step
  let below := x.roundsTo g (c * g.step)
  let above := x.roundsTo g ((c + 1) * g.step)
  let nearer := if 2 * (units % g.step) < g.step ∨ (2 * (units % g.step) = g.step ∧ c % 2 = 0) then c else c + 1
  if below && above then some nearer else if below then some c else if above then some (c + 1) else none

/-- The first of the grids, coarse to fine, on which a decimal rounds to the double: its multiple and its place. The grid of
17 digits always has one. -/
def shortestFrom (x : Binary64) (place : Int) : Nat → Nat × Int
  | 0 => (((x.onGrid? place).getD 0), place)
  | more + 1 =>
    match x.onGrid? place with
    | some c => (c, place)
    | none => shortestFrom x (place - 1) more

/-- The digits of the shortest decimal of a double other than zero, and the place of the first of them. -/
def shortest (x : Binary64) : List Char × Int :=
  let (n, d) := scaled x.significand 1 x.exponent
  let (c, place) := x.shortestFrom (floorLog10 n d) 16
  let digits := (toString c).toList
  ((digits.reverse.dropWhile (· == '0')).reverse, place + digits.length - 1)

/-- A decimal with its point: digits on both sides of it, at least one on each. -/
def plain (digits : List Char) (first : Int) : List Char :=
  if first < 0 then
    '0' :: '.' :: (List.replicate (-first - 1).toNat '0' ++ digits)
  else
    let whole := first.toNat + 1
    let rest := digits.drop whole
    digits.take whole ++ List.replicate (whole - digits.length) '0' ++ '.' :: (if rest.isEmpty then ['0'] else rest)

/-- A decimal with one digit before its point and an exponent with a sign. -/
def scientific (digits : List Char) (first : Int) : List Char :=
  let fraction := match digits.tail with
    | [] => []
    | rest => '.' :: rest
  let sign := if 0 ≤ first then '+' else '-'
  digits.take 1 ++ fraction ++ 'e' :: sign :: (toString first.natAbs).toList

/-- The decimal text of a double. -/
def text (x : Binary64) : String :=
  let magnitude :=
    if x.isZero then
      ['0', '.', '0']
    else
      let (digits, first) := x.shortest
      if -5 ≤ first ∧ first ≤ 15 then plain digits first else scientific digits first
  String.ofList (if x.negative then '-' :: magnitude else magnitude)

end TracePlayer.Binary64
