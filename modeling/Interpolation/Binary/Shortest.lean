import Interpolation.Binary.Format
import Interpolation.Text

/-!
# Shortest decimals

The numbers that a bit pattern stands for are spread over an interval: all reals
that round to it.  `shortest` gives the decimal with the fewest digits in that
interval, and the closest one among those.
-/

namespace Interpolation

/-- The number `0.d₁d₂…dₙ · 10 ^ point`. -/
structure Decimal where
  digits : Text
  point : Int
deriving DecidableEq, Repr

/-- Which of two equally close decimals is taken. -/
inductive Tie where
  | even
  | away
deriving DecidableEq, Repr

namespace Decimal

/-- The decimal `n · 10 ^ e`, without trailing zeros. -/
def ofScaled (n : Nat) (e : Int) : Decimal :=
  let digits := Text.ofNat n
  ⟨(digits.reverse.dropWhile (· == '0')).reverse, e + digits.length⟩

end Decimal

namespace Binary

/-- The reals that round to one bit pattern. -/
structure Interval where
  low : Fraction
  high : Fraction
  /-- Whether the two ends belong to it. -/
  closed : Bool
deriving DecidableEq, Repr

def Interval.contains (i : Interval) (x : Fraction) : Bool :=
  if i.closed then i.low.le x && x.le i.high else i.low.lt x && x.lt i.high

/-- The ends are half-way to the neighbours.  Below a power of two the
neighbours are twice as dense.  Half-way rounds to an even significand. -/
def Format.interval (f : Format) (m : Nat) (q : Int) : Interval where
  low :=
    if m = f.fractions ∧ f.leastExponent < q then .scaled (4 * m - 1) 2 (q - 2)
    else .scaled (4 * m - 2) 2 (q - 2)
  high := .scaled (4 * m + 2) 2 (q - 2)
  closed := m % 2 == 0

/-- The exponent `e` with `10 ^ e ≤ x < 10 ^ (e + 1)`, for a positive fraction. -/
def decimalExponent (x : Fraction) : Int :=
  if x.den ≤ x.num then
    ((Text.ofNat x.floor).length : Int) - 1
  else
    -((Text.ofNat ((x.den - 1) / x.num)).length : Int)

/-- The closer one of `n` and `n + 1`. -/
def closer (tie : Tie) (x : Fraction) (n : Nat) : Nat :=
  let below := x.gap (.ofNat n)
  let above := x.gap (.ofNat (n + 1))
  if below.lt above then n
  else if above.lt below then n + 1
  else
    match tie with
    | .even => n + n % 2
    | .away => n + 1

/-- The best decimal of the interval among the multiples of `10 ^ e`: if any
multiple is in it, so is one of the two neighbours of `x`. -/
def Interval.onGrid (i : Interval) (tie : Tie) (x : Fraction) (e : Int) : Option Decimal :=
  let below := (x.div (.scaled 1 10 e)).floor
  match i.contains (.scaled below 10 e), i.contains (.scaled (below + 1) 10 e) with
  | true, true => some (.ofScaled (closer tie (x.div (.scaled 1 10 e)) below) e)
  | true, false => some (.ofScaled below e)
  | false, true => some (.ofScaled (below + 1) e)
  | false, false => none

/-- Coarser grids come first.  Seventeen digits suffice for every format in use
here, and then the grid is finer than the interval. -/
def Format.shortest (f : Format) (tie : Tie) (m : Nat) (q : Int) : Decimal :=
  let x := Fraction.scaled m 2 q
  let i := f.interval m q
  let e := decimalExponent x
  ((List.range 17).findSome? fun (n : Nat) => i.onGrid tie x (e - n)).getD (.ofScaled x.floor 0)

end Binary
end Interpolation
