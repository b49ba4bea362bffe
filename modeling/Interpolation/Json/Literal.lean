import Interpolation.Json.Error

/-!
# Number literals

A literal without point and exponent is an integer if it fits in 64 bits, signed
if it is negative.  All others are doubles.

A double is read in two roundings.  The digits give a significand of 64 bits,
which is rounded once; scaling by a power of ten rounds again.  So a
long literal need not be the closest double.
-/

namespace Interpolation.Json

structure Literal where
  negative : Bool
  whole : Text
  fraction : Option Text
  exponent : Option Int
deriving DecidableEq, Repr

def digitValue (c : Char) : Nat := c.toNat - '0'.toNat

/-- One more than the largest unsigned integer of 64 bits. -/
def wordBound : Nat := 0x10000000000000000

/-- One more than the largest signed integer of 64 bits. -/
def signedBound : Nat := 0x8000000000000000

/-- The number that the digits make, and the digits from the first one on that
would lift it to `wordBound`. -/
def grow : Nat → Text → Nat × Text
  | n, [] => (n, [])
  | n, d :: rest =>
    let next := 10 * n + digitValue d
    if next < wordBound then grow next rest else (n, d :: rest)

namespace Literal

/-- The largest power of ten that is a double. -/
def largestPower : Nat := 308

def powerOfTen (n : Nat) : Fraction :=
  Binary.double.magnitude (Binary.double.nearest (.ofNat (Nat.pow 10 n)))

/-- Scale a double, given by its bits, by `10 ^ e`.  Exponents below the largest
power go in steps of it, until the double is zero.  There is no answer if the
result is too large. -/
def scale (bits : Nat) (e : Int) : Option Nat :=
  if 0 ≤ e then
    if bits = 0 then some 0
    else if largestPower < e then none
    else
      let product := (Binary.double.magnitude bits).mul (powerOfTen e.toNat)
      let scaled := Binary.double.nearest product
      if scaled = Binary.double.infinity then none else some scaled
  else
    let steps := min (-e).toNat largestPower
    let quotient := (Binary.double.magnitude bits).div (powerOfTen steps)
    let scaled := Binary.double.nearest quotient
    if -e ≤ largestPower then some scaled
    else if scaled = 0 then some 0
    else scale scaled (e + largestPower)
termination_by (-e).toNat
decreasing_by simp only [largestPower] at *; omega

def signed (negative : Bool) (bits : Nat) : Number :=
  .float (UInt64.ofNat (if negative then Binary.double.signBit + bits else bits))

/-- Whole digits that do not fit count as powers of ten; digits after the point
that do not fit are dropped. -/
def double? (l : Literal) : Option Number :=
  let (n, excess) := grow 0 l.whole
  let fraction := l.fraction.getD []
  let (n, dropped) := grow n fraction
  let e : Int := excess.length - (fraction.length - dropped.length : Nat) + l.exponent.getD 0
  (scale (Binary.double.nearest (.ofNat n)) e).map (signed l.negative)

/-- Zero has no negative integer. -/
def number? (l : Literal) : Option Number :=
  match l.fraction, l.exponent, grow 0 l.whole with
  | none, none, (n, []) =>
    if !l.negative then some (.integer n)
    else if n = 0 ∨ signedBound < n then l.double?
    else some (.integer (-n))
  | _, _, _ => l.double?

/-- At least one digit is wanted. -/
def readDigits (t : Text) : Except Error (Text × Text) :=
  match t with
  | [] => .error .endOfText
  | c :: rest =>
    if c.isDigit then .ok ((c :: rest).takeWhile Char.isDigit, (c :: rest).dropWhile Char.isDigit)
    else .error .malformed

/-- A zero in front of other digits is not allowed. -/
def readWhole (t : Text) : Except Error (Text × Text) :=
  match t with
  | '0' :: c :: rest => if c.isDigit then .error .malformed else .ok (['0'], c :: rest)
  | t => readDigits t

def readFraction (t : Text) : Except Error (Option Text × Text) :=
  match t with
  | '.' :: rest => do
    let (digits, rest) ← readDigits rest
    return (some digits, rest)
  | t => .ok (none, t)

def readSign (t : Text) : Bool × Text :=
  match t with
  | '-' :: rest => (true, rest)
  | '+' :: rest => (false, rest)
  | t => (false, t)

def readExponent (t : Text) : Except Error (Option Int × Text) :=
  match t with
  | c :: rest =>
    if c = 'e' ∨ c = 'E' then do
      let (negative, rest) := readSign rest
      let (digits, rest) ← readDigits rest
      let e : Int := digits.foldl (fun n d => 10 * n + digitValue d) (0 : Nat)
      return (some (if negative then -e else e), rest)
    else .ok (none, c :: rest)
  | [] => .ok (none, [])

def read (t : Text) : Except Error (Literal × Text) := do
  let (negative, t) := match t with
    | '-' :: rest => (true, rest)
    | t => (false, t)
  let (whole, t) ← readWhole t
  let (fraction, t) ← readFraction t
  let (exponent, t) ← readExponent t
  return (⟨negative, whole, fraction, exponent⟩, t)

end Literal

/-- A literal that is too large for a double is malformed. -/
def readNumber (t : Text) : Except Error (Number × Text) := do
  let (literal, rest) ← Literal.read t
  match literal.number? with
  | some n => return (n, rest)
  | none => throw .malformed

end Interpolation.Json
