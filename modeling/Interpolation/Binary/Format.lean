/-!
# Binary floating-point formats

A format has a sign bit, an exponent field and a fraction field.  A finite
number is `significand · 2 ^ exponent` up to sign, and `Format.nearest` is the
number of the format closest to a fraction.  All of it is arithmetic on natural
numbers.
-/

namespace Interpolation

/-- A quotient of natural numbers; `den` is never zero. -/
structure Fraction where
  num : Nat
  den : Nat
deriving DecidableEq, Repr

namespace Fraction

def ofNat (n : Nat) : Fraction := ⟨n, 1⟩

/-- The quantity `m · b ^ e`. -/
def scaled (m b : Nat) : Int → Fraction
  | .ofNat k => ⟨m * Nat.pow b k, 1⟩
  | .negSucc k => ⟨m, Nat.pow b (k + 1)⟩

def mul (x y : Fraction) : Fraction := ⟨x.num * y.num, x.den * y.den⟩

def div (x y : Fraction) : Fraction := ⟨x.num * y.den, x.den * y.num⟩

def floor (x : Fraction) : Nat := x.num / x.den

def le (x y : Fraction) : Bool := x.num * y.den ≤ y.num * x.den

def lt (x y : Fraction) : Bool := x.num * y.den < y.num * x.den

/-- The distance between two fractions. -/
def gap (x y : Fraction) : Fraction :=
  ⟨(x.num * y.den - y.num * x.den) + (y.num * x.den - x.num * y.den), x.den * y.den⟩

/-- The closest natural number; a half goes to the even neighbour. -/
def round (x : Fraction) : Nat :=
  let below := x.floor
  let rest := 2 * (x.num % x.den)
  if rest < x.den then below
  else if x.den < rest then below + 1
  else below + below % 2

end Fraction

namespace Binary

structure Format where
  fractionBits : Nat
  exponentBits : Nat
deriving DecidableEq, Repr

def double : Format := ⟨52, 11⟩

def single : Format := ⟨23, 8⟩

/-- What a bit pattern stands for. -/
inductive Datum where
  | nan
  | infinite (negative : Bool)
  | finite (negative : Bool) (significand : Nat) (exponent : Int)
deriving DecidableEq, Repr

namespace Format

/-- The number of values of the fraction field. -/
def fractions (f : Format) : Nat := Nat.pow 2 f.fractionBits

/-- The number of values of the exponent field. -/
def fields (f : Format) : Nat := Nat.pow 2 f.exponentBits

/-- The exponent of the numbers closest to zero. -/
def leastExponent (f : Format) : Int := 2 - (f.fields / 2 : Nat) - f.fractionBits

/-- The bit pattern of positive infinity, which follows that of the largest number. -/
def infinity (f : Format) : Nat := (f.fields - 1) * f.fractions

def signBit (f : Format) : Nat := f.fields * f.fractions

def decode (f : Format) (bits : Nat) : Datum :=
  let negative := bits / f.signBit % 2 == 1
  let field := bits / f.fractions % f.fields
  let fraction := bits % f.fractions
  if field + 1 = f.fields then
    if fraction = 0 then .infinite negative else .nan
  else if field = 0 then
    .finite negative fraction f.leastExponent
  else
    .finite negative (f.fractions + fraction) (f.leastExponent + (field - 1))

/-- The quantity of a bit pattern without its sign; zero if it is not finite. -/
def magnitude (f : Format) (bits : Nat) : Fraction :=
  match f.decode bits with
  | .finite _ m q => .scaled m 2 q
  | _ => .ofNat 0

/-- The exponent at which a positive fraction has a significand of full width,
or the least exponent if it is too small for one. -/
def exponentFor (f : Format) (x : Fraction) : Int :=
  let q : Int := (x.num.log2 : Int) - x.den.log2 - f.fractionBits
  let q := if x.lt (.scaled f.fractions 2 q) then q - 1 else q
  max q f.leastExponent

/-- The bit pattern closest to a fraction; half-way goes to the even
significand, and what is too large goes to infinity.  Bit patterns are in the
order of their numbers, so a significand that rounds up to the next power of two
carries into the exponent field. -/
def nearest (f : Format) (x : Fraction) : Nat :=
  if x.num = 0 then 0
  else
    let q := f.exponentFor x
    let m := (x.div (.scaled 1 2 q)).round
    min ((q - f.leastExponent).toNat * f.fractions + m) f.infinity

end Format
end Binary
end Interpolation
