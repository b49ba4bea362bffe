import Interpolation.Binary.Shortest

/-!
# Floating-point numbers as text

The digits are always the shortest ones.  A `Style` decides how they are laid
out: which numbers have an exponent, and how a whole number is marked.
-/

namespace Interpolation
namespace Decimal

def zeros (n : Int) : Text := List.replicate n.toNat '0'

/-- The digits around a point, with zeros up to it. -/
def positional (wholeMark : Text) (d : Decimal) : Text :=
  let size : Int := d.digits.length
  if d.point ≤ 0 then
    '0' :: '.' :: (zeros (-d.point) ++ d.digits)
  else if size ≤ d.point then
    d.digits ++ zeros (d.point - size) ++ wholeMark
  else
    d.digits.take d.point.toNat ++ '.' :: d.digits.drop d.point.toNat

/-- One digit before the point, and an exponent with its sign. -/
def scientific (d : Decimal) : Text :=
  let e := d.point - 1
  let sign := if e < 0 then '-' else '+'
  let rest := d.digits.drop 1
  d.digits.take 1 ++ (if rest.isEmpty then [] else '.' :: rest) ++
    'e' :: sign :: Text.ofNat e.natAbs

end Decimal

namespace Binary

structure Style where
  tie : Tie
  /-- Whether a number is written without exponent, by the place of its point. -/
  isPositional : Int → Bool
  /-- What follows a whole number. -/
  wholeMark : Text
  nan : Text
  infinity : Text

namespace Style

/-- Never an exponent, and no mark on whole numbers. -/
def plain : Style where
  tie := .away
  isPositional _ := true
  wholeMark := []
  nan := "NaN".toList
  infinity := "inf".toList

def signed (negative : Bool) (t : Text) : Text := if negative then '-' :: t else t

def write (style : Style) (f : Format) (bits : Nat) : Text :=
  match f.decode bits with
  | .nan => style.nan
  | .infinite negative => signed negative style.infinity
  | .finite negative 0 _ => signed negative ('0' :: style.wholeMark)
  | .finite negative m q =>
    let d := f.shortest style.tie m q
    signed negative <|
      if style.isPositional d.point then d.positional style.wholeMark else d.scientific

end Style
end Binary
end Interpolation
