/-!
# Text

A text is a list of characters.  Every length and position in this library
counts characters; `Text.utf8Size` is the one place where bytes are counted.
-/

namespace Interpolation

abbrev Text := List Char

namespace Text

/-- Texts are hashed by the numbers of their characters, in order. -/
instance : Hashable Text := ⟨fun t => t.foldl (fun h c => mixHash h c.val.toUInt64) 7⟩

/-- Decimal digits, without leading zeros. -/
def ofNat (n : Nat) : Text := Nat.toDigits 10 n

def ofInt : Int → Text
  | .ofNat n => ofNat n
  | .negSucc n => '-' :: ofNat (n + 1)

def ofBool (b : Bool) : Text := if b then "true".toList else "false".toList

/-- The number of bytes that UTF-8 needs for the text. -/
def utf8Size (t : Text) : Nat := t.foldr (fun c n => c.utf8Size + n) 0

/-- A text is `BraceFree` if it can stand between two braces of a source. -/
def BraceFree (t : Text) : Prop := '{' ∉ t ∧ '}' ∉ t

instance (t : Text) : Decidable (BraceFree t) := inferInstanceAs (Decidable (_ ∧ _))

end Text
end Interpolation
