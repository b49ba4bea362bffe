import Interpolation.Binary.Style
import Interpolation.Json.Basic

/-!
# JSON text

Values are printed without blanks.  In a string the quote, the backslash and the
control characters below the blank are escaped, and nothing else is.
-/

namespace Interpolation.Json

/-- Doubles have a point or an exponent, so that they read back as doubles. -/
def floatStyle : Binary.Style where
  tie := .even
  isPositional point := -5 < point ∧ point ≤ 16
  wholeMark := ".0".toList
  nan := "null".toList
  infinity := "null".toList

def Number.print : Number → Text
  | .integer n => Text.ofInt n
  | .float bits => floatStyle.write Binary.double bits.toNat

/-- A character by its number, in the four digits of an escape. -/
def codeEscape (c : Char) : Text :=
  let digit (weight : Nat) := Nat.digitChar (c.toNat / weight % 16)
  ['\\', 'u', digit 4096, digit 256, digit 16, digit 1]

def escape (c : Char) : Text :=
  match c with
  | '"' => ['\\', '"']
  | '\\' => ['\\', '\\']
  | '\x08' => ['\\', 'b']
  | '\x0c' => ['\\', 'f']
  | '\n' => ['\\', 'n']
  | '\r' => ['\\', 'r']
  | '\t' => ['\\', 't']
  | c => if c < ' ' then codeEscape c else [c]

def quote (t : Text) : Text := '"' :: t.flatMap escape ++ ['"']

mutual

def print : Json → Text
  | null => "null".toList
  | bool b => Text.ofBool b
  | number n => n.print
  | string t => quote t
  | array items => '[' :: printItems items ++ [']']
  | object fields => '{' :: printFields fields ++ ['}']

def printItems : List Json → Text
  | [] => []
  | [item] => print item
  | item :: next :: rest => print item ++ ',' :: printItems (next :: rest)

def printFields : List (Text × Json) → Text
  | [] => []
  | [(key, value)] => quote key ++ ':' :: print value
  | (key, value) :: next :: rest => quote key ++ ':' :: print value ++ ',' :: printFields (next :: rest)

end

end Interpolation.Json
