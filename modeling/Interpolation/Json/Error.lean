import Interpolation.BraceError
import Interpolation.Json.Printer
import Interpolation.Text.Quoted

/-!
# Why JSON text is refused

A text is no JSON, or it ends before the value does, or it holds a value of
another shape than the reader wants.
-/

namespace Interpolation.Json

/-- What was found in the place of something else. -/
inductive Found where
  | null
  | bool (value : Bool)
  | number (value : Number)
  | string (text : Text)
  | sequence
  | map
  /-- The bare name of a symbol's kind, without a text. -/
  | bareName
deriving DecidableEq, Repr

def found : Json → Found
  | null => .null
  | bool b => .bool b
  | number n => .number n
  | string t => .string t
  | array _ => .sequence
  | object _ => .map

inductive Expected where
  | string
  | sequence
  | map
  | stringOrMap
  | namedText
  | configuration
deriving DecidableEq, Repr

inductive Mismatch where
  | wrongType (found : Found) (expected : Expected)
  | unknownKind (name : Text)
  | notSingleKey
  | missingField (name : Text)
  | duplicateField (name : Text)
  | tooShort (length : Nat)
  | tooLong (length : Nat)
  | braces (error : BraceError)
deriving DecidableEq, Repr

inductive Error where
  | malformed
  | endOfText
  | mismatch (reason : Mismatch)
deriving DecidableEq, Repr

def Found.text : Found → Text
  | .null => "null".toList
  | .bool b => "boolean `".toList ++ Text.ofBool b ++ "`".toList
  | .number (.integer n) => "integer `".toList ++ Text.ofInt n ++ "`".toList
  | .number (.float bits) => "floating point `".toList ++ (Number.float bits).print ++ "`".toList
  | .string t => "string ".toList ++ t.quoted
  | .sequence => "sequence".toList
  | .map => "map".toList
  | .bareName => "unit variant".toList

def Expected.text : Expected → Text
  | .string => "a string".toList
  | .sequence => "a sequence".toList
  | .map => "a map".toList
  | .stringOrMap => "string or map".toList
  | .namedText => "newtype variant".toList
  | .configuration => "struct Config".toList

def Mismatch.message : Mismatch → Text
  | .wrongType found expected =>
    "invalid type: ".toList ++ found.text ++ ", expected ".toList ++ expected.text
  | .unknownKind name =>
    "unknown variant `".toList ++ name ++ "`, expected `Literal` or `Substitution`".toList
  | .notSingleKey => "invalid value: map, expected map with a single key".toList
  | .missingField name => "missing field `".toList ++ name ++ "`".toList
  | .duplicateField name => "duplicate field `".toList ++ name ++ "`".toList
  | .tooShort length =>
    "invalid length ".toList ++ Text.ofNat length ++
      ", expected struct Config with 2 elements".toList
  | .tooLong length =>
    "invalid length ".toList ++ Text.ofNat length ++
      ", expected fewer elements in array".toList
  | .braces e => e.message

end Interpolation.Json
