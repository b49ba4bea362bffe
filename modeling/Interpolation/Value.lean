import Interpolation.Binary.Style
import Interpolation.Interchange
import Interpolation.Json.Reader

/-!
# Values

What a table holds under a key, and the text that it is shown as.  Numbers are
shown in full, without an exponent; JSON is shown as JSON, so its strings are
quoted.
-/

namespace Interpolation

inductive Value where
  | text (text : Text)
  | integer (value : Int)
  /-- The bit pattern of a double. -/
  | double (bits : UInt64)
  /-- The bit pattern of a single. -/
  | single (bits : UInt32)
  | bool (value : Bool)
  | char (value : Char)
  | pattern (value : Pattern)
  | json (value : Json)
deriving Repr

def Value.display : Value → Text
  | .text t => t
  | .integer n => Text.ofInt n
  | .double bits => Binary.Style.plain.write Binary.double bits.toNat
  | .single bits => Binary.Style.plain.write Binary.single bits.toNat
  | .bool b => Text.ofBool b
  | .char c => [c]
  | .pattern p => p.source
  | .json j => j.print

/-- Why something cannot be made from its description. -/
inductive Refusal where
  | braces (error : BraceError)
  | json (error : Json.Error)
deriving DecidableEq, Repr

/-- A value as it is described: ready, or by a text that may be at fault. -/
inductive Given where
  | value (value : Value)
  | pattern (source : Text)
  | json (text : Text)
deriving Repr

namespace Given

def make : Given → Except Refusal Value
  | value v => .ok v
  | pattern source =>
    match Pattern.compile source with
    | .ok p => .ok (.pattern p)
    | .error e => .error (.braces e)
  | json t =>
    match Json.parse t with
    | .ok j => .ok (.json j)
    | .error e => .error (.json e)

end Given
end Interpolation
