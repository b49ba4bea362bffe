import Interpolation.Record

/-!
# JSON values

A number is an integer or a double, as its literal was written.  The fields of
an object are a record: one value for each key, in the order of the keys.
-/

namespace Interpolation

inductive Json.Number where
  | integer (value : Int)
  /-- The bit pattern of a double. -/
  | float (bits : UInt64)
deriving DecidableEq, Repr

inductive Json where
  | null
  | bool (value : Bool)
  | number (value : Json.Number)
  | string (text : Text)
  | array (items : List Json)
  | object (fields : List (Text × Json))
deriving Repr

namespace Json

instance : Inhabited Json := ⟨null⟩

/-- An object from its fields as they were written. -/
def ofFields (fields : List (Text × Json)) : Json := object (Record.ofList fields)

end Json
end Interpolation
