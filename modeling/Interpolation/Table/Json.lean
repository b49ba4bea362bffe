import Interpolation.Json.Decoder
import Interpolation.Table

/-!
# JSON objects as tables

A field of an object stands for its key.  A string is taken as it is and `null`
as nothing at all, which is not the same as being absent.
-/

namespace Interpolation

/-- The text of a JSON value where a template has a place for it. -/
def Json.display : Json → Text
  | .string t => t
  | .null => []
  | j => j.print

namespace Table

def ofFields (fields : Record Json) : Table := ⟨fun key => (fields.get? key).map Json.display⟩

/-- Only an object has entries. -/
def ofJson : Json → Table
  | .object fields => ofFields fields
  | _ => empty

end Table
end Interpolation
