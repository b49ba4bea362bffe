import Interpolation.Table
import Interpolation.Value
import Std.Data.HashMap

/-!
# Tables of entries

Entries may be kept in a map, which has one value for a key, or in a row, which
is searched from the front.  Where a key occurs twice, a map has its last value
and a row answers with its first.  Keys match only if all their characters do.
-/

namespace Interpolation

abbrev Entry := Text × Value

namespace Table

def ofHashMap (m : Std.HashMap Text Value) : Table := ⟨fun key => m[key]?.map Value.display⟩

def ofRecord (r : Record Value) : Table := ⟨fun key => (r.get? key).map Value.display⟩

def ofList (entries : List Entry) : Table := ⟨fun key => (entries.lookup key).map Value.display⟩

def ofArray (entries : Array Entry) : Table :=
  ⟨fun key => (entries.find? (·.1 == key)).map fun entry => entry.2.display⟩

def ofVector {n : Nat} (entries : Vector Entry n) : Table := ofArray entries.toArray

def hashed (entries : List Entry) : Table :=
  ofHashMap (entries.foldl (fun m entry => m.insert entry.1 entry.2) ∅)

def ordered (entries : List Entry) : Table := ofRecord (Record.ofList entries)

end Table
end Interpolation
