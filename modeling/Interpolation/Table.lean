import Interpolation.Text

/-!
# Tables

A table answers which text, if any, stands for an identifier.
-/

namespace Interpolation

@[ext]
structure Table where
  lookup : Text → Option Text

namespace Table

def empty : Table := ⟨fun _ => none⟩

/-- A table that passes every question on to another one. -/
def forward (t : Table) : Table := ⟨fun identifier => t.lookup identifier⟩

end Table
end Interpolation
