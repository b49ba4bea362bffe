import Interpolation.Table.Computed
import Interpolation.Table.Entries
import Interpolation.Table.Json

/-!
# Recipes for tables

A table as it is described.  Its entries are made in their order, and the first
one that cannot be made is the reason why the table cannot.
-/

namespace Interpolation

inductive Table.Recipe where
  | hashed (entries : List (Text × Given))
  | ordered (entries : List (Text × Given))
  /-- A hashed table that is asked through another one. -/
  | forwarded (entries : List (Text × Given))
  | list (entries : List (Text × Given))
  | array (entries : List (Text × Given))
  | vector (entries : List (Text × Given))
  /-- Any JSON value. -/
  | json (text : Text)
  /-- JSON text that has to be an object. -/
  | fields (text : Text)
  | computed (function : Computed)
deriving Repr

namespace Table.Recipe

def makeEntries (entries : List (Text × Given)) : Except Refusal (List Entry) :=
  entries.mapM fun (key, given) => do return (key, ← given.make)

def make : Recipe → Except Refusal Table
  | hashed entries => do return Table.hashed (← makeEntries entries)
  | ordered entries => do return Table.ordered (← makeEntries entries)
  | forwarded entries => do return (Table.hashed (← makeEntries entries)).forward
  | list entries => do return Table.ofList (← makeEntries entries)
  | array entries => do return Table.ofArray (← makeEntries entries).toArray
  | vector entries => do return Table.ofVector ⟨(← makeEntries entries).toArray, rfl⟩
  | json t => (Table.ofJson <$> Json.parse t).mapError .json
  | fields t => (Table.ofFields <$> Json.record.direct t).mapError .json
  | computed f => .ok (Table.ofComputed f)

end Table.Recipe
end Interpolation
