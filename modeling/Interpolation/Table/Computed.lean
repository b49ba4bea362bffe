import Interpolation.Table

/-!
# Computed tables

A table may compute its answer from the identifier.
-/

namespace Interpolation

inductive Computed where
  /-- The identifier in capital letters, as far as they are ASCII. -/
  | upper
  | reverse
  /-- The identifier in braces, which are not read as braces again. -/
  | brace
  | characterCount
  | byteCount
  /-- Present, but without text. -/
  | blank
  | nothing
  /-- The identifier itself, unless it starts with an underscore. -/
  | unhidden
deriving DecidableEq, Repr

namespace Computed

def apply (c : Computed) (identifier : Text) : Option Text :=
  match c with
  | upper => some (identifier.map Char.toUpper)
  | reverse => some (List.reverse identifier)
  | brace => some ('{' :: identifier ++ ['}'])
  | characterCount => some (Text.ofNat identifier.length)
  | byteCount => some (Text.ofNat identifier.utf8Size)
  | blank => some []
  | nothing => none
  | unhidden =>
    match identifier with
    | '_' :: _ => none
    | _ => some identifier

end Computed

def Table.ofComputed (c : Computed) : Table := ⟨c.apply⟩

end Interpolation
