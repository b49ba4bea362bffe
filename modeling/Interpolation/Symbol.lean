import Interpolation.Table

/-!
# Symbols

A symbol is one renderable unit: text that stands for itself, or the identifier
of a value that a table supplies.
-/

namespace Interpolation

inductive Symbol where
  | literal (text : Text)
  | substitution (identifier : Text)
deriving DecidableEq, Hashable, Repr

namespace Symbol

/-- The literal text or the identifier. -/
def text : Symbol → Text
  | literal t | substitution t => t

def isLiteral : Symbol → Bool
  | literal _ => true
  | substitution _ => false

def isSubstitution (s : Symbol) : Bool := !s.isLiteral

def identifier? : Symbol → Option Text
  | literal _ => none
  | substitution t => some t

/-- The symbol as it is written in a source. -/
def source : Symbol → Text
  | literal t => t
  | substitution t => '{' :: t ++ ['}']

/-- A literal answers for itself, even where the table has a value under its text. -/
def resolve (table : Table) : Symbol → Option Text
  | literal t => some t
  | substitution t => table.lookup t

/-- A symbol is `Proper` if some source has it: its text is not empty and holds
no brace. -/
def Proper (s : Symbol) : Prop := s.text ≠ [] ∧ s.text.BraceFree

instance (s : Symbol) : Decidable s.Proper := inferInstanceAs (Decidable (_ ∧ _))

end Symbol
end Interpolation
