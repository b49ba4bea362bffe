import Interpolation.Text

/-!
# Faults in the braces of a source

A source opens a placeholder with one brace and closes it with the other.  The
three ways to break this are the only reasons for which a source is rejected.
-/

namespace Interpolation

inductive BraceFault where
  /-- An opening brace inside a placeholder. -/
  | nestedOpening
  /-- A closing brace outside of any placeholder. -/
  | unmatchedClosing
  /-- The source ends inside a placeholder. -/
  | unclosedOpening
deriving DecidableEq, Repr

/-- A fault and the number of characters before it.  A placeholder that is never
closed is noticed at the end, so there the position is the length of the source. -/
structure BraceError where
  fault : BraceFault
  position : Nat
deriving DecidableEq, Repr

def BraceFault.message : BraceFault → Text
  | .nestedOpening => "nested opening brace".toList
  | .unmatchedClosing => "unmatched closing brace".toList
  | .unclosedOpening => "unclosed opening brace".toList

def BraceError.message (e : BraceError) : Text :=
  e.fault.message ++ " at ".toList ++ Text.ofNat e.position

/-- The same fault in a source with `n` more characters in front. -/
def BraceError.shift (n : Nat) (e : BraceError) : BraceError :=
  { e with position := n + e.position }

end Interpolation
