import Interpolation.Reading

/-!
# Patterns

A pattern is a compiled source: its symbols in order.  `Pattern.source` writes
it back; compiling that again joins literals that an empty placeholder kept
apart and changes nothing else.
-/

namespace Interpolation

structure Pattern where
  symbols : List Symbol
deriving DecidableEq, Hashable, Repr

namespace Pattern

def empty : Pattern := ⟨[]⟩

instance : Inhabited Pattern := ⟨empty⟩

def compile (source : Text) : Except BraceError Pattern := do
  let reading ← Reading.start.read source
  let symbols ← reading.finish
  return ⟨symbols⟩

def size (p : Pattern) : Nat := p.symbols.length

def isEmpty (p : Pattern) : Bool := p.symbols.isEmpty

/-- The identifiers of the substitutions in order, repeated ones each time. -/
def identifiers (p : Pattern) : List Text := p.symbols.filterMap Symbol.identifier?

/-- The canonical source. -/
def source (p : Pattern) : Text := p.symbols.flatMap Symbol.source

def recompile (p : Pattern) : Except BraceError Pattern := compile p.source

end Pattern

/-- What can be seen of a pattern without a table. -/
structure Description where
  symbols : List Symbol
  size : Nat
  isEmpty : Bool
  identifiers : List Text
  source : Text
  /-- Whether the canonical source compiles to an equal pattern. -/
  recompilesEqual : Bool
deriving DecidableEq, Repr

def Pattern.describe (p : Pattern) : Description where
  symbols := p.symbols
  size := p.size
  isEmpty := p.isEmpty
  identifiers := p.identifiers
  source := p.source
  recompilesEqual :=
    match p.recompile with
    | .ok q => q == p
    | .error _ => false

end Interpolation
