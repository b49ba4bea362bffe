import Interpolation.BraceError
import Interpolation.Symbol

/-!
# Reading a source

A source is read one character at a time.  A `Reading` is what is known after
some of them: the side of the braces, the characters since the last brace, and
the symbols before it.  A brace ends the symbol of its side; a side without
characters leaves no symbol, so an empty placeholder only separates.
-/

namespace Interpolation

/-- The two sides of a brace. -/
inductive Side where
  | outside
  | inside
deriving DecidableEq, Repr

/-- The symbols for a run of characters between two braces. -/
def Side.symbols (side : Side) (run : Text) : List Symbol :=
  match side, run with
  | _, [] => []
  | .outside, c :: rest => [.literal (c :: rest)]
  | .inside, c :: rest => [.substitution (c :: rest)]

/-- `run` and `symbols` hold the newest element first. -/
structure Reading where
  side : Side
  position : Nat
  run : Text
  symbols : List Symbol
deriving DecidableEq, Repr

namespace Reading

def start : Reading := ⟨.outside, 0, [], []⟩

/-- All symbols so far, the run that is still open included, in source order. -/
def collect (r : Reading) : List Symbol :=
  r.symbols.reverse ++ r.side.symbols r.run.reverse

/-- Pass a brace to the given side. -/
def cross (r : Reading) (side : Side) : Reading :=
  ⟨side, r.position + 1, [], r.side.symbols r.run.reverse ++ r.symbols⟩

def hold (r : Reading) (c : Char) : Reading :=
  { r with position := r.position + 1, run := c :: r.run }

/-- Read one character.  The first fault ends the reading, since nothing after
it is looked at. -/
def step (r : Reading) (c : Char) : Except BraceError Reading :=
  match r.side, c with
  | .outside, '{' => .ok (r.cross .inside)
  | .inside, '{' => .error ⟨.nestedOpening, r.position⟩
  | .inside, '}' => .ok (r.cross .outside)
  | .outside, '}' => .error ⟨.unmatchedClosing, r.position⟩
  | _, c => .ok (r.hold c)

/-- Read on from `r` until the first fault or the end. -/
def read (r : Reading) (source : Text) : Except BraceError Reading := source.foldlM step r

/-- A source may only end outside of a placeholder. -/
def finish (r : Reading) : Except BraceError (List Symbol) :=
  match r.side with
  | .outside => .ok r.collect
  | .inside => .error ⟨.unclosedOpening, r.position⟩

end Reading
end Interpolation
