import Interpolation.Pattern

/-!
# Rendering

Rendering writes the symbols of a pattern in order: a literal as it is, a
substitution as the text that the table has for it.  Looked-up text is never
read again, so braces in it are plain characters.

A writer may take only so many characters.  `Rendering` holds all that can be
seen of one run: whether the writer took everything, what it took, and what the
table was asked.
-/

namespace Interpolation

/-- What stands for an identifier that the table does not have. -/
inductive Missing where
  /-- Nothing. -/
  | empty
  /-- The placeholder itself. -/
  | keep
deriving DecidableEq, Repr

instance : Inhabited Missing := ⟨.empty⟩

/-- The characters that a writer still takes; `none` takes any number. -/
abbrev Room := Option Nat

namespace Room

def fits (room : Room) (t : Text) : Bool := room.all (t.length ≤ ·)

/-- The part of a text that the writer takes. -/
def accept (room : Room) (t : Text) : Text :=
  match room with
  | none => t
  | some n => t.take n

def after (room : Room) (t : Text) : Room := room.map (· - t.length)

end Room

/-- A writer: the text it holds, and its room for more. -/
structure Writer where
  held : Text
  room : Room
deriving DecidableEq, Repr

/-- A text that grows at its end without bound. -/
def Writer.ofText (t : Text) : Writer := ⟨t, none⟩

structure Rendering where
  ok : Bool
  written : Text
  /-- The identifiers asked of the table, in order, each time they were asked. -/
  lookups : List Text
  /-- Those of them that the table did not have. -/
  absent : List Text
deriving DecidableEq, Repr

namespace Rendering

def done : Rendering := ⟨true, [], [], []⟩

/-- Write `t` and go on with `rest`, which gets the room that is left.  If `t`
does not fit, what fits of it is written and nothing else happens. -/
def write (room : Room) (t : Text) (rest : Room → Rendering) : Rendering :=
  if room.fits t then
    let r := rest (room.after t)
    { r with written := t ++ r.written }
  else
    { ok := false, written := room.accept t, lookups := [], absent := [] }

/-- Note that the table was asked for `identifier` before the rest of the run. -/
def asked (identifier : Text) (found : Bool) (r : Rendering) : Rendering :=
  { r with
    lookups := identifier :: r.lookups
    absent := if found then r.absent else identifier :: r.absent }

end Rendering

/-- What is written for an identifier that the table does not have. -/
def Missing.text (missing : Missing) (identifier : Text) : Text :=
  match missing with
  | .empty => []
  | .keep => (Symbol.substitution identifier).source

def Symbol.renderAll (table : Table) (missing : Missing) : List Symbol → Room → Rendering
  | [], _ => .done
  | .literal t :: rest, room => .write room t (renderAll table missing rest)
  | .substitution i :: rest, room =>
    match table.lookup i with
    | some value => .asked i true (.write room value (renderAll table missing rest))
    | none => .asked i false (.write room (missing.text i) (renderAll table missing rest))

namespace Pattern

/-- Render into a writer: what happened, and what the writer holds afterwards. -/
def renderTo (p : Pattern) (w : Writer) (table : Table) (missing : Missing) : Rendering × Text :=
  let r := Symbol.renderAll table missing p.symbols w.room
  (r, w.held ++ r.written)

/-- The whole text; a writer without bound always takes it. -/
def render (p : Pattern) (table : Table) (missing : Missing) : Text :=
  (p.renderTo (.ofText []) table missing).2

end Pattern
end Interpolation
