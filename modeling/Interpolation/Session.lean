import Interpolation.Rendering
import Interpolation.Table.Entries

/-!
# Sessions

A session keeps patterns in named slots, one table of values, and a buffer of
text.  It runs step by step.  A step that cannot be done answers with the reason
and leaves the state as it was.
-/

namespace Interpolation.Session

structure State where
  slots : Record Pattern
  env : Record Value
  buffer : Text

def State.start : State := ⟨[], [], []⟩

inductive Step where
  | compile (slot source : Text)
  /-- Put the empty pattern into a slot. -/
  | default (slot : Text)
  | clone (slot target : Text)
  /-- Compile the canonical source of a slot into another. -/
  | recompile (slot target : Text)
  /-- Take a slot through its JSON text into another. -/
  | roundTrip (slot target : Text)
  /-- Render a slot and compile what comes out into another. -/
  | compose (slot target : Text) (missing : Missing)
  /-- Take the symbols out of a slot and empty it. -/
  | intoSymbols (slot : Text)
  | equal (slot target : Text)
  | describe (slot : Text)
  | set (key : Text) (value : Given)
  /-- Put the pattern of a slot, as it is now, under a key. -/
  | setSlot (slot key : Text)
  | unset (key : Text)
  | render (slot : Text) (missing : Missing)
  /-- Render a slot to the end of the buffer. -/
  | append (slot : Text) (missing : Missing)
  /-- Write the canonical source of a slot to the end of the buffer. -/
  | write (slot : Text)
  /-- Empty the buffer. -/
  | flush
deriving Repr

inductive Answer where
  /-- The pattern that was put into a slot. -/
  | stored (size : Nat) (source : Text)
  | symbols (symbols : List Symbol)
  | bool (value : Bool)
  | description (description : Description)
  | keys (keys : List Text)
  | text (text : Text)
  /-- Whether a write went well, and the buffer after it. -/
  | written (ok : Bool) (buffer : Text)
deriving Repr

inductive Failure where
  | noSuchSlot
  | refused (reason : Refusal)
deriving DecidableEq, Repr

abbrev Outcome := Except Failure Answer

namespace State

def pattern (s : State) (slot : Text) : Except Failure Pattern :=
  match s.slots.get? slot with
  | some p => .ok p
  | none => .error .noSuchSlot

def table (s : State) : Table := .ofRecord s.env

/-- Put a pattern into a slot, or say why there is none. -/
def store (s : State) (slot : Text) : Except Refusal Pattern → Except Failure (Answer × State)
  | .ok p => .ok (.stored p.size p.source, { s with slots := s.slots.insert slot p })
  | .error e => .error (.refused e)

def setEnv (s : State) (env : Record Value) : Answer × State := (.keys env.keys, { s with env })

def setBuffer (s : State) (ok : Bool) (buffer : Text) : Answer × State :=
  (.written ok buffer, { s with buffer })

def compileInto (s : State) (slot source : Text) : Except Failure (Answer × State) :=
  s.store slot ((Pattern.compile source).mapError .braces)

/-- A step that can be done. -/
def step (s : State) : Step → Except Failure (Answer × State)
  | .compile slot source => s.compileInto slot source
  | .default slot => s.store slot (.ok .empty)
  | .clone slot target => do s.store target (.ok (← s.pattern slot))
  | .recompile slot target => do s.compileInto target (← s.pattern slot).source
  | .roundTrip slot target => do
    s.store target ((← s.pattern slot).throughJson.mapError .json)
  | .compose slot target missing => do
    let p ← s.pattern slot
    s.compileInto target (p.render s.table missing)
  | .intoSymbols slot => do
    let p ← s.pattern slot
    return (.symbols p.symbols, { s with slots := s.slots.erase slot })
  | .equal slot target => do
    let p ← s.pattern slot
    let q ← s.pattern target
    return (.bool (p == q), s)
  | .describe slot => do return (.description (← s.pattern slot).describe, s)
  | .set key value => do
    let v ← value.make.mapError .refused
    return s.setEnv (s.env.insert key v)
  | .setSlot slot key => do
    let p ← s.pattern slot
    return s.setEnv (s.env.insert key (.pattern p))
  | .unset key => .ok (s.setEnv (s.env.erase key))
  | .render slot missing => do return (.text ((← s.pattern slot).render s.table missing), s)
  | .append slot missing => do
    let (r, buffer) := (← s.pattern slot).renderTo (.ofText s.buffer) s.table missing
    return s.setBuffer r.ok buffer
  | .write slot => do return s.setBuffer true (s.buffer ++ (← s.pattern slot).source)
  | .flush => .ok (.text s.buffer, { s with buffer := [] })

/-- What a step answers, and the state after it. -/
def next (s : State) (step : Step) : Outcome × State :=
  match s.step step with
  | .ok (answer, s') => (.ok answer, s')
  | .error e => (.error e, s)

def run (s : State) : List Step → List Outcome × State
  | [] => ([], s)
  | step :: rest =>
    let (outcome, s) := s.next step
    let (outcomes, s) := s.run rest
    (outcome :: outcomes, s)

end State
end Interpolation.Session
