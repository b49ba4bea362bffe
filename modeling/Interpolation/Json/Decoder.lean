import Interpolation.Json.Reader

/-!
# Decoders

A decoder takes a domain value from JSON in one of two ways.  The direct way
reads the text from left to right and stops at the first thing that is wrong with
it.  The other way reads the whole text as a JSON value first, so it sees fields
in the order of their keys and only the last one of a key.
-/

namespace Interpolation.Json

structure Decoder (α : Type) where
  /-- The direct way. -/
  read : Reader α
  ofJson : Json → Except Error α

def mismatch {α : Type} (found : Found) (expected : Expected) : Except Error α :=
  .error (.mismatch (.wrongType found expected))

/-- The error for a value of a wrong type.  A scalar is read to its end to say
what it is, an array or object is not. -/
def refuse {α : Type} (expected : Expected) (t : Text) : Except Error α :=
  match t with
  | '[' :: _ => mismatch .sequence expected
  | '{' :: _ => mismatch .map expected
  | t => do
    let (value, _) ← readScalar t
    mismatch value.found expected

/-- A string, at the first character that is not blank. -/
def readText : Reader Text := fun t =>
  match skipBlank t with
  | '"' :: rest => readString rest
  | start => refuse .string start

namespace Decoder

variable {α : Type}

def direct (d : Decoder α) (t : Text) : Except Error α := readWhole d.read t

def byValue (d : Decoder α) (t : Text) : Except Error α := do d.ofJson (← parse t)

/-- A string whose characters are decoded further. -/
def string (decode : Text → Except Error α) : Decoder α where
  read t := do
    let (s, rest) ← readText t
    return (← decode s, rest)
  ofJson
    | .string s => decode s
    | j => mismatch j.found .string

def list (d : Decoder α) : Decoder (List α) where
  read t :=
    match skipBlank t with
    | '[' :: rest => readAll ']' d.read rest
    | start => refuse .sequence start
  ofJson
    | .array items => items.mapM d.ofJson
    | j => mismatch j.found .sequence

/-- A value or `null`. -/
def optional (d : Decoder α) : Decoder (Option α) where
  read t :=
    match skipBlank t with
    | 'n' :: rest => do return (none, ← readWord "ull".toList rest)
    | start => do
      let (x, rest) ← d.read start
      return (some x, rest)
  ofJson
    | .null => .ok none
    | j => some <$> d.ofJson j

end Decoder

/-- The fields of an object as a record. -/
def record : Decoder (Record Json) where
  read t :=
    match skipBlank t with
    | '{' :: rest => do
      let (fields, rest) ← readAll '}' (readField readString (grammar.read (maxDepth - 1))) rest
      return (Record.ofList fields, rest)
    | start => refuse .map start
  ofJson
    | .object fields => .ok fields
    | j => mismatch j.found .map

end Interpolation.Json
