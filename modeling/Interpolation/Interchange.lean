import Interpolation.Json.Decoder
import Interpolation.Json.Ignored
import Interpolation.Pattern

/-!
# Patterns in JSON

A pattern is written as the string of its canonical source and read by compiling
it.  A symbol is written as an object with one field, whose key tells its kind;
this keeps what the canonical source loses, the border between two literals.
-/

namespace Interpolation

open Json (Decoder Error Reader)

namespace Symbol

inductive Kind where
  | literal
  | substitution
deriving DecidableEq, Repr

namespace Kind

def name : Kind → Text
  | literal => "Literal".toList
  | substitution => "Substitution".toList

def ofName (name : Text) : Except Error Kind :=
  if name = literal.name then .ok literal
  else if name = substitution.name then .ok substitution
  else .error (.mismatch (.unknownKind name))

def symbol : Kind → Text → Symbol
  | literal => .literal
  | substitution => .substitution

end Kind

def kind : Symbol → Kind
  | .literal _ => .literal
  | .substitution _ => .substitution

def toJson (s : Symbol) : Json := .object [(s.kind.name, .string s.text)]

/-- The name of a kind without a text is no symbol. -/
def ofBareName (name : Text) : Except Error Symbol := do
  let _ ← Kind.ofName name
  Json.mismatch .bareName .namedText

def textDecoder : Decoder Text := .string .ok

/-- The one field of a symbol, after the opening bracket.  The key is checked
before anything after it is read.  As in every object it has to be a string: what
else stands in its place is malformed text, and not a value of the wrong type. -/
def readField : Reader Symbol := fun t => do
  match ← Json.turn '}' true t with
  | .closed _ => throw .malformed
  | .element start =>
    let (name, rest) ← Json.readKey Json.readString start
    let kind ← Kind.ofName name
    let (text, rest) ← textDecoder.read (← Json.readColon rest)
    match Json.skipBlank rest with
    | [] => throw .endOfText
    | '}' :: rest => return (kind.symbol text, rest)
    | _ => throw .malformed

def decoder : Decoder Symbol where
  read t :=
    match Json.skipBlank t with
    | [] => .error .endOfText
    | '"' :: rest => do
      let (name, rest) ← Json.readString rest
      return (← ofBareName name, rest)
    | '{' :: rest => readField rest
    | _ => .error .malformed
  ofJson
    | .object [(name, value)] => do
      let kind ← Kind.ofName name
      return kind.symbol (← textDecoder.ofJson value)
    | .object _ => .error (.mismatch .notSingleKey)
    | .string name => ofBareName name
    | j => Json.mismatch j.found .stringOrMap

end Symbol

namespace Pattern

def toJson (p : Pattern) : Json := .string p.source

def symbolsToJson (p : Pattern) : Json := .array (p.symbols.map Symbol.toJson)

/-- Compile a text that was found in a JSON string. -/
def ofText (source : Text) : Except Error Pattern :=
  (compile source).mapError fun e => .mismatch (.braces e)

def decoder : Decoder Pattern := .string ofText

/-- The pattern that is read back from the JSON text of another. -/
def throughJson (p : Pattern) : Except Error Pattern := decoder.direct p.toJson.print

end Pattern
end Interpolation
