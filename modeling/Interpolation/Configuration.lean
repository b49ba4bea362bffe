import Interpolation.Interchange

/-!
# A record of patterns

A configuration has a header and may have a footer.  It is read from an object,
in which other fields are passed over, or from an array of the two.
-/

namespace Interpolation

open Json (Decoder Error Reader)

structure Configuration where
  header : Pattern
  footer : Option Pattern
deriving DecidableEq, Repr

namespace Configuration

/-- The fields found so far.  A footer that is `null` has been found. -/
structure Draft where
  header : Option Pattern
  footer : Option (Option Pattern)

def Draft.empty : Draft := ⟨none, none⟩

def headerKey : Text := "header".toList

def footerKey : Text := "footer".toList

def footerDecoder : Decoder (Option Pattern) := .optional Pattern.decoder

/-- The footer may be missing. -/
def Draft.finish (d : Draft) : Except Error Configuration :=
  match d.header with
  | some header => .ok ⟨header, d.footer.join⟩
  | none => .error (.mismatch (.missingField headerKey))

/-- A field by its key.  A second header or footer is refused before its value
is read. -/
def Draft.readField (d : Draft) (key : Text) : Reader Draft := fun t => do
  if key = headerKey then
    if d.header.isSome then throw (.mismatch (.duplicateField key))
    let (header, rest) ← Pattern.decoder.read (← Json.readColon t)
    return ({ d with header := some header }, rest)
  else if key = footerKey then
    if d.footer.isSome then throw (.mismatch (.duplicateField key))
    let (footer, rest) ← footerDecoder.read (← Json.readColon t)
    return ({ d with footer := some footer }, rest)
  else
    let (_, rest) ← Json.Ignored.read (← Json.readColon t)
    return (d, rest)

/-- The fields up to the closing bracket, at most `bound` of them. -/
def Draft.readFields : Nat → Bool → Draft → Reader Draft
  | 0, _, _, _ => .error .malformed
  | bound + 1, first, d, t => do
    match ← Json.turn '}' first t with
    | .closed rest => return (d, rest)
    | .element start =>
      let (key, rest) ← Json.readKey Json.readString start
      let (d, rest) ← d.readField key rest
      readFields bound false d rest

/-- The next one of the two elements of an array; `before` were there already. -/
def readElement {α : Type} (before : Nat) (element : Reader α) : Reader α := fun t => do
  match ← Json.turn ']' (before == 0) t with
  | .closed _ => throw (.mismatch (.tooShort before))
  | .element start => element start

/-- The two elements of an array and its closing bracket. -/
def readArray : Reader Configuration := fun t => do
  let (header, rest) ← readElement 0 Pattern.decoder.read t
  let (footer, rest) ← readElement 1 footerDecoder.read rest
  match Json.skipBlank rest with
  | [] => throw .endOfText
  | ']' :: rest => return (⟨header, footer⟩, rest)
  | _ => throw .malformed

def Draft.addField (d : Draft) (field : Text × Json) : Except Error Draft := do
  if field.1 = headerKey then
    return { d with header := some (← Pattern.decoder.ofJson field.2) }
  else if field.1 = footerKey then
    return { d with footer := some (← footerDecoder.ofJson field.2) }
  else
    return d

def ofArray : List Json → Except Error Configuration
  | [] => .error (.mismatch (.tooShort 0))
  | header :: rest => do
    let header ← Pattern.decoder.ofJson header
    match rest with
    | [] => throw (.mismatch (.tooShort 1))
    | footer :: more =>
      let footer ← footerDecoder.ofJson footer
      if more.isEmpty then return ⟨header, footer⟩
      else throw (.mismatch (.tooLong (more.length + 2)))

def decoder : Decoder Configuration where
  read t :=
    match Json.skipBlank t with
    | '[' :: rest => readArray rest
    | '{' :: rest => do
      let (d, rest) ← Draft.empty.readFields (rest.length + 1) true rest
      return (← d.finish, rest)
    | start => Json.refuse .configuration start
  ofJson
    | .array items => ofArray items
    | .object fields => do (← fields.foldlM Draft.addField Draft.empty).finish
    | j => Json.mismatch j.found .configuration

end Configuration
end Interpolation
