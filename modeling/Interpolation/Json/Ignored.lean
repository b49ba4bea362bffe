import Interpolation.Json.Reader

/-!
# Values that nobody wants

A value that is passed over has to be well-formed as a text, but what its parts
mean is not looked at: numbers may be too large, half a character may stand in a
string, and brackets nest without bound.
-/

namespace Interpolation.Json.Ignored

/-- The number of characters after a backslash that are passed over. -/
def readEscape (t : Text) : Except Error Nat :=
  match t with
  | [] => .error .endOfText
  | 'u' :: rest => (readUnit rest).map fun _ => 5
  | c :: _ => if c ∈ ['"', '\\', '/', 'b', 'f', 'n', 'r', 't'] then .ok 1 else .error .malformed

def readStringFrom : Nat → Text → Except Error Text
  | _, [] => .error .endOfText
  | passed + 1, _ :: rest => readStringFrom passed rest
  | 0, c :: rest =>
    if c = '"' then .ok rest
    else if c = '\\' then do readStringFrom (← readEscape rest) rest
    else if c < ' ' then .error .malformed
    else readStringFrom 0 rest

def readString : Reader Text := fun t => do return ([], ← readStringFrom 0 t)

/-- A number that breaks off is malformed, even at the end of the text. -/
def readNumber (t : Text) : Except Error Text :=
  match Literal.read t with
  | .ok (_, rest) => .ok rest
  | .error _ => .error .malformed

def readScalar : Reader Unit := fun t =>
  match t with
  | [] => .error .endOfText
  | 'n' :: rest => do return ((), ← readWord "ull".toList rest)
  | 't' :: rest => do return ((), ← readWord "rue".toList rest)
  | 'f' :: rest => do return ((), ← readWord "alse".toList rest)
  | '"' :: rest => do return ((), ← readStringFrom 0 rest)
  | c :: rest =>
    if c = '-' ∨ c.isDigit then do return ((), ← readNumber (c :: rest))
    else .error .malformed

def grammar : Grammar Unit := ⟨readScalar, readString, fun _ => (), fun _ => ()⟩

/-- No text has more brackets than characters, so its length is no bound. -/
def read : Reader Unit := fun t => grammar.read t.length t

end Interpolation.Json.Ignored
