import Interpolation.Json.Literal

/-!
# Reading JSON text

A reader takes a value from the front of a text and returns the rest.  It stops
at the first fault.  Arrays and objects nest at most `maxDepth` deep.
-/

namespace Interpolation.Json

abbrev Reader (α : Type) := Text → Except Error (α × Text)

def isBlank (c : Char) : Bool := c == ' ' || c == '\n' || c == '\t' || c == '\r'

def skipBlank (t : Text) : Text := t.dropWhile isBlank

/-- The characters of `word`, and nothing else. -/
def readWord : Text → Text → Except Error Text
  | [], t => .ok t
  | _ :: _, [] => .error .endOfText
  | w :: word, c :: rest => if w = c then readWord word rest else .error .malformed

/-! ## Strings -/

def hexValue (c : Char) : Option Nat :=
  if '0' ≤ c ∧ c ≤ '9' then some (c.toNat - '0'.toNat)
  else if 'a' ≤ c ∧ c ≤ 'f' then some (c.toNat - 'a'.toNat + 10)
  else if 'A' ≤ c ∧ c ≤ 'F' then some (c.toNat - 'A'.toNat + 10)
  else none

/-- The four hexadecimal digits of an escape.  They are looked for only where
the text has four more bytes. -/
def readUnit (t : Text) : Except Error Nat :=
  match t with
  | a :: b :: c :: d :: _ =>
    match hexValue a, hexValue b, hexValue c, hexValue d with
    | some a, some b, some c, some d => .ok (((a * 16 + b) * 16 + c) * 16 + d)
    | _, _, _, _ => .error .malformed
  | short => if short.utf8Size < 4 then .error .endOfText else .error .malformed

def isHighSurrogate (n : Nat) : Bool := 0xD800 ≤ n && n < 0xDC00

def isLowSurrogate (n : Nat) : Bool := 0xDC00 ≤ n && n < 0xE000

/-- The character after `\u`, and the number of characters that tell it.  A
character beyond the first 65536 takes two escapes; half of one is no character. -/
def readCode (t : Text) : Except Error (Char × Nat) := do
  let high ← readUnit t
  if isHighSurrogate high then
    let rest ← readWord ['\\', 'u'] (t.drop 4)
    let low ← readUnit rest
    if isLowSurrogate low then
      return (Char.ofNat (0x10000 + (high - 0xD800) * 0x400 + (low - 0xDC00)), 10)
    else throw .malformed
  else if isLowSurrogate high then throw .malformed
  else return (Char.ofNat high, 4)

/-- The character after a backslash, and the number of characters that tell it. -/
def readEscape (t : Text) : Except Error (Char × Nat) :=
  match t with
  | [] => .error .endOfText
  | '"' :: _ => .ok ('"', 1)
  | '\\' :: _ => .ok ('\\', 1)
  | '/' :: _ => .ok ('/', 1)
  | 'b' :: _ => .ok ('\x08', 1)
  | 'f' :: _ => .ok ('\x0c', 1)
  | 'n' :: _ => .ok ('\n', 1)
  | 'r' :: _ => .ok ('\r', 1)
  | 't' :: _ => .ok ('\t', 1)
  | 'u' :: rest => (readCode rest).map fun (c, n) => (c, n + 1)
  | _ => .error .malformed

/-- The rest of a string after `passed` characters, which belong to an escape
that was read before. -/
def readStringFrom : Nat → Text → Except Error (Text × Text)
  | _, [] => .error .endOfText
  | passed + 1, _ :: rest => readStringFrom passed rest
  | 0, c :: rest =>
    if c = '"' then .ok ([], rest)
    else if c = '\\' then do
      let (d, n) ← readEscape rest
      let (t, rest) ← readStringFrom n rest
      return (d :: t, rest)
    else if c < ' ' then .error .malformed
    else do
      let (t, rest) ← readStringFrom 0 rest
      return (c :: t, rest)

/-- A string after its opening quote. -/
def readString : Reader Text := readStringFrom 0

/-! ## Values -/

/-- A value that is neither an array nor an object. -/
def readScalar : Reader Json := fun t =>
  match t with
  | [] => .error .endOfText
  | 'n' :: rest => do return (null, ← readWord "ull".toList rest)
  | 't' :: rest => do return (bool true, ← readWord "rue".toList rest)
  | 'f' :: rest => do return (bool false, ← readWord "alse".toList rest)
  | '"' :: rest => do
    let (s, rest) ← readString rest
    return (string s, rest)
  | c :: rest =>
    if c = '-' ∨ c.isDigit then do
      let (n, rest) ← readNumber (c :: rest)
      return (number n, rest)
    else .error .malformed

/-- What comes next among the elements between two brackets. -/
inductive Turn where
  | closed (rest : Text)
  | element (start : Text)

/-- A comma stands before every element but the first, and before nothing else. -/
def turn (close : Char) (first : Bool) (t : Text) : Except Error Turn :=
  match skipBlank t with
  | [] => .error .endOfText
  | c :: rest =>
    if c = close then .ok (.closed rest)
    else if first then .ok (.element (c :: rest))
    else if c = ',' then
      match skipBlank rest with
      | [] => .error .endOfText
      | d :: rest => if d = close then .error .malformed else .ok (.element (d :: rest))
    else .error .malformed

/-- The elements up to `close`, at most `bound` of them. -/
def readElements {α : Type} (close : Char) (element : Reader α) :
    Nat → Bool → Reader (List α)
  | 0, _, _ => .error .malformed
  | bound + 1, first, t => do
    match ← turn close first t with
    | .closed rest => return ([], rest)
    | .element start =>
      let (x, rest) ← element start
      let (xs, rest) ← readElements close element bound false rest
      return (x :: xs, rest)

/-- The elements after an opening bracket.  Each takes at least one character, so
the length of the text bounds their number. -/
def readAll {α : Type} (close : Char) (element : Reader α) : Reader (List α) :=
  fun t => readElements close element (t.length + 1) true t

def readColon (t : Text) : Except Error Text :=
  match skipBlank t with
  | [] => .error .endOfText
  | c :: rest => if c = ':' then .ok rest else .error .malformed

/-- Only a string may be a key; `string` reads it after its opening quote. -/
def readKey (string : Reader Text) : Reader Text := fun t =>
  match t with
  | '"' :: rest => string rest
  | _ => .error .malformed

/-- A field of an object: a key, a colon and a value. -/
def readField {α : Type} (string : Reader Text) (value : Reader α) : Reader (Text × α) :=
  fun t => do
    let (key, rest) ← readKey string t
    let (v, rest) ← value (← readColon rest)
    return ((key, v), rest)

/-- How the parts of a value are read and put together. -/
structure Grammar (α : Type) where
  scalar : Reader α
  string : Reader Text
  array : List α → α
  object : List (Text × α) → α

/-- A value in at most `depth` brackets. -/
def Grammar.read {α : Type} (g : Grammar α) : Nat → Reader α
  | 0, t =>
    match skipBlank t with
    | '[' :: _ => .error .malformed
    | '{' :: _ => .error .malformed
    | start => g.scalar start
  | depth + 1, t =>
    match skipBlank t with
    | '[' :: rest => do
      let (items, rest) ← readAll ']' (g.read depth) rest
      return (g.array items, rest)
    | '{' :: rest => do
      let (fields, rest) ← readAll '}' (readField g.string (g.read depth)) rest
      return (g.object fields, rest)
    | start => g.scalar start

def grammar : Grammar Json := ⟨readScalar, readString, array, ofFields⟩

def maxDepth : Nat := 127

def read : Reader Json := grammar.read maxDepth

/-- After a value only blanks may follow. -/
def readWhole {α : Type} (reader : Reader α) (t : Text) : Except Error α := do
  let (x, rest) ← reader t
  if (skipBlank rest).isEmpty then return x else throw .malformed

def parse (t : Text) : Except Error Json := readWhole read t

end Interpolation.Json
