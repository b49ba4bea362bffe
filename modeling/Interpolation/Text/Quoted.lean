import Interpolation.Text
import Interpolation.Text.GraphemeExtend
import Interpolation.Text.NonPrinting

/-!
# Quoted text

A quoted text shows each of its characters.  One that could not be seen alone,
because it leaves no mark or is drawn on its neighbour, is shown by its number.
The properties of Unicode that tell these characters leave out the Hangul
fillers, which are letters without a shape, and include two marks of halfwidth
Katakana that have a place of their own.
-/

namespace Interpolation.Text

def inRanges (ranges : Array (Nat × Nat)) (c : Char) : Bool :=
  ranges.any fun (first, last) => first ≤ c.toNat && c.toNat ≤ last

/-- Letters that fill the place of a missing part of a syllable with nothing. -/
def isFiller (c : Char) : Bool := c ∈ ['\u115f', '\u1160', '\u3164', '\uffa0']

/-- The halfwidth sound marks: they belong to the character before them, but
stand after it. -/
def isSpacingMark (c : Char) : Bool := c == '\uff9e' || c == '\uff9f'

def leavesMark (c : Char) : Bool := !inRanges nonPrinting c && !isFiller c

def joinsNeighbour (c : Char) : Bool := inRanges graphemeExtend c && !isSpacingMark c

/-- Whether a character can be seen alone. -/
def isVisible (c : Char) : Bool := leavesMark c && !joinsNeighbour c

/-- A character by its number. -/
def numbered (c : Char) : Text := "\\u\x7b".toList ++ Nat.toDigits 16 c.toNat ++ ['}']

def showChar (c : Char) : Text :=
  match c with
  | '\x00' => ['\\', '0']
  | '\t' => ['\\', 't']
  | '\r' => ['\\', 'r']
  | '\n' => ['\\', 'n']
  | '\\' => ['\\', '\\']
  | '"' => ['\\', '"']
  | c => if isVisible c then [c] else numbered c

def quoted (t : Text) : Text := '"' :: t.flatMap showChar ++ ['"']

end Interpolation.Text
