import Interpolation.Pattern
import Interpolation.Text.Quoted

/-!
# Outlines

An outline shows the structure of a value: lists in brackets, and named values
with their parts.  It is written on one line, or with each part on its own line.
-/

namespace Interpolation

inductive Outline where
  | word (text : Text)
  | list (items : List Outline)
  /-- A name with parts in parentheses. -/
  | tuple (name : Text) (parts : List Outline)
  /-- A name with named parts in braces. -/
  | fields (name : Text) (parts : List (Text × Outline))
deriving Repr

namespace Outline

mutual

def oneLine : Outline → Text
  | word t => t
  | list items => '[' :: oneLineItems items ++ [']']
  | tuple name parts => name ++ '(' :: oneLineItems parts ++ [')']
  | fields name parts => name ++ ' ' :: '{' :: ' ' :: oneLineFields parts ++ [' ', '}']

def oneLineItems : List Outline → Text
  | [] => []
  | [item] => oneLine item
  | item :: next :: rest => oneLine item ++ ',' :: ' ' :: oneLineItems (next :: rest)

def oneLineFields : List (Text × Outline) → Text
  | [] => []
  | [(name, part)] => name ++ ':' :: ' ' :: oneLine part
  | (name, part) :: next :: rest =>
    name ++ ':' :: ' ' :: oneLine part ++ ',' :: ' ' :: oneLineFields (next :: rest)

end

/-- The start of a line at some depth: four blanks for each step inwards. -/
def indent (depth : Nat) : Text := List.replicate (4 * depth) ' '

mutual

/-- Every part ends its line with a comma; an empty list has no lines. -/
def lines (depth : Nat) : Outline → Text
  | word t => t
  | list [] => ['[', ']']
  | list (item :: items) => '[' :: '\n' :: itemLines depth (item :: items) ++ indent depth ++ [']']
  | tuple name parts => name ++ '(' :: '\n' :: itemLines depth parts ++ indent depth ++ [')']
  | fields name parts =>
    name ++ ' ' :: '{' :: '\n' :: fieldLines depth parts ++ indent depth ++ ['}']

def itemLines (depth : Nat) : List Outline → Text
  | [] => []
  | item :: rest =>
    indent (depth + 1) ++ lines (depth + 1) item ++ ',' :: '\n' :: itemLines depth rest

def fieldLines (depth : Nat) : List (Text × Outline) → Text
  | [] => []
  | (name, part) :: rest =>
    indent (depth + 1) ++ name ++ ':' :: ' ' :: lines (depth + 1) part ++
      ',' :: '\n' :: fieldLines depth rest

end

def indented (o : Outline) : Text := o.lines 0

end Outline

def BraceFault.name : BraceFault → Text
  | .nestedOpening => "NestedOpeningBrace".toList
  | .unmatchedClosing => "UnmatchedClosingBrace".toList
  | .unclosedOpening => "UnclosedOpeningBrace".toList

def BraceError.outline (e : BraceError) : Outline :=
  .fields e.fault.name [("position".toList, .word (Text.ofNat e.position))]

def Symbol.outline : Symbol → Outline
  | .literal t => .tuple "Literal".toList [.word t.quoted]
  | .substitution t => .tuple "Substitution".toList [.word t.quoted]

def Pattern.outline (p : Pattern) : Outline :=
  .fields "Pattern".toList [("symbols".toList, .list (p.symbols.map Symbol.outline))]

/-- The outline of what compiling a source gives. -/
def Outline.ofCompiled (source : Text) : Outline :=
  match Pattern.compile source with
  | .ok p => p.outline
  | .error e => e.outline

end Interpolation
