import Indentation.Decimal.Text
import Indentation.Json.Value
import Indentation.Signature
import Indentation.Text.Quoted

/-!
# Printing JSON

Values are printed in one canonical form: the members of every object in the order of their keys, so
that two objects that differ in the order of their members alone have one text. The layout decides
on blanks and line ends between tokens. Characters are written as they are, except for quotes,
backslashes and controls in strings.
-/

namespace Indentation.Json

/-- Where lines end between tokens. -/
inductive Layout where
  /-- Everything stands on one line. -/
  | line
  /-- Every item and member stands on a line of its own, indented by `step` spaces per level. -/
  | tree (step : Nat)
  deriving DecidableEq, Repr

namespace Layout

/-- What separates two items of one array or object at the given depth. -/
def separator : Layout → Nat → List Char
  | line, _ => [',', ' ']
  | tree step, depth => ',' :: '\n' :: List.replicate (step * depth) ' '

/-- What stands between an opening bracket and the first item, which is at the given depth. -/
def opening : Layout → Nat → List Char
  | line, _ => []
  | tree step, depth => '\n' :: List.replicate (step * depth) ' '

/-- What stands between the last item and the closing bracket, which is at the given depth. -/
def closing : Layout → Nat → List Char := opening

end Layout

/-- Numbers are written out up to sixteen digits before and four places behind the point, and have
an exponent beyond that. -/
def numberStyle : Decimal.Style where
  leastPlain := -4
  greatestPlain := 15
  exponentDigits := 2
  notANumber := "NaN"
  infinity := "Infinity"

/-- A character of a string. -/
def escapeChar (c : Char) : List Char :=
  if c == '\x22' then ['\\', '\x22']
  else if c == '\\' then ['\\', '\\']
  else if c == '\n' then ['\\', 'n']
  else if c == '\r' then ['\\', 'r']
  else if c == '\t' then ['\\', 't']
  else if c == '\x08' then ['\\', 'b']
  else if c == '\x0c' then ['\\', 'f']
  else if c.toNat < 0x20 then '\\' :: 'u' :: Text.hex 4 c.toNat
  else [c]

/-- A string between quotes. -/
def quoteString (s : String) : List Char := '\x22' :: (s.toList.flatMap escapeChar ++ ['\x22'])

/-- Items between brackets, the items being at the given depth. -/
def enclose (layout : Layout) (depth : Nat) (open' close : Char) (items : List (List Char)) :
    List Char :=
  if items.isEmpty then [open', close]
  else
    open' :: (layout.opening depth ++ (layout.separator depth).intercalate items
      ++ layout.closing (depth - 1) ++ [close])

/-- Entries in the order of their keys. -/
def sortByKey {α : Type} (entries : List (String × α)) : List (String × α) :=
  entries.mergeSort fun a b => a.1 ≤ b.1

/-- A member with its value printed. -/
def member (entry : String × List Char) : List Char := quoteString entry.1 ++ ':' :: ' ' :: entry.2

mutual

/-- The text of a value at the given depth. -/
def printAt (layout : Layout) (depth : Nat) : Value → List Char
  | .null => "null".toList
  | .bool true => "true".toList
  | .bool false => "false".toList
  | .int n => Signature.decimal n
  | .float x => numberStyle.text x
  | .str s => quoteString s
  | .arr items => enclose layout (depth + 1) '[' ']' (printItems layout (depth + 1) items)
  | .obj members =>
    enclose layout (depth + 1) '\x7b' '\x7d'
      ((sortByKey (printMembers layout (depth + 1) members)).map member)

/-- The texts of the items of an array. -/
def printItems (layout : Layout) (depth : Nat) : List Value → List (List Char)
  | [] => []
  | v :: vs => printAt layout depth v :: printItems layout depth vs

/-- The keys of an object with the texts of their values. -/
def printMembers (layout : Layout) (depth : Nat) : List (String × Value) → List (String × List Char)
  | [] => []
  | (k, v) :: ms => (k, printAt layout depth v) :: printMembers layout depth ms

end

/-- The text of a value, with a line feed behind it. -/
def print (layout : Layout) (v : Value) : List Char := printAt layout 0 v ++ ['\n']

end Indentation.Json
