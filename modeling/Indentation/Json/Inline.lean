import Indentation.Json.Printer

/-!
# Values in messages

Messages show the value that they are about on one line, with its strings quoted and the members of
objects in their own order. The words for the special values are those of the messages and not those
of JSON.
-/

namespace Indentation.Json

/-- Messages write numbers as JSON does, but spell the special values in lower case. -/
def inlineNumberStyle : Decimal.Style := { numberStyle with notANumber := "nan", infinity := "inf" }

mutual

/-- A value as messages show it. -/
def inline : Value → List Char
  | .null => "None".toList
  | .bool true => "True".toList
  | .bool false => "False".toList
  | .int n => Signature.decimal n
  | .float x => inlineNumberStyle.text x
  | .str s => Text.quote s.toList
  | .arr items => '[' :: ([',', ' '].intercalate (inlineItems items) ++ [']'])
  | .obj members => '\x7b' :: ([',', ' '].intercalate (inlineMembers members) ++ ['\x7d'])

/-- The items of an array as messages show them. -/
def inlineItems : List Value → List (List Char)
  | [] => []
  | v :: vs => inline v :: inlineItems vs

/-- The members of an object as messages show them. -/
def inlineMembers : List (String × Value) → List (List Char)
  | [] => []
  | (k, v) :: ms => (Text.quote k.toList ++ ':' :: ' ' :: inline v) :: inlineMembers ms

end

/-- A value as messages show it, as a string. -/
def Value.inline (v : Value) : String := String.ofList (Json.inline v)

end Indentation.Json
