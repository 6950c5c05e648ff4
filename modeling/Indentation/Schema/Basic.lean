import Indentation.Json.Inline

/-!
# Schemas

A schema is a list of demands on a JSON value. Which values satisfy it is what the published standard
(JSON Schema, Draft 2020-12) lays down for the keywords that are used here. What is reported of a value
that does not is the affair of the checker, and stands apart from this.

An integer is a number without a fractional part, however it is written. Booleans are no numbers. A
demand that is about another kind of value holds. The standard leaves it open how patterns are read;
here the end of a string is also in front of a line feed that is its last character.
-/

namespace Indentation

open Json

/-- The kinds of values that a schema distinguishes. -/
inductive Kind where
  | object
  | array
  | string
  | integer
  deriving DecidableEq, Repr

namespace Kind

/-- The name of a kind. -/
def name : Kind → String
  | object => "object"
  | array => "array"
  | string => "string"
  | integer => "integer"

/-- Whether a value is of a kind. -/
def holds : Kind → Value → Bool
  | object, .obj _ => true
  | array, .arr _ => true
  | string, .str _ => true
  | integer, .int _ => true
  | integer, .float x => (Decimal.integer? x).isSome
  | _, _ => false

end Kind

/-- The patterns that a schema can demand of a string. -/
inductive Pattern where
  /-- A written signature, or one with a line feed behind it. -/
  | signature
  deriving DecidableEq, Repr

namespace Pattern

/-- The pattern as a regular expression. -/
def text : Pattern → String
  | signature => "^(?:[stm][1-9][0-9]*|u)$"

/-- Whether a text is a letter with a width, or the letter for an unknown style. -/
def isSignature : List Char → Bool
  | ['u'] => true
  | c :: d :: ds =>
    (c == 's' || c == 't' || c == 'm') && d.isDigit && d != '0' && ds.all Char.isDigit
  | _ => false

/-- Whether a string fits the pattern. -/
def holds : Pattern → String → Bool
  | signature, s =>
    let cs := s.toList
    isSignature cs || (cs.getLast? == some '\n' && isSignature cs.dropLast)

end Pattern

/-- One demand of a schema. -/
inductive Keyword where
  | type (kind : Kind)
  | const (s : String)
  | enum (options : List String)
  /-- A number is not below this one. -/
  | minimum (n : Int)
  /-- A string has at least this many characters. -/
  | minLength (n : Nat)
  | pattern (p : Pattern)
  | required (keys : List String)
  /-- An object has no members but those that the schema lists. -/
  | closed
  /-- The members of an object that the schema does not list satisfy this schema. -/
  | additional (schema : List Keyword)
  /-- The members of these names satisfy these schemas. -/
  | properties (members : List (String × List Keyword))
  | items (schema : List Keyword)
  /-- The keys of an object satisfy this schema. -/
  | propertyNames (schema : List Keyword)
  /-- The value satisfies the schema of this name. -/
  | ref (name : String) (schema : List Keyword)

/-- A list of demands. -/
abbrev Schema := List Keyword

namespace Schema

/-- The names of the members that a schema lists. -/
def listed (s : Schema) : List String :=
  s.flatMap fun
    | .properties ps => ps.map Prod.fst
    | _ => []

/-- Whether a value is a number below an integer. -/
def isBelow (n : Int) : Value → Bool
  | .int m => m < n
  | .float x => x < Float.ofInt n
  | _ => false

/-- The members of an object whose names are not among those that a schema lists. -/
def unlisted (names : List String) (v : Value) : Members :=
  (v.obj?.getD []).filter fun m => !names.contains m.1

end Schema

open Schema in
mutual

/-- Whether a value meets one demand of a schema that lists members of the given names. -/
def Keyword.holds (names : List String) (v : Value) : Keyword → Bool
  | .type k => k.holds v
  | .const s => v.str? == some s
  | .enum options => v.str?.elim false options.contains
  | .minimum n => !isBelow n v
  | .minLength n => v.str?.elim true fun s => n ≤ s.length
  | .pattern p => v.str?.elim true p.holds
  | .required keys => v.obj?.elim true fun ms => keys.all fun k => (ms.lookup k).isSome
  | .closed => (unlisted names v).isEmpty
  | .additional schema => (unlisted names v).all fun m => Schema.allHold (listed schema) m.2 schema
  | .properties ps => Schema.membersHold (v.obj?.getD []) ps
  | .items schema => (v.arr?.getD []).all fun w => Schema.allHold (listed schema) w schema
  | .propertyNames schema =>
    (v.obj?.getD []).all fun m => Schema.allHold (listed schema) (.str m.1) schema
  | .ref _ schema => Schema.allHold (listed schema) v schema

/-- Whether a value meets all demands of a list. -/
def Schema.allHold (names : List String) (v : Value) : List Keyword → Bool
  | [] => true
  | k :: ks => k.holds names v && Schema.allHold names v ks

/-- Whether the members of an object satisfy the schemas for them. -/
def Schema.membersHold (ms : Members) : List (String × List Keyword) → Bool
  | [] => true
  | (k, schema) :: ps =>
    ((ms.lookup k).all fun w => Schema.allHold (listed schema) w schema) && Schema.membersHold ms ps

end

/-- Whether a value satisfies a schema. -/
def Schema.holds (s : Schema) (v : Value) : Bool := Schema.allHold (Schema.listed s) v s

end Indentation
