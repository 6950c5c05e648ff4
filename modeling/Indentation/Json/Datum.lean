import Indentation.ExitStatus
import Indentation.FileTree.Path
import Indentation.Json.Inline
import Indentation.Json.Record

/-!
# Data that have a JSON form

What is printed as JSON need not be JSON from the start. A datum is built from plain values, from
the records of the library and from collections of several kinds, and has one JSON form: collections
of all kinds become arrays, maps become objects, and what has no form of its own is given by its
text.

The keys of a map need not be strings. Two keys that are the same number are one key, and so are two
keys that have the same text. Where a key is repeated, the last value counts.
-/

namespace Indentation

open Json

/-- A key of a map. -/
inductive Key where
  | null
  | bool (b : Bool)
  | int (n : Int)
  | float (x : Float)
  | str (s : String)

namespace Key

/-- The text of a key. -/
def text : Key → String
  | null => Value.inline .null
  | bool b => Value.inline (.bool b)
  | int n => Value.inline (.int n)
  | float x => Value.inline (.float x)
  | str s => s

/-- The integer that a key stands for. Truth values are the numbers one and zero. -/
def integer? : Key → Option Int
  | bool b => some (if b then 1 else 0)
  | int n => some n
  | float x => Decimal.integer? x
  | _ => none

/-- Whether two keys are one. -/
def same (a b : Key) : Bool :=
  match a, b with
  | null, null => true
  | str s, str t => s == t
  | a, b =>
    match a.integer?, b.integer? with
    | some m, some n => m == n
    | none, none =>
      match a, b with
      | float x, float y => x == y
      | _, _ => false
    | _, _ => false

end Key

/-- Something that has a JSON form. -/
inductive Datum where
  | null
  | bool (b : Bool)
  | int (n : Int)
  | float (x : Float)
  | str (s : String)
  /-- A style, which is given by its letter. -/
  | style (s : Style)
  | signature (s : Signature)
  | settings (s : Settings)
  | options (skipDocs : Bool)
  | status (s : ExitStatus)
  | path (p : Path)
  | bytes (b : List UInt8)
  /-- What has no form of its own, by its text. -/
  | other (text : String)
  | list (items : List Datum)
  | tuple (items : List Datum)
  | set (items : List Datum)
  | map (entries : List (Key × Datum))
  deriving Inhabited

namespace Datum

/-- Puts an entry into a map. A key that is there already stays and takes the new value. -/
def putEntry (entries : List (Key × Value)) (k : Key) (v : Value) : List (Key × Value) :=
  match entries with
  | [] => [(k, v)]
  | (j, w) :: rest => if j.same k then (j, v) :: rest else (j, w) :: putEntry rest k v

/-- The object of a map. -/
def object (entries : List (Key × Value)) : Value :=
  let distinct := entries.foldl (fun es (k, v) => putEntry es k v) []
  .obj (distinct.foldl (fun ms (k, v) => Members.set ms k.text v) [])

/-- The items of a set, which has no order of its own: integers are put in ascending order, and
other items stay as they are. -/
def arrange (items : List Value) : List Value :=
  match items.mapM Value.int? with
  | some ns => (ns.eraseDups.mergeSort (· ≤ ·)).map .int
  | none => items

mutual

/-- The JSON form of a datum. -/
def toJson : Datum → Value
  | null => .null
  | bool b => .bool b
  | int n => .int n
  | float x => .float x
  | str s => .str s
  | style s => .str (String.singleton s.letter)
  | signature s => s.toJson
  | settings s => s.toJson
  | options skipDocs => .obj [("skip_doc_comments", .bool skipDocs)]
  | status s => .int s.code
  | path p => .str p.toString
  | bytes b => .str (String.ofList (Text.quoteBytes b))
  | other text => .str text
  | list items => .arr (itemsToJson items)
  | tuple items => .arr (itemsToJson items)
  | set items => .arr (arrange (itemsToJson items))
  | map entries => object (entriesToJson entries)

/-- The JSON forms of the items of a collection. -/
def itemsToJson : List Datum → List Value
  | [] => []
  | d :: ds => d.toJson :: itemsToJson ds

/-- The entries of a map with the JSON forms of their values. -/
def entriesToJson : List (Key × Datum) → List (Key × Value)
  | [] => []
  | (k, d) :: es => (k, d.toJson) :: entriesToJson es

end

/-- The text of the JSON form of a datum. -/
def print (layout : Layout) (d : Datum) : List Char := Json.print layout d.toJson

end Datum

end Indentation
