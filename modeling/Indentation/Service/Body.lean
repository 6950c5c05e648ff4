import Indentation.Json.Reader
import Indentation.Schema.Violation

/-!
# Bodies of requests

The body of a request for detection is a JSON object with a member `text`, and with a member
`skip_doc_comments` that may be left out. Other members mean nothing. A truth value may also be
given by a word or a number. All faults of the members are reported together.

The two members and the value that one of them has by default are the service's own. The rest is what
the library does that reads bodies for it: what may stand for a truth value, the kinds of faults, and
the words for them. It is written down as far as answers show it, and nothing proved here rests on it.
-/

namespace Indentation.Service

open Json

/-- What is wrong with a body, or with a part of it. -/
inductive FaultKind where
  | missing
  | notJson
  | notAnObject
  | notAString
  | notATruthValue
  /-- A word or a number that does not stand for a truth value. -/
  | unclearTruthValue
  deriving DecidableEq, Repr

namespace FaultKind

/-- The name of a kind of fault. -/
def name : FaultKind → String
  | missing => "missing"
  | notJson => "json_invalid"
  | notAnObject => "model_attributes_type"
  | notAString => "string_type"
  | notATruthValue => "bool_type"
  | unclearTruthValue => "bool_parsing"

/-- The words for a kind of fault. -/
def message : FaultKind → String
  | missing => "Field required"
  | notJson => "JSON decode error"
  | notAnObject => "Input should be a valid dictionary or object to extract fields from"
  | notAString => "Input should be a valid string"
  | notATruthValue => "Input should be a valid boolean"
  | unclearTruthValue => "Input should be a valid boolean, unable to interpret input"

end FaultKind

/-- A fault with the way to the part of the body that it is about. -/
structure BodyFault where
  kind : FaultKind
  path : List Step
  deriving DecidableEq, Repr

/-- A step as JSON. -/
def stepToJson : Step → Value
  | .key name => .str name
  | .index n => .int n

/-- A fault as an object. -/
def BodyFault.toJson (f : BodyFault) : Value :=
  .obj [("type", .str f.kind.name), ("loc", .arr (.str "body" :: f.path.map stepToJson)),
    ("msg", .str f.kind.message)]

/-- Why a body is refused. -/
inductive BodyError where
  | faults (fs : List BodyFault)
  /-- The body cannot be worked on, because a number in it is too long. -/
  | unworkable

/-- A request for detection. -/
structure DetectRequest where
  text : List Char
  skipDocs : Bool := false
  deriving DecidableEq, Repr

/-! ## Truth values -/

/-- The words that stand for true, in lower case. -/
def trueWords : List String := ["1", "on", "t", "true", "y", "yes"]

/-- The words that stand for false, in lower case. -/
def falseWords : List String := ["0", "off", "f", "false", "n", "no"]

/-- The truth value of a word. -/
def boolOfWord (s : String) : Except FaultKind Bool :=
  let s := String.ofList (s.toList.map Char.toLower)
  if trueWords.contains s then .ok true
  else if falseWords.contains s then .ok false
  else .error .unclearTruthValue

/-- The number of integers from zero on that fit in a word of 64 bits with sign. -/
def wordBound : Int := (Nat.pow 2 63 : Nat)

/-- The truth value of a number, which has to fit in a word of 64 bits to be looked at. -/
def boolOfInteger (n : Int) : Except FaultKind Bool :=
  if n = 0 then .ok false
  else if n = 1 then .ok true
  else if -wordBound ≤ n ∧ n < wordBound then .error .unclearTruthValue
  else .error .notATruthValue

/-- The truth value that a JSON value stands for. -/
def truthValue : Value → Except FaultKind Bool
  | .bool b => .ok b
  | .str s => boolOfWord s
  | .int n => boolOfInteger n
  | .float x =>
    match Decimal.integer? x with
    | some n => if n = -wordBound then .error .notATruthValue else boolOfInteger n
    | none => .error .notATruthValue
  | _ => .error .notATruthValue

/-! ## Members -/

/-- The text of a request. -/
def textOf (v : Value) : Except FaultKind (List Char) :=
  match v.get? "text" with
  | none => .error .missing
  | some (.str s) => .ok s.toList
  | some _ => .error .notAString

/-- Whether a request wants blocks of documentation to be skipped. -/
def skipDocsOf (v : Value) : Except FaultKind Bool :=
  match v.get? "skip_doc_comments" with
  | none => .ok false
  | some b => truthValue b

/-- The fault of a member, if it has one. -/
def faultOf {α : Type} (name : String) : Except FaultKind α → List BodyFault
  | .ok _ => []
  | .error kind => [⟨kind, [.key name]⟩]

/-- The request that an object stands for. -/
def DetectRequest.ofValue (v : Value) : Except BodyError DetectRequest :=
  match textOf v, skipDocsOf v with
  | .ok text, .ok skipDocs => .ok ⟨text, skipDocs⟩
  | text, skipDocs =>
    .error (.faults (faultOf "text" text ++ faultOf "skip_doc_comments" skipDocs))

/-- The body without a byte order mark in front. -/
def withoutMark : List Char → List Char
  | '\uFEFF' :: rest => rest
  | body => body

/-- The request that a body stands for. -/
def DetectRequest.ofBody (body : List Char) : Except BodyError DetectRequest :=
  if body.isEmpty then .error (.faults [⟨.missing, []⟩])
  else
    match Json.read (withoutMark body) with
    | .error (.malformed _ position _) => .error (.faults [⟨.notJson, [.index position]⟩])
    | .error (.overlong _) => .error .unworkable
    | .ok (.obj ms) => DetectRequest.ofValue (.obj ms)
    | .ok _ => .error (.faults [⟨.notAnObject, []⟩])

end Indentation.Service
