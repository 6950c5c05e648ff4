import Indentation.Schema.Basic

/-!
# Violations of a schema

What the checker of schemas says of a value: all violations, in the order of the demands, of the names
that they list, and of the parts of the value. Where one violation is to stand for all, it is the one
that `Violation.best?` chooses. The texts, the order and the choice are those of the library that the
checker comes from; no standard fixes them, and none of them decides whether a value is accepted.
-/

namespace Indentation

open Json

/-- A step from a value to a part of it. -/
inductive Step where
  | key (name : String)
  | index (n : Nat)
  deriving DecidableEq, Repr

/-- A demand that a value does not meet. -/
structure Violation where
  keyword : String
  message : String
  /-- The way from the whole value to the part that does not meet the demand. -/
  path : List Step
  /-- Whether that part is of the kind that the schema around the demand asks for, if it asks for
  one. -/
  ofKind : Bool
  deriving DecidableEq, Repr

namespace Schema

/-- The kind that a schema asks for. -/
def kind? (s : Schema) : Option Kind :=
  s.findSome? fun
    | .type k => some k
    | _ => none

/-- Names in quotes with commas between them. -/
def quotedNames (names : List String) : String :=
  ", ".intercalate (names.map fun n => Value.inline (.str n))

/-- The message for members that are not allowed. -/
def unexpectedMessage (names : List String) : String :=
  let verb := if names.length = 1 then "was" else "were"
  let sorted := names.mergeSort fun a b => a ≤ b
  s!"Additional properties are not allowed ({quotedNames sorted} {verb} unexpected)"

/-- What the demands of one schema say about: the value, and what the schema says besides. -/
structure Context where
  value : Value
  kind : Option Kind
  listed : List String

/-- A violation of a demand by the value itself. -/
def Context.violation (c : Context) (keyword message : String) : Violation :=
  ⟨keyword, message, [], c.kind.elim false (·.holds c.value)⟩

/-- The violation of a demand that a condition is about. -/
def Context.require (c : Context) (holds : Bool) (keyword message : String) : List Violation :=
  if holds then [] else [c.violation keyword message]

/-- The members of an object that the schema does not list. -/
def Context.unlisted (c : Context) : Members := Schema.unlisted c.listed c.value

/-- Violations by a part of a value, seen from the value. -/
def under (step : Step) (vs : List Violation) : List Violation :=
  vs.map fun v => { v with path := step :: v.path }

mutual

/-- The violations of one demand. -/
def checkKeyword (c : Context) : Keyword → List Violation
  | .type k => c.require (k.holds c.value) "type" s!"{c.value.inline} is not of type '{k.name}'"
  | .const s =>
    c.require (c.value.str? == some s) "const" s!"{Value.inline (.str s)} was expected"
  | .enum options =>
    let allowed := Value.inline (.arr (options.map Value.str))
    c.require (c.value.str?.elim false options.contains) "enum"
      s!"{c.value.inline} is not one of {allowed}"
  | .minimum n =>
    c.require (!isBelow n c.value) "minimum"
      s!"{c.value.inline} is less than the minimum of {n}"
  | .minLength n =>
    let long := c.value.str?.elim true fun s => n ≤ s.length
    let problem := if n = 1 then "should be non-empty" else "is too short"
    c.require long "minLength" s!"{c.value.inline} {problem}"
  | .pattern p =>
    c.require (c.value.str?.elim true p.holds) "pattern"
      s!"{c.value.inline} does not match {Value.inline (.str p.text)}"
  | .required keys =>
    match c.value.obj? with
    | none => []
    | some ms => keys.flatMap fun k =>
      c.require (ms.lookup k).isSome "required" s!"{Value.inline (.str k)} is a required property"
  | .closed =>
    let names := c.unlisted.map Prod.fst
    c.require names.isEmpty "additionalProperties" (unexpectedMessage names)
  | .additional schema =>
    c.unlisted.flatMap fun (k, v) =>
      under (.key k) (checkAll ⟨v, kind? schema, listed schema⟩ schema)
  | .properties ps => checkMembers (c.value.obj?.getD []) ps
  | .items schema =>
    (c.value.arr?.getD []).zipIdx.flatMap fun (v, i) =>
      under (.index i) (checkAll ⟨v, kind? schema, listed schema⟩ schema)
  | .propertyNames schema =>
    (c.value.obj?.getD []).flatMap fun (k, _) =>
      checkAll ⟨.str k, kind? schema, listed schema⟩ schema
  | .ref _ schema => checkAll ⟨c.value, kind? schema, listed schema⟩ schema

/-- The violations of a list of demands. -/
def checkAll (c : Context) : List Keyword → List Violation
  | [] => []
  | k :: ks => checkKeyword c k ++ checkAll c ks

/-- The violations of the schemas for members by the members of an object. -/
def checkMembers (ms : Members) : List (String × List Keyword) → List Violation
  | [] => []
  | (k, schema) :: ps =>
    (match ms.lookup k with
      | none => []
      | some v => under (.key k) (checkAll ⟨v, kind? schema, listed schema⟩ schema))
      ++ checkMembers ms ps

end

/-- The violations of a schema by a value. -/
def violations (s : Schema) (v : Value) : List Violation := checkAll ⟨v, kind? s, listed s⟩ s

end Schema

/-! ## The violation that stands for all -/

namespace Violation

/-- Whether a way is greater than another of the same length: by the first step in which they
differ. -/
def pathGreater : List Step → List Step → Bool
  | .key a :: p, .key b :: q => b < a || (a == b && pathGreater p q)
  | .index a :: p, .index b :: q => b < a || (a == b && pathGreater p q)
  | _, _ => false

/-- Whether the first violation is better than the second: it is nearer to the whole value; of two
equally near ones its way is greater; on one way it is not of the kind that is asked for. -/
def better (a b : Violation) : Bool :=
  a.path.length < b.path.length
    || (a.path.length == b.path.length
      && (pathGreater a.path b.path || (a.path == b.path && !a.ofKind && b.ofKind)))

/-- The first violation that no other is better than. -/
def best? : List Violation → Option Violation
  | [] => none
  | v :: vs => some (vs.foldl (fun best v => if better v best then v else best) v)

end Violation

/-- The violation that stands for all violations of a schema by a value, if it violates
the schema. -/
def Schema.violation? (s : Schema) (v : Json.Value) : Option Violation :=
  Violation.best? (s.violations v)

end Indentation
