/-!
# JSON values

Integers and floating-point numbers are kept apart, as the notation keeps them apart: `1` is an
integer, `1.0` and `1e2` are not. The members of an object keep the order in which their keys first
appeared.

## Main statements

* `Members.lookup_set_self`, `Members.lookup_set_of_ne` — setting a member changes it alone
-/

namespace Indentation.Json

/-- A JSON value. -/
inductive Value where
  | null
  | bool (b : Bool)
  | int (n : Int)
  | float (x : Float)
  | str (s : String)
  | arr (items : List Value)
  | obj (members : List (String × Value))
  deriving Inhabited

/-- The members of an object, in order. -/
abbrev Members := List (String × Value)

/-- Sets a member. A key that is there already keeps its place. -/
def Members.set (ms : Members) (key : String) (v : Value) : Members :=
  match ms with
  | [] => [(key, v)]
  | (k, w) :: rest => if k = key then (k, v) :: rest else (k, w) :: Members.set rest key v

/-- A member that is set is found. -/
theorem Members.lookup_set_self (ms : Members) (key : String) (v : Value) :
    List.lookup key (ms.set key v) = some v := by
  induction ms with
  | nil => simp [Members.set]
  | cons m ms ih =>
    obtain ⟨k, w⟩ := m
    by_cases hk : k = key
    · subst hk
      simp [Members.set]
    · have : (key == k) = false := by simpa using Ne.symm hk
      simpa [Members.set, hk, List.lookup_cons, this] using ih

/-- Setting a member leaves every other member alone. -/
theorem Members.lookup_set_of_ne (ms : Members) {key other : String} (h : other ≠ key) (v : Value) :
    List.lookup other (ms.set key v) = List.lookup other ms := by
  induction ms with
  | nil =>
    have : (other == key) = false := by simpa using h
    simp [Members.set, List.lookup_cons, this]
  | cons m ms ih =>
    obtain ⟨k, w⟩ := m
    by_cases hk : k = key
    · subst hk
      have : (other == k) = false := by simpa using h
      simp [Members.set, List.lookup_cons, this]
    · simp only [Members.set, hk, if_false, List.lookup_cons]
      split
      · rfl
      · exact ih

namespace Value

/-- The member of an object with the given key. -/
def get? (v : Value) (key : String) : Option Value :=
  match v with
  | .obj ms => ms.lookup key
  | _ => none

/-- The text of a string. -/
def str? : Value → Option String
  | .str s => some s
  | _ => none

/-- The number of an integer. -/
def int? : Value → Option Int
  | .int n => some n
  | _ => none

/-- The truth value of a boolean. -/
def bool? : Value → Option Bool
  | .bool b => some b
  | _ => none

/-- The items of an array. -/
def arr? : Value → Option (List Value)
  | .arr items => some items
  | _ => none

/-- The members of an object. -/
def obj? : Value → Option Members
  | .obj ms => some ms
  | _ => none

end Value

end Indentation.Json
