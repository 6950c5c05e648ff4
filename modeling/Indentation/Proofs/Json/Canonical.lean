import Indentation.Json.Printer
import Mathlib.Data.List.Nodup

/-!
# The canonical form of a value

Two values that differ in the order of the members of their objects alone have one canonical form,
in which the members of every object are in the order of their keys. It is the form that is printed.

## Main statements

* `sortByKey_eq_of_perm` — entries in any order are put in one order, if no key is repeated
* `lookup_sortByKey` — where no key is repeated, an object keeps its members when they are sorted
* `printAt_obj` — the members of an object are printed in the order of their keys
-/

namespace Indentation.Json

variable {α β : Type}

/-! ## The order of texts -/

section

variable (text : α → String) {as bs : List α}

/-- What is sorted by texts stands in the order of the texts. -/
theorem pairwise_mergeSort_text (as : List α) :
    (as.mergeSort fun a b => text a ≤ text b).Pairwise fun a b => text a ≤ text b := by
  refine (List.pairwise_mergeSort ?_ ?_ as).imp of_decide_eq_true
  · intro a b c hab hbc
    exact decide_eq_true (String.le_trans (of_decide_eq_true hab) (of_decide_eq_true hbc))
  · intro a b
    simpa using String.le_total (text a) (text b)

variable {text}

/-- If no two have the same text, there is one list of them in the order of the texts. -/
theorem eq_of_perm_of_pairwise (hd : (as.map text).Nodup) (hperm : as.Perm bs)
    (has : as.Pairwise fun a b => text a ≤ text b) (hbs : bs.Pairwise fun a b => text a ≤ text b) :
    as = bs := by
  refine hperm.eq_of_pairwise (fun a b ha hb hab hba => ?_) has hbs
  exact List.inj_on_of_nodup_map hd ha (hperm.mem_iff.mpr hb) (String.le_antisymm hab hba)

end

/-! ## Entries in the order of their keys -/

theorem sortByKey_perm (entries : List (String × α)) : (sortByKey entries).Perm entries :=
  List.mergeSort_perm _ _

@[simp] theorem mem_sortByKey {entries : List (String × α)} {e : String × α} :
    e ∈ sortByKey entries ↔ e ∈ entries :=
  (sortByKey_perm entries).mem_iff

/-- What is done to the values alone does not matter to the order. -/
theorem map_sortByKey (f : α → β) (entries : List (String × α)) :
    (sortByKey entries).map (fun e => (e.1, f e.2)) = sortByKey (entries.map fun e => (e.1, f e.2)) :=
  List.map_mergeSort fun _ _ _ _ => rfl

theorem nodup_keys_sortByKey {entries : List (String × α)} (h : (entries.map Prod.fst).Nodup) :
    ((sortByKey entries).map Prod.fst).Nodup :=
  ((sortByKey_perm entries).map Prod.fst).nodup_iff.mpr h

/-- Where no key is repeated, there is one order of the keys. -/
theorem sortByKey_eq_of_perm {entries entries' : List (String × α)}
    (hd : (entries.map Prod.fst).Nodup) (hperm : entries.Perm entries') :
    sortByKey entries = sortByKey entries' := by
  have hsorted : (sortByKey entries).Perm (sortByKey entries') :=
    ((sortByKey_perm entries).trans hperm).trans (sortByKey_perm entries').symm
  exact eq_of_perm_of_pairwise (nodup_keys_sortByKey hd) hsorted (pairwise_mergeSort_text Prod.fst _)
    (pairwise_mergeSort_text Prod.fst _)

/-- Where no key is repeated, what a key leads to is what stands beside it. -/
theorem lookup_eq_some_iff {entries : List (String × α)} (h : (entries.map Prod.fst).Nodup)
    {k : String} {a : α} : entries.lookup k = some a ↔ (k, a) ∈ entries := by
  induction entries with
  | nil => simp
  | cons e entries ih =>
    obtain ⟨j, b⟩ := e
    obtain ⟨hj, hrest⟩ := List.nodup_cons.mp h
    by_cases hk : k = j
    · subst hk
      have hnot : (k, a) ∉ entries := fun hmem => hj (List.mem_map.mpr ⟨(k, a), hmem, rfl⟩)
      simp [hnot, eq_comm]
    · have hne : (k == j) = false := by simpa using hk
      simp [List.lookup_cons, hne, hk, ih hrest]

/-- The keys that lead to something are those that stand in the list. -/
theorem lookup_isSome_iff {entries : List (String × α)} {k : String} :
    (entries.lookup k).isSome ↔ k ∈ entries.map Prod.fst := by
  induction entries with
  | nil => simp
  | cons e entries ih =>
    obtain ⟨j, a⟩ := e
    by_cases hk : k = j
    · simp [hk]
    · have hne : (k == j) = false := by simpa using hk
      simp only [List.lookup_cons, hne, ih, List.map_cons, List.mem_cons, hk, false_or]

/-- Where no key is repeated, an object keeps its members when they are sorted. -/
theorem lookup_sortByKey {entries : List (String × α)} (h : (entries.map Prod.fst).Nodup)
    (k : String) : (sortByKey entries).lookup k = entries.lookup k := by
  refine Option.ext fun a => ?_
  rw [lookup_eq_some_iff h, lookup_eq_some_iff (nodup_keys_sortByKey h), mem_sortByKey]

theorem lookup_map (f : α → β) (entries : List (String × α)) (k : String) :
    (entries.map fun e => (e.1, f e.2)).lookup k = (entries.lookup k).map f := by
  induction entries with
  | nil => rfl
  | cons e entries ih =>
    obtain ⟨j, a⟩ := e
    simp only [List.map_cons, List.lookup_cons, ih]
    split <;> rfl

/-! ## The canonical form -/

mutual

/-- The value with the members of every object in the order of their keys. -/
def Value.sorted : Value → Value
  | .arr items => .arr (sortedItems items)
  | .obj members => .obj (sortByKey (sortedMembers members))
  | v => v

/-- The canonical forms of the items of an array. -/
def sortedItems : List Value → List Value
  | [] => []
  | v :: vs => v.sorted :: sortedItems vs

/-- The members of an object with the canonical forms of their values. -/
def sortedMembers : List (String × Value) → List (String × Value)
  | [] => []
  | (k, v) :: ms => (k, v.sorted) :: sortedMembers ms

end

theorem sortedItems_eq_map (items : List Value) : sortedItems items = items.map Value.sorted := by
  induction items with
  | nil => rfl
  | cons v items ih => rw [sortedItems, ih, List.map_cons]

theorem sortedMembers_eq_map (members : Members) :
    sortedMembers members = members.map fun m => (m.1, m.2.sorted) := by
  induction members with
  | nil => rfl
  | cons m members ih => rw [sortedMembers, ih, List.map_cons]

@[simp] theorem Value.sorted_arr (items : List Value) :
    (Value.arr items).sorted = .arr (items.map Value.sorted) := by
  rw [Value.sorted, sortedItems_eq_map]

/-- A member with the canonical form of its value. -/
def sortedMember (m : String × Value) : String × Value := (m.1, m.2.sorted)

theorem Value.sorted_obj (members : Members) :
    (Value.obj members).sorted = .obj ((sortByKey members).map sortedMember) := by
  rw [Value.sorted, sortedMembers_eq_map, ← map_sortByKey]
  rfl

/-- The items of a value, of which only an array has some. -/
def Value.items (v : Value) : List Value := v.arr?.getD []

/-- The members of a value, of which only an object has some. -/
def Value.members (v : Value) : Members := v.obj?.getD []

theorem Value.items_sorted (v : Value) : v.sorted.items = v.items.map Value.sorted := by
  cases v with
  | arr items =>
    rw [Value.sorted_arr]
    rfl
  | _ => rfl

theorem Value.members_sorted (v : Value) :
    v.sorted.members = (sortByKey v.members).map sortedMember := by
  cases v with
  | obj members =>
    rw [Value.sorted_obj]
    rfl
  | _ => simp [Value.members, Value.sorted, Value.obj?, sortByKey]

theorem Value.mem_members_sorted {v : Value} {m : String × Value} :
    m ∈ v.sorted.members ↔ ∃ n ∈ v.members, sortedMember n = m := by
  rw [Value.members_sorted, List.mem_map]
  simp only [mem_sortByKey]

theorem Value.lookup_members_sorted {v : Value} (h : (v.members.map Prod.fst).Nodup) (k : String) :
    v.sorted.members.lookup k = (v.members.lookup k).map Value.sorted := by
  rw [Value.members_sorted, ← lookup_sortByKey h]
  exact lookup_map Value.sorted _ k

theorem Value.get?_eq_lookup (v : Value) (k : String) : v.get? k = v.members.lookup k := by
  cases v <;> rfl

/-- **A member of the canonical form is the canonical form of the member.** -/
theorem Value.get?_sorted {v : Value} (h : (v.members.map Prod.fst).Nodup) (k : String) :
    v.sorted.get? k = (v.get? k).map Value.sorted := by
  rw [Value.get?_eq_lookup, Value.get?_eq_lookup, Value.lookup_members_sorted h]

/-! ## What is printed -/

variable (layout : Layout) (depth : Nat)

theorem printItems_eq_map (items : List Value) :
    printItems layout depth items = items.map (printAt layout depth) := by
  induction items with
  | nil => rfl
  | cons v items ih => rw [printItems, ih, List.map_cons]

theorem printMembers_eq_map (members : Members) :
    printMembers layout depth members = members.map fun m => (m.1, printAt layout depth m.2) := by
  induction members with
  | nil => rfl
  | cons m members ih => rw [printMembers, ih, List.map_cons]

theorem printAt_arr (items : List Value) :
    printAt layout depth (.arr items)
      = enclose layout (depth + 1) '[' ']' (items.map (printAt layout (depth + 1))) := by
  rw [printAt, printItems_eq_map]

/-- The text of a member whose value is printed at the given depth. -/
def memberText (m : String × Value) : List Char := member (m.1, printAt layout depth m.2)

theorem printAt_obj (members : Members) :
    printAt layout depth (.obj members)
      = enclose layout (depth + 1) '\x7b' '\x7d'
          ((sortByKey members).map (memberText layout (depth + 1))) := by
  rw [printAt, printMembers_eq_map, ← map_sortByKey, List.map_map]
  rfl

end Indentation.Json
