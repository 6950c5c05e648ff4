import Indentation.Text.Place

/-!
# Searching a text

A search finds the places at which a text stands, all of them and from left to right.

## Main statements

* `mem_findAll` — the places found are those at which the text stands
* `pairwise_findAll` — they are found from left to right
* `rest_eq_upTo_append` — a text from a place on is cut at any place further on
-/

namespace Indentation.Text.Place

variable {s t : List Char} {p q : Place s}

theorem walk_eq (n : Nat) (p : Place s) (found : List (Place s)) :
    walk n p found = found.reverse ++ (List.range n).map fun i => p.move i := by
  induction n generalizing p found with
  | zero => simp [walk]
  | succ n ih =>
    have hstep : ∀ i, (p.move 1).move i = p.move (i + 1) := fun i => by
      rw [move_move, Nat.add_comm]
    rw [walk, ih]
    simp [List.range_succ_eq_map, Function.comp_def, hstep]

theorem all_eq (s : List Char) : all s = (List.range s.length).map fun i => (start s).move i := by
  rw [all, walk_eq, List.reverse_nil, List.nil_append]

theorem mem_all : p ∈ all s ↔ p.offset < s.length := by
  simp only [all_eq, List.mem_map, List.mem_range]
  constructor
  · rintro ⟨i, hi, rfl⟩
    simpa using hi
  · intro h
    exact ⟨p.offset, h, ext_offset (by simp)⟩

theorem pairwise_all (s : List Char) : (all s).Pairwise (·.offset < ·.offset) := by
  rw [all_eq, List.pairwise_map]
  exact List.pairwise_lt_range.imp fun h => by simpa using h

theorem holds_iff : p.holds t = true ↔ ∃ rest, p.rest = t ++ rest := by
  rw [holds, List.isPrefixOf_iff_prefix]
  exact ⟨fun ⟨rest, h⟩ => ⟨rest, h.symm⟩, fun ⟨rest, h⟩ => ⟨rest, h.symm⟩⟩

theorem rest_move_of_append {rest : List Char} (h : p.rest = t ++ rest) :
    (p.move t.length).rest = rest := by
  rw [rest_move, h, List.drop_left]

/-- **The places found are those at which the text stands.** -/
theorem mem_findAll (ht : t ≠ []) : p ∈ findAll t s ↔ p.holds t = true := by
  rw [findAll, List.mem_filter, mem_all]
  refine ⟨And.right, fun h => ⟨?_, h⟩⟩
  obtain ⟨rest, hrest⟩ := holds_iff.mp h
  have hdrop := p.drop_offset
  have hpos := List.length_pos_iff.mpr ht
  refine Nat.lt_of_not_le fun hle => ?_
  rw [List.drop_eq_nil_of_le hle, hrest] at hdrop
  have hlen := congrArg List.length hdrop
  rw [List.length_nil, List.length_append] at hlen
  omega

/-- **They are found from left to right.** -/
theorem pairwise_findAll (t s : List Char) : (findAll t s).Pairwise (·.offset < ·.offset) :=
  (pairwise_all s).filter _

/-- A text from a place on is cut at a place further on. -/
theorem rest_eq_upTo_append (h : p.offset ≤ q.offset) : p.rest = p.upTo q ++ q.rest := by
  conv => rhs; rw [eq_move_of_le h]
  rw [rest_move, upTo, offset_move, Nat.add_sub_cancel_left, List.take_append_drop]

theorem holds_singleton_iff {c : Char} {n : Nat} :
    (p.move n).holds [c] = true ↔ p.rest[n]? = some c := by
  rw [holds_iff, rest_move]
  constructor
  · rintro ⟨rest, h⟩
    have hhead := congrArg List.head? h
    rwa [List.head?_drop] at hhead
  · intro h
    obtain ⟨hn, rfl⟩ := List.getElem?_eq_some_iff.mp h
    exact ⟨p.rest.drop (n + 1), List.drop_eq_getElem_cons hn⟩

/-- A character of the text from a place on stands at some place. -/
theorem exists_of_mem_rest {c : Char} (h : c ∈ p.rest) : ∃ n, (p.move n).holds [c] = true := by
  obtain ⟨n, hn⟩ := List.mem_iff_getElem?.mp h
  exact ⟨n, holds_singleton_iff.mpr hn⟩

/-- A character of the text between two places stands between them. -/
theorem exists_of_mem_upTo {c : Char} (h : c ∈ p.upTo q) :
    ∃ n, p.offset + n < q.offset ∧ (p.move n).holds [c] = true := by
  obtain ⟨n, hn⟩ := List.mem_iff_getElem?.mp h
  rw [upTo, List.getElem?_take] at hn
  split at hn
  · next hlt => exact ⟨n, by omega, holds_singleton_iff.mpr hn⟩
  · cases hn

end Indentation.Text.Place
