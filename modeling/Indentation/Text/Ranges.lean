/-!
# Classes of characters as ranges

A class of code points given by its maximal ranges in ascending order.
-/

namespace Indentation.Text

/-- Whether `n` lies in one of the ranges, both ends included. The ranges ascend, so the search
stops at the first that does not end below `n`. -/
def inRanges : List (Nat × Nat) → Nat → Bool
  | [], _ => false
  | (first, last) :: rs, n => if n ≤ last then first ≤ n else inRanges rs n

/-- A code point that is found lies within one of the ranges. -/
theorem exists_of_inRanges {rs : List (Nat × Nat)} {n : Nat} (h : inRanges rs n = true) :
    ∃ r ∈ rs, r.1 ≤ n ∧ n ≤ r.2 := by
  induction rs with
  | nil => simp [inRanges] at h
  | cons r rs ih =>
    obtain ⟨first, last⟩ := r
    simp only [inRanges] at h
    split at h
    · next hn => exact ⟨_, List.mem_cons_self, by simpa using h, hn⟩
    · obtain ⟨r, hr, hb⟩ := ih h
      exact ⟨r, List.mem_cons_of_mem _ hr, hb⟩

end Indentation.Text
