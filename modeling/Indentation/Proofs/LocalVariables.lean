import Indentation.Directive.LocalVariables
import Indentation.Proofs.Text

/-!
# Lines of a list of local variables

What a line that sets a local variable looks like, said of the line alone: its key stands right before
a colon, and its value stands behind it.

## Main statements

* `entry?_eq_some_iff_isCut` — the cuts by which a variable is read off its line
* `exists_of_entry?` — where key and value of an entry stand on its line
-/

namespace Indentation.LocalVariables

open Text

variable {scanner : Scanner} {affixes : Affixes} {line : List Char} {v : Variable}

/-- The cuts by which a variable is read off a line: the lead, the key and the trail. -/
structure IsCut (affixes : Affixes) (line : List Char) (v : Variable)
    (rest behind middle : List Char) : Prop where
  lead : trimStart line = affixes.lead ++ rest
  key : trimStart rest = v.key ++ ':' :: behind
  key_ne_nil : v.key ≠ []
  not_blank : ∀ c ∈ v.key, isBlank c = false
  colon_not_mem : ':' ∉ v.key
  trail : trimEnd behind = middle ++ affixes.trail
  middle_ne_nil : middle ≠ []
  value : v.value = trim middle

theorem entry?_eq_some_iff_isCut :
    entry? affixes line = some v ↔ ∃ rest behind middle, IsCut affixes line v rest behind middle := by
  unfold entry?
  constructor
  · intro h
    obtain ⟨rest, hrest, h⟩ := Option.bind_eq_some_iff.mp h
    obtain ⟨⟨key, behind⟩, hcut, h⟩ := Option.bind_eq_some_iff.mp h
    dsimp only at h
    split at h
    · cases h
    · next hkey =>
      obtain ⟨middle, hmiddle, h⟩ := Option.bind_eq_some_iff.mp h
      split at h
      · cases h
      · next hne =>
        obtain rfl := Option.some.inj h
        have hkey : key ≠ [] ∧ ∀ c ∈ key, isBlank c = false := by simpa using hkey
        obtain ⟨hcolon, hno⟩ := cutAt?_eq_some_iff.mp hcut
        exact ⟨rest, behind, middle, dropLead?_eq_some_iff.mp hrest, hcolon, hkey.1, hkey.2, hno,
          eq_append_of_dropTrail? hmiddle, by simpa using hne, rfl⟩
  · rintro ⟨rest, behind, middle, h⟩
    have hplain : ¬(v.key.isEmpty || v.key.any isBlank) = true := by
      simpa [h.key_ne_nil] using h.not_blank
    have hcut : cutAt? ':' (trimStart rest) = some (v.key, behind) :=
      cutAt?_eq_some_iff.mpr ⟨h.key, h.colon_not_mem⟩
    rw [h.lead, dropLead?_append]
    dsimp only [bind, Option.bind]
    rw [hcut]
    dsimp only
    rw [if_neg hplain, h.trail, dropTrail?_append]
    dsimp only
    rw [if_neg (by simpa using h.middle_ne_nil), ← h.value]

/-- The key of an entry stands before a colon, and its value behind it. -/
theorem exists_of_entry? (h : entry? affixes line = some v) :
    ∃ before behind, line = before ++ v.key ++ ':' :: behind ∧ v.value <:+: behind ∧ v.key ≠ [] ∧
      (∀ c ∈ v.key, isBlank c = false) ∧ ':' ∉ v.key := by
  obtain ⟨rest, behind, middle, h⟩ := entry?_eq_some_iff_isCut.mp h
  obtain ⟨w₁, hline, -⟩ := exists_blank_append_trimStart line
  obtain ⟨w₂, hbehind, -⟩ := exists_blank_append_trimStart rest
  refine ⟨w₁ ++ affixes.lead ++ w₂, behind, ?_, ?_, h.key_ne_nil, h.not_blank, h.colon_not_mem⟩
  · rw [hline, h.lead, hbehind, h.key]
    simp only [List.append_assoc]
  · -- the value stands before the trail, and that at the end of what is behind the colon
    have hpiece : middle <:+: trimEnd behind := h.trail ▸ (List.prefix_append _ _).isInfix
    rw [h.value]
    exact (isInfix_trim middle).trans (hpiece.trans (isPrefix_trimEnd behind).isInfix)

theorem exists_entry?_of_feed (h : (feed scanner line).2 = some v) :
    ∃ affixes, entry? affixes line = some v := by
  unfold feed at h
  split at h
  · cases h
  · next affixes =>
    split at h
    · cases h
    · next w hw =>
      split at h
      · cases h
      · obtain rfl : w = v := Option.some.inj h
        exact ⟨affixes, hw⟩

end Indentation.LocalVariables
