import Indentation.Proofs.Classifier
import Indentation.Proofs.Line

/-!
# How wide votes are

A vote compares two indentations, so it is no wider than these are in columns, and a character takes up
no more columns than there are from one tab stop to the next. So a text whose votes are too wide to be
written would itself have about as many characters as the widest number that is written
(`resolve_feedAll`), and the votes of texts are resolved to their verdict.

## Main statements

* `width_le_of_voteFor?` — how wide the vote for a change of indentation is at most
* `resolve_feedAll` — the votes of a text that is not beyond the limit are resolved to their verdict
-/

namespace Indentation

/-! ## One vote -/

theorem length_expandFrom_le (n : Nat) (s : List Char) :
    (expandFrom n s).length ≤ n + tabWidth * s.length := by
  fun_induction expandFrom n s with
  | case1 n => simp
  | case2 n c s _ _ ih | case3 n c s _ _ ih | case4 n c s _ _ ih | case5 n c s _ _ ih =>
    simp only [List.length_cons, List.length_append, List.length_replicate, tabWidth] at *
    omega

theorem width_classifyDiff_le (diff : List Char) :
    (classifyDiff diff).width.natAbs ≤ (tabWidth + 1) * diff.length := by
  unfold classifyDiff
  split
  · exact Nat.le_mul_of_pos_left _ (Nat.succ_pos _)
  · next hspaces =>
    have hpos : 0 < diff.length := List.length_pos_iff.mpr fun hnil => hspaces (by rw [hnil]; rfl)
    split
    · show tabWidth ≤ _
      exact Nat.le_trans (Nat.le_succ _) (Nat.le_mul_of_pos_right _ hpos)
    · have htabs : diff.count '\t' ≤ diff.length := List.count_le_length
      have hspaces : (diff.reverse.takeWhile (· == ' ')).length ≤ diff.length :=
        Nat.le_trans (List.takeWhile_prefix _).length_le (Nat.le_of_eq List.length_reverse)
      simp only [Signature.mixed, tabWidth]
      omega

/-- **A vote is not much wider than the indentations are that it compares.** -/
theorem Classifier.width_le_of_voteFor? {prev indent : List Char} {n : Nat} (hprev : prev.length ≤ n)
    (hindent : indent.length ≤ n) {sig : Signature} (h : voteFor? prev indent = some sig) :
    sig.width.natAbs ≤ (tabWidth + 1) * n := by
  have hdiff : ∀ {diff : List Char}, diff.length ≤ n →
      (classifyDiff diff).width.natAbs ≤ (tabWidth + 1) * n := fun hlen =>
    Nat.le_trans (width_classifyDiff_le _) (Nat.mul_le_mul_left _ hlen)
  unfold voteFor? at h
  split at h
  · obtain rfl := Option.some.inj h
    exact hdiff (by rw [List.length_drop]; omega)
  · split at h
    · obtain rfl := Option.some.inj h
      exact hdiff (by rw [List.length_drop]; omega)
    · dsimp only at h
      split at h
      · cases h
      · obtain rfl := Option.some.inj h
        have hcolumns : ∀ {s : List Char}, s.length ≤ n → visualWidth s ≤ tabWidth * n := fun hlen =>
          Nat.le_trans (Nat.le_trans (length_expandFrom_le 0 _) (Nat.le_of_eq (Nat.zero_add _)))
            (Nat.mul_le_mul_left _ hlen)
        have hbefore := hcolumns hprev
        have hafter := hcolumns hindent
        simp only [Signature.mixed, Nat.succ_mul]
        omega

/-! ## The votes of a text -/

theorem Line.length_indent_le {text : List Char} {l : Line} (hl : l ∈ ofText text) :
    l.indent.length ≤ text.length := by
  have hpiece := (isInfix_of_mem_ofText hl).length_le
  rw [Line.text, List.length_append] at hpiece
  omega

/-- The votes of a text can be written, unless the text has as many characters as no number that is
written says. -/
theorem Classifier.writable_of_mem_feedAll {text : List Char} {skipDocs : Bool}
    (htext : text.length < 10 ^ (Numeral.limit - 1)) {sig : Signature}
    (hsig : sig ∈ (feedAll skipDocs {} (Line.ofText text)).histogram.keys) : sig.Writable := by
  rw [histogram_feedAll_start, Histogram.mem_keys_ofVotes] at hsig
  have hwidth : sig.width.natAbs ≤ (tabWidth + 1) * text.length :=
    forall_mem_castVotes (Q := fun w => w.length ≤ text.length)
      (P := fun sig => sig.width.natAbs ≤ (tabWidth + 1) * text.length)
      (fun _ _ _ hprev hindent hvote => width_le_of_voteFor? hprev hindent hvote)
      (fun _ hl => Line.length_indent_le hl) (Nat.zero_le _) sig hsig
  refine Signature.writable_of_lt ?_
  obtain ⟨m, hm⟩ : ∃ m, Numeral.limit = m + 1 := ⟨_, rfl⟩
  rw [hm, Nat.add_sub_cancel] at htext
  rw [hm, Nat.pow_succ]
  unfold tabWidth at hwidth
  omega

/-- **The votes of a text are resolved to their verdict**, whatever the settings say. -/
theorem resolve_feedAll {text : List Char} (htext : text.length < 10 ^ (Numeral.limit - 1))
    (skipDocs : Bool) (settings : Settings) :
    resolve (Classifier.feedAll skipDocs {} (Line.ofText text)).histogram settings
      = .ok ((Classifier.feedAll skipDocs {} (Line.ofText text)).histogram.verdict settings) :=
  resolve_of_writable (fun _ hsig => Classifier.writable_of_mem_feedAll htext hsig) settings

end Indentation
