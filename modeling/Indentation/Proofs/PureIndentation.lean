import Indentation.Proofs.Verdict

/-!
# Texts that are indented by one character

Where no line is indented by a tab, or none by a space, one of two indentations always starts with the
other. So what is classified is a piece of the longer one, and no two widths are ever compared. What
wins among votes of one style is of that style, as there is no mixed vote that could promote it.

Nothing else is asked of the text: levels may be opened and closed in any way, lines may be passed over
as comments or continuations, and there may be documentation, skipped or not.

## Main statements

* `detect_pure` — with spaces alone the verdict is one of spaces, with tabs alone one of tabs
-/

namespace Indentation

/-! ## One change -/

section Change

variable {w : List Char} {a b c d : Nat} {sig : Signature}

/-- An indentation without tabs is one of spaces. -/
theorem eq_tabbed_of_no_tab (hw : ∀ c ∈ w, Line.isIndent c = true) (htab : '\t' ∉ w) :
    w = tabbed 0 w.length := by
  refine List.eq_replicate_of_mem fun c hc => ?_
  have hne : c ≠ '\t' := fun heq => htab (heq ▸ hc)
  simpa [Line.isIndent, hne] using hw c hc

/-- An indentation without spaces is one of tabs. -/
theorem eq_tabbed_of_no_space (hw : ∀ c ∈ w, Line.isIndent c = true) (hspace : ' ' ∉ w) :
    w = tabbed w.length 0 := by
  have htabs : w = List.replicate w.length '\t' := by
    refine List.eq_replicate_of_mem fun c hc => ?_
    have hne : c ≠ ' ' := fun heq => hspace (heq ▸ hc)
    simpa [Line.isIndent, hne] using hw c hc
  rw [tabbed, List.replicate_zero, List.append_nil]
  exact htabs

/-- A change of spaces votes for spaces, and for no more of them than there are. -/
theorem vote_of_spaces (h : Classifier.voteFor? (tabbed 0 b) (tabbed 0 d) = some sig) :
    ∃ n : Nat, sig = .spaces n ∧ 1 ≤ n ∧ (n ≤ b ∨ n ≤ d) := by
  rw [voteFor?_tabbed, changeVote?] at h
  split at h
  · cases h
  · next hchange =>
    rw [if_pos rfl] at h
    refine ⟨columnChange 0 b 0 d, (Option.some.inj h).symm, Nat.pos_of_ne_zero hchange, ?_⟩
    unfold columnChange
    omega

/-- A change of tabs votes for full tab stops. -/
theorem vote_of_tabs (h : Classifier.voteFor? (tabbed a 0) (tabbed c 0) = some sig) :
    sig = .tabs 8 := by
  rw [voteFor?_tabbed, changeVote?] at h
  split at h
  · cases h
  · next hchange =>
    have hac : a ≠ c := by
      rintro rfl
      exact hchange (by simp [columnChange])
    rw [if_neg hac, if_pos ⟨rfl, rfl⟩] at h
    exact (Option.some.inj h).symm

end Change

/-! ## All votes -/

section Votes

variable (skipDocs : Bool) {ls : List Line}

/-- **Lines without tabs vote for spaces**, and for no more of them than some line has. -/
theorem spaces_of_mem_castVotes (hls : ∀ l ∈ ls, ∀ c ∈ l.indent, Line.isIndent c = true)
    (htab : ∀ l ∈ ls, '\t' ∉ l.indent) :
    ∀ sig ∈ Classifier.castVotes skipDocs {} ls,
      ∃ n : Nat, sig = .spaces n ∧ 1 ≤ n ∧ ∃ l ∈ ls, n ≤ l.indent.length := by
  -- every indentation that is compared is empty or that of a line
  refine Classifier.forall_mem_castVotes
    (Q := fun w => ∃ b, w = tabbed 0 b ∧ (b = 0 ∨ ∃ l ∈ ls, b ≤ l.indent.length)) ?_ ?_ ?_
  · rintro _ _ sig ⟨b, rfl, hb⟩ ⟨d, rfl, hd⟩ hvote
    obtain ⟨n, rfl, hn, hle⟩ := vote_of_spaces hvote
    refine ⟨n, rfl, hn, ?_⟩
    rcases hle with hle | hle
    · obtain ⟨l, hl, hlen⟩ := hb.resolve_left (by omega)
      exact ⟨l, hl, Nat.le_trans hle hlen⟩
    · obtain ⟨l, hl, hlen⟩ := hd.resolve_left (by omega)
      exact ⟨l, hl, Nat.le_trans hle hlen⟩
  · intro l hl
    exact ⟨_, eq_tabbed_of_no_tab (hls l hl) (htab l hl), .inr ⟨l, hl, Nat.le_refl _⟩⟩
  · exact ⟨0, rfl, .inl rfl⟩

/-- **Lines without spaces vote for full tab stops.** -/
theorem tabs_of_mem_castVotes (hls : ∀ l ∈ ls, ∀ c ∈ l.indent, Line.isIndent c = true)
    (hspace : ∀ l ∈ ls, ' ' ∉ l.indent) :
    ∀ sig ∈ Classifier.castVotes skipDocs {} ls, sig = .tabs 8 := by
  refine Classifier.forall_mem_castVotes (Q := fun w => ∃ a, w = tabbed a 0) ?_ ?_ ?_
  · rintro _ _ sig ⟨a, rfl⟩ ⟨c, rfl⟩ hvote
    exact vote_of_tabs hvote
  · exact fun l hl => ⟨_, eq_tabbed_of_no_space (hls l hl) (hspace l hl)⟩
  · exact ⟨0, rfl⟩

end Votes

/-! ## The verdict -/

/-- Without directives and mixed votes the verdict is one of the votes, if there are any. -/
theorem detect_of_no_mixed {skipDocs : Bool} {text : List Char}
    (hplain : ∀ l ∈ Line.ofText text, NoDirective l.text)
    (hmixed : ∀ sig ∈ Classifier.castVotes skipDocs {} (Line.ofText text), sig.style ≠ .mixed) :
    detect skipDocs text = .ok .unknown ∨
      ∃ sig ∈ Classifier.castVotes skipDocs {} (Line.ofText text), detect skipDocs text = .ok sig := by
  rw [detect_of_noDirective hplain, Classifier.histogram_feedAll_start, verdict_default]
  generalize Classifier.castVotes skipDocs {} (Line.ofText text) = sigs at hmixed ⊢
  cases hwin : (Histogram.ofVotes sigs).winner? with
  | none => exact .inl rfl
  | some winner =>
    have hnone : (Histogram.ofVotes sigs).votes (.mixed winner.width) = 0 := by
      rw [Histogram.votes_ofVotes, List.count_eq_zero_of_not_mem fun hmem => hmixed _ hmem rfl]
      rfl
    dsimp only
    rw [Histogram.promoteMixed_of_votes_eq_zero hnone]
    exact .inr ⟨winner, Histogram.mem_keys_ofVotes.mp (Histogram.mem_keys_of_winner? hwin), rfl⟩

/--
**A text that is indented by one character gets a verdict of that character.**

Without directives and without tabs the verdict is unknown or one of spaces, and no wider than the
longest indentation. Without directives and without spaces it is unknown or one of full tab stops.
-/
theorem detect_pure (skipDocs : Bool) (text : List Char)
    (hplain : ∀ l ∈ Line.ofText text, NoDirective l.text) :
    ((∀ l ∈ Line.ofText text, '\t' ∉ l.indent) → detect skipDocs text = .ok .unknown ∨
      ∃ n : Nat, detect skipDocs text = .ok (.spaces n) ∧ 1 ≤ n ∧
        ∃ l ∈ Line.ofText text, n ≤ l.indent.length) ∧
    ((∀ l ∈ Line.ofText text, ' ' ∉ l.indent) → detect skipDocs text = .ok .unknown ∨
      detect skipDocs text = .ok (.tabs 8)) := by
  have hindent : ∀ l ∈ Line.ofText text, ∀ c ∈ l.indent, Line.isIndent c = true :=
    fun l hl => Line.isIndent_of_mem_ofText hl
  constructor
  · intro htab
    have hvotes := spaces_of_mem_castVotes skipDocs hindent htab
    have hmixed : ∀ sig ∈ Classifier.castVotes skipDocs {} (Line.ofText text), sig.style ≠ .mixed := by
      intro sig hsig
      obtain ⟨n, rfl, -⟩ := hvotes sig hsig
      exact fun hstyle => by cases hstyle
    refine (detect_of_no_mixed hplain hmixed).imp_right ?_
    rintro ⟨sig, hsig, hdetect⟩
    obtain ⟨n, rfl, hbounds⟩ := hvotes sig hsig
    exact ⟨n, hdetect, hbounds⟩
  · intro hspace
    have hvotes := tabs_of_mem_castVotes skipDocs hindent hspace
    have hmixed : ∀ sig ∈ Classifier.castVotes skipDocs {} (Line.ofText text), sig.style ≠ .mixed := by
      intro sig hsig
      rw [hvotes sig hsig]
      decide
    refine (detect_of_no_mixed hplain hmixed).imp_right ?_
    rintro ⟨sig, hsig, hdetect⟩
    rwa [hvotes sig hsig] at hdetect

/-- Four and seven spaces, with a continuation between them and a comment behind them, and two tabs that
are opened at once. -/
theorem detect_pure_irregular :
    (∀ l ∈ Line.ofText "a\n    b \\\n   c\n       d\n # e\nf\n".toList, NoDirective l.text) ∧
      (∀ l ∈ Line.ofText "a\n    b \\\n   c\n       d\n # e\nf\n".toList, '\t' ∉ l.indent) ∧
      (∃ n : Nat, detect false "a\n    b \\\n   c\n       d\n # e\nf\n".toList = .ok (.spaces n) ∧
        1 ≤ n ∧ ∃ l ∈ Line.ofText "a\n    b \\\n   c\n       d\n # e\nf\n".toList,
          n ≤ l.indent.length) ∧
      (∀ l ∈ Line.ofText "a\n\t\tb\n".toList, NoDirective l.text) ∧
      (∀ l ∈ Line.ofText "a\n\t\tb\n".toList, ' ' ∉ l.indent) ∧
      detect true "a\n\t\tb\n".toList = .ok (.tabs 8) := by
  have hplain : ∀ l ∈ Line.ofText "a\n    b \\\n   c\n       d\n # e\nf\n".toList,
      NoDirective l.text := by decide +kernel
  have htab : ∀ l ∈ Line.ofText "a\n    b \\\n   c\n       d\n # e\nf\n".toList,
      '\t' ∉ l.indent := by decide +kernel
  have hspaces : detect false "a\n    b \\\n   c\n       d\n # e\nf\n".toList = .ok (.spaces 3) := by
    cbv
  have hplain' : ∀ l ∈ Line.ofText "a\n\t\tb\n".toList, NoDirective l.text := by decide +kernel
  have hspace : ∀ l ∈ Line.ofText "a\n\t\tb\n".toList, ' ' ∉ l.indent := by decide +kernel
  have htabs : detect true "a\n\t\tb\n".toList = .ok (.tabs 8) := by cbv
  refine ⟨hplain, htab, ?_, hplain', hspace, ?_⟩
  · exact ((detect_pure false _ hplain).1 htab).resolve_left (by rw [hspaces]; decide)
  · exact ((detect_pure true _ hplain').2 hspace).resolve_left (by rw [htabs]; decide)

end Indentation
