import Indentation.Proofs.Classifier
import Mathlib.Data.List.Induction

/-!
# What a classifier holds

What is true of a classifier after any lines (`Classifier.Invariant`): which signatures its histogram
holds and how often, what it keeps for the next line, and which of this can be there together. A line
keeps all of it (`Invariant.feed`), so lines do.

## Why no vote is empty

What is classified is what one indentation has more than another, and that is never empty, as the
lengths are compared before the indentations are. Where neither starts with the other, their widths
are compared, and no width is zero because equal widths cast no vote (`isVote_of_voteFor?`).

## Why documentation and continuations exclude each other

A line is passed over before it is searched for a marker, and a line of documentation is left before
its end is looked at. So the line that makes the next one go on with it stands outside of
documentation, and a line that opens documentation makes no line go on with it.

## Main statements

* `isVote_of_voteFor?` — which signatures a change of indentation votes for
* `invariant_feedAll` — what a classifier holds after any lines
-/

namespace Indentation

/-! ## Votes -/

/-- The signatures that lines vote for. -/
inductive Signature.IsVote : Signature → Prop where
  | spaces {n : Int} (hn : 1 ≤ n) : IsVote (.spaces n)
  /-- What a tab stands for is not seen, so it stands for a full tab stop. -/
  | tabs : IsVote (.tabs 8)
  | mixed {n : Int} (hn : 1 ≤ n) : IsVote (.mixed n)

/-- What spaces and tabs are added or taken away casts a vote. -/
theorem isVote_classifyDiff {diff : List Char} (hne : diff ≠ [])
    (hindent : ∀ c ∈ diff, Line.isIndent c = true) : (classifyDiff diff).IsVote := by
  unfold classifyDiff
  split
  · exact .spaces (Int.natCast_pos.mpr (List.length_pos_iff.mpr hne))
  · next hspaces =>
    split
    · exact .tabs
    · -- something in it is no space, so it is a tab
      obtain ⟨c, hc, hspace⟩ : ∃ c ∈ diff, c ≠ ' ' := by simpa using hspaces
      have htab : c = '\t' := by
        have := hindent c hc
        simpa [Line.isIndent, hspace] using this
      have hcount : 0 < diff.count '\t' := List.count_pos_iff.mpr (htab ▸ hc)
      have hwidth : (1 : Int) ≤ diff.count '\t' * tabWidth := by
        unfold tabWidth
        omega
      exact .mixed (by omega)

/-- **A change of indentation casts a vote of positive width.** -/
theorem isVote_of_voteFor? {prev indent : List Char} (hprev : ∀ c ∈ prev, Line.isIndent c = true)
    (hindent : ∀ c ∈ indent, Line.isIndent c = true) {sig : Signature}
    (h : Classifier.voteFor? prev indent = some sig) : sig.IsVote := by
  unfold Classifier.voteFor? at h
  split at h
  · next hlonger =>
    obtain rfl := Option.some.inj h
    refine isVote_classifyDiff ?_ fun c hc => hindent c (List.mem_of_mem_drop hc)
    simp at hlonger
    simp [hlonger]
  · split at h
    · next hlonger =>
      obtain rfl := Option.some.inj h
      refine isVote_classifyDiff ?_ fun c hc => hprev c (List.mem_of_mem_drop hc)
      simp at hlonger
      simp [hlonger]
    · dsimp only at h
      split at h
      · cases h
      · next hdistance =>
        obtain rfl := Option.some.inj h
        exact .mixed (Int.natCast_pos.mpr (Nat.pos_of_ne_zero hdistance))

/-! ## One line -/

namespace Classifier

/-- Whether a line may vote. -/
def mayVote (l : Line) : Bool := !l.indent.isEmpty && !l.rest.isEmpty

/-- What a classifier holds after the lines `ls`. -/
structure Invariant (skipDocs : Bool) (ls : List Line) (s : Classifier) : Prop where
  isVote : ∀ sig ∈ s.histogram.keys, sig.IsVote
  count_pos : ∀ e ∈ s.histogram, 1 ≤ e.2
  total_le : s.histogram.total ≤ ls.countP mayVote
  linesSeen : s.linesSeen = ls.length
  skip_le : s.skip ≤ 1
  not_inDoc_of_skip : s.skip = 1 → s.inDoc = false
  skipDocs_of_inDoc : s.inDoc = true → skipDocs = true
  /-- Only a line that is neither blank nor an indented comment is measured from. -/
  prevIndent : s.prevIndent = [] ∨
    ∃ l ∈ ls, l.indent = s.prevIndent ∧ l.rest ≠ [] ∧ isComment l.rest = false

variable {skipDocs : Bool} {s : Classifier} {ls : List Line} {l : Line}

/-- **A line leaves the histogram alone, or it may vote and adds one vote.** -/
theorem histogram_feed_cases (skipDocs : Bool) (s : Classifier) (l : Line) :
    (s.feed skipDocs l).histogram = s.histogram ∨
      mayVote l = true ∧ ∃ sig, voteFor? s.prevIndent l.indent = some sig ∧
        (s.feed skipDocs l).histogram = s.histogram.vote sig := by
  rw [feed_eq]
  cases hvote : (s.step skipDocs l).2 with
  | none => exact .inl rfl
  | some sig =>
    obtain ⟨hindent, hrest, hchange⟩ := vote_step hvote
    exact .inr ⟨by simp [mayVote, hindent, hrest], sig, hchange, rfl⟩

/-- Documentation is only ever open where it is skipped. -/
theorem skipDocs_of_inDocAfter (hs : s.inDoc = true → skipDocs = true)
    (hdoc : s.inDocAfter skipDocs l = true) : skipDocs = true := by
  cases skipDocs with
  | true => rfl
  | false => exact hs hdoc

namespace Invariant

theorem start (skipDocs : Bool) : Invariant skipDocs [] {} where
  isVote _ h := by cases h
  count_pos _ h := by cases h
  total_le := Int.le_refl 0
  linesSeen := rfl
  skip_le := Nat.zero_le 1
  not_inDoc_of_skip _ := rfl
  skipDocs_of_inDoc h := by cases h
  prevIndent := .inl rfl

/-- The indentation that the next one is measured from is one of spaces and tabs, if those of the
lines are. -/
theorem isIndent_prevIndent (h : Invariant skipDocs ls s)
    (hls : ∀ m ∈ ls, ∀ c ∈ m.indent, Line.isIndent c = true) :
    ∀ c ∈ s.prevIndent, Line.isIndent c = true := by
  rcases h.prevIndent with hnil | ⟨m, hm, hindent, -⟩
  · simp [hnil]
  · exact hindent ▸ hls m hm

/-- What a line leaves in the histogram. -/
theorem histogram_feed (h : Invariant skipDocs ls s)
    (hls : ∀ m ∈ ls, ∀ c ∈ m.indent, Line.isIndent c = true)
    (hl : ∀ c ∈ l.indent, Line.isIndent c = true) :
    (∀ sig ∈ (s.feed skipDocs l).histogram.keys, sig.IsVote) ∧
      (∀ e ∈ (s.feed skipDocs l).histogram, 1 ≤ e.2) ∧
      (s.feed skipDocs l).histogram.total ≤ (ls ++ [l]).countP mayVote := by
  have hcount : (ls ++ [l]).countP mayVote = ls.countP mayVote + (mayVote l).toNat := by
    rw [List.countP_append, List.countP_singleton]
    cases mayVote l <;> rfl
  have htotal := h.total_le
  rw [hcount]
  rcases histogram_feed_cases skipDocs s l with heq | ⟨hmay, sig, hchange, heq⟩ <;> rw [heq]
  · exact ⟨h.isVote, h.count_pos, by omega⟩
  · refine ⟨fun sig' hsig' => ?_, Histogram.pos_of_mem_vote h.count_pos sig, ?_⟩
    · rcases Histogram.mem_keys_vote.mp hsig' with hold | rfl
      · exact h.isVote sig' hold
      · exact isVote_of_voteFor? (h.isIndent_prevIndent hls) hl hchange
    · rw [Histogram.total_vote, hmay, Bool.toNat_true]
      omega

/-- What a line leaves for the lines behind it. -/
theorem control_feed (h : Invariant skipDocs ls s) (l : Line) :
    (s.feed skipDocs l).linesSeen = s.linesSeen + 1 ∧ (s.feed skipDocs l).skip ≤ 1 ∧
      ((s.feed skipDocs l).skip = 1 → (s.feed skipDocs l).inDoc = false) ∧
      ((s.feed skipDocs l).inDoc = true → skipDocs = true) := by
  have hskip_le := h.skip_le
  rw [feed_eq]
  rcases s.step_cases skipDocs l with ⟨hskip, hstep⟩ | ⟨hskip, hdoc, hstep⟩ | ⟨-, -, hstep⟩ <;>
    rw [hstep] <;> dsimp only
  · -- the only line that was to be passed over is this one
    exact ⟨rfl, by omega, fun hone => by omega, h.skipDocs_of_inDoc⟩
  · exact ⟨rfl, hskip_le, fun hone => by omega,
      fun _ => skipDocs_of_inDocAfter h.skipDocs_of_inDoc hdoc⟩
  · exact ⟨rfl, Bool.toNat_le _, fun _ => rfl, fun hopen => by cases hopen⟩

/-- **A line keeps what a classifier holds.** -/
theorem feed (h : Invariant skipDocs ls s)
    (hls : ∀ m ∈ ls, ∀ c ∈ m.indent, Line.isIndent c = true)
    (hl : ∀ c ∈ l.indent, Line.isIndent c = true) :
    Invariant skipDocs (ls ++ [l]) (s.feed skipDocs l) := by
  obtain ⟨hvote, hpos, htotal⟩ := h.histogram_feed hls hl
  obtain ⟨hlines, hskip, hexcluded, hdoc⟩ := h.control_feed l
  have hprev : (s.step skipDocs l).1.prevIndent = [] ∨ ∃ m ∈ ls ++ [l],
      m.indent = (s.step skipDocs l).1.prevIndent ∧ m.rest ≠ [] ∧ isComment m.rest = false := by
    rcases prevIndent_step skipDocs s l with heq | ⟨heq, hrest, hcomment⟩ <;> rw [heq]
    · refine h.prevIndent.imp_right ?_
      rintro ⟨m, hm, hmeasured⟩
      exact ⟨m, List.mem_append_left [l] hm, hmeasured⟩
    · by_cases hindent : l.indent = []
      · exact .inl hindent
      · exact .inr ⟨l, List.mem_append_right ls (List.mem_singleton_self l), rfl, hrest,
          hcomment hindent⟩
  have hlength : (s.feed skipDocs l).linesSeen = (ls ++ [l]).length := by
    rw [hlines, h.linesSeen, List.length_append, List.length_singleton]
  have hbase : (s.feed skipDocs l).prevIndent = (s.step skipDocs l).1.prevIndent := by rw [feed_eq]
  exact ⟨hvote, hpos, htotal, hlength, hskip, hexcluded, hdoc, hbase ▸ hprev⟩

end Invariant

/-! ## Any lines -/

/--
**What a classifier holds after any lines** that are indented by spaces and tabs.

Its histogram holds signatures of spaces or of a mixture with a width of at least one column, and full
tab stops, each of them with at least one vote. It has no more votes than there are lines that are
indented and not blank: each of these adds one vote at most, and no other line adds any. At most one
line is to be passed over, never in documentation, and documentation is open only where it is skipped.
The indentation that the next one is measured from is empty, or it is that of an earlier line which is
neither blank nor a comment.
-/
theorem invariant_feedAll (skipDocs : Bool) (ls : List Line)
    (hls : ∀ l ∈ ls, ∀ c ∈ l.indent, Line.isIndent c = true) :
    (∀ before, before <+: ls → Invariant skipDocs before (feedAll skipDocs {} before)) ∧
    ∀ before l,
      (feedAll skipDocs {} (before ++ [l])).histogram = (feedAll skipDocs {} before).histogram ∨
      (l.indent ≠ [] ∧ l.rest ≠ []) ∧ ∃ sig, (feedAll skipDocs {} (before ++ [l])).histogram
        = (feedAll skipDocs {} before).histogram.vote sig := by
  constructor
  · intro before hbefore
    induction before using List.reverseRecOn with
    | nil => exact .start skipDocs
    | append_singleton before l ih =>
      have hmem : ∀ m ∈ before ++ [l], m ∈ ls := fun m hm => hbefore.subset hm
      rw [feedAll_concat]
      refine (ih ((List.prefix_append before [l]).trans hbefore)).feed ?_ ?_
      · exact fun m hm => hls m (hmem m (List.mem_append_left [l] hm))
      · exact hls l (hmem l (List.mem_append_right before (List.mem_singleton_self l)))
  · intro before l
    rw [feedAll_concat]
    rcases histogram_feed_cases skipDocs (feedAll skipDocs {} before) l with
      heq | ⟨hmay, sig, -, heq⟩
    · exact .inl heq
    · have hparts : l.indent ≠ [] ∧ l.rest ≠ [] := by simpa [mayVote] using hmay
      exact .inr ⟨hparts, sig, heq⟩

/-- Behind two lines that differ by two spaces, a tab in place of the spaces on a line that the next
one goes on with. -/
theorem invariant_feedAll_tab_for_spaces :
    (∀ l ∈ [Line.mk [] "a".toList, ⟨"  ".toList, "b".toList⟩, ⟨"\t".toList, "c \\".toList⟩],
      ∀ c ∈ l.indent, Line.isIndent c = true) ∧
    Invariant true [⟨[], "a".toList⟩, ⟨"  ".toList, "b".toList⟩, ⟨"\t".toList, "c \\".toList⟩]
      { prevIndent := "\t".toList, linesSeen := 3, skip := 1, inDoc := false,
        histogram := [(.spaces 2, 1), (.mixed 6, 1)] } := by
  have hindent : ∀ l ∈ [Line.mk [] "a".toList, ⟨"  ".toList, "b".toList⟩,
      ⟨"\t".toList, "c \\".toList⟩], ∀ c ∈ l.indent, Line.isIndent c = true := by
    simp [Line.isIndent]
  exact ⟨hindent, (invariant_feedAll true _ hindent).1 _ (List.prefix_refl _)⟩

end Classifier

end Indentation
