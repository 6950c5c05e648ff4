import Indentation.Proofs.Classifier

/-!
# Noise

Blank lines, indented comments and the lines of an open block of documentation are noise
(`IsNoise`): where such a line is looked at, it changes nothing but the number of lines. As that
number decides nothing (`SameButLines.feed`), the lines behind it are read as if it were not there.

A comment in the first column is no noise, since the next line is measured from it. Nor is a comment
that ends in a backslash, as the next line goes on with it. And noise that goes on with another line
is not looked at: it is the line that is passed over, so without it another one would be.

## Main statements

* `step_of_isNoise` — noise changes nothing but the number of lines
* `SameButLines.feedAll` — the number of lines read before decides nothing
* `feedAll_isNoise` — noise can be left out wherever it is looked at
-/

namespace Indentation.Classifier

variable {skipDocs : Bool} {s t : Classifier} {l : Line}

/-! ## The number of lines -/

/-- Two classifiers that differ in the number of lines they have read, if at all. -/
structure SameButLines (s t : Classifier) : Prop where
  histogram : s.histogram = t.histogram
  prevIndent : s.prevIndent = t.prevIndent
  skip : s.skip = t.skip
  inDoc : s.inDoc = t.inDoc

namespace SameButLines

theorem inDocAfter_eq (h : SameButLines s t) (l : Line) :
    s.inDocAfter skipDocs l = t.inDocAfter skipDocs l := by
  unfold inDocAfter
  rw [h.inDoc]

/-- **One line does the same to both**, which then differ in as many lines as before. -/
theorem feed (h : SameButLines s t) (l : Line) :
    SameButLines (s.feed skipDocs l) (t.feed skipDocs l) := by
  rw [feed_eq, feed_eq]
  rcases s.step_cases skipDocs l with ⟨hskip, hs⟩ | ⟨hskip, hdoc, hs⟩ | ⟨hskip, hdoc, hs⟩
  · have ht := step_eq_of_skip (h.skip ▸ hskip) skipDocs l
    rw [hs, ht]
    refine ⟨h.histogram, h.prevIndent, ?_, h.inDoc⟩
    show s.skip - 1 = t.skip - 1
    rw [h.skip]
  · have ht := step_of_inDoc (h.skip ▸ hskip) (h.inDocAfter_eq l ▸ hdoc)
    rw [hs, ht]
    exact ⟨h.histogram, h.prevIndent, h.skip, rfl⟩
  · have ht := step_of_not_inDoc (h.skip ▸ hskip) (h.inDocAfter_eq l ▸ hdoc)
    rw [hs, ht, h.prevIndent, h.histogram]
    exact ⟨rfl, rfl, rfl, rfl⟩

/-- **The number of lines read before decides nothing.** -/
theorem feedAll (h : SameButLines s t) (ls : List Line) :
    SameButLines (s.feedAll skipDocs ls) (t.feedAll skipDocs ls) := by
  induction ls generalizing s t with
  | nil => exact h
  | cons l ls ih => exact ih (h.feed l)

end SameButLines

/-! ## Lines that say nothing -/

/-- The words that open a comment. -/
def commentMarkers : List (List Char) := ["#", "//", "/*"].map String.toList

/-- A line that says nothing to a classifier which looks at it. -/
inductive IsNoise (s : Classifier) (l : Line) : Prop where
  | blank (hrest : l.rest = [])
  | comment (hindent : l.indent ≠ []) (hmarker : ∃ m ∈ commentMarkers, m <+: l.rest)
      (hend : l.rest.getLast? ≠ some '\\')
  | documentation (hdoc : s.inDoc = true) (hcut : ¬(l.indent = [] ∧ "=cut".toList <+: l.rest))

theorem isComment_of_prefix {m rest : List Char} (hm : m ∈ commentMarkers) (h : m <+: rest) :
    isComment rest = true := by
  obtain ⟨r, rfl⟩ := h
  obtain rfl | rfl | rfl : m = ['#'] ∨ m = ['/', '/'] ∨ m = ['/', '*'] := by
    simpa [commentMarkers] using hm
  all_goals rfl

namespace IsNoise

/-- Noise neither opens a block of documentation nor closes one. -/
theorem inDocAfter_eq (h : IsNoise s l) : s.inDocAfter skipDocs l = s.inDoc := by
  unfold inDocAfter
  cases skipDocs with
  | false => rfl
  | true =>
    show docAfter s.inDoc l = s.inDoc
    unfold docAfter
    cases h with
    | blank hrest =>
      rw [hrest]
      cases s.inDoc <;> simp [closesDoc, opensDoc]
    | comment hindent =>
      rw [if_neg (by simpa using hindent)]
    | documentation hdoc hcut =>
      rw [hdoc]
      by_cases hindent : l.indent = []
      · have hopen : closesDoc l.rest = false := by
          refine Bool.eq_false_iff.mpr fun hclose => hcut ⟨hindent, ?_⟩
          exact List.isPrefixOf_iff_prefix.mp hclose
        simp [hindent, hopen]
      · simp [hindent]

/-- Outside of documentation, noise is blank or a comment. -/
theorem blank_or_comment (h : IsNoise s l) (hdoc : s.inDoc = false) :
    l.rest = [] ∨ l.indent ≠ [] ∧ isComment l.rest = true ∧ isContinued l.rest = false := by
  cases h with
  | blank hrest => exact .inl hrest
  | comment hindent hmarker hend =>
    obtain ⟨m, hm, hrest⟩ := hmarker
    exact .inr ⟨hindent, isComment_of_prefix hm hrest, beq_eq_false_iff_ne.mpr hend⟩
  | documentation hopen =>
    rw [hdoc] at hopen
    cases hopen

end IsNoise

/-- **Noise changes nothing but the number of lines**, and casts no vote. -/
theorem step_of_isNoise (hskip : s.skip = 0) (h : IsNoise s l) :
    s.step skipDocs l = ({ s with linesSeen := s.linesSeen + 1 }, none) := by
  obtain ⟨prev, n, skip, inDoc, votes⟩ := s
  obtain rfl : skip = 0 := hskip
  cases inDoc with
  | true => exact step_of_inDoc rfl h.inDocAfter_eq
  | false =>
    rw [step_of_not_inDoc rfl h.inDocAfter_eq]
    unfold carriesOn baseline look?
    rcases h.blank_or_comment rfl with hrest | ⟨hindent, hcomment, hends⟩
    · simp [hrest, isContinued]
    · simp [hindent, hcomment, hends]

theorem sameButLines_feed_of_isNoise (hskip : s.skip = 0) (h : IsNoise s l) :
    SameButLines (s.feed skipDocs l) s := by
  rw [feed_eq, step_of_isNoise hskip h]
  exact ⟨rfl, rfl, rfl, rfl⟩

/--
**Noise can be left out wherever it is looked at.**

Whatever was read before and whatever is read behind it, the votes, the indentation that the next
line is measured from, the number of lines to be passed over and whether documentation is open are
the same with and without it.
-/
theorem feedAll_isNoise (skipDocs : Bool) (s : Classifier) (before after : List Line) (l : Line)
    (hskip : (s.feedAll skipDocs before).skip = 0) (h : IsNoise (s.feedAll skipDocs before) l) :
    SameButLines (s.feedAll skipDocs (before ++ l :: after))
      (s.feedAll skipDocs (before ++ after)) := by
  rw [feedAll_append, feedAll_append]
  exact (sameButLines_feed_of_isNoise hskip h).feedAll after

/-- An indented comment in front of an indented line, and a flush-left one inside documentation. -/
theorem feedAll_isNoise_comment :
    SameButLines
        (feedAll false {} ([⟨[], "a".toList⟩] ++ ⟨"  ".toList, "# b".toList⟩
          :: [⟨"    ".toList, "c".toList⟩]))
        (feedAll false {} ([⟨[], "a".toList⟩] ++ [⟨"    ".toList, "c".toList⟩])) ∧
      SameButLines
        (feedAll true {} ([⟨[], "=pod".toList⟩] ++ ⟨[], "a \\".toList⟩ :: [⟨[], "=cut".toList⟩]))
        (feedAll true {} ([⟨[], "=pod".toList⟩] ++ [⟨[], "=cut".toList⟩])) := by
  constructor
  · refine feedAll_isNoise false {} _ _ _ rfl (.comment ?_ ?_ ?_)
    · exact List.cons_ne_nil _ _
    · exact ⟨"#".toList, by decide, by decide⟩
    · decide
  · refine feedAll_isNoise true {} _ _ _ rfl (.documentation rfl ?_)
    rintro ⟨-, hcut⟩
    exact absurd hcut (by decide)

/-- A blank line that goes on with another cannot be left out. -/
example :
    (feedAll false {} [⟨[], ['a']⟩, ⟨[' '], ['\\']⟩, ⟨[], []⟩, ⟨[' ', ' '], ['b']⟩]).histogram
      ≠ (feedAll false {} [⟨[], ['a']⟩, ⟨[' '], ['\\']⟩, ⟨[' ', ' '], ['b']⟩]).histogram := by
  decide

end Indentation.Classifier
