import Indentation.Proofs.Classifier
import Mathlib.Data.List.Induction

/-!
# Lines that are passed over

Some lines cast no vote whatever their indentation: a line that goes on with the line before it, and,
where documentation is skipped, the lines of a block of documentation.

## Continuations

Only an indented line that is looked at makes the next line go on with it. So of the lines behind one
another that are indented and end in a backslash every second one is passed over, and a line that
follows them is passed over exactly if their number is odd (`skip_feedAll`). Behind a flush-left line
that ends in a backslash a line is looked at.

## Documentation

Whether a line goes on with another is asked before any marker is looked for. So a marker that goes on
with a line opens nothing. With that said, where the lines of documentation are is a matter of the
lines alone (`Place.next`), and to skip them is to read the text without them (`Follows.step`).

## Main statements

* `vote_behind_run` — which lines are passed over as continuations, and what the others vote for
* `feedAll_skipDocs` — to skip documentation is to read the other lines
-/

namespace Indentation.Classifier

variable {skipDocs : Bool} {s t : Classifier}

/-! ## Continuations -/

/-- The lines at the end of a list that are indented and end in a backslash, last first. -/
def closingRun (ls : List Line) : List Line := ls.reverse.takeWhile carriesOn

theorem length_closingRun_concat (ls : List Line) (l : Line) :
    (closingRun (ls ++ [l])).length = if carriesOn l then (closingRun ls).length + 1 else 0 := by
  unfold closingRun
  rw [List.reverse_append, List.reverse_singleton, List.singleton_append, List.takeWhile_cons]
  split <;> rfl

/-- Where documentation is not skipped, none is ever open, and a line that is looked at says whether
the next one is passed over. -/
theorem feed_false (hdoc : s.inDoc = false) (l : Line) :
    (s.feed false l).inDoc = false ∧
      (s.feed false l).skip = if s.skip = 0 then (carriesOn l).toNat else s.skip - 1 := by
  rw [feed_eq]
  by_cases hskip : s.skip = 0
  · have hlooked : s.inDocAfter false l = false := hdoc
    rw [step_of_not_inDoc hskip hlooked, if_pos hskip]
    exact ⟨rfl, rfl⟩
  · rw [step_eq_of_skip (Nat.pos_of_ne_zero hskip), if_neg hskip]
    exact ⟨hdoc, rfl⟩

/-- **A line is passed over exactly if the run of lines before it that are indented and end in a
backslash is odd.** -/
theorem skip_feedAll (ls : List Line) :
    (feedAll false {} ls).inDoc = false ∧
      (feedAll false {} ls).skip = (closingRun ls).length % 2 := by
  -- on the lines from the last one back, as the run is counted from there
  induction ls using List.reverseRecOn with
  | nil => exact ⟨rfl, rfl⟩
  | append_singleton ls l ih =>
    obtain ⟨hdoc, hskip⟩ := ih
    obtain ⟨hdoc', hskip'⟩ := feed_false hdoc l
    rw [feedAll_concat]
    refine ⟨hdoc', ?_⟩
    rw [hskip', hskip, length_closingRun_concat]
    cases carriesOn l with
    | true => simp only [if_true, Bool.toNat_true]; split <;> omega
    | false => simp only [Bool.false_eq_true, if_false, Bool.toNat_false]; split <;> omega

/--
**What a line votes for, behind any lines.**

It casts no vote if an odd number of lines right before it are indented and end in a backslash: the
last of them is looked at, and the line goes on with it. Otherwise it is looked at, even if the line
before it ends in a backslash.
-/
theorem vote_behind_run (ls : List Line) (l : Line) :
    ((feedAll false {} ls).step false l).2 =
      if (closingRun ls).length % 2 = 1 then none
      else look? (feedAll false {} ls).prevIndent l := by
  obtain ⟨hdoc, hskip⟩ := skip_feedAll ls
  by_cases hodd : (closingRun ls).length % 2 = 1
  · have hpos : 0 < (feedAll false {} ls).skip := by omega
    rw [if_pos hodd, step_eq_of_skip hpos]
  · have hzero : (feedAll false {} ls).skip = 0 := by omega
    have hlooked : (feedAll false {} ls).inDocAfter false l = false := hdoc
    rw [if_neg hodd, step_of_not_inDoc hzero hlooked]

/-- A line votes behind a flush-left line that ends in a backslash, and behind two indented ones. -/
theorem vote_behind_backslash :
    ((feedAll false {} [⟨[], "a \\".toList⟩]).step false ⟨"    ".toList, "b".toList⟩).2
        = some (.spaces 4) ∧
      ((feedAll false {} [⟨"  ".toList, "a \\".toList⟩, ⟨"    ".toList, "b \\".toList⟩]).step false
          ⟨"     ".toList, "c".toList⟩).2 = some (.spaces 3) :=
  ⟨by decide, by decide⟩

/-! ## Documentation -/

/-- Where a reader of lines is who passes over documentation. -/
inductive Place where
  | code
  /-- The next line goes on with the last one, and is not searched for a marker. -/
  | continuation
  | doc
  deriving DecidableEq, Repr

namespace Place

/-- Where a reader is after one more line. -/
def next (p : Place) (l : Line) : Place :=
  match p with
  | continuation => code
  | doc => if docAfter true l then doc else code
  | code => if docAfter false l then doc else if carriesOn l then continuation else code

/-- Where a reader is after a list of lines. -/
def after (p : Place) (ls : List Line) : Place := ls.foldl next p

theorem after_concat (p : Place) (ls : List Line) (l : Line) :
    p.after (ls ++ [l]) = (p.after ls).next l := by
  rw [after, List.foldl_append]
  rfl

/-- The lines that are no documentation, read from the given place on. -/
def outsideDocs (p : Place) : List Line → List Line
  | [] => []
  | l :: ls =>
    if p.next l = doc then (p.next l).outsideDocs ls else l :: (p.next l).outsideDocs ls

end Place

/-- The first classifier skips documentation, and the second has read the same lines without it. -/
structure Follows (p : Place) (s t : Classifier) : Prop where
  histogram : s.histogram = t.histogram
  prevIndent : s.prevIndent = t.prevIndent
  inDoc : s.inDoc = decide (p = .doc)
  skip : s.skip = if p = .continuation then 1 else 0
  skip_eq : s.skip = t.skip
  not_inDoc : t.inDoc = false

namespace Follows

variable {p : Place} {l : Line}

/-- A line that both look at is the same to both. -/
theorem step_of_looked (h : Follows p s t) (hskip : s.skip = 0)
    (hlooked : docAfter (decide (p = .doc)) l = false) :
    (s.step true l).2 = (t.step false l).2 ∧
      Follows (if carriesOn l then .continuation else .code) (s.feed true l) (t.feed false l) := by
  have hs : s.inDocAfter true l = false := by
    show docAfter s.inDoc l = false
    rw [h.inDoc]
    exact hlooked
  have ht : t.inDocAfter false l = false := h.not_inDoc
  have hskip' : t.skip = 0 := h.skip_eq ▸ hskip
  rw [feed_eq, feed_eq, step_of_not_inDoc hskip hs, step_of_not_inDoc hskip' ht]
  refine ⟨by rw [h.prevIndent], ?_⟩
  constructor
  · show List.foldl _ _ _ = List.foldl _ _ _
    rw [h.prevIndent, h.histogram]
  · show baseline _ _ = baseline _ _
    rw [h.prevIndent]
  · cases carriesOn l <;> rfl
  · cases carriesOn l <;> rfl
  · rfl
  · rfl

/-- A line of documentation is skipped by the first and not read by the second. -/
theorem step_of_doc (h : Follows p s t) (hskip : s.skip = 0)
    (hdoc : docAfter (decide (p = .doc)) l = true) :
    (s.step true l).2 = none ∧ Follows .doc (s.feed true l) t := by
  have hs : s.inDocAfter true l = true := by
    show docAfter s.inDoc l = true
    rw [h.inDoc]
    exact hdoc
  rw [feed_eq, step_of_inDoc hskip hs]
  exact ⟨rfl, h.histogram, h.prevIndent, rfl, hskip, h.skip_eq, h.not_inDoc⟩

/-- A line that goes on with another is passed over by both. -/
theorem step_of_continuation (h : Follows .continuation s t) (l : Line) :
    (s.step true l).2 = (t.step false l).2 ∧ Follows .code (s.feed true l) (t.feed false l) := by
  have hs : s.skip = 1 := h.skip
  have ht : t.skip = 1 := h.skip_eq ▸ hs
  rw [feed_eq, feed_eq, step_eq_of_skip (by omega), step_eq_of_skip (by omega)]
  refine ⟨rfl, h.histogram, h.prevIndent, h.inDoc, ?_, ?_, h.not_inDoc⟩
  · show s.skip - 1 = 0
    omega
  · show s.skip - 1 = t.skip - 1
    omega

/-- **The first classifier votes as the second, and not at all on a line of documentation.** -/
theorem step (h : Follows p s t) (l : Line) :
    (s.step true l).2 = (if p.next l = .doc then none else (t.step false l).2) ∧
      Follows (p.next l) (s.feed true l) (if p.next l = .doc then t else t.feed false l) := by
  cases p with
  | continuation => exact h.step_of_continuation l
  | doc =>
    unfold Place.next
    cases hdoc : docAfter true l with
    | true => exact h.step_of_doc h.skip hdoc
    | false =>
      -- the line closes the block, so it is flush left
      have hflush : l.indent = [] := by
        by_contra hne
        simp [docAfter, hne] at hdoc
      have hlooked := h.step_of_looked h.skip hdoc
      rw [carriesOn_of_flush hflush] at hlooked
      exact hlooked
  | code =>
    unfold Place.next
    cases hdoc : docAfter false l with
    | true => exact h.step_of_doc h.skip hdoc
    | false =>
      have hlooked := h.step_of_looked h.skip hdoc
      cases hcarries : carriesOn l <;> rw [hcarries] at hlooked <;> exact hlooked

/-- **So it is after any lines.** -/
theorem feedAll (h : Follows p s t) (ls : List Line) :
    Follows (p.after ls) (s.feedAll true ls) (t.feedAll false (p.outsideDocs ls)) := by
  induction ls generalizing p s t with
  | nil => exact h
  | cons l ls ih =>
    obtain ⟨-, hl⟩ := h.step l
    have hrest := ih hl
    unfold Place.outsideDocs
    by_cases hdoc : p.next l = .doc
    · rw [if_pos hdoc] at hrest ⊢
      exact hrest
    · rw [if_neg hdoc] at hrest ⊢
      exact hrest

end Follows

theorem follows_start : Follows .code {} {} :=
  ⟨rfl, rfl, rfl, rfl, rfl, rfl⟩

/--
**To skip documentation is to read the other lines.**

A line of documentation casts no vote, and any other line casts the vote that it casts where the
documentation is left out. The lines of documentation are those from a line that opens a block to the
one before the line that closes it, where a line that goes on with another opens none.
-/
theorem feedAll_skipDocs (ls : List Line) :
    (∀ l, ((feedAll true {} ls).step true l).2 =
      if Place.code.after (ls ++ [l]) = .doc then none
      else ((feedAll false {} (Place.code.outsideDocs ls)).step false l).2) ∧
    (feedAll true {} ls).histogram = (feedAll false {} (Place.code.outsideDocs ls)).histogram := by
  have hls := follows_start.feedAll ls
  refine ⟨fun l => ?_, hls.histogram⟩
  rw [Place.after_concat]
  exact (hls.step l).1

/-! ### Markers behind a backslash -/

/-- The lines outside of the blocks that markers delimit, wherever these stand. -/
def outsideMarkers (inDoc : Bool) : List Line → List Line
  | [] => []
  | l :: ls =>
    if docAfter inDoc l then outsideMarkers true ls else l :: outsideMarkers false ls

/-- Where no line goes on with another, markers alone tell what is documentation. -/
theorem outsideDocs_of_not_carriesOn {ls : List Line} (h : ∀ l ∈ ls, carriesOn l = false)
    (inDoc : Bool) :
    (if inDoc then Place.doc else .code).outsideDocs ls = outsideMarkers inDoc ls := by
  induction ls generalizing inDoc with
  | nil => rfl
  | cons l ls ih =>
    have hrest := ih fun m hm => h m (List.mem_cons_of_mem l hm)
    have hnext : (if inDoc then Place.doc else .code).next l
        = if docAfter inDoc l then .doc else .code := by
      cases inDoc <;> simp [Place.next, h l List.mem_cons_self]
    rw [Place.outsideDocs, outsideMarkers, hnext]
    cases docAfter inDoc l with
    | true => exact hrest true
    | false => exact congrArg (l :: ·) (hrest false)

/-- A marker that goes on with a line opens no block, and the lines behind it vote. -/
theorem marker_behind_backslash :
    (feedAll true {} [⟨[], "a".toList⟩, ⟨"    ".toList, "b \\".toList⟩, ⟨[], "=pod".toList⟩,
        ⟨"  ".toList, "c".toList⟩, ⟨"    ".toList, "d".toList⟩]).histogram
      ≠ (feedAll false {} (outsideMarkers false [⟨[], "a".toList⟩, ⟨"    ".toList, "b \\".toList⟩,
          ⟨[], "=pod".toList⟩, ⟨"  ".toList, "c".toList⟩, ⟨"    ".toList, "d".toList⟩])).histogram := by
  decide

end Indentation.Classifier
