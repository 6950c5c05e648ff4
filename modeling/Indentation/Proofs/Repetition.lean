import Mathlib
import Indentation.Proofs.Classifier
import Indentation.Proofs.Detect

/-!
# Votes of composed texts

What lines vote for does not depend on what stood before them, if nothing before them says that they
are passed over and they start flush left. So the votes of such pieces of a text add up, and a text
that is repeated has every vote as often as it is repeated.

## What later lines depend on

The lines behind a piece depend on what is passed over and, outside of documentation, on the
indentation that the next line is measured from (`Alike`). The first line of the next piece may itself
open documentation. Then that indentation is only given up by the line that closes it, but no line is
measured in between.

## Main statements

* `Classifier.Alike.castVotes_eq` — states that are alike cast the same votes on any lines
* `histogram_append_and_detect_replicate` — votes of pieces add up, and repetition changes no verdict
-/

namespace Indentation

/-- A list that is repeated starts as the list does. -/
theorem mem_head?_flatten_replicate {α : Type} {x : α} {xs : List α} (h : x ∈ xs.head?) (k : Nat) :
    (List.replicate k xs).flatten = [] ∨ x ∈ (List.replicate k xs).flatten.head? := by
  cases k with
  | zero => exact Or.inl rfl
  | succ k =>
    refine Or.inr ?_
    rw [List.replicate_succ, List.flatten_cons, List.head?_append, Option.mem_def.mp h]
    rfl

namespace Classifier

variable {skipDocs : Bool} {s t : Classifier} {l : Line} {as bs : List Line}

/-! ## States that later lines cannot tell apart -/

/-- No later line is treated differently after the one state than after the other. -/
structure Alike (s t : Classifier) : Prop where
  skip : s.skip = t.skip
  inDoc : s.inDoc = t.inDoc
  /-- In documentation the indentation does not matter, as the line that closes it is flush left. -/
  prevIndent : s.inDoc = false → s.prevIndent = t.prevIndent

/-- What stood before a flush-left line that is not blank does not matter to it. -/
theorem measured_of_flush (hindent : l.indent = []) (hrest : l.rest ≠ []) (prev prev' : List Char) :
    baseline prev l = baseline prev' l ∧ look? prev l = look? prev' l := by
  rw [baseline_of_flush hindent hrest, baseline_of_flush hindent hrest, look?_of_flush hindent,
    look?_of_flush hindent]
  exact ⟨rfl, rfl⟩

/-- A line that closes documentation, or stands outside of it, is measured alike. -/
theorem Alike.measured (h : Alike s t) (hlooked : s.inDocAfter skipDocs l = false) :
    baseline s.prevIndent l = baseline t.prevIndent l ∧
      look? s.prevIndent l = look? t.prevIndent l := by
  cases hopen : s.inDoc with
  | false =>
    rw [h.prevIndent hopen]
    exact ⟨rfl, rfl⟩
  | true =>
    -- only a flush-left line closes documentation, and only where documentation is skipped
    have hcloses : l.indent = [] ∧ l.rest ≠ [] := by
      cases skipDocs with
      | false => simp [inDocAfter, hopen] at hlooked
      | true =>
        by_cases hindent : l.indent = []
        · refine ⟨hindent, fun hrest => ?_⟩
          simp [inDocAfter, docAfter, hopen, hindent, hrest, closesDoc] at hlooked
        · simp [inDocAfter, docAfter, hopen, hindent] at hlooked
    exact measured_of_flush hcloses.1 hcloses.2 s.prevIndent t.prevIndent

/-- A line that neither state passes over leaves them alike if it is measured alike. -/
theorem alike_feed_of_measured (hs : s.skip = 0) (ht : t.skip = 0) (hopen : s.inDoc = t.inDoc)
    (hmeasured : s.inDocAfter skipDocs l = false →
      baseline s.prevIndent l = baseline t.prevIndent l ∧
        look? s.prevIndent l = look? t.prevIndent l) :
    (s.step skipDocs l).2 = (t.step skipDocs l).2 ∧
      Alike (s.feed skipDocs l) (t.feed skipDocs l) := by
  have hdoc : s.inDocAfter skipDocs l = t.inDocAfter skipDocs l := by
    unfold inDocAfter
    rw [hopen]
  rw [feed_eq, feed_eq]
  cases hlooked : s.inDocAfter skipDocs l with
  | true =>
    rw [step_of_inDoc hs hlooked, step_of_inDoc ht (hdoc ▸ hlooked)]
    exact ⟨rfl, hs.trans ht.symm, rfl, fun hclosed => by cases hclosed⟩
  | false =>
    obtain ⟨hbase, hvote⟩ := hmeasured hlooked
    rw [step_of_not_inDoc hs hlooked, step_of_not_inDoc ht (hdoc ▸ hlooked)]
    exact ⟨hvote, rfl, rfl, fun _ => hbase⟩

/-- **A line votes alike in states that are alike, and leaves them alike.** -/
theorem Alike.step (h : Alike s t) (skipDocs : Bool) (l : Line) :
    (s.step skipDocs l).2 = (t.step skipDocs l).2 ∧
      Alike (s.feed skipDocs l) (t.feed skipDocs l) := by
  by_cases hskip : s.skip = 0
  · have hskip' : t.skip = 0 := h.skip ▸ hskip
    exact alike_feed_of_measured hskip hskip' h.inDoc h.measured
  · have hskip' : t.skip ≠ 0 := h.skip ▸ hskip
    rw [feed_eq, feed_eq, step_eq_of_skip (Nat.pos_of_ne_zero hskip),
      step_eq_of_skip (Nat.pos_of_ne_zero hskip')]
    exact ⟨rfl, congrArg (· - 1) h.skip, h.inDoc, h.prevIndent⟩

/-- **States that are alike cast the same votes on any lines.** -/
theorem Alike.castVotes_eq (h : Alike s t) (skipDocs : Bool) (ls : List Line) :
    s.castVotes skipDocs ls = t.castVotes skipDocs ls := by
  induction ls generalizing s t with
  | nil => rfl
  | cons l ls ih =>
    obtain ⟨hvote, hnext⟩ := h.step skipDocs l
    rw [castVotes, castVotes, hvote, ih hnext]

/-! ## Pieces -/

/-- The next line is not passed over, unless it opens documentation itself. -/
structure AtRest (s : Classifier) : Prop where
  skip : s.skip = 0
  inDoc : s.inDoc = false

theorem atRest_start : AtRest {} := ⟨rfl, rfl⟩

/-- The first line is flush left and not blank. -/
def StartsFlush (ls : List Line) : Prop := ∃ l ∈ ls.head?, l.indent = [] ∧ l.rest ≠ []

/-- **Lines that start flush left cast the same votes whatever stands before them**, if nothing there
says that they are passed over. -/
theorem castVotes_of_startsFlush (hs : s.AtRest) (ht : t.AtRest) {ls : List Line}
    (hls : StartsFlush ls) (skipDocs : Bool) :
    s.castVotes skipDocs ls = t.castVotes skipDocs ls := by
  obtain ⟨l, hl, hindent, hrest⟩ := hls
  obtain ⟨ls, rfl⟩ : ∃ ls', ls = l :: ls' := by
    cases ls with
    | nil => cases hl
    | cons m ls => exact ⟨ls, by rw [Option.some.inj hl]⟩
  -- behind the first line the two states are alike, whether it opens documentation or not
  have hmeasured := measured_of_flush hindent hrest s.prevIndent t.prevIndent
  have hfirst : (s.step skipDocs l).2 = (t.step skipDocs l).2 ∧
      Alike (s.feed skipDocs l) (t.feed skipDocs l) :=
    alike_feed_of_measured hs.skip ht.skip (hs.inDoc.trans ht.inDoc.symm) fun _ => hmeasured
  rw [castVotes, castVotes, hfirst.1, hfirst.2.castVotes_eq]

theorem castVotes_append (skipDocs : Bool) (s : Classifier) (as bs : List Line) :
    s.castVotes skipDocs (as ++ bs)
      = s.castVotes skipDocs as ++ (s.feedAll skipDocs as).castVotes skipDocs bs := by
  induction as generalizing s with
  | nil => rfl
  | cons l as ih =>
    rw [List.cons_append, castVotes, castVotes, ih, List.append_assoc]
    rfl

/-- The votes of two pieces follow each other. -/
theorem castVotes_append_of_atRest (has : (feedAll skipDocs {} as).AtRest)
    (hbs : bs = [] ∨ StartsFlush bs) :
    castVotes skipDocs {} (as ++ bs) = castVotes skipDocs {} as ++ castVotes skipDocs {} bs := by
  rw [castVotes_append]
  rcases hbs with rfl | hbs
  · rfl
  · rw [castVotes_of_startsFlush has atRest_start hbs]

/-- The votes of a piece that is repeated are repeated. -/
theorem castVotes_replicate (has : (feedAll skipDocs {} as).AtRest) (hflush : StartsFlush as)
    (k : Nat) :
    castVotes skipDocs {} (List.replicate k as).flatten
      = (List.replicate k (castVotes skipDocs {} as)).flatten := by
  induction k with
  | zero => rfl
  | succ k ih =>
    obtain ⟨l, hl, hparts⟩ := hflush
    have hrest : (List.replicate k as).flatten = [] ∨ StartsFlush (List.replicate k as).flatten :=
      (mem_head?_flatten_replicate hl k).imp_right fun hhead => ⟨l, hhead, hparts⟩
    rw [List.replicate_succ, List.flatten_cons, castVotes_append_of_atRest has hrest, ih,
      List.replicate_succ, List.flatten_cons]

end Classifier

/-! ## Texts -/

section Texts

open Classifier

variable {text : List Char}

/-- A text that starts neither with indentation nor with a line break and ends in a line break. -/
structure IsBlock (text : List Char) : Prop where
  head : ∃ c ∈ text.head?, Line.isIndent c = false ∧ Line.isEol c = false
  last : ∃ b ∈ text.getLast?, Line.isEol b = true

namespace IsBlock

/-- The lines of a block come first in every text that starts with it. -/
theorem ofText_append (h : IsBlock text) {rest : List Char}
    (hrest : rest = [] ∨ ∃ c ∈ rest.head?, Line.isEol c = false) :
    Line.ofText (text ++ rest) = Line.ofText text ++ Line.ofText rest := by
  obtain ⟨b, hb, heol⟩ := h.last
  have hhead : ∀ c ∈ rest.head?, Line.isEol c = false := by
    rcases hrest with rfl | ⟨c, hc, heolc⟩
    · simp
    · intro d hd
      rwa [Option.mem_unique hd hc]
  rw [Line.ofText_append_of_break heol hb, Line.dropBreak_splitLines hhead]
  rfl

/-- The lines of a block that is repeated are repeated. -/
theorem ofText_replicate (h : IsBlock text) (k : Nat) :
    Line.ofText (List.replicate k text).flatten
      = (List.replicate k (Line.ofText text)).flatten := by
  induction k with
  | zero => rfl
  | succ k ih =>
    obtain ⟨c, hc, -, heol⟩ := h.head
    have hrest : (List.replicate k text).flatten = [] ∨
        ∃ c ∈ (List.replicate k text).flatten.head?, Line.isEol c = false :=
      (mem_head?_flatten_replicate hc k).imp_right fun hhead => ⟨c, hhead, heol⟩
    rw [List.replicate_succ, List.flatten_cons, h.ofText_append hrest, ih, List.replicate_succ,
      List.flatten_cons]

/-- A block starts with a line that is flush left and not blank. -/
theorem startsFlush (h : IsBlock text) : StartsFlush (Line.ofText text) := by
  obtain ⟨c, hc, hindent, heol⟩ := h.head
  cases text with
  | nil => cases hc
  | cons d text =>
    obtain rfl := Option.some.inj hc
    refine ⟨Line.ofChars (d :: (Line.splitLines text).headD []), ?_, ?_, ?_⟩
    · rw [Line.ofText, Line.splitLines_cons, Line.consChar_of_not_eol heol]
      rfl
    · simp [Line.ofChars, hindent]
    · simp [Line.ofChars, hindent]

end IsBlock

/-- Repeating a list multiplies the counts of the histogram. -/
theorem Histogram.isScaled_ofVotes_replicate (k : Nat) (hk : 0 < k) (sigs : List Signature) :
    IsScaled k (ofVotes sigs) (ofVotes (List.replicate k sigs).flatten) where
  nodup := nodup_keys_ofVotes sigs
  nodup' := nodup_keys_ofVotes _
  mem_keys_iff sig := by
    rw [mem_keys_ofVotes, mem_keys_ofVotes, List.mem_flatten]
    constructor
    · rintro ⟨l, hl, hsig⟩
      rwa [List.eq_of_mem_replicate hl] at hsig
    · intro hsig
      exact ⟨sigs, List.mem_replicate.mpr ⟨Nat.ne_of_gt hk, rfl⟩, hsig⟩
  votes_eq sig := by
    rw [votes_ofVotes, votes_ofVotes, List.count_flatten, List.map_replicate, List.sum_replicate_nat,
      Int.natCast_mul]

/--
**Votes of pieces add up, and to repeat a text does not change its verdict.**

The second piece has to start flush left, and nothing in the first may say that its lines are passed
over. A text that is repeated has to end in a line break in addition, so that its lines are repeated,
and it holds no directive.
-/
theorem histogram_append_and_detect_replicate (skipDocs : Bool) :
    (∀ as bs : List Line, (feedAll skipDocs {} as).AtRest → StartsFlush bs → ∀ sig,
      (feedAll skipDocs {} (as ++ bs)).histogram.votes sig
          = (feedAll skipDocs {} as).histogram.votes sig
            + (feedAll skipDocs {} bs).histogram.votes sig ∧
        (sig ∈ (feedAll skipDocs {} (as ++ bs)).histogram.keys ↔
          sig ∈ (feedAll skipDocs {} as).histogram.keys ∨
            sig ∈ (feedAll skipDocs {} bs).histogram.keys)) ∧
    (∀ text : List Char, IsBlock text → (∀ l ∈ Line.ofText text, NoDirective l.text) →
      (feedAll skipDocs {} (Line.ofText text)).AtRest → ∀ k, 1 ≤ k →
        detect skipDocs (List.replicate k text).flatten = detect skipDocs text) := by
  constructor
  · intro as bs has hbs sig
    rw [histogram_feedAll_start, histogram_feedAll_start, histogram_feedAll_start,
      castVotes_append_of_atRest has (Or.inr hbs)]
    simp only [Histogram.votes_ofVotes, Histogram.mem_keys_ofVotes, List.count_append,
      List.mem_append, Int.natCast_add, iff_self, and_self]
  · intro text htext hplain hrest k hk
    have hlines := htext.ofText_replicate k
    have hplain' : ∀ l ∈ Line.ofText (List.replicate k text).flatten, NoDirective l.text := by
      intro l hl
      rw [hlines, List.mem_flatten] at hl
      obtain ⟨ls, hls, hl⟩ := hl
      rw [List.eq_of_mem_replicate hls] at hl
      exact hplain l hl
    rw [detect_of_noDirective hplain', detect_of_noDirective hplain, hlines, histogram_feedAll_start,
      histogram_feedAll_start, castVotes_replicate hrest htext.startsFlush]
    exact congrArg Except.ok ((Histogram.isScaled_ofVotes_replicate k hk _).verdict_eq
      (Int.natCast_pos.mpr hk) {})

/-- A text that opens documentation at once, behind another piece and three times over. -/
theorem detect_replicate_of_pod :
    (feedAll true {} (Line.ofText "a\n  b\n".toList)).AtRest ∧
      StartsFlush (Line.ofText "=pod\n     x\n=cut\n  d\n".toList) ∧
      (feedAll true {} (Line.ofText "a\n  b\n".toList
        ++ Line.ofText "=pod\n     x\n=cut\n  d\n".toList)).histogram.votes (.spaces 2) = 2 ∧
      IsBlock "=pod\n     x\n=cut\n  d\n".toList ∧
      (∀ l ∈ Line.ofText "=pod\n     x\n=cut\n  d\n".toList, NoDirective l.text) ∧
      (feedAll true {} (Line.ofText "=pod\n     x\n=cut\n  d\n".toList)).AtRest ∧
      detect true (List.replicate 3 "=pod\n     x\n=cut\n  d\n".toList).flatten
        = .ok (.spaces 2) := by
  have hfirst : (feedAll true {} (Line.ofText "a\n  b\n".toList)).AtRest := ⟨by decide, by decide⟩
  have hflush : StartsFlush (Line.ofText "=pod\n     x\n=cut\n  d\n".toList) :=
    ⟨⟨[], "=pod".toList⟩, by decide, by decide, by decide⟩
  have hblock : IsBlock "=pod\n     x\n=cut\n  d\n".toList :=
    ⟨⟨'=', by decide, by decide, by decide⟩, ⟨'\n', by decide, by decide⟩⟩
  have hplain : ∀ l ∈ Line.ofText "=pod\n     x\n=cut\n  d\n".toList, NoDirective l.text := by
    decide +kernel
  have hrest : (feedAll true {} (Line.ofText "=pod\n     x\n=cut\n  d\n".toList)).AtRest :=
    ⟨by decide, by decide⟩
  refine ⟨hfirst, hflush, ?_, hblock, hplain, hrest, ?_⟩
  · rw [((histogram_append_and_detect_replicate true).1 _ _ hfirst hflush (.spaces 2)).1]
    decide
  · rw [(histogram_append_and_detect_replicate true).2 _ hblock hplain hrest 3 (by decide)]
    cbv

end Texts

end Indentation
