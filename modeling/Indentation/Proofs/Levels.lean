import Indentation.Proofs.Classifier
import Indentation.Proofs.Detect
import Mathlib.Data.List.Chain

/-!
# Texts that are laid out in levels

A text is laid out in levels if each of its lines stands at some depth and each depth has one
indentation (`Levels`), of spaces alone (`Levels.uniform`) or of tabs with less than a tab stop of
spaces behind them (`Levels.smart`). Here is what is detected in such a text, for any number of
columns per level and any shape of the text.

## How the votes are counted

What such a text votes for depends on the depths alone (`castVotes_rows`). A line that opens a level
votes for one level. With spaces alone, a line that closes `k` levels at once votes for the width of
`k` levels, but those levels were opened one at a time. So `k` times the votes for `k` levels are at
most the votes for one level, and the level that a text starts at makes up for what it closes without
having opened it (`mul_count_le`).

## Main statements

* `detect_uniform` — with spaces alone, the width of a level is detected
* `detect_smart` — with tabs in front, it is detected as well, as spaces or as mixed
-/

namespace Indentation

/-! ## Rows and levels -/

/-- One line of a text that is laid out in levels. -/
structure Row where
  depth : Nat
  content : List Char
  content_ne_nil : content ≠ []
  eol_not_mem : ∀ c ∈ content, Line.isEol c = false
  /-- The content does not start with more indentation. -/
  head_not_indent : ∀ c ∈ content.head?, Line.isIndent c = false
  /-- Where a row is indented, it is not a comment and the next row does not go on with it. -/
  counts : 0 < depth → isContinued content = false ∧ isComment content = false

/-- A row that holds one letter. -/
def Row.letter (d : Nat) : Row where
  depth := d
  content := ['x']
  content_ne_nil := List.cons_ne_nil 'x' []
  eol_not_mem c hc := by
    rw [List.mem_singleton.mp hc]
    rfl
  head_not_indent c hc := by
    cases hc
    rfl
  counts _ := ⟨rfl, rfl⟩

/-- The indentation of each depth, by its tabs and the spaces behind them. Depth zero is flush left
and no other depth is. -/
structure Levels where
  tabs : Nat → Nat
  spaces : Nat → Nat
  flush : tabs 0 + spaces 0 = 0
  indented : ∀ d, 0 < d → 0 < tabs d + spaces d

namespace Levels

/-- Levels of `n` spaces. -/
def uniform (n : Nat) (hn : 0 < n) : Levels where
  tabs _ := 0
  spaces d := n * d
  flush := rfl
  indented d hd := by
    rw [Nat.zero_add]
    exact Nat.mul_pos hn hd

/-- Levels of `n` columns, with a tab for each full tab stop. -/
def smart (n : Nat) (hn : 0 < n) : Levels where
  tabs d := n * d / tabWidth
  spaces d := n * d % tabWidth
  flush := by simp
  indented d hd := by
    have hpos : 0 < n * d := Nat.mul_pos hn hd
    have hdiv := Nat.div_add_mod (n * d) tabWidth
    unfold tabWidth at *
    omega

variable (L : Levels)

/-- The indentation of a depth. -/
def indent (d : Nat) : List Char := tabbed (L.tabs d) (L.spaces d)

/-- The line of a row. -/
def line (r : Row) : Line := ⟨L.indent r.depth, r.content⟩

/-- The text of a list of rows, with a line feed behind each. -/
def text (rows : List Row) : List Char := rows.flatMap fun r => (L.line r).text ++ ['\n']

/-- The vote of a row at depth `d` behind a row at depth `p`. -/
def vote? (p d : Nat) : Option Signature :=
  if d = 0 then none else changeVote? (L.tabs p) (L.spaces p) (L.tabs d) (L.spaces d)

/-- The votes of rows at the given depths behind a row at depth `p`. -/
def votes (p : Nat) : List Nat → List Signature
  | [] => []
  | d :: ds => (L.vote? p d).toList ++ votes d ds

/-! ### The text and its lines -/

theorem indent_zero : L.indent 0 = [] := by
  have h := L.flush
  unfold indent
  rw [show L.tabs 0 = 0 by omega, show L.spaces 0 = 0 by omega]
  rfl

theorem indent_ne_nil {d : Nat} (hd : 0 < d) : L.indent d ≠ [] :=
  tabbed_ne_nil (L.indented d hd)

theorem ofText_text (rows : List Row) : Line.ofText (L.text rows) = rows.map L.line := by
  have htext : L.text rows = (rows.map L.line).flatMap fun l => l.text ++ ['\n'] := by
    rw [List.flatMap_map]
    rfl
  rw [htext]
  refine Line.ofText_flatMap ?_ ?_ ?_
  · intro l hl
    obtain ⟨r, -, rfl⟩ := List.mem_map.mp hl
    exact List.append_ne_nil_of_right_ne_nil _ r.content_ne_nil
  · intro l hl c hc
    obtain ⟨r, -, rfl⟩ := List.mem_map.mp hl
    rcases List.mem_append.mp hc with hc | hc
    · rcases List.mem_append.mp hc with hc | hc <;> rw [List.eq_of_mem_replicate hc] <;> rfl
    · exact r.eol_not_mem c hc
  · intro l hl
    obtain ⟨r, -, rfl⟩ := List.mem_map.mp hl
    exact Line.ofChars_append (fun c hc => isIndent_of_mem_tabbed hc) r.head_not_indent

/-! ### The votes of the lines -/

theorem step_line {s : Classifier} {p : Nat} (hskip : s.skip = 0) (hdoc : s.inDoc = false)
    (hprev : s.prevIndent = L.indent p) (r : Row) :
    s.step false (L.line r)
      = ({ s with linesSeen := s.linesSeen + 1, prevIndent := L.indent r.depth },
          L.vote? p r.depth) := by
  unfold line vote?
  by_cases hd : r.depth = 0
  · rw [if_pos hd, hd, indent_zero]
    exact Classifier.step_flush hskip hdoc r.content_ne_nil
  · have hpos : 0 < r.depth := Nat.pos_of_ne_zero hd
    obtain ⟨hcontinued, hcomment⟩ := r.counts hpos
    rw [if_neg hd, Classifier.step_indented hskip hdoc (L.indent_ne_nil hpos) r.content_ne_nil
      hcontinued hcomment, hprev]
    unfold indent
    rw [voteFor?_tabbed]

/-- **What rows vote for depends on their depths alone.** -/
theorem castVotes_rows {s : Classifier} {p : Nat} (hskip : s.skip = 0) (hdoc : s.inDoc = false)
    (hprev : s.prevIndent = L.indent p) (rows : List Row) :
    s.castVotes false (rows.map L.line) = L.votes p (rows.map Row.depth) := by
  induction rows generalizing s p with
  | nil => rfl
  | cons r rows ih =>
    have hstep := L.step_line hskip hdoc hprev r
    rw [List.map_cons, List.map_cons, Classifier.castVotes, votes, hstep]
    congr 1
    refine ih ?_ ?_ ?_ <;> rw [Classifier.feed_eq, hstep]
    · exact hskip
    · exact hdoc

/-- Without directives, the depths of a text decide what is detected in it. -/
theorem detect_text {rows : List Row} (hplain : ∀ r ∈ rows, NoDirective (L.line r).text) :
    detect false (L.text rows)
      = .ok ((Histogram.ofVotes (L.votes 0 (rows.map Row.depth))).verdict {}) := by
  have hlines : ∀ l ∈ Line.ofText (L.text rows), NoDirective l.text := by
    intro l hl
    rw [ofText_text] at hl
    obtain ⟨r, hr, rfl⟩ := List.mem_map.mp hl
    exact hplain r hr
  have hvotes : Classifier.castVotes false {} (rows.map L.line) = L.votes 0 (rows.map Row.depth) :=
    L.castVotes_rows rfl rfl L.indent_zero.symm rows
  rw [detect_of_noDirective hlines, ofText_text, Classifier.histogram_feedAll, hvotes]
  rfl

/-! ### Rows that open no level -/

variable {L}

theorem votes_of_flush (p : Nat) {ds : List Nat} (h : ∀ d ∈ ds, d = 0) : L.votes p ds = [] := by
  induction ds generalizing p with
  | nil => rfl
  | cons d ds ih =>
    obtain rfl := h d List.mem_cons_self
    rw [votes, ih 0 fun d hd => h d (List.mem_cons_of_mem _ hd)]
    rfl

/-- Without any indented row, nothing is detected. -/
theorem verdict_of_flush {rows : List Row} (h : ∀ r ∈ rows, r.depth = 0) :
    (Histogram.ofVotes (L.votes 0 (rows.map Row.depth))).verdict {} = .unknown := by
  have hdepths : ∀ d ∈ rows.map Row.depth, d = 0 := by
    intro d hd
    obtain ⟨r, hr, rfl⟩ := List.mem_map.mp hd
    exact h r hr
  rw [votes_of_flush 0 hdepths]
  rfl

/-! ### Where the votes come from -/

/-- A vote is cast by a row behind a row, and their depths are related as those of all neighbours. -/
theorem exists_of_mem_votes {R : Nat → Nat → Prop} {p : Nat} {ds : List Nat}
    (hR : (p :: ds).IsChain R) {s : Signature} (hs : s ∈ L.votes p ds) :
    ∃ a b, R a b ∧ L.vote? a b = some s := by
  induction ds generalizing p with
  | nil => cases hs
  | cons d ds ih =>
    obtain ⟨hd, hrest⟩ := List.isChain_cons_cons.mp hR
    rw [votes] at hs
    rcases List.mem_append.mp hs with hs | hs
    · exact ⟨p, d, hd, Option.mem_toList.mp hs⟩
    · exact ih hrest hs

/-- The first row that is not flush left stands one level deep. -/
theorem vote_mem_votes {s : Signature} (hs : L.vote? 0 1 = some s) {ds : List Nat}
    (hopen : (0 :: ds).IsChain fun a b => b ≤ a + 1) (hex : ∃ d ∈ ds, 0 < d) : s ∈ L.votes 0 ds := by
  induction ds with
  | nil =>
    obtain ⟨d, hd, -⟩ := hex
    cases hd
  | cons d ds ih =>
    obtain ⟨hd, hrest⟩ := List.isChain_cons_cons.mp hopen
    rw [votes]
    cases d with
    | zero =>
      -- the text starts again behind a row that is flush left
      obtain ⟨d, hmem, hpos⟩ := hex
      rcases List.mem_cons.mp hmem with rfl | hmem
      · exact absurd hpos (Nat.lt_irrefl 0)
      · exact List.mem_append_right _ (ih hrest ⟨d, hmem, hpos⟩)
    | succ d =>
      obtain rfl : d = 0 := by omega
      rw [hs]
      exact List.mem_append_left _ List.mem_cons_self

/-! ## Levels of spaces -/

section Uniform

variable {n : Nat} {hn : 0 < n} {p d k : Nat} {ds : List Nat}

/-- With spaces alone, the vote is for the number of levels that are opened or closed. -/
theorem vote?_uniform (hn : 0 < n) (p d : Nat) :
    (uniform n hn).vote? p d
      = if d = 0 ∨ d = p then none else some (.spaces (n * (d - p + (p - d)) : Nat)) := by
  have hchange : columnChange 0 (n * p) 0 (n * d) = n * (d - p + (p - d)) := by
    unfold columnChange
    rcases Nat.le_total p d with h | h
    · obtain ⟨k, rfl⟩ := Nat.exists_eq_add_of_le h
      rw [Nat.mul_add, Nat.add_sub_cancel_left, Nat.sub_eq_zero_of_le h, Nat.add_zero]
      omega
    · obtain ⟨k, rfl⟩ := Nat.exists_eq_add_of_le h
      rw [Nat.mul_add, Nat.add_sub_cancel_left, Nat.sub_eq_zero_of_le h, Nat.zero_add]
      omega
  have hzero : n * (d - p + (p - d)) = 0 ↔ d = p := by
    rw [Nat.mul_eq_zero]
    omega
  unfold vote?
  by_cases hd : d = 0
  · rw [if_pos hd, if_pos (Or.inl hd)]
  · show (if d = 0 then none else changeVote? 0 (n * p) 0 (n * d)) = _
    unfold changeVote?
    rw [if_neg hd, hchange, if_pos rfl]
    by_cases hdp : d = p
    · rw [if_pos (hzero.mpr hdp), if_pos (Or.inr hdp)]
    · rw [if_neg (mt hzero.mp hdp), if_neg (by omega)]

/-- Only the widths of whole levels are voted for. -/
theorem eq_spaces_of_mem_votes_uniform (hopen : (p :: ds).IsChain fun a b => b ≤ a + 1)
    {s : Signature} (hs : s ∈ (uniform n hn).votes p ds) :
    ∃ k, 0 < k ∧ s = .spaces (n * k : Nat) := by
  obtain ⟨a, b, -, hvote⟩ := exists_of_mem_votes hopen hs
  rw [vote?_uniform] at hvote
  split at hvote
  · cases hvote
  · exact ⟨b - a + (a - b), by omega, (Option.some.inj hvote).symm⟩

theorem spaces_inj {a b : Nat} : Signature.spaces a = Signature.spaces b ↔ a = b := by
  constructor
  · intro h
    exact Int.ofNat.inj (congrArg Signature.width h)
  · rintro rfl
    rfl

/-- The votes for the width of `k` levels after one more row. -/
theorem count_votes_uniform_cons (k p d : Nat) (ds : List Nat) :
    ((uniform n hn).votes p (d :: ds)).count (.spaces (n * k : Nat))
      = ((uniform n hn).votes d ds).count (.spaces (n * k : Nat))
        + if d ≠ 0 ∧ d ≠ p ∧ d - p + (p - d) = k then 1 else 0 := by
  rw [votes, List.count_append, vote?_uniform, Nat.add_comm]
  congr 1
  by_cases hd : d = 0 ∨ d = p
  · rw [if_pos hd, if_neg (by omega)]
    rfl
  · rw [if_neg hd, Option.toList_some, List.count_singleton]
    have hk : ((Signature.spaces (n * (d - p + (p - d)) : Nat)) == .spaces (n * k : Nat)) = true ↔
        d - p + (p - d) = k := by
      rw [beq_iff_eq, spaces_inj, Nat.mul_right_inj (Nat.ne_of_gt hn)]
    by_cases heq : d - p + (p - d) = k
    · rw [if_pos (hk.mpr heq), if_pos (by omega)]
    · rw [if_neg (mt hk.mp heq), if_neg (by omega)]

/-- **Closing `k` levels at once takes `k` levels that were opened one at a time.** The depth that the
rows start from stands for the levels that are open there. -/
theorem mul_count_le (hk : 2 ≤ k) (hopen : (p :: ds).IsChain fun a b => b ≤ a + 1) :
    k * ((uniform n hn).votes p ds).count (.spaces (n * k : Nat))
      ≤ ((uniform n hn).votes p ds).count (.spaces (n * 1 : Nat)) + p := by
  induction ds generalizing p with
  | nil => simp [votes]
  | cons d ds ih =>
    obtain ⟨hd, hrest⟩ := List.isChain_cons_cons.mp hopen
    have hih := ih hrest
    rw [count_votes_uniform_cons, count_votes_uniform_cons, Nat.mul_add]
    -- a row that votes for `k` levels closes them, so it stands `k` levels below `p`
    by_cases hclose : d ≠ 0 ∧ d ≠ p ∧ d - p + (p - d) = k
    · rw [if_pos hclose]
      omega
    · rw [if_neg hclose]
      split <;> omega

/-- The width of one level has more votes than the width of any other number of levels. -/
theorem count_lt (hk : 2 ≤ k) (hopen : (0 :: ds).IsChain fun a b => b ≤ a + 1)
    (hex : ∃ d ∈ ds, 0 < d) :
    ((uniform n hn).votes 0 ds).count (.spaces (n * k : Nat))
      < ((uniform n hn).votes 0 ds).count (.spaces (n * 1 : Nat)) := by
  have hone : 0 < ((uniform n hn).votes 0 ds).count (.spaces (n * 1 : Nat)) :=
    List.count_pos_iff.mpr (vote_mem_votes (vote?_uniform hn 0 1) hopen hex)
  have hle : k * ((uniform n hn).votes 0 ds).count (.spaces (n * k : Nat))
      ≤ ((uniform n hn).votes 0 ds).count (.spaces (n * 1 : Nat)) + 0 := mul_count_le hk hopen
  -- twice as many votes as there are for `k` levels fit in, and there is one for one level
  have htwo := Nat.mul_le_mul_right
    (((uniform n hn).votes 0 ds).count (.spaces (n * k : Nat))) hk
  omega

/-- The width of one level wins. -/
theorem winner?_uniform (hopen : (0 :: ds).IsChain fun a b => b ≤ a + 1) (hex : ∃ d ∈ ds, 0 < d) :
    (Histogram.ofVotes ((uniform n hn).votes 0 ds)).winner? = some (.spaces (n * 1 : Nat)) := by
  have hmem := vote_mem_votes (vote?_uniform hn 0 1) hopen hex
  refine Histogram.winner?_of_forall_lt (Histogram.nodup_keys_ofVotes _)
    (Histogram.mem_keys_ofVotes.mpr hmem) ?_
  intro t ht hne
  obtain ⟨k, hk, rfl⟩ := eq_spaces_of_mem_votes_uniform hopen (Histogram.mem_keys_ofVotes.mp ht)
  have htwo : 2 ≤ k := by
    refine Nat.lt_of_le_of_ne hk ?_
    rintro rfl
    exact hne rfl
  rw [Histogram.votes_ofVotes, Histogram.votes_ofVotes]
  exact Int.ofNat_lt.mpr (count_lt htwo hopen hex)

/-- Without mixed votes nothing is promoted. -/
theorem promoteMixed_uniform (hopen : (p :: ds).IsChain fun a b => b ≤ a + 1) (w : Nat) :
    (Histogram.ofVotes ((uniform n hn).votes p ds)).promoteMixed (.spaces w) = .spaces w := by
  refine Histogram.promoteMixed_of_votes_eq_zero ?_
  rw [Histogram.votes_ofVotes, List.count_eq_zero_of_not_mem]
  · rfl
  · intro hmem
    obtain ⟨k, -, hk⟩ := eq_spaces_of_mem_votes_uniform hopen hmem
    cases congrArg Signature.style hk

/--
**In a text of levels of spaces that are opened one at a time, the width of a level is detected.**

Any number of levels may be closed at once. Without any indented row, nothing is detected.
-/
theorem detect_uniform (n : Nat) (hn : 0 < n) (rows : List Row)
    (hopen : (0 :: rows.map Row.depth).IsChain fun a b => b ≤ a + 1)
    (hplain : ∀ r ∈ rows, NoDirective ((uniform n hn).line r).text) :
    ((∃ r ∈ rows, 0 < r.depth) → detect false ((uniform n hn).text rows) = .ok (.spaces n)) ∧
    ((∀ r ∈ rows, r.depth = 0) → detect false ((uniform n hn).text rows) = .ok .unknown) := by
  rw [detect_text _ hplain]
  constructor
  · rintro ⟨r, hr, hpos⟩
    have hex : ∃ d ∈ rows.map Row.depth, 0 < d := ⟨r.depth, List.mem_map_of_mem hr, hpos⟩
    rw [verdict_default, winner?_uniform hopen hex]
    dsimp only
    rw [promoteMixed_uniform hopen, Nat.mul_one]
  · intro hflush
    rw [verdict_of_flush hflush]

/-- Two levels of two spaces are closed at once, which votes for four spaces. -/
theorem detect_uniform_closing_two :
    (0 :: ([0, 1, 2, 3, 1, 0].map Row.letter).map Row.depth).IsChain (fun a b => b ≤ a + 1) ∧
      (∀ r ∈ [0, 1, 2, 3, 1, 0].map Row.letter,
        NoDirective ((uniform 2 Nat.two_pos).line r).text) ∧
      detect false ((uniform 2 Nat.two_pos).text ([0, 1, 2, 3, 1, 0].map Row.letter))
        = .ok (.spaces 2) := by
  have hopen : (0 :: ([0, 1, 2, 3, 1, 0].map Row.letter).map Row.depth).IsChain
      fun a b => b ≤ a + 1 := by decide
  have hplain : ∀ r ∈ [0, 1, 2, 3, 1, 0].map Row.letter,
      NoDirective ((uniform 2 Nat.two_pos).line r).text := by decide
  exact ⟨hopen, hplain,
    (detect_uniform 2 Nat.two_pos _ hopen hplain).1
      ⟨Row.letter 1, List.mem_map_of_mem (by decide), by decide⟩⟩

end Uniform

/-! ## Levels with tabs in front -/

section Smart

variable {n : Nat} {hn : 0 < n} {p d : Nat} {ds : List Nat}

/-- The columns that a depth takes up are not changed by putting tabs in front. -/
theorem columnChange_smart (n p d : Nat) :
    columnChange (n * p / tabWidth) (n * p % tabWidth) (n * d / tabWidth) (n * d % tabWidth)
      = ((n * d : Nat) - (n * p : Nat) : Int).natAbs := by
  unfold columnChange
  rw [Nat.div_add_mod, Nat.div_add_mod]

/-- Opening or closing one level is a vote for its width, of spaces if they suffice and mixed if tabs
take part. It is never one of tabs alone, as a level is no number of full tab stops. -/
theorem vote?_smart (htab : ¬ tabWidth ∣ n) (hopen : d ≤ p + 1) (hclose : p ≤ d + 1) :
    (smart n hn).vote? p d
      = if d = 0 ∨ d = p then none
        else if n * p / tabWidth = n * d / tabWidth then some (.spaces n)
        else some (.mixed n) := by
  unfold vote?
  by_cases hd : d = 0
  · rw [if_pos hd, if_pos (Or.inl hd)]
  · show (if d = 0 then none else changeVote? (n * p / tabWidth) (n * p % tabWidth)
      (n * d / tabWidth) (n * d % tabWidth)) = _
    unfold changeVote?
    rw [if_neg hd, columnChange_smart]
    by_cases hdp : d = p
    · subst hdp
      rw [if_pos (by omega), if_pos (Or.inr rfl)]
    · have hnear : p = d + 1 ∨ d = p + 1 := by omega
      have hchange : ((n * d : Nat) - (n * p : Nat) : Int).natAbs = n := by
        rcases hnear with rfl | rfl <;> rw [Nat.mul_succ] <;> omega
      -- two neighbouring depths at tab stops would make a level a number of full tab stops
      have htabs : ¬ (n * p % tabWidth = 0 ∧ n * d % tabWidth = 0) := by
        rintro ⟨hp, hd⟩
        have hp := Nat.dvd_of_mod_eq_zero hp
        have hd := Nat.dvd_of_mod_eq_zero hd
        rcases hnear with rfl | rfl
        · rw [Nat.mul_succ] at hp
          exact htab ((Nat.dvd_add_right hd).mp hp)
        · rw [Nat.mul_succ] at hd
          exact htab ((Nat.dvd_add_right hp).mp hd)
      rw [hchange, if_neg (Nat.ne_of_gt hn), if_neg htabs, if_neg (not_or.mpr ⟨hd, hdp⟩)]

/-- Only the width of one level is voted for. -/
theorem eq_of_mem_votes_smart (htab : ¬ tabWidth ∣ n)
    (hdepths : (p :: ds).IsChain fun a b => b = 0 ∨ b ≤ a + 1 ∧ a ≤ b + 1) {s : Signature}
    (hs : s ∈ (smart n hn).votes p ds) : s = .spaces n ∨ s = .mixed n := by
  obtain ⟨a, b, hab, hvote⟩ := exists_of_mem_votes hdepths hs
  rcases hab with rfl | ⟨hopen, hclose⟩
  · cases hvote
  · rw [vote?_smart htab hopen hclose] at hvote
    split at hvote
    · cases hvote
    · split at hvote
      · exact Or.inl (Option.some.inj hvote).symm
      · exact Or.inr (Option.some.inj hvote).symm

/-- The width of one level wins, as spaces or as mixed. -/
theorem winner?_smart (htab : ¬ tabWidth ∣ n)
    (hdepths : (0 :: ds).IsChain fun a b => b = 0 ∨ b ≤ a + 1 ∧ a ≤ b + 1)
    (hex : ∃ d ∈ ds, 0 < d) :
    (Histogram.ofVotes ((smart n hn).votes 0 ds)).winner? = some (.spaces n) ∨
      (Histogram.ofVotes ((smart n hn).votes 0 ds)).winner? = some (.mixed n) := by
  have hopen : (0 :: ds).IsChain fun a b => b ≤ a + 1 := hdepths.imp fun a b h => by omega
  obtain ⟨s, hs⟩ : ∃ s, (smart n hn).vote? 0 1 = some s := by
    rw [vote?_smart htab (Nat.le_refl 1) (Nat.zero_le 2), if_neg (by decide)]
    split
    · exact ⟨_, rfl⟩
    · exact ⟨_, rfl⟩
  have hmem := vote_mem_votes hs hopen hex
  cases hwin : (Histogram.ofVotes ((smart n hn).votes 0 ds)).winner? with
  | none =>
    rw [← Histogram.mem_keys_ofVotes, Histogram.winner?_eq_none_iff.mp hwin] at hmem
    cases hmem
  | some w =>
    have hw := Histogram.mem_keys_ofVotes.mp (Histogram.mem_keys_of_winner? hwin)
    rcases eq_of_mem_votes_smart htab hdepths hw with rfl | rfl
    · exact Or.inl rfl
    · exact Or.inr rfl

/--
**In a text of levels with tabs in front, the width of a level is detected**, as spaces or as mixed,
if a level is no number of full tab stops.

Levels are opened and closed one at a time, but a row may be flush left behind any other. Without any
indented row, nothing is detected.
-/
theorem detect_smart (n : Nat) (hn : 0 < n) (htab : ¬ tabWidth ∣ n) (rows : List Row)
    (hdepths : (0 :: rows.map Row.depth).IsChain fun a b => b = 0 ∨ b ≤ a + 1 ∧ a ≤ b + 1)
    (hplain : ∀ r ∈ rows, NoDirective ((smart n hn).line r).text) :
    ((∃ r ∈ rows, 0 < r.depth) →
      detect false ((smart n hn).text rows) = .ok (.spaces n) ∨
        detect false ((smart n hn).text rows) = .ok (.mixed n)) ∧
    ((∀ r ∈ rows, r.depth = 0) → detect false ((smart n hn).text rows) = .ok .unknown) := by
  rw [detect_text _ hplain]
  constructor
  · rintro ⟨r, hr, hpos⟩
    have hex : ∃ d ∈ rows.map Row.depth, 0 < d := ⟨r.depth, List.mem_map_of_mem hr, hpos⟩
    rw [verdict_default]
    rcases winner?_smart htab hdepths hex with hwin | hwin
    · rw [hwin]
      dsimp only
      -- which of the two it is depends on how many votes are mixed
      rcases Histogram.promoteMixed_cases _ (.spaces n) with h | ⟨-, h⟩
      · exact Or.inl (congrArg Except.ok h)
      · exact Or.inr (congrArg Except.ok h)
    · rw [hwin]
      dsimp only
      have hstyle : (Signature.mixed n).style ≠ .spaces := fun h => by cases h
      exact Or.inr (congrArg Except.ok (Histogram.promoteMixed_of_ne_spaces _ hstyle))
  · intro hflush
    rw [verdict_of_flush hflush]

/-- Levels of six columns pass a tab stop at the second level. -/
theorem detect_smart_six :
    ¬ tabWidth ∣ 6 ∧
      (0 :: ([0, 1, 2, 3, 2, 0].map Row.letter).map Row.depth).IsChain
        (fun a b => b = 0 ∨ b ≤ a + 1 ∧ a ≤ b + 1) ∧
      (∀ r ∈ [0, 1, 2, 3, 2, 0].map Row.letter, NoDirective ((smart 6 (by decide)).line r).text) ∧
      (detect false ((smart 6 (by decide)).text ([0, 1, 2, 3, 2, 0].map Row.letter))
          = .ok (.spaces 6) ∨
        detect false ((smart 6 (by decide)).text ([0, 1, 2, 3, 2, 0].map Row.letter))
          = .ok (.mixed 6)) := by
  have htab : ¬ tabWidth ∣ 6 := by decide
  have hdepths : (0 :: ([0, 1, 2, 3, 2, 0].map Row.letter).map Row.depth).IsChain
      fun a b => b = 0 ∨ b ≤ a + 1 ∧ a ≤ b + 1 := by decide
  have hplain : ∀ r ∈ [0, 1, 2, 3, 2, 0].map Row.letter,
      NoDirective ((smart 6 (by decide)).line r).text := by decide
  exact ⟨htab, hdepths, hplain,
    (detect_smart 6 (by decide) htab _ hdepths hplain).1
      ⟨Row.letter 1, List.mem_map_of_mem (by decide), by decide⟩⟩

end Smart

end Levels

end Indentation
