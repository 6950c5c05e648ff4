import Indentation.Classifier
import Indentation.Proofs.Histogram

/-!
# What lines vote for

The votes that a list of lines casts (`Classifier.castVotes`), and the vote that one change of
indentation casts, for indentations of tabs with spaces behind them (`tabbed`).

## Main statements

* `voteFor?_tabbed` — a vote measures by how many columns the indentation changes
* `step_cases` — every line is passed over, or is documentation, or is looked at
* `histogram_feedAll` — the histogram counts the votes that are cast
* `forall_mem_castVotes` — indentations of one kind cast votes of one kind
* `vote_of_columns` — a line votes for the columns that its indentation adds or takes away
-/

namespace Indentation

/-! ## Indentations of tabs and spaces -/

/-- An indentation of tabs with spaces behind them. -/
def tabbed (tabs spaces : Nat) : List Char :=
  List.replicate tabs '\t' ++ List.replicate spaces ' '

section Tabbed

variable {a b c d : Nat}

@[simp] theorem length_tabbed (a b : Nat) : (tabbed a b).length = a + b := by
  simp [tabbed]

theorem tabbed_ne_nil (h : 0 < a + b) : tabbed a b ≠ [] :=
  List.ne_nil_of_length_pos (by rwa [length_tabbed])

theorem isIndent_of_mem_tabbed {x : Char} (hx : x ∈ tabbed a b) : Line.isIndent x = true := by
  rcases List.mem_append.mp hx with h | h <;> rw [List.eq_of_mem_replicate h] <;> rfl

/-- Spaces that no tab follows stay as they are, with those that are held back. -/
theorem expandFrom_spaces (n b : Nat) :
    expandFrom n (List.replicate b ' ') = List.replicate (n + b) ' ' := by
  induction b generalizing n with
  | zero => rfl
  | succ b ih =>
    rw [List.replicate_succ, expandFrom, if_pos (by decide)]
    split
    · rw [ih, Nat.add_assoc, Nat.add_comm 1]
    · rw [ih, ← List.replicate_succ, Nat.add_assoc]

/-- Behind tabs alone, no space is lost to a tab. -/
theorem visualWidth_tabbed (a b : Nat) : visualWidth (tabbed a b) = tabWidth * a + b := by
  unfold visualWidth expandTabStops tabbed
  -- no spaces are held back when a tab is read, so each tab adds a full tab stop
  induction a with
  | zero =>
    rw [List.replicate_zero, List.nil_append, expandFrom_spaces, List.length_replicate]
    omega
  | succ a ih =>
    rw [List.replicate_succ, List.cons_append, expandFrom, if_neg (by decide), if_pos (by decide),
      List.length_append, ih, List.length_replicate, Nat.mul_succ]
    omega

/-! ### What is classified -/

theorem classifyDiff_spaces (n : Nat) : classifyDiff (List.replicate n ' ') = .spaces n := by
  simp [classifyDiff]

theorem classifyDiff_tabs (ha : 0 < a) : classifyDiff (List.replicate a '\t') = .tabs tabWidth := by
  have hspaces : (List.replicate a '\t').all (· == ' ') = false := by
    simp [Nat.ne_of_gt ha]
  simp [classifyDiff, hspaces]

theorem classifyDiff_tabbed (ha : 0 < a) (hb : 0 < b) :
    classifyDiff (tabbed a b) = .mixed (tabWidth * a + b : Nat) := by
  have hspaces : (tabbed a b).all (· == ' ') = false := by
    simp [tabbed, Nat.ne_of_gt ha]
  have htabs : (tabbed a b).all (· == '\t') = false := by
    simp [tabbed, Nat.ne_of_gt hb]
  have hcount : (tabbed a b).count '\t' = a := by
    simp [tabbed, List.count_replicate]
  have htrail : (tabbed a b).reverse.takeWhile (· == ' ') = List.replicate b ' ' := by
    obtain ⟨n, rfl⟩ := Nat.exists_eq_succ_of_ne_zero (Nat.ne_of_gt ha)
    rw [tabbed, List.reverse_append, List.reverse_replicate, List.reverse_replicate,
      List.takeWhile_append_of_pos (by simp)]
    simp [List.replicate_succ]
  unfold classifyDiff
  rw [if_neg (by rw [hspaces]; decide), if_neg (by rw [htabs]; decide), hcount, htrail,
    List.length_replicate, Int.mul_comm]
  simp

/-! ### One change -/

/-- The second indentation is the first with something added. -/
def Extends (a b c d : Nat) : Prop := a = c ∧ b < d ∨ a < c ∧ b = 0

theorem isPrefixOf_tabbed_iff :
    (tabbed a b).isPrefixOf (tabbed c d) = true ↔ a = c ∧ b ≤ d ∨ a < c ∧ b = 0 := by
  rw [List.isPrefixOf_iff_prefix]
  unfold tabbed
  induction a generalizing c with
  | zero =>
    cases c with
    | zero => simp [List.prefix_replicate_iff]
    | succ c =>
      cases b with
      | zero => simp
      | succ b => simp [List.replicate_succ]
  | succ a ih =>
    cases c with
    | zero =>
      cases d with
      | zero => simp [List.replicate_succ]
      | succ d => simp [List.replicate_succ]
    | succ c =>
      rw [List.replicate_succ, List.replicate_succ, List.cons_append, List.cons_append,
        List.cons_prefix_cons, ih]
      simp

theorem extends_iff :
    (decide ((tabbed c d).length > (tabbed a b).length) && (tabbed a b).isPrefixOf (tabbed c d))
      = true ↔ Extends a b c d := by
  rw [Bool.and_eq_true, decide_eq_true_eq, isPrefixOf_tabbed_iff, length_tabbed, length_tabbed]
  unfold Extends
  omega

/-- What was added is classified by its columns. -/
theorem classifyDiff_of_extends (h : Extends a b c d) :
    classifyDiff ((tabbed c d).drop (tabbed a b).length)
      = if a = c then .spaces (d - b : Nat)
        else if d = 0 then .tabs tabWidth
        else .mixed (tabWidth * (c - a) + d : Nat) := by
  rcases h with ⟨rfl, -⟩ | ⟨hac, rfl⟩
  · have hdrop : (tabbed a d).drop (tabbed a b).length = List.replicate (d - b) ' ' := by
      simp [tabbed, List.drop_append]
    rw [hdrop, if_pos rfl, classifyDiff_spaces]
  · have hdrop : (tabbed c d).drop (tabbed a 0).length = tabbed (c - a) d := by
      simp [tabbed, List.drop_append, Nat.sub_eq_zero_of_le (Nat.le_of_lt hac)]
    rw [hdrop, if_neg (Nat.ne_of_lt hac)]
    split
    · next hd =>
      subst hd
      simpa [tabbed] using classifyDiff_tabs (Nat.sub_pos_of_lt hac)
    · next hd => exact classifyDiff_tabbed (Nat.sub_pos_of_lt hac) (Nat.pos_of_ne_zero hd)

/-- The number of columns by which an indentation changes. -/
def columnChange (a b c d : Nat) : Nat :=
  (((tabWidth * c + d : Nat) : Int) - (tabWidth * a + b : Nat)).natAbs

/-- The vote for a change of indentation. Spaces alone are spaces and tabs alone are tabs, and any
other change of columns is mixed. -/
def changeVote? (a b c d : Nat) : Option Signature :=
  if columnChange a b c d = 0 then none
  else if a = c then some (.spaces (columnChange a b c d))
  else if b = 0 ∧ d = 0 then some (.tabs tabWidth)
  else some (.mixed (columnChange a b c d))

theorem columnChange_comm (a b c d : Nat) : columnChange a b c d = columnChange c d a b := by
  unfold columnChange
  omega

theorem changeVote?_comm (a b c d : Nat) : changeVote? a b c d = changeVote? c d a b := by
  unfold changeVote?
  rw [columnChange_comm a b c d]
  simp only [eq_comm (a := a) (b := c), and_comm (a := b = 0) (b := d = 0)]

/-- Only where no columns are added or taken away there is no vote. -/
theorem changeVote?_eq_none_iff :
    changeVote? a b c d = none ↔ tabWidth * a + b = tabWidth * c + d := by
  have hzero : columnChange a b c d = 0 ↔ tabWidth * a + b = tabWidth * c + d := by
    unfold columnChange
    omega
  unfold changeVote?
  by_cases hchange : columnChange a b c d = 0
  · rw [if_pos hchange]
    exact iff_of_true rfl (hzero.mp hchange)
  · rw [if_neg hchange]
    refine iff_of_false ?_ (mt hzero.mpr hchange)
    split
    · exact Option.some_ne_none _
    · split <;> exact Option.some_ne_none _

theorem changeVote?_of_extends (h : Extends a b c d) :
    changeVote? a b c d = some (classifyDiff ((tabbed c d).drop (tabbed a b).length)) := by
  rw [classifyDiff_of_extends h]
  unfold changeVote?
  rcases h with ⟨rfl, hbd⟩ | ⟨hac, rfl⟩
  · have hchange : columnChange a b a d = d - b := by
      unfold columnChange
      omega
    rw [hchange, if_neg (by omega), if_pos rfl, if_pos rfl]
  · have hchange : columnChange a 0 c d = tabWidth * (c - a) + d := by
      unfold columnChange tabWidth
      omega
    have hpos : columnChange a 0 c d ≠ 0 := by
      rw [hchange]
      unfold tabWidth
      omega
    rw [if_neg hpos, if_neg (Nat.ne_of_lt hac), if_neg (Nat.ne_of_lt hac), hchange]
    by_cases hd : d = 0 <;> simp [hd]

/-- **A vote measures by how many columns the indentation changes**, whether something is added,
something is taken away or spaces give way to tabs. -/
theorem voteFor?_tabbed (a b c d : Nat) :
    Classifier.voteFor? (tabbed a b) (tabbed c d) = changeVote? a b c d := by
  unfold Classifier.voteFor?
  by_cases hadd : Extends a b c d
  · rw [if_pos (extends_iff.mpr hadd), changeVote?_of_extends hadd]
  · rw [if_neg (mt extends_iff.mp hadd)]
    by_cases htake : Extends c d a b
    · rw [if_pos (extends_iff.mpr htake), changeVote?_comm, changeVote?_of_extends htake]
    -- neither indentation starts with the other, so their columns are compared
    · rw [if_neg (mt extends_iff.mp htake), visualWidth_tabbed, visualWidth_tabbed]
      unfold Extends at hadd htake
      show (if columnChange a b c d = 0 then none
        else some (Signature.mixed (columnChange a b c d))) = _
      unfold changeVote?
      by_cases hchange : columnChange a b c d = 0
      · rw [if_pos hchange, if_pos hchange]
      · have hac : a ≠ c := by
          rintro rfl
          unfold columnChange at hchange
          omega
        rw [if_neg hchange, if_neg hchange, if_neg hac, if_neg (by omega)]

end Tabbed

/-! ## What a line does -/

namespace Classifier

variable {skipDocs : Bool} {s : Classifier}

/-- Whether the next line goes on with this one, if this one is looked at. -/
def carriesOn (l : Line) : Bool := !l.indent.isEmpty && isContinued l.rest

/-- The indentation that the next line is measured from, where `prev` is the one that a line was
measured from itself. Blank lines and comments leave it as it was. -/
def baseline (prev : List Char) (l : Line) : List Char :=
  if l.rest.isEmpty || (!l.indent.isEmpty && isComment l.rest) then prev else l.indent

/-- The vote of a line that is looked at and measured from the indentation `prev`. -/
def look? (prev : List Char) (l : Line) : Option Signature :=
  if l.rest.isEmpty || l.indent.isEmpty || isComment l.rest then none else voteFor? prev l.indent

/-- Whether a block of documentation is open after a line that does not go on with another. -/
def inDocAfter (skipDocs : Bool) (s : Classifier) (l : Line) : Bool :=
  if skipDocs then docAfter s.inDoc l else s.inDoc

/-- **What a line does that does not go on with another.** -/
theorem step_of_skip_eq_zero (hskip : s.skip = 0) (l : Line) :
    s.step skipDocs l =
      if s.inDocAfter skipDocs l then
        ({ s with linesSeen := s.linesSeen + 1, inDoc := true }, none)
      else
        ({ s with
            linesSeen := s.linesSeen + 1
            inDoc := false
            skip := (carriesOn l).toNat
            prevIndent := baseline s.prevIndent l },
          look? s.prevIndent l) := by
  obtain ⟨prev, n, skip, inDoc, h⟩ := s
  obtain rfl : skip = 0 := hskip
  have hdoc : (if skipDocs then (⟨prev, n + 1, 0, docAfter inDoc l, h⟩ : Classifier)
      else ⟨prev, n + 1, 0, inDoc, h⟩)
      = ⟨prev, n + 1, 0, inDocAfter skipDocs ⟨prev, n, 0, inDoc, h⟩ l, h⟩ := by
    cases skipDocs <;> rfl
  unfold step
  dsimp only
  rw [if_neg (Nat.lt_irrefl 0), hdoc]
  cases inDocAfter skipDocs ⟨prev, n, 0, inDoc, h⟩ l with
  | true => rfl
  | false =>
    obtain ⟨indent, rest⟩ := l
    unfold carriesOn baseline look?
    cases rest with
    | nil => simp [isContinued]
    | cons c rest =>
      cases indent with
      | nil => simp
      | cons w indent =>
        cases isContinued (c :: rest) <;> cases isComment (c :: rest) <;> simp

/-- A line of documentation is not looked at. -/
theorem step_of_inDoc (hskip : s.skip = 0) {l : Line} (hdoc : s.inDocAfter skipDocs l = true) :
    s.step skipDocs l = ({ s with linesSeen := s.linesSeen + 1, inDoc := true }, none) := by
  rw [step_of_skip_eq_zero hskip, if_pos hdoc]

/-- What a line does that is looked at. -/
theorem step_of_not_inDoc (hskip : s.skip = 0) {l : Line}
    (hdoc : s.inDocAfter skipDocs l = false) :
    s.step skipDocs l =
      ({ s with
          linesSeen := s.linesSeen + 1
          inDoc := false
          skip := (carriesOn l).toNat
          prevIndent := baseline s.prevIndent l },
        look? s.prevIndent l) := by
  rw [step_of_skip_eq_zero hskip, if_neg (by rw [hdoc]; decide)]

/-- **Every line is passed over, or is documentation, or is looked at.** -/
theorem step_cases (s : Classifier) (skipDocs : Bool) (l : Line) :
    (0 < s.skip ∧
      s.step skipDocs l = ({ s with linesSeen := s.linesSeen + 1, skip := s.skip - 1 }, none)) ∨
    (s.skip = 0 ∧ s.inDocAfter skipDocs l = true ∧
      s.step skipDocs l = ({ s with linesSeen := s.linesSeen + 1, inDoc := true }, none)) ∨
    (s.skip = 0 ∧ s.inDocAfter skipDocs l = false ∧
      s.step skipDocs l =
        ({ s with
            linesSeen := s.linesSeen + 1
            inDoc := false
            skip := (carriesOn l).toNat
            prevIndent := baseline s.prevIndent l },
          look? s.prevIndent l)) := by
  rcases Nat.eq_zero_or_pos s.skip with hskip | hskip
  · cases hdoc : s.inDocAfter skipDocs l with
    | true => exact .inr (.inl ⟨hskip, rfl, step_of_inDoc hskip hdoc⟩)
    | false => exact .inr (.inr ⟨hskip, rfl, step_of_not_inDoc hskip hdoc⟩)
  · exact .inl ⟨hskip, step_eq_of_skip hskip skipDocs l⟩

/-- What the next line is measured from was there before a line, or the line sets it: it is no blank
line, and if it is indented, it is no comment. -/
theorem baseline_cases (prev : List Char) (l : Line) :
    baseline prev l = prev ∨
      baseline prev l = l.indent ∧ l.rest ≠ [] ∧ (l.indent ≠ [] → isComment l.rest = false) := by
  unfold baseline
  split
  · exact .inl rfl
  · next hcounts =>
    refine .inr ⟨rfl, ?_⟩
    simpa using hcounts

/-- A line that votes is indented, is neither blank nor a comment, and votes for how its indentation
differs from the one that it is measured from. -/
theorem look?_eq_some {prev : List Char} {l : Line} {sig : Signature} (h : look? prev l = some sig) :
    l.indent ≠ [] ∧ l.rest ≠ [] ∧ voteFor? prev l.indent = some sig := by
  unfold look? at h
  split at h
  · cases h
  · next hcounts =>
    have hparts : (l.rest ≠ [] ∧ l.indent ≠ []) ∧ isComment l.rest = false := by simpa using hcounts
    exact ⟨hparts.1.2, hparts.1.1, h⟩

/-- A flush-left line that is not blank is what the next one is measured from. -/
theorem baseline_of_flush {prev : List Char} {l : Line} (hindent : l.indent = [])
    (hrest : l.rest ≠ []) : baseline prev l = [] := by
  simp [baseline, hindent, hrest]

/-- A flush-left line casts no vote. -/
theorem look?_of_flush {prev : List Char} {l : Line} (hindent : l.indent = []) :
    look? prev l = none := by
  simp [look?, hindent]

/-- The next line does not go on with a flush-left one. -/
theorem carriesOn_of_flush {l : Line} (hindent : l.indent = []) : carriesOn l = false := by
  simp [carriesOn, hindent]

variable {rest : List Char}

/-- The next indented line is measured from a flush-left line. -/
theorem step_flush (hskip : s.skip = 0) (hdoc : s.inDoc = false) (hrest : rest ≠ []) :
    s.step false ⟨[], rest⟩
      = ({ s with linesSeen := s.linesSeen + 1, prevIndent := [] }, none) := by
  have hlooked : s.inDocAfter false ⟨[], rest⟩ = false := hdoc
  rw [step_of_not_inDoc hskip hlooked, baseline_of_flush rfl hrest, look?_of_flush rfl,
    carriesOn_of_flush rfl]
  simp [hskip, hdoc]

/-- The next indented line is measured from an indented line that is no comment. -/
theorem step_indented {indent : List Char} (hskip : s.skip = 0) (hdoc : s.inDoc = false)
    (hindent : indent ≠ []) (hrest : rest ≠ []) (hcontinued : isContinued rest = false)
    (hcomment : isComment rest = false) :
    s.step false ⟨indent, rest⟩
      = ({ s with linesSeen := s.linesSeen + 1, prevIndent := indent },
          voteFor? s.prevIndent indent) := by
  have hlooked : s.inDocAfter false ⟨indent, rest⟩ = false := hdoc
  rw [step_of_not_inDoc hskip hlooked]
  simp [baseline, look?, carriesOn, hindent, hrest, hcontinued, hcomment, hskip, hdoc]

/-- What the next line is measured from was there before a line, or the line sets it: it is no blank
line, and if it is indented, it is no comment. -/
theorem prevIndent_step (skipDocs : Bool) (s : Classifier) (l : Line) :
    (s.step skipDocs l).1.prevIndent = s.prevIndent ∨
      (s.step skipDocs l).1.prevIndent = l.indent ∧ l.rest ≠ [] ∧
        (l.indent ≠ [] → isComment l.rest = false) := by
  rcases s.step_cases skipDocs l with ⟨-, h⟩ | ⟨-, -, h⟩ | ⟨-, -, h⟩
  · exact .inl (by rw [h])
  · exact .inl (by rw [h])
  · rw [h]
    exact baseline_cases s.prevIndent l

/-- **A line that votes is indented and not blank**, and votes for how its indentation differs from
the one that it is measured from. -/
theorem vote_step {l : Line} {sig : Signature} (h : (s.step skipDocs l).2 = some sig) :
    l.indent ≠ [] ∧ l.rest ≠ [] ∧ voteFor? s.prevIndent l.indent = some sig := by
  rcases s.step_cases skipDocs l with ⟨-, heq⟩ | ⟨-, -, heq⟩ | ⟨-, -, heq⟩ <;> rw [heq] at h
  · cases h
  · cases h
  · exact look?_eq_some h

/-! ## The votes of a list of lines -/

theorem feedAll_append (skipDocs : Bool) (s : Classifier) (ls ms : List Line) :
    s.feedAll skipDocs (ls ++ ms) = (s.feedAll skipDocs ls).feedAll skipDocs ms :=
  List.foldl_append

theorem feedAll_concat (skipDocs : Bool) (s : Classifier) (ls : List Line) (l : Line) :
    s.feedAll skipDocs (ls ++ [l]) = (s.feedAll skipDocs ls).feed skipDocs l :=
  feedAll_append skipDocs s ls [l]

/-- The votes that the lines of a list cast, in order. -/
def castVotes (skipDocs : Bool) (s : Classifier) : List Line → List Signature
  | [] => []
  | l :: ls => (s.step skipDocs l).2.toList ++ castVotes skipDocs (s.feed skipDocs l) ls

/-- A line is looked at before its vote is counted. -/
theorem histogram_step (skipDocs : Bool) (s : Classifier) (l : Line) :
    (s.step skipDocs l).1.histogram = s.histogram := by
  rcases s.step_cases skipDocs l with ⟨-, h⟩ | ⟨-, -, h⟩ | ⟨-, -, h⟩ <;> rw [h]

/-- Counting the vote of a line changes nothing but the histogram. -/
theorem feed_eq (skipDocs : Bool) (s : Classifier) (l : Line) :
    s.feed skipDocs l = { (s.step skipDocs l).1 with
      histogram := (s.step skipDocs l).2.toList.foldl Histogram.vote s.histogram } := by
  rw [← histogram_step skipDocs s l]
  unfold feed
  dsimp only
  cases (s.step skipDocs l).2 <;> rfl

/-- **The histogram counts the votes that are cast.** -/
theorem histogram_feedAll (skipDocs : Bool) (s : Classifier) (ls : List Line) :
    (s.feedAll skipDocs ls).histogram
      = (s.castVotes skipDocs ls).foldl Histogram.vote s.histogram := by
  induction ls generalizing s with
  | nil => rfl
  | cons l ls ih =>
    have hl : (s.feed skipDocs l).histogram
        = (s.step skipDocs l).2.toList.foldl Histogram.vote s.histogram := by rw [feed_eq]
    rw [castVotes, List.foldl_append, ← hl]
    exact ih (s.feed skipDocs l)

theorem histogram_feedAll_start (skipDocs : Bool) (ls : List Line) :
    (feedAll skipDocs {} ls).histogram = .ofVotes (castVotes skipDocs {} ls) :=
  histogram_feedAll skipDocs {} ls

/-- **Indentations of one kind cast votes of one kind**: what holds of every vote between two of them
holds of every vote of lines that are indented so. -/
theorem forall_mem_castVotes {Q : List Char → Prop} {P : Signature → Prop}
    (hvote : ∀ prev indent sig, Q prev → Q indent → voteFor? prev indent = some sig → P sig)
    {ls : List Line} (hls : ∀ l ∈ ls, Q l.indent) (hprev : Q s.prevIndent) :
    ∀ sig ∈ s.castVotes skipDocs ls, P sig := by
  induction ls generalizing s with
  | nil => simp [castVotes]
  | cons l ls ih =>
    intro sig hsig
    have hl := hls l List.mem_cons_self
    rcases List.mem_append.mp hsig with hfirst | hrest
    · obtain ⟨-, -, hchange⟩ := vote_step (Option.mem_toList.mp hfirst)
      exact hvote _ _ sig hprev hl hchange
    · refine ih (fun m hm => hls m (List.mem_cons_of_mem l hm)) ?_ sig hrest
      rw [feed_eq]
      rcases prevIndent_step skipDocs s l with heq | ⟨heq, -⟩
      · rwa [← heq] at hprev
      · rwa [← heq] at hl

/-! ## Columns -/

/-- A line that no rule keeps from voting, unless it is flush left: it is not passed over, it does not
stand in documentation, and it is neither blank nor a comment. -/
structure Heeds (s : Classifier) (l : Line) : Prop where
  skip : s.skip = 0
  inDoc : s.inDoc = false
  rest : l.rest ≠ []
  comment : isComment l.rest = false

/-- An indented line that no rule keeps from voting votes for how its indentation differs from the one
that it is measured from. -/
theorem Heeds.vote_step {l : Line} (h : s.Heeds l) (hindent : l.indent ≠ []) (skipDocs : Bool) :
    (s.step skipDocs l).2 = voteFor? s.prevIndent l.indent := by
  have hdoc : s.inDocAfter skipDocs l = false := by
    simp [inDocAfter, docAfter, hindent, h.inDoc]
  rw [step_of_not_inDoc h.skip hdoc]
  simp [look?, hindent, h.rest, h.comment]

/-- A vote is seen in the histogram. -/
theorem histogram_feed_eq_iff (skipDocs : Bool) (s : Classifier) (l : Line) :
    (s.feed skipDocs l).histogram = s.histogram ↔ (s.step skipDocs l).2 = none := by
  rw [feed_eq]
  cases hvote : (s.step skipDocs l).2 with
  | none => simp
  | some sig =>
    simp only [Option.toList_some, List.foldl_cons, List.foldl_nil, reduceCtorEq, iff_false]
    intro heq
    have hcount := s.histogram.votes_vote_self sig
    rw [heq] at hcount
    omega

theorem histogram_feed_of_vote {l : Line} {sig : Signature} (h : (s.step skipDocs l).2 = some sig) :
    (s.feed skipDocs l).histogram = s.histogram.vote sig := by
  rw [feed_eq, h]
  rfl

/--
**A line votes for the number of columns by which it is indented more or less than the line that it is
measured from**, where each tab counts as a full tab stop.

It casts no vote exactly if that number is zero. Otherwise it votes for spaces if both are indented by
equally many tabs, for tabs if neither is indented by a space, and for a mixture in every other case. A
change between two indentations casts the same vote in both directions.
-/
theorem vote_of_columns (skipDocs : Bool) (s : Classifier) (a b c d : Nat) (rest : List Char)
    (hindent : 0 < c + d) (hprev : s.prevIndent = tabbed a b) (h : s.Heeds ⟨tabbed c d, rest⟩) :
    ((s.feed skipDocs ⟨tabbed c d, rest⟩).histogram = s.histogram ↔ 8 * a + b = 8 * c + d) ∧
    (8 * a + b ≠ 8 * c + d → (s.feed skipDocs ⟨tabbed c d, rest⟩).histogram = s.histogram.vote
      (if a = c then .spaces ((8 * c + d : Int) - (8 * a + b)).natAbs
        else if b = 0 ∧ d = 0 then .tabs 8
        else .mixed ((8 * c + d : Int) - (8 * a + b)).natAbs)) ∧
    ∀ (skipDocs' : Bool) (t : Classifier) (rest' : List Char), 0 < a + b →
      t.prevIndent = tabbed c d → t.Heeds ⟨tabbed a b, rest'⟩ →
        (t.step skipDocs' ⟨tabbed a b, rest'⟩).2 = (s.step skipDocs ⟨tabbed c d, rest⟩).2 := by
  have hvote : (s.step skipDocs ⟨tabbed c d, rest⟩).2 = changeVote? a b c d := by
    rw [h.vote_step (tabbed_ne_nil hindent), hprev, voteFor?_tabbed]
  have hcolumns : columnChange a b c d = ((8 * c + d : Int) - (8 * a + b)).natAbs := rfl
  refine ⟨?_, ?_, ?_⟩
  · rw [histogram_feed_eq_iff, hvote, changeVote?_eq_none_iff]
    rfl
  · intro hne
    refine histogram_feed_of_vote ?_
    rw [hvote, changeVote?, hcolumns, if_neg (by omega)]
    split
    · rfl
    · split <;> rfl
  · intro skipDocs' t rest' hindent' hprev' h'
    rw [h'.vote_step (tabbed_ne_nil hindent'), hprev', voteFor?_tabbed, hvote, changeVote?_comm]

/-- Six spaces give way to a tab and four spaces, on a line that the next one goes on with, and the other
way round. -/
theorem vote_of_columns_tab_for_spaces :
    0 < 1 + 4 ∧ (Classifier.mk (tabbed 0 6) 2 0 false [(.spaces 6, 1)]).prevIndent = tabbed 0 6 ∧
      (Classifier.mk (tabbed 0 6) 2 0 false [(.spaces 6, 1)]).Heeds ⟨tabbed 1 4, "a \\".toList⟩ ∧
      ((Classifier.mk (tabbed 0 6) 2 0 false [(.spaces 6, 1)]).feed true
        ⟨tabbed 1 4, "a \\".toList⟩).histogram = [(.spaces 6, 1), (.mixed 6, 1)] ∧
      ((Classifier.mk (tabbed 1 4) 3 0 false []).step true ⟨tabbed 0 6, "b".toList⟩).2
        = some (.mixed 6) := by
  have hheeds : (Classifier.mk (tabbed 0 6) 2 0 false [(.spaces 6, 1)]).Heeds
      ⟨tabbed 1 4, "a \\".toList⟩ := ⟨rfl, rfl, by simp, rfl⟩
  have hback : (Classifier.mk (tabbed 1 4) 3 0 false []).Heeds ⟨tabbed 0 6, "b".toList⟩ :=
    ⟨rfl, rfl, by simp, rfl⟩
  obtain ⟨-, hvote, hsame⟩ := vote_of_columns true (.mk (tabbed 0 6) 2 0 false [(.spaces 6, 1)])
    0 6 1 4 "a \\".toList (by decide) rfl hheeds
  refine ⟨by decide, rfl, hheeds, ?_, ?_⟩
  · rw [hvote (by decide)]
    rfl
  · rw [hsame true _ _ (by decide) rfl hback]
    rfl

end Classifier

end Indentation
