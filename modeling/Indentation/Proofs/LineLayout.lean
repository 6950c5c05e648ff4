import Indentation.Proofs.Line
import Indentation.Proofs.Text

/-!
# The layout of a text in lines

A text consists of its lines and of the line breaks behind them, and of nothing else. That a list of
lines with their line breaks is the layout of a text (`IsLayout`) is said without the function that
reads the lines: they make up the text, no line holds a line break, an empty line comes first or not
at all, and every line but the last has line breaks behind it. From this it follows that there is
one layout, that the line breaks of a line are all that stand there (`IsLayout.isMaximalRun`), and
that its lines are those that are read.

## Main statements

* `isDivided_iff` — indentation is divided off as the longest run of spaces and tabs at the start
* `isLayout_cons_iff` — the layout of a text starts with what `Leads` it
* `IsLayout.unique` — a text has no other layout
* `existsUnique_layout` — every text has one layout, and its lines are those that are read
-/

namespace Indentation.Line

theorem isEol_iff {c : Char} : isEol c = true ↔ c = '\r' ∨ c = '\n' := by
  rw [isEol, Bool.or_eq_true, beq_iff_eq, beq_iff_eq]

theorem isEol_eq_false_iff {c : Char} : isEol c = false ↔ c ≠ '\r' ∧ c ≠ '\n' := by
  rw [← Bool.not_eq_true, isEol_iff, not_or]

theorem isIndent_iff {c : Char} : isIndent c = true ↔ c = ' ' ∨ c = '\t' := by
  rw [isIndent, Bool.or_eq_true, beq_iff_eq, beq_iff_eq]

/-! ## Indentation -/

/-- Indentation is the longest start of a line that is made of spaces and tabs. -/
structure IsDivided (l : Line) : Prop where
  indent : ∀ c ∈ l.indent, c = ' ' ∨ c = '\t'
  longest : ∀ w, w <+: l.text → (∀ c ∈ w, c = ' ' ∨ c = '\t') → w.length ≤ l.indent.length

theorem IsDivided.head_rest {l : Line} (h : IsDivided l) :
    ∀ c ∈ l.rest.head?, isIndent c = false := by
  intro c hc
  obtain ⟨r, hr⟩ := List.head?_eq_some_iff.mp hc
  refine Bool.eq_false_iff.mpr fun hindent => ?_
  -- otherwise the indentation could be longer by this character
  have hpre : l.indent ++ [c] <+: l.text := ⟨r, by rw [text, hr, List.append_assoc]; rfl⟩
  have hlen := h.longest (l.indent ++ [c]) hpre ?_
  · rw [List.length_append, List.length_singleton] at hlen
    omega
  · intro d hd
    rcases List.mem_append.mp hd with hd | hd
    · exact h.indent d hd
    · rw [List.mem_singleton.mp hd]
      exact isIndent_iff.mp hindent

theorem isDivided_ofChars (s : List Char) : IsDivided (ofChars s) where
  indent := by
    intro c hc
    exact isIndent_iff.mp (List.all_eq_true.mp List.all_takeWhile c hc)
  longest := by
    intro w hw hindent
    obtain ⟨t, ht⟩ := hw
    rw [text_ofChars] at ht
    show w.length ≤ (s.takeWhile isIndent).length
    rw [← ht, List.takeWhile_append_of_pos fun c hc => isIndent_iff.mpr (hindent c hc),
      List.length_append]
    exact Nat.le_add_right _ _

/-- **A line is divided as the reader divides it, or its indentation is not the longest.** -/
theorem isDivided_iff {l : Line} : IsDivided l ↔ ofChars l.text = l := by
  constructor
  · intro h
    exact ofChars_append (fun c hc => isIndent_iff.mpr (h.indent c hc)) h.head_rest
  · intro h
    rw [← h]
    exact isDivided_ofChars l.text

/-! ## Lines and what ends them -/

/-- A line and the line breaks behind it. -/
structure Ended where
  line : Line
  breaks : List Char
  deriving DecidableEq, Repr

namespace Ended

/-- The line with its line breaks. -/
def text (p : Ended) : List Char := p.line.text ++ p.breaks

/-- Lines and line breaks in turn. -/
def join (ps : List Ended) : List Char := ps.flatMap text

@[simp] theorem join_nil : join [] = [] := rfl

@[simp] theorem join_cons (p : Ended) (ps : List Ended) : join (p :: ps) = p.text ++ join ps := rfl

end Ended

/-- A run of line breaks with none before and none after it. -/
structure IsMaximalRun (before run after : List Char) : Prop where
  eol : ∀ c ∈ run, c = '\r' ∨ c = '\n'
  before : ∀ c ∈ before.getLast?, c ≠ '\r' ∧ c ≠ '\n'
  after : ∀ c ∈ after.head?, c ≠ '\r' ∧ c ≠ '\n'

/-- The lines of a text in order, each with the line breaks behind it. -/
structure IsLayout (text : List Char) (ps : List Ended) : Prop where
  eq : Ended.join ps = text
  not_eol : ∀ p ∈ ps, ∀ c ∈ p.line.text, c ≠ '\r' ∧ c ≠ '\n'
  eol : ∀ p ∈ ps, ∀ c ∈ p.breaks, c = '\r' ∨ c = '\n'
  divided : ∀ p ∈ ps, IsDivided p.line
  /-- Only the last line can do without line breaks. -/
  ended : ∀ p ∈ ps.dropLast, p.breaks ≠ []
  /-- Only the first line can be empty. -/
  filled : ∀ p ∈ ps.tail, p.line.text ≠ []
  /-- Nor does a text end in an empty line. -/
  last : ∀ p ∈ ps.getLast?, p.breaks = [] → p.line.text ≠ []

/-- A line with all its line breaks stands at the start of a text, in front of the rest of it. -/
structure Leads (p : Ended) (rest text : List Char) : Prop where
  eq : p.text ++ rest = text
  not_eol : ∀ c ∈ p.line.text, isEol c = false
  eol : ∀ c ∈ p.breaks, isEol c = true
  divided : IsDivided p.line
  next : ∀ c ∈ rest.head?, isEol c = false
  last : p.breaks = [] → p.line.text ≠ [] ∧ rest = []

section Leads

variable {p q : Ended} {rest rest' text : List Char}

theorem Leads.eq_append (h : Leads p rest text) : p.line.text ++ (p.breaks ++ rest) = text := by
  rw [← h.eq, Ended.text, List.append_assoc]

theorem Leads.text_ne_nil (h : Leads p rest text) : p.text ≠ [] := by
  intro hnil
  obtain ⟨hline, hbreaks⟩ := List.append_eq_nil_iff.mp hnil
  exact (h.last hbreaks).1 hline

theorem Leads.length_lt (h : Leads p rest text) : rest.length < text.length := by
  have hpos := List.length_pos_iff.mpr h.text_ne_nil
  rw [← h.eq, List.length_append]
  omega

/-- Behind the line stands a line break, or the text is over. -/
theorem Leads.head_breaks (h : Leads p rest text) :
    ∀ c ∈ (p.breaks ++ rest).head?, isEol c = true := by
  intro c hc
  cases hb : p.breaks with
  | nil =>
    rw [hb, (h.last hb).2] at hc
    cases hc
  | cons b bs =>
    rw [hb] at hc
    obtain rfl : b = c := Option.some.inj hc
    exact h.eol b (hb ▸ List.mem_cons_self)

/-- **One line with its line breaks stands at the start of a text.** -/
theorem Leads.unique (hp : Leads p rest text) (hq : Leads q rest' text) : p = q ∧ rest = rest' := by
  -- the line ends where the first line break stands, and the line breaks where the next line starts
  obtain ⟨hline, htail⟩ :=
    Text.append_inj_of_run (p := fun c => !isEol c) (x := p.breaks ++ rest) (y := q.breaks ++ rest')
      (fun c hc => by rw [hp.not_eol c hc]; rfl) (fun c hc => by rw [hq.not_eol c hc]; rfl)
      (fun c hc => by rw [hp.head_breaks c hc]; rfl) (fun c hc => by rw [hq.head_breaks c hc]; rfl)
      (hp.eq_append.trans hq.eq_append.symm)
  obtain ⟨hbreaks, hrest⟩ := Text.append_inj_of_run hp.eol hq.eol hp.next hq.next htail
  have hsame : p.line = q.line := by
    rw [← isDivided_iff.mp hp.divided, hline, isDivided_iff.mp hq.divided]
  refine ⟨?_, hrest⟩
  cases p
  cases q
  rw [Ended.mk.injEq]
  exact ⟨hsame, hbreaks⟩

/-- What is read first is the line at the start of the text. -/
theorem Leads.ofText_eq (h : Leads p rest text) : ofText text = p.line :: ofText rest := by
  have hsplit : splitLines text = p.line.text :: splitLines rest := by
    rw [← h.eq_append]
    by_cases hb : p.breaks = []
    · obtain ⟨hne, hrest⟩ := h.last hb
      rw [hb, hrest, List.nil_append, List.append_nil, splitLines_of_not_eol hne h.not_eol]
      rfl
    · exact splitLines_append_breaks_append h.not_eol hb h.eol h.next
  rw [ofText, hsplit, List.map_cons, isDivided_iff.mp h.divided]
  rfl

/-- Some line stands at the start of a text that is not empty. -/
theorem exists_leads (hne : text ≠ []) : ∃ p rest, Leads p rest text := by
  obtain ⟨l, behind, hl, hbehind, htext⟩ := Text.exists_run (fun c => !isEol c) text
  obtain ⟨run, rest, hrun, hrest, hsplit⟩ := Text.exists_run isEol behind
  refine ⟨⟨ofChars l, run⟩, rest, ?_, ?_, hrun, isDivided_ofChars l, hrest, ?_⟩
  · rw [Ended.text, text_ofChars, List.append_assoc, hsplit, htext]
  · intro c hc
    rw [text_ofChars] at hc
    simpa using hl c hc
  · intro hnil
    -- what stands behind the line would start with a line break, so there is nothing
    have hempty : behind = [] := by
      cases behind with
      | nil => rfl
      | cons b bs =>
        have heol : isEol b = true := by simpa using hbehind b rfl
        obtain rfl : run = [] := hnil
        obtain rfl : rest = b :: bs := hsplit
        rw [hrest b rfl] at heol
        cases heol
    rw [text_ofChars]
    rw [hempty, List.append_nil] at htext
    rw [hempty] at hsplit
    exact ⟨htext ▸ hne, (List.append_eq_nil_iff.mp hsplit).2⟩

end Leads

/-! ## The layout -/

section Layout

variable {text : List Char} {p : Ended} {ps qs : List Ended}

theorem isLayout_nil_iff : IsLayout text [] ↔ text = [] := by
  constructor
  · intro h
    exact h.eq.symm
  · rintro rfl
    constructor <;> simp

/-- No line break stands at the start of what a line with its line breaks is followed by. -/
theorem IsLayout.head_join (h : IsLayout text (p :: ps)) :
    ∀ c ∈ (Ended.join ps).head?, isEol c = false := by
  intro c hc
  cases ps with
  | nil => cases hc
  | cons q qs =>
    obtain ⟨d, s, hline⟩ := List.exists_cons_of_ne_nil (h.filled q List.mem_cons_self)
    have hmem : q ∈ p :: q :: qs := List.mem_cons_of_mem _ List.mem_cons_self
    rw [Ended.join_cons, Ended.text, hline] at hc
    obtain rfl : d = c := Option.some.inj hc
    exact isEol_eq_false_iff.mpr (h.not_eol q hmem d (hline ▸ List.mem_cons_self))

theorem IsLayout.leads (h : IsLayout text (p :: ps)) : Leads p (Ended.join ps) text where
  eq := h.eq
  not_eol := fun c hc => isEol_eq_false_iff.mpr (h.not_eol p List.mem_cons_self c hc)
  eol := fun c hc => isEol_iff.mpr (h.eol p List.mem_cons_self c hc)
  divided := h.divided p List.mem_cons_self
  next := h.head_join
  last := by
    intro hb
    cases ps with
    | nil => exact ⟨h.last p rfl hb, rfl⟩
    | cons q qs => exact absurd hb (h.ended p List.mem_cons_self)

theorem IsLayout.tail (h : IsLayout text (p :: ps)) : IsLayout (Ended.join ps) ps where
  eq := rfl
  not_eol := fun q hq => h.not_eol q (List.mem_cons_of_mem p hq)
  eol := fun q hq => h.eol q (List.mem_cons_of_mem p hq)
  divided := fun q hq => h.divided q (List.mem_cons_of_mem p hq)
  ended := by
    intro q hq
    cases ps with
    | nil => cases hq
    | cons r rs => exact h.ended q (List.mem_cons_of_mem p hq)
  filled := fun q hq => h.filled q (List.mem_of_mem_tail hq)
  last := by
    intro q hq
    cases ps with
    | nil => cases hq
    | cons r rs => exact h.last q (by rwa [List.getLast?_cons_cons])

/-- A line that is empty has a line break behind it. -/
theorem IsLayout.breaks_ne_nil (h : IsLayout text (p :: ps)) (hline : p.line.text = []) :
    p.breaks ≠ [] :=
  fun hb => (h.leads.last hb).1 hline

/-- Where no line break stands at the start, the first line is not empty. -/
theorem IsLayout.line_ne_nil (h : IsLayout text (p :: ps))
    (hhead : ∀ c ∈ text.head?, isEol c = false) : p.line.text ≠ [] := by
  intro hline
  obtain ⟨b, bs, hb⟩ := List.exists_cons_of_ne_nil (h.breaks_ne_nil hline)
  have heol : isEol b = true := h.leads.eol b (hb ▸ List.mem_cons_self)
  have hstart : text.head? = some b := by
    rw [← h.leads.eq_append, hline, hb]
    rfl
  rw [hhead b hstart] at heol
  cases heol

theorem IsLayout.cons {rest : List Char} (hp : Leads p rest text) (h : IsLayout rest ps) :
    IsLayout text (p :: ps) where
  eq := by rw [Ended.join_cons, h.eq, hp.eq]
  not_eol := List.forall_mem_cons.mpr
    ⟨fun c hc => isEol_eq_false_iff.mp (hp.not_eol c hc), h.not_eol⟩
  eol := List.forall_mem_cons.mpr ⟨fun c hc => isEol_iff.mp (hp.eol c hc), h.eol⟩
  divided := List.forall_mem_cons.mpr ⟨hp.divided, h.divided⟩
  ended := by
    intro q hq
    cases ps with
    | nil => cases hq
    | cons r rs =>
      rcases List.mem_cons.mp hq with rfl | hq
      · -- a line without line breaks would be the last
        intro hb
        have hrest : rest = [] := (hp.last hb).2
        rw [hrest] at h
        exact h.leads.text_ne_nil (List.append_eq_nil_iff.mp h.leads.eq).1
      · exact h.ended q hq
  filled := by
    intro q hq
    cases ps with
    | nil => cases hq
    | cons r rs =>
      rcases List.mem_cons.mp hq with rfl | hq
      · exact h.line_ne_nil hp.next
      · exact h.filled q hq
  last := by
    intro q hq hb
    cases ps with
    | nil =>
      obtain rfl : p = q := Option.some.inj hq
      exact (hp.last hb).1
    | cons r rs =>
      rw [List.getLast?_cons_cons] at hq
      exact h.last q hq hb

/-- **The layout of a text is that of its start and that of the rest.** -/
theorem isLayout_cons_iff : IsLayout text (p :: ps) ↔ ∃ rest, Leads p rest text ∧ IsLayout rest ps :=
  ⟨fun h => ⟨_, h.leads, h.tail⟩, fun ⟨_, hp, h⟩ => .cons hp h⟩

/-- The lines of a layout are those that are read. -/
theorem IsLayout.map_line_eq (h : IsLayout text ps) : ps.map Ended.line = ofText text := by
  induction ps generalizing text with
  | nil =>
    rw [isLayout_nil_iff.mp h]
    rfl
  | cons p ps ih =>
    obtain ⟨rest, hp, hrest⟩ := isLayout_cons_iff.mp h
    rw [List.map_cons, ih hrest, hp.ofText_eq]

theorem IsLayout.eq_nil_iff (h : IsLayout text ps) : ps = [] ↔ text = [] := by
  constructor
  · rintro rfl
    exact isLayout_nil_iff.mp h
  · rintro rfl
    cases ps with
    | nil => rfl
    | cons p ps => exact absurd (List.append_eq_nil_iff.mp h.leads.eq).1 h.leads.text_ne_nil

/-- **A text has no other layout.** -/
theorem IsLayout.unique (hp : IsLayout text ps) (hq : IsLayout text qs) : qs = ps := by
  induction ps generalizing text qs with
  | nil => exact hq.eq_nil_iff.mpr (isLayout_nil_iff.mp hp)
  | cons p ps ih =>
    cases qs with
    | nil => exact absurd (hp.eq_nil_iff.mpr (isLayout_nil_iff.mp hq)) (List.cons_ne_nil p ps)
    | cons q qs =>
      obtain ⟨rest, hp, hps⟩ := isLayout_cons_iff.mp hp
      obtain ⟨rest', hq, hqs⟩ := isLayout_cons_iff.mp hq
      obtain ⟨rfl, rfl⟩ := hp.unique hq
      rw [ih hps hqs]

/-- Every text has a layout. -/
theorem exists_layout (text : List Char) : ∃ ps, IsLayout text ps := by
  induction hn : text.length using Nat.strongRecOn generalizing text with
  | ind n ih =>
    by_cases hne : text = []
    · exact ⟨[], isLayout_nil_iff.mpr hne⟩
    · obtain ⟨p, rest, hp⟩ := exists_leads hne
      obtain ⟨ps, hps⟩ := ih rest.length (hn ▸ hp.length_lt) rest rfl
      exact ⟨p :: ps, .cons hp hps⟩

/-- The line breaks of a line are all that stand there. -/
theorem IsLayout.isMaximalRun {before after : List Ended}
    (h : IsLayout text (before ++ p :: after)) :
    IsMaximalRun (Ended.join before ++ p.line.text) p.breaks (Ended.join after) := by
  induction before generalizing text with
  | nil =>
    constructor
    · exact h.eol p List.mem_cons_self
    · intro c hc
      exact h.not_eol p List.mem_cons_self c (List.mem_of_getLast? hc)
    · intro c hc
      exact isEol_eq_false_iff.mp (h.head_join c hc)
  | cons q before ih =>
    have hrun := ih h.tail
    have hne : p.line.text ≠ [] := h.filled p (List.mem_append_right before List.mem_cons_self)
    refine ⟨hrun.eol, ?_, hrun.after⟩
    -- the line is not empty, so its own last character stands in front of the line breaks
    intro c hc
    obtain ⟨d, hd⟩ := Option.isSome_iff_exists.mp (List.getLast?_isSome.mpr hne)
    rw [List.getLast?_append, hd] at hc
    obtain rfl : d = c := Option.some.inj hc
    exact h.not_eol p (List.mem_append_right (q :: before) List.mem_cons_self) d
      (List.mem_of_getLast? hd)

end Layout

/-- **Every text has one layout, and its lines are those that are read.** The line breaks behind a
line are a maximal run, and the text without lines is the empty one. -/
theorem existsUnique_layout (text : List Char) :
    ∃ ps, IsLayout text ps ∧ ps.map Ended.line = ofText text ∧
      (∀ before p after, ps = before ++ p :: after →
        IsMaximalRun (Ended.join before ++ p.line.text) p.breaks (Ended.join after)) ∧
      (ps = [] ↔ text = []) ∧ ∀ qs, IsLayout text qs → qs = ps := by
  obtain ⟨ps, hps⟩ := exists_layout text
  refine ⟨ps, hps, hps.map_line_eq, ?_, hps.eq_nil_iff, fun qs hqs => hps.unique hqs⟩
  rintro before p after rfl
  exact hps.isMaximalRun

example : ofText "\n\n  a\r\n\t \n".toList
    = [⟨[], []⟩, ⟨[' ', ' '], ['a']⟩, ⟨['\t', ' '], []⟩] := by decide

end Indentation.Line
