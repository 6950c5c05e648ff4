import Mathlib
import Indentation.Detect
import Indentation.Proofs.LocalVariables

/-!
# Writing a list of local variables

A list that is written out, line by line, is read back as the variables that were written: each line
puts its words between the affixes, with one space on both sides of them.

## What the affixes may hold

Affixes hold no blanks (`Affixes.Solid`) and are free otherwise. A lead may hold a colon or end like the
words that open a list do, and a value may end with the trail. The lead is cut off before the colon of
the key is looked for, only one trail is cut off behind the value, and the words that open a list have a
space inside (`isFirstCut_opening`).

An affix may be empty. The space next to it is then at the end of its line and cut off with the blanks
there, so what is left of it is a gap or nothing (`exists_gap_trimStart`, `exists_gap_trimEnd`).

## Main statements

* `affixes?_eq_some_iff` — which lines open a list
* `entry?_entryLine` — a variable is read off its line
* `feedLocalVariableLines_listLines` — a list is read back as its variables
-/

namespace Indentation

open Text

namespace LocalVariables

/-! ## Lines that open a list -/

/-- Affixes without blanks. -/
structure Affixes.Solid (a : Affixes) : Prop where
  lead : ∀ c ∈ a.lead, isBlank c = false
  trail : ∀ c ∈ a.trail, isBlank c = false

/-- A line opens a list where the words stand in it for the first time, with no blanks inside of what
is before and behind them. -/
structure IsOpening (a : Affixes) (line : List Char) : Prop where
  solid : a.Solid
  cut : ∃ before behind, IsFirstCut opening (trim line) before behind ∧
    a = ⟨trimEnd before, trim behind⟩

section Lines

variable {a : Affixes} {line k : List Char} {v : Variable}

theorem affixes?_eq_some_iff : affixes? line = some a ↔ IsOpening a line := by
  have hsolid : ∀ lead trail : List Char, (lead.any isBlank || trail.any isBlank) = false ↔
      (⟨lead, trail⟩ : Affixes).Solid := by
    intro lead trail
    rw [Bool.or_eq_false_iff, List.any_eq_false, List.any_eq_false]
    simp only [Bool.not_eq_true]
    exact ⟨fun h => ⟨h.1, h.2⟩, fun h => ⟨h.lead, h.trail⟩⟩
  unfold affixes?
  constructor
  · intro h
    obtain ⟨⟨before, behind⟩, hcut, h⟩ := Option.bind_eq_some_iff.mp h
    obtain ⟨x, rfl, hfirst⟩ := cutAtText?_eq_some_iff.mp hcut
    dsimp only at h
    split at h
    · cases h
    · next hno =>
      obtain rfl := Option.some.inj h
      exact ⟨(hsolid _ _).mp (Bool.eq_false_iff.mpr hno), _, behind, hfirst, rfl⟩
  · rintro ⟨ha, before, behind, hfirst, rfl⟩
    refine Option.bind_eq_some_iff.mpr
      ⟨(before, behind), cutAtText?_eq_some_iff.mpr ⟨before, rfl, hfirst⟩, ?_⟩
    dsimp only
    rw [(hsolid _ _).mpr ha, if_neg (by decide)]

end Lines

/-! ## Writing the lines -/

/-- The line that opens a list. -/
def Affixes.openingLine (a : Affixes) : List Char :=
  a.lead ++ " Local Variables: ".toList ++ a.trail

/-- The line that sets a variable. -/
def Affixes.entryLine (a : Affixes) (v : Variable) : List Char :=
  a.lead ++ ' ' :: v.key ++ ": ".toList ++ v.value ++ ' ' :: a.trail

/-- The line that closes a list. -/
def Affixes.endLine (a : Affixes) : List Char :=
  a.lead ++ " End: ".toList ++ a.trail

/-- The lines of a list that sets variables. -/
def Affixes.listLines (a : Affixes) (vs : List Variable) : List (List Char) :=
  a.openingLine :: vs.map a.entryLine ++ [a.endLine]

/-- A word that can stand before the colon of a line. -/
structure IsKey (k : List Char) : Prop where
  ne_nil : k ≠ []
  not_blank : ∀ c ∈ k, isBlank c = false
  colon_not_mem : ':' ∉ k

/-- A variable that a line can set: its key does not close the list, and its value has no blanks at
its ends. -/
structure IsEntry (v : Variable) : Prop where
  key : IsKey v.key
  key_ne_end : v.key ≠ endKey
  value_ne_nil : v.value ≠ []
  value_head : ∀ c ∈ v.value.head?, isBlank c = false
  value_last : ∀ c ∈ v.value.getLast?, isBlank c = false

theorem opening_eq : opening = ['L', 'o', 'c', 'a', 'l'] ++
    ' ' :: ['V', 'a', 'r', 'i', 'a', 'b', 'l', 'e', 's', ':'] := rfl

theorem isKey_endKey : IsKey endKey :=
  ⟨by decide, forall_mem_of_all (by decide), by decide⟩

section Writing

variable {a : Affixes} {p t k : List Char} {v : Variable}

/-- Of the space behind a lead, nothing is left only where the lead is empty. -/
theorem exists_gap_trimStart (hp : ∀ c ∈ p, isBlank c = false) (hne : t ≠ [])
    (ht : ∀ c ∈ t.head?, isBlank c = false) :
    ∃ g, trimStart (p ++ ' ' :: t) = p ++ (g ++ t) ∧ (∀ c ∈ g, isBlank c = true) ∧
      (g = [' '] ∨ p = [] ∧ g = []) := by
  cases p with
  | nil =>
    refine ⟨[], ?_, by simp, Or.inr ⟨rfl, rfl⟩⟩
    have hstart := trimStart_append_of_head? hne ht []
    rw [List.append_nil] at hstart
    exact (trimStart_append_of_blank isBlank_of_mem_space t).trans hstart
  | cons c p =>
    exact ⟨[' '], trimStart_cons_of_not_blank (hp c List.mem_cons_self) _,
      isBlank_of_mem_space, Or.inl rfl⟩

/-- What is left of the space before a trail is blank. -/
theorem exists_gap_trimEnd (hp : ∀ c ∈ p, isBlank c = false) (hne : t ≠ [])
    (ht : ∀ c ∈ t.getLast?, isBlank c = false) (s : List Char) :
    ∃ g, trimEnd (s ++ (t ++ ' ' :: p)) = s ++ (t ++ (g ++ p)) ∧ ∀ c ∈ g, isBlank c = true := by
  cases p with
  | nil =>
    refine ⟨[], ?_, by simp⟩
    rw [← List.append_assoc, trimEnd_append_of_blank isBlank_of_mem_space,
      trimEnd_append_of_getLast? hne ht]
    simp
  | cons c p =>
    refine ⟨[' '], ?_, isBlank_of_mem_space⟩
    have hend := trimEnd_append_of_not_blank (List.cons_ne_nil c p) hp (s ++ (t ++ [' ']))
    simpa using hend

theorem space_not_mem (hp : ∀ c ∈ p, isBlank c = false) : ' ' ∉ p := by
  intro hmem
  exact absurd (hp ' ' hmem) (by decide)

/-- The words that open a list do not start inside of the lead. -/
theorem isFirstCut_opening {g : List Char} (hp : ' ' ∉ p) (hg : g = [' '] ∨ p = [] ∧ g = [])
    (rest : List Char) : IsFirstCut opening (p ++ g ++ (opening ++ rest)) (p ++ g) rest := by
  refine ⟨rfl, fun x y h => ?_⟩
  rcases hg with rfl | ⟨rfl, rfl⟩
  · -- the space inside of the words is not the one behind the lead, and no space stands before that
    have hspace : x ++ ['L', 'o', 'c', 'a', 'l'] ++
        ' ' :: (['V', 'a', 'r', 'i', 'a', 'b', 'l', 'e', 's', ':'] ++ y)
          = p ++ ' ' :: (opening ++ rest) := by
      rw [opening_eq] at h ⊢
      simpa using h.symm
    rcases eq_or_exists_of_append_cons hp hspace with ⟨-, hbehind⟩ | ⟨r, hx, -⟩
    · rw [opening_eq] at hbehind
      have hhead : 'V' = 'L' := (List.cons.inj hbehind).1
      exact absurd hhead (by decide)
    · by_contra hlt
      have hle : x.length ≤ p.length := by
        rw [List.length_append, List.length_singleton] at hlt
        omega
      have hat : (x ++ ['L', 'o', 'c', 'a', 'l'])[p.length]? = (p ++ ' ' :: r)[p.length]? := by
        rw [hx]
      rw [List.getElem?_append_right hle, List.getElem?_append_right (Nat.le_refl _),
        Nat.sub_self] at hat
      exact absurd (List.mem_of_getElem? hat) (by decide)
  · exact Nat.zero_le x.length

theorem affixes?_openingLine (ha : a.Solid) : affixes? a.openingLine = some a := by
  have hhead : ∀ c ∈ (opening ++ ' ' :: a.trail).head?, isBlank c = false := by
    intro c hc
    obtain rfl : 'L' = c := Option.some.inj hc
    decide
  have hlast : ∀ c ∈ opening.getLast?, isBlank c = false := by
    intro c hc
    obtain rfl : ':' = c := Option.some.inj hc
    decide
  obtain ⟨g, hstart, hgap, hg⟩ := exists_gap_trimStart ha.lead (by simp [opening_eq]) hhead
  obtain ⟨g', hend, hg'⟩ := exists_gap_trimEnd ha.trail (by simp [opening_eq]) hlast (a.lead ++ g)
  have htrim : trim a.openingLine = a.lead ++ g ++ (opening ++ (g' ++ a.trail)) := by
    have hline : a.openingLine = a.lead ++ ' ' :: (opening ++ ' ' :: a.trail) := by
      simp [Affixes.openingLine, opening_eq]
    rw [hline, trim, hstart, ← List.append_assoc, hend]
  have hlead : trimEnd (a.lead ++ g) = a.lead := by
    rw [trimEnd_append_of_blank hgap, trimEnd_eq_self ha.lead]
  have htrail : trim (g' ++ a.trail) = a.trail := by
    rw [trim, trimStart_append_of_blank hg']
    exact trim_eq_self ha.trail
  refine affixes?_eq_some_iff.mpr ⟨ha, a.lead ++ g, g' ++ a.trail, ?_, ?_⟩
  · rw [htrim]
    exact isFirstCut_opening (space_not_mem ha.lead) hg _
  · rw [hlead, htrail]

/-- No blank stands at the start of a key. -/
theorem IsKey.head_append (hk : IsKey k) (s : List Char) :
    ∀ c ∈ (k ++ s).head?, isBlank c = false := by
  obtain ⟨d, r, rfl⟩ := List.exists_cons_of_ne_nil hk.ne_nil
  intro c hc
  obtain rfl : d = c := Option.some.inj hc
  exact hk.not_blank d List.mem_cons_self

theorem IsKey.trimStart_append (hk : IsKey k) {g : List Char} (hg : ∀ c ∈ g, isBlank c = true)
    (s : List Char) : trimStart (g ++ (k ++ s)) = k ++ s := by
  rw [trimStart_append_of_blank hg]
  exact trimStart_append_of_head? hk.ne_nil
    (fun c hc => hk.head_append [] c (by rwa [List.append_nil])) s

/-- What a line of a list with a key is read as. -/
theorem entry?_of_isKey (ha : a.Solid) (hk : IsKey k) (behind : List Char) :
    entry? a (a.lead ++ ' ' :: (k ++ ':' :: behind)) =
      (dropTrail? a.trail (trimEnd behind)).bind fun value =>
        if value.isEmpty then none else some ⟨k, trim value⟩ := by
  have hne : k ++ ':' :: behind ≠ [] := by simp
  obtain ⟨g, hstart, hgap, -⟩ := exists_gap_trimStart ha.lead hne (hk.head_append _)
  have hcut : cutAt? ':' (k ++ ':' :: behind) = some (k, behind) :=
    cutAt?_eq_some_iff.mpr ⟨rfl, hk.colon_not_mem⟩
  have hplain : ¬(k.isEmpty || k.any isBlank) = true := by
    simpa [hk.ne_nil] using hk.not_blank
  unfold entry?
  rw [hstart, dropLead?_append]
  dsimp only [bind, Option.bind]
  rw [hk.trimStart_append hgap, hcut]
  dsimp only
  rw [if_neg hplain]

theorem entry?_entryLine (ha : a.Solid) (hv : IsEntry v) : entry? a (a.entryLine v) = some v := by
  have hline : a.entryLine v
      = a.lead ++ ' ' :: (v.key ++ ':' :: ([' '] ++ (v.value ++ ' ' :: a.trail))) := by
    simp [Affixes.entryLine]
  obtain ⟨g, hend, hg⟩ := exists_gap_trimEnd ha.trail hv.value_ne_nil hv.value_last [' ']
  have hdrop : dropTrail? a.trail (trimEnd ([' '] ++ (v.value ++ ' ' :: a.trail)))
      = some ([' '] ++ (v.value ++ g)) := by
    rw [hend, ← dropTrail?_append a.trail]
    simp
  have hvalue : trim ([' '] ++ (v.value ++ g)) = v.value :=
    trim_append_of_blank isBlank_of_mem_space hg hv.value_ne_nil hv.value_head hv.value_last
  rw [hline, entry?_of_isKey ha hv.key, hdrop, Option.bind_some, hvalue]
  rfl

/-! ## Feeding the lines -/

theorem feed_of_entry?_eq {line : List Char} (h : entry? a line = some v) (hne : v.key ≠ endKey) :
    feed (some a) line = (some a, some v) := by
  unfold feed
  dsimp only
  rw [h]
  exact if_neg hne

/-- A line that is no entry closes the list, and so does one whose key says so. -/
theorem feed_of_closing {line : List Char} (h : ∀ w, entry? a line = some w → w.key = endKey) :
    feed (some a) line = (none, none) := by
  unfold feed
  dsimp only
  cases hentry : entry? a line with
  | none => rfl
  | some w => exact if_pos (h w hentry)

theorem feed_openingLine (ha : a.Solid) : feed none a.openingLine = (some a, none) := by
  rw [feed_closed, affixes?_openingLine ha]

theorem feed_entryLine (ha : a.Solid) (hv : IsEntry v) :
    feed (some a) (a.entryLine v) = (some a, some v) :=
  feed_of_entry?_eq (entry?_entryLine ha hv) hv.key_ne_end

/-- With a trail, the line is an entry whose key closes the list. Without one, it is no entry. -/
theorem feed_endLine (ha : a.Solid) : feed (some a) a.endLine = (none, none) := by
  have hline : a.endLine = a.lead ++ ' ' :: (endKey ++ ':' :: ' ' :: a.trail) := by
    simp [Affixes.endLine, endKey]
  refine feed_of_closing fun w hw => ?_
  rw [hline, entry?_of_isKey ha isKey_endKey] at hw
  obtain ⟨value, -, hw⟩ := Option.bind_eq_some_iff.mp hw
  split at hw
  · cases hw
  · obtain rfl := Option.some.inj hw
    rfl

end Writing

end LocalVariables

namespace DirectiveState

open LocalVariables

/-- The state after lines that are read for lists of local variables, up to the first one that
fails. -/
def feedLocalVariableLines (d : DirectiveState) :
    List (List Char) → DirectiveState × Option OverlongNumeral
  | [] => (d, none)
  | line :: lines =>
    match d.feedLocalVariables line with
    | (d, none) => feedLocalVariableLines d lines
    | (d, some e) => (d, some e)

section Run

variable {a : Affixes} {d d' : DirectiveState} {line : List Char} {e : OverlongNumeral}
  {v : Variable} {vs : List Variable}

theorem feedLocalVariableLines_cons (h : d.feedLocalVariables line = (d', none))
    (lines : List (List Char)) :
    d.feedLocalVariableLines (line :: lines) = d'.feedLocalVariableLines lines := by
  rw [feedLocalVariableLines, h]

theorem feedLocalVariableLines_cons_of_error (h : d.feedLocalVariables line = (d', some e))
    (lines : List (List Char)) : d.feedLocalVariableLines (line :: lines) = (d', some e) := by
  rw [feedLocalVariableLines, h]

theorem feedLocalVariableLines_append (d : DirectiveState) (lines lines' : List (List Char)) :
    d.feedLocalVariableLines (lines ++ lines') = match d.feedLocalVariableLines lines with
      | (d', none) => d'.feedLocalVariableLines lines'
      | (d', some e) => (d', some e) := by
  induction lines generalizing d with
  | nil => rfl
  | cons line lines ih =>
    obtain ⟨d₁, r, hline⟩ : ∃ d₁ r, d.feedLocalVariables line = (d₁, r) := ⟨_, _, rfl⟩
    cases r with
    | none =>
      rw [List.cons_append, feedLocalVariableLines_cons hline, feedLocalVariableLines_cons hline]
      exact ih d₁
    | some e =>
      rw [List.cons_append, feedLocalVariableLines_cons_of_error hline,
        feedLocalVariableLines_cons_of_error hline]

/-- What a line does to the settings is what the variable does that it sets, if it sets one. -/
theorem feedLocalVariables_of_feed {scanner scanner' : Scanner} {entry : Option Variable}
    (h : LocalVariables.feed scanner line = (scanner', entry)) (s : Settings) :
    (⟨s, scanner⟩ : DirectiveState).feedLocalVariables line
      = (⟨(s.applyAll (entry.map Variable.read).toList).1, scanner'⟩,
        (s.applyAll (entry.map Variable.read).toList).2) := by
  unfold feedLocalVariables
  dsimp only
  rw [h]

theorem feedLocalVariables_openingLine (ha : a.Solid) (s : Settings) :
    (⟨s, none⟩ : DirectiveState).feedLocalVariables a.openingLine = (⟨s, some a⟩, none) :=
  feedLocalVariables_of_feed (feed_openingLine ha) s

theorem feedLocalVariables_entryLine (ha : a.Solid) (hv : IsEntry v) (s : Settings) :
    (⟨s, some a⟩ : DirectiveState).feedLocalVariables (a.entryLine v)
      = (⟨(s.applyAll [v.read]).1, some a⟩, (s.applyAll [v.read]).2) :=
  feedLocalVariables_of_feed (feed_entryLine ha hv) s

theorem feedLocalVariables_endLine (ha : a.Solid) (s : Settings) :
    (⟨s, some a⟩ : DirectiveState).feedLocalVariables a.endLine = (⟨s, none⟩, none) :=
  feedLocalVariables_of_feed (feed_endLine ha) s

/-- Outside a list, a line that opens none changes nothing. -/
theorem feedLocalVariables_of_not_isOpening (hd : d.scanner = none)
    (h : ∀ b, ¬IsOpening b line) : d.feedLocalVariables line = (d, none) := by
  have hnone : affixes? line = none := by
    refine Option.eq_none_iff_forall_ne_some.mpr fun b hb => ?_
    exact h b (affixes?_eq_some_iff.mp hb)
  obtain ⟨s, scanner⟩ := d
  obtain rfl : scanner = none := hd
  have hfeed : LocalVariables.feed none line = (none, none) := by rw [feed_closed, hnone]
  exact feedLocalVariables_of_feed hfeed s

/-- Inside a list, its variables are applied one line after the other. -/
theorem feedLocalVariableLines_entries (ha : a.Solid) (hvs : ∀ v ∈ vs, IsEntry v) (s : Settings) :
    (⟨s, some a⟩ : DirectiveState).feedLocalVariableLines (vs.map a.entryLine)
      = (⟨(s.applyAll (vs.map Variable.read)).1, some a⟩,
        (s.applyAll (vs.map Variable.read)).2) := by
  induction vs generalizing s with
  | nil => rfl
  | cons v vs ih =>
    have hline := feedLocalVariables_entryLine ha (hvs v List.mem_cons_self) s
    have hrest := ih fun w hw => hvs w (List.mem_cons_of_mem v hw)
    cases hread : v.read with
    | error e =>
      rw [hread] at hline
      rw [List.map_cons, List.map_cons, hread]
      exact feedLocalVariableLines_cons_of_error hline _
    | ok r =>
      rw [hread] at hline
      rw [List.map_cons, List.map_cons, hread]
      exact (feedLocalVariableLines_cons hline _).trans (hrest _)

theorem take_listLines {n : Nat} (hn : n ≤ vs.length) :
    (a.listLines vs).take (n + 1) = a.openingLine :: (vs.take n).map a.entryLine := by
  rw [Affixes.listLines, List.cons_append, List.take_succ_cons,
    List.take_append_of_le_length (by simpa using hn), List.map_take]

end Run

/--
**A list is read back as its variables.**

Its lines change the settings as the variables do one after the other. The scanner is inside the list
behind every line but the last, also where a variable fails, and outside behind the last. Outside, a line
that opens no list changes nothing.
-/
theorem feedLocalVariableLines_listLines (a : Affixes) (vs : List Variable) (d : DirectiveState)
    (ha : a.Solid) (hvs : ∀ v ∈ vs, IsEntry v) (hd : d.scanner = none) :
    (∀ s, d.settings.applyAll (vs.map Variable.read) = (s, none) →
      d.feedLocalVariableLines (a.listLines vs) = (⟨s, none⟩, none)) ∧
    (∀ s e, d.settings.applyAll (vs.map Variable.read) = (s, some e) →
      d.feedLocalVariableLines (a.listLines vs) = (⟨s, some a⟩, some e)) ∧
    (∀ n ≤ vs.length, d.feedLocalVariableLines ((a.listLines vs).take (n + 1))
      = (⟨(d.settings.applyAll ((vs.take n).map Variable.read)).1, some a⟩,
        (d.settings.applyAll ((vs.take n).map Variable.read)).2)) ∧
    ∀ line, (∀ b, ¬IsOpening b line) → d.feedLocalVariables line = (d, none) := by
  obtain ⟨t, scanner⟩ := d
  obtain rfl : scanner = none := hd
  have hopen := feedLocalVariables_openingLine ha t
  have hentries := feedLocalVariableLines_entries ha hvs t
  refine ⟨fun s hs => ?_, fun s e hs => ?_, fun n hn => ?_, fun line hline => ?_⟩
  · dsimp only at hs
    rw [Affixes.listLines, List.cons_append, feedLocalVariableLines_cons hopen,
      feedLocalVariableLines_append, hentries, hs]
    exact feedLocalVariableLines_cons (feedLocalVariables_endLine ha s) []
  · dsimp only at hs
    rw [Affixes.listLines, List.cons_append, feedLocalVariableLines_cons hopen,
      feedLocalVariableLines_append, hentries, hs]
  · rw [take_listLines hn, feedLocalVariableLines_cons hopen]
    exact feedLocalVariableLines_entries ha (fun v hv => hvs v (List.mem_of_mem_take hv)) t
  · exact feedLocalVariables_of_not_isOpening rfl hline

/-- The lead ends like the words that open the list, and a value holds a colon and the trail. -/
theorem feedLocalVariableLines_listLines_trail_in_value :
    (⟨"/*Local".toList, "*/".toList⟩ : Affixes).Solid ∧
      (∀ v ∈ [(⟨"mode".toList, "C: */ x".toList⟩ : Variable), ⟨"tab-width".toList, "4".toList⟩],
        IsEntry v) ∧
      ({} : DirectiveState).scanner = none ∧
      ({} : DirectiveState).feedLocalVariableLines ["/*Local Local Variables: */".toList,
          "/*Local mode: C: */ x */".toList, "/*Local tab-width: 4 */".toList,
          "/*Local End: */".toList]
        = (⟨{ tabStop := some 4 }, none⟩, none) := by
  have ha : (⟨"/*Local".toList, "*/".toList⟩ : Affixes).Solid :=
    ⟨forall_mem_of_all (by decide), forall_mem_of_all (by decide)⟩
  have hvs : ∀ v ∈ [(⟨"mode".toList, "C: */ x".toList⟩ : Variable),
      ⟨"tab-width".toList, "4".toList⟩], IsEntry v := by
    intro v hv
    simp only [List.mem_cons, List.not_mem_nil, or_false] at hv
    rcases hv with rfl | rfl
    · exact ⟨⟨by simp, forall_mem_of_all (by decide), by decide⟩, by decide, by simp,
        by simp [isBlank], by simp [isBlank]⟩
    · exact ⟨⟨by simp, forall_mem_of_all (by decide), by decide⟩, by decide, by simp,
        by simp [isBlank], by simp [isBlank]⟩
  have hlines : ["/*Local Local Variables: */".toList, "/*Local mode: C: */ x */".toList,
      "/*Local tab-width: 4 */".toList, "/*Local End: */".toList]
        = (⟨"/*Local".toList, "*/".toList⟩ : Affixes).listLines
          [⟨"mode".toList, "C: */ x".toList⟩, ⟨"tab-width".toList, "4".toList⟩] := by
    decide
  have happly : ({} : Settings).applyAll ([(⟨"mode".toList, "C: */ x".toList⟩ : Variable),
      ⟨"tab-width".toList, "4".toList⟩].map Variable.read) = ({ tabStop := some 4 }, none) := by
    cbv
  refine ⟨ha, hvs, rfl, ?_⟩
  rw [hlines]
  exact (feedLocalVariableLines_listLines _ _ {} ha hvs rfl).1 _ happly

end DirectiveState

end Indentation
