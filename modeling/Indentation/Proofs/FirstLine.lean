import Indentation.Directive.FirstLine
import Indentation.Proofs.Place
import Indentation.Proofs.Text

/-!
# Lists of variables on a line

What the longest list behind the leftmost opening is, in terms of the line alone: openings by the
position at which they stand (`OpensAt`), lists by the segments that they take up (`Lists`), and of all
openings and all lists the ones that count (`IsFirst`). None of this mentions how they are searched
for.

## Main statements

* `opensAt_iff` — a marker opens a list exactly if a name starts and ends behind it and a semicolon
  stands there
* `offset_le_of_name?` — no marker starts between a marker and the name behind it
* `lists_segment_iff` — a list takes up the segment at its start, and ends there or goes on
* `IsFirst.unique` — the list that counts is determined by the line
-/

namespace Indentation.FirstLine

open Text

/-! ## Openings, lists and closings -/

/-- A marker, the key of the mode and a name, with blanks before and behind the key. The name holds
neither blanks nor semicolons. -/
def IsOpening (o : List Char) : Prop :=
  ∃ w₁ w₂ name, o = marker ++ w₁ ++ modeKey ++ w₂ ++ name ∧ (∀ c ∈ w₁, isBlank c = true) ∧
    (∀ c ∈ w₂, isBlank c = true) ∧ name ≠ [] ∧ ∀ c ∈ name, isBlank c = false ∧ c ≠ ';'

/-- An opening stands at position `p` of a line, with a semicolon behind it at position `e`. -/
def OpensAt (line : List Char) (p e : Nat) : Prop :=
  ∃ o rest, line.drop p = o ++ ';' :: rest ∧ IsOpening o ∧ e = p + o.length

/-- A text starts with a marker, blanks aside. -/
def IsClosing (s : List Char) : Prop :=
  ∃ w rest, s = w ++ marker ++ rest ∧ ∀ c ∈ w, isBlank c = true

/-- A text starts with `n` segments, each with a semicolon behind it, that are the variables `vs`, and
the text behind them starts with a marker. -/
def Lists (s : List Char) (n : Nat) (vs : List Variable) : Prop :=
  0 < n ∧ ∃ (segments : List (List Char)) (tail : List Char),
    s = segments.flatMap (· ++ [';']) ++ tail ∧ (∀ g ∈ segments, ';' ∉ g) ∧
      segments.length = n ∧ segments.map pair? = vs.map some ∧ IsClosing tail

/-- The `n` segments behind the opening at position `p` are the variables `vs`, and a marker stands
behind them. -/
def Admissible (line : List Char) (p n : Nat) (vs : List Variable) : Prop :=
  ∃ e, OpensAt line p e ∧ Lists (line.drop (e + 1)) n vs

/-! ### Openings -/

theorem marker_eq (s : List Char) : marker ++ s = '-' :: '*' :: '-' :: s := rfl

theorem semicolon_not_mem_of_blank {w : List Char} (hw : ∀ c ∈ w, isBlank c = true) : ';' ∉ w :=
  fun h => absurd (hw ';' h) (by decide)

theorem IsOpening.semicolon_not_mem {o : List Char} (h : IsOpening o) : ';' ∉ o := by
  obtain ⟨w₁, w₂, name, rfl, hw₁, hw₂, -, hname⟩ := h
  simp only [List.mem_append, not_or]
  exact ⟨⟨⟨⟨by decide, semicolon_not_mem_of_blank hw₁⟩, by decide⟩, semicolon_not_mem_of_blank hw₂⟩,
    fun hc => (hname ';' hc).2 rfl⟩

section Names

variable {line : List Char} {mark name : Place line} {w₁ w₂ r : List Char}

/-- The name is found behind a marker and the key of the mode, wherever blanks stand. -/
theorem name?_eq_some (hrest : mark.rest = marker ++ w₁ ++ modeKey ++ w₂ ++ r)
    (hw₁ : ∀ c ∈ w₁, isBlank c = true) (hw₂ : ∀ c ∈ w₂, isBlank c = true)
    (hr : ∀ c ∈ r.head?, isBlank c = false) :
    name? mark = some (mark.move (marker ++ w₁ ++ modeKey ++ w₂).length) := by
  have hbehind : (mark.move marker.length).rest = w₁ ++ (modeKey ++ (w₂ ++ r)) :=
    Place.rest_move_of_append (by simpa using hrest)
  have hpass : (mark.move marker.length).pass isBlank = mark.move (marker.length + w₁.length) := by
    rw [Place.pass_eq_move hbehind hw₁ fun c hc => ?_, Place.move_move]
    obtain rfl : 'm' = c := Option.some.inj hc
    decide
  have hkey : (mark.move (marker.length + w₁.length)).rest = modeKey ++ (w₂ ++ r) := by
    rw [← Place.move_move]
    exact Place.rest_move_of_append hbehind
  have hholds : (mark.move (marker.length + w₁.length)).holds modeKey = true :=
    Place.holds_iff.mpr ⟨w₂ ++ r, hkey⟩
  rw [name?, hpass, if_pos hholds, Place.pass_eq_move (Place.rest_move_of_append hkey) hw₂ hr,
    Place.move_move, Place.move_move]
  simp only [List.length_append, Nat.add_assoc]

/-- **Where a name is found**, the key of the mode stands between it and the marker. -/
theorem exists_of_name? (hm : mark.holds marker = true) (h : name? mark = some name) :
    ∃ w₁ w₂ r, mark.rest = marker ++ w₁ ++ modeKey ++ w₂ ++ r ∧ (∀ c ∈ w₁, isBlank c = true) ∧
      (∀ c ∈ w₂, isBlank c = true) ∧ (∀ c ∈ r.head?, isBlank c = false) ∧
      name = mark.move (marker ++ w₁ ++ modeKey ++ w₂).length := by
  obtain ⟨x, hx⟩ := Place.holds_iff.mp hm
  obtain ⟨w₁, y, hw₁, hy, rfl⟩ := exists_run isBlank x
  have hbehind : (mark.move marker.length).rest = w₁ ++ y := Place.rest_move_of_append hx
  rw [name?, Place.pass_eq_move hbehind hw₁ hy] at h
  split at h
  · next hholds =>
    obtain ⟨z, hz⟩ := Place.holds_iff.mp hholds
    obtain rfl : y = modeKey ++ z := (Place.rest_move_of_append hbehind).symm.trans hz
    obtain ⟨w₂, r, hw₂, hr, rfl⟩ := exists_run isBlank z
    have hrest : mark.rest = marker ++ w₁ ++ modeKey ++ w₂ ++ r := by simpa using hx
    refine ⟨w₁, w₂, r, hrest, hw₁, hw₂, hr, ?_⟩
    rw [← Place.pass_eq_move hbehind hw₁ hy] at hholds h
    have hname : name? mark = some name := by rw [name?, if_pos hholds, h]
    exact Option.some.inj (hname.symm.trans (name?_eq_some hrest hw₁ hw₂ hr))
  · cases h

/-- **No marker starts between a marker and the name behind it.** -/
theorem offset_le_of_name? (hm : mark.holds marker = true) (h : name? mark = some name)
    {mark' : Place line} (hm' : mark'.holds marker = true) (hlt : mark.offset < mark'.offset) :
    name.offset ≤ mark'.offset := by
  obtain ⟨w₁, w₂, r, hrest, hw₁, hw₂, -, rfl⟩ := exists_of_name? hm h
  obtain ⟨rest', hrest'⟩ := Place.holds_iff.mp hm'
  obtain ⟨d, hd⟩ := Nat.exists_eq_add_of_lt hlt
  obtain rfl : mark' = mark.move (d + 1) := Place.ext_offset hd
  have hbetween : ∀ c ∈ w₁ ++ modeKey ++ w₂, c ≠ '-' ∧ c ≠ '*' := by
    intro c hc
    have hcases : isBlank c = true ∨ c ∈ modeKey := by
      rcases List.mem_append.mp hc with hc | hc
      · exact (List.mem_append.mp hc).imp (hw₁ c) id
      · exact Or.inl (hw₂ c hc)
    constructor <;> rintro rfl <;> revert hcases <;> decide
  -- the characters from the second one on are a star, a minus and those between marker and name
  have hchars : ∀ k, ('*' :: '-' :: (w₁ ++ modeKey ++ w₂ ++ r))[d + k]? = (marker ++ rest')[k]? := by
    intro k
    rw [← hrest', Place.rest_move, List.getElem?_drop, hrest, Nat.add_right_comm]
    simp [marker_eq]
  have hminus : ('*' :: '-' :: (w₁ ++ modeKey ++ w₂ ++ r))[d]? = some '-' := hchars 0
  have hstar : ('*' :: '-' :: (w₁ ++ modeKey ++ w₂ ++ r))[d + 1]? = some '*' := hchars 1
  refine Nat.le_of_not_lt fun hshort => ?_
  have hlen : d < (w₁ ++ modeKey ++ w₂).length + 2 := by
    simp only [Place.offset_move, List.length_append, marker, List.length_cons, List.length_nil]
      at hshort ⊢
    omega
  have hmem : ∀ k c, k < (w₁ ++ modeKey ++ w₂).length →
      (w₁ ++ modeKey ++ w₂ ++ r)[k]? = some c → c ∈ w₁ ++ modeKey ++ w₂ := fun k c hk hc =>
    List.mem_of_getElem? (by rwa [List.getElem?_append_left hk] at hc)
  have hpos : 0 < (w₁ ++ modeKey ++ w₂).length := by
    simp only [List.length_append, modeKey, List.length_cons]
    omega
  match d with
  | 0 => exact absurd (Option.some.inj hminus) (by decide)
  | 1 => exact (hbetween '*' (hmem 0 '*' hpos hstar)).2 rfl
  | d + 2 => exact (hbetween '-' (hmem d '-' (by omega) hminus)).1 rfl

theorem isNameStop_eq_false_iff {c : Char} :
    isNameStop c = false ↔ isBlank c = false ∧ c ≠ ';' := by
  simp [isNameStop]

/-- **A marker opens a list exactly if a name starts and ends behind it and a semicolon stands
there.** -/
theorem opensAt_iff (hm : mark.holds marker = true) {e : Nat} :
    OpensAt line mark.offset e ↔ ∃ name, name? mark = some name ∧
      name.offset < (nameStop name).offset ∧ (nameStop name).holds [';'] = true ∧
        e = (nameStop name).offset := by
  constructor
  · rintro ⟨o, rest, hdrop, ⟨w₁, w₂, n, rfl, hw₁, hw₂, hne, hn⟩, rfl⟩
    have hrest : mark.rest = marker ++ w₁ ++ modeKey ++ w₂ ++ (n ++ ';' :: rest) := by
      rw [← mark.drop_offset, hdrop]
      simp only [List.append_assoc]
    have hhead : ∀ c ∈ (n ++ ';' :: rest).head?, isBlank c = false := by
      intro c hc
      cases n with
      | nil => exact absurd rfl hne
      | cons d n =>
        obtain rfl : d = c := Option.some.inj hc
        exact (hn d List.mem_cons_self).1
    have hname := Place.rest_move_of_append hrest
    have hstop : nameStop (mark.move (marker ++ w₁ ++ modeKey ++ w₂).length)
        = (mark.move (marker ++ w₁ ++ modeKey ++ w₂).length).move n.length := by
      refine Place.pass_eq_move hname ?_ ?_
      · intro c hc
        rw [isNameStop_eq_false_iff.mpr (hn c hc), Bool.not_false]
      · intro c hc
        obtain rfl : ';' = c := Option.some.inj hc
        decide
    have hpos := List.length_pos_iff.mpr hne
    refine ⟨_, name?_eq_some hrest hw₁ hw₂ hhead, ?_, ?_, ?_⟩
    · rw [hstop]
      exact Nat.lt_add_of_pos_right hpos
    · rw [hstop]
      exact Place.holds_iff.mpr ⟨rest, Place.rest_move_of_append hname⟩
    · rw [hstop, Place.move_move, Place.offset_move]
      simp only [List.length_append, Nat.add_assoc]
  · rintro ⟨name, hname, hlt, hsemicolon, rfl⟩
    obtain ⟨w₁, w₂, r, hrest, hw₁, hw₂, -, rfl⟩ := exists_of_name? hm hname
    obtain ⟨n, x, hn, hx, rfl⟩ := exists_run (fun c => !isNameStop c) r
    have hbehind := Place.rest_move_of_append hrest
    rw [nameStop, Place.pass_eq_move hbehind hn hx] at hlt hsemicolon ⊢
    obtain ⟨rest, hrest'⟩ := Place.holds_iff.mp hsemicolon
    obtain rfl : x = ';' :: rest := (Place.rest_move_of_append hbehind).symm.trans hrest'
    have hne : n ≠ [] := by
      rintro rfl
      exact Nat.lt_irrefl _ hlt
    refine ⟨marker ++ w₁ ++ modeKey ++ w₂ ++ n, rest, ?_, ⟨w₁, w₂, n, rfl, hw₁, hw₂, hne, ?_⟩, ?_⟩
    · rw [mark.drop_offset, hrest, List.append_assoc _ n]
    · intro c hc
      exact isNameStop_eq_false_iff.mp (Bool.not_eq_true' _ ▸ hn c hc)
    · simp only [Place.move_move, Place.offset_move, List.length_append, Nat.add_assoc]

theorem OpensAt.unique {p e f : Nat} (h : OpensAt line p e) (h' : OpensAt line p f) : e = f := by
  obtain ⟨o, rest, hdrop, ho, rfl⟩ := h
  obtain ⟨o', rest', hdrop', ho', rfl⟩ := h'
  obtain ⟨rfl, -⟩ := append_cons_inj ho.semicolon_not_mem ho'.semicolon_not_mem
    (hdrop.symm.trans hdrop')
  rfl

/-- An opening starts with a marker. -/
theorem OpensAt.exists_marker {p e : Nat} (h : OpensAt line p e) :
    ∃ mark ∈ Place.findAll marker line, mark.offset = p := by
  obtain ⟨o, rest, hdrop, ⟨w₁, w₂, n, rfl, -⟩, -⟩ := h
  refine ⟨⟨p, line.drop p, rfl⟩, ?_, rfl⟩
  rw [Place.mem_findAll (by decide)]
  exact Place.holds_iff.mpr ⟨w₁ ++ (modeKey ++ (w₂ ++ (n ++ ';' :: rest))), by simpa using hdrop⟩

end Names

/-! ### Closings and lists -/

section Lists

variable {g s : List Char} {n : Nat} {vs us : List Variable}

theorem isClosing_iff : closes s = true ↔ IsClosing s := by
  unfold closes IsClosing
  rw [List.isPrefixOf_iff_prefix]
  constructor
  · rintro ⟨rest, hrest⟩
    obtain ⟨w, hs, hw⟩ := exists_blank_append_trimStart s
    exact ⟨w, rest, by rw [List.append_assoc, hrest]; exact hs, hw⟩
  · rintro ⟨w, rest, rfl, hw⟩
    rw [List.append_assoc, trimStart_append_of_blank hw, marker_eq,
      trimStart_cons_of_not_blank (by decide)]
    exact ⟨rest, rfl⟩

theorem not_lists_of_not_mem (hg : ';' ∉ g) : ¬ Lists g n vs := by
  rintro ⟨hn, segments, tail, rfl, -, rfl, -⟩
  cases segments with
  | nil => simp at hn
  | cons h segments => exact hg (by simp)

/-- A list at the start of a text takes up the segment at its start, and ends there or goes on. -/
theorem lists_segment_iff (hg : ';' ∉ g) {n : Nat} {vs : List Variable} :
    Lists (g ++ ';' :: s) n vs ↔
      ∃ m v us, n = m + 1 ∧ vs = v :: us ∧ pair? g = some v ∧
        (m = 0 ∧ us = [] ∧ IsClosing s ∨ Lists s m us) := by
  constructor
  · rintro ⟨hn, segments, tail, hs, hseg, rfl, hmap, htail⟩
    cases segments with
    | nil => simp at hn
    | cons h segments =>
      cases vs with
      | nil => simp at hmap
      | cons v us =>
        obtain ⟨hv, hus⟩ := List.cons.inj hmap
        have hs' : g ++ ';' :: s = h ++ ';' :: (segments.flatMap (· ++ [';']) ++ tail) := by
          simpa using hs
        obtain ⟨rfl, rfl⟩ := append_cons_inj hg (hseg h List.mem_cons_self) hs'
        refine ⟨segments.length, v, us, rfl, rfl, hv, ?_⟩
        cases segments with
        | nil =>
          refine Or.inl ⟨rfl, ?_, by simpa using htail⟩
          simpa using hus
        | cons h' segments =>
          exact Or.inr ⟨Nat.succ_pos _, h' :: segments, tail, rfl,
            fun k hk => hseg k (List.mem_cons_of_mem _ hk), rfl, hus, htail⟩
  · rintro ⟨m, v, us, rfl, rfl, hv, ⟨rfl, rfl, hclosing⟩ | ⟨-, segments, tail, rfl, hseg, hlen, hus, htail⟩⟩
    · exact ⟨Nat.one_pos, [g], s, by simp, by simpa using hg, rfl, by simpa using hv, hclosing⟩
    · refine ⟨Nat.succ_pos m, g :: segments, tail, by simp, ?_, by simp [hlen], by simp [hv, hus],
        htail⟩
      intro h hh
      rcases List.mem_cons.mp hh with rfl | hh
      · exact hg
      · exact hseg h hh

theorem segments_inj {a b : List (List Char)} {x y : List Char} (ha : ∀ g ∈ a, ';' ∉ g)
    (hb : ∀ g ∈ b, ';' ∉ g) (hlen : a.length = b.length)
    (h : a.flatMap (· ++ [';']) ++ x = b.flatMap (· ++ [';']) ++ y) : a = b := by
  induction a generalizing b with
  | nil => exact (List.eq_nil_of_length_eq_zero hlen.symm).symm
  | cons g a ih =>
    cases b with
    | nil => cases hlen
    | cons g' b =>
      have h' : g ++ ';' :: (a.flatMap (· ++ [';']) ++ x)
          = g' ++ ';' :: (b.flatMap (· ++ [';']) ++ y) := by simpa using h
      obtain ⟨rfl, hrest⟩ := append_cons_inj (ha g List.mem_cons_self) (hb g' List.mem_cons_self) h'
      rw [ih (fun k hk => ha k (List.mem_cons_of_mem _ hk))
        (fun k hk => hb k (List.mem_cons_of_mem _ hk)) (Nat.succ.inj hlen) hrest]

/-- The number of segments determines the list. -/
theorem Lists.unique (h : Lists s n vs) (h' : Lists s n us) : vs = us := by
  obtain ⟨-, a, x, hs, ha, hlen, hvs, -⟩ := h
  obtain ⟨-, b, y, hs', hb, hlen', hus, -⟩ := h'
  obtain rfl := segments_inj ha hb (hlen.trans hlen'.symm) (hs.symm.trans hs')
  exact (List.map_inj_right fun _ _ => Option.some.inj).mp (hvs.symm.trans hus)

theorem Lists.length_eq (h : Lists s n vs) : n = vs.length := by
  obtain ⟨-, segments, tail, -, -, rfl, hmap, -⟩ := h
  simpa using congrArg List.length hmap

theorem Lists.ne_nil (h : Lists s n vs) : vs ≠ [] := by
  rintro rfl
  obtain rfl := h.length_eq
  exact Nat.lt_irrefl 0 h.1

end Lists

/-! ## What counts -/

/-- The longest list at the start of a text, `none` where there is no list. -/
def IsLongest (s : List Char) : Option (List Variable) → Prop
  | none => ∀ n vs, ¬ Lists s n vs
  | some vs => ∃ n, Lists s n vs ∧ ∀ m us, Lists s m us → m ≤ n

/-- The longest list behind the leftmost opening that has a list, `none` where no opening has one. -/
def IsFirst (line : List Char) : Option (List Variable) → Prop
  | none => ∀ p n vs, ¬ Admissible line p n vs
  | some vs => ∃ p n, Admissible line p n vs ∧
      ∀ q m us, Admissible line q m us → p < q ∨ p = q ∧ m ≤ n

section Counts

variable {g s line : List Char} {n p e : Nat} {vs us : List Variable} {list : Option (List Variable)}

/-- The longest list that starts with a segment, given what stands behind the segment and the longest
list there. -/
def longestBefore (g s : List Char) (list : Option (List Variable)) : Option (List Variable) :=
  match pair? g, list with
  | none, _ => none
  | some v, some vs => some (v :: vs)
  | some v, none => if closes s then some [v] else none

/-- **A segment put in front takes the longest list one step further.** -/
theorem IsLongest.before (hg : ';' ∉ g) (h : IsLongest s list) :
    IsLongest (g ++ ';' :: s) (longestBefore g s list) := by
  cases hv : pair? g with
  | none =>
    simp only [longestBefore, hv]
    rintro n vs hl
    obtain ⟨m, v, us, -, -, hp, -⟩ := (lists_segment_iff hg).mp hl
    rw [hv] at hp
    cases hp
  | some v =>
    cases list with
    | some vs =>
      simp only [longestBefore, hv]
      obtain ⟨n, hn, hmax⟩ := h
      refine ⟨n + 1, (lists_segment_iff hg).mpr ⟨n, v, vs, rfl, rfl, hv, Or.inr hn⟩, ?_⟩
      intro m us hm
      obtain ⟨k, w, ws, rfl, rfl, -, ⟨rfl, -, -⟩ | hk⟩ := (lists_segment_iff hg).mp hm
      · omega
      · exact Nat.succ_le_succ (hmax k ws hk)
    | none =>
      by_cases hc : closes s = true
      · -- nothing but the segment itself stands before the marker
        simp only [longestBefore, hv, hc]
        refine ⟨1, (lists_segment_iff hg).mpr
          ⟨0, v, [], rfl, rfl, hv, Or.inl ⟨rfl, rfl, isClosing_iff.mp hc⟩⟩, ?_⟩
        intro m us hm
        obtain ⟨k, w, ws, rfl, rfl, -, ⟨rfl, -, -⟩ | hk⟩ := (lists_segment_iff hg).mp hm
        · exact Nat.le_refl 1
        · exact absurd hk (h k ws)
      · simp only [longestBefore, hv, hc]
        rintro m us hm
        obtain ⟨k, w, ws, rfl, rfl, -, ⟨-, -, hclosing⟩ | hk⟩ := (lists_segment_iff hg).mp hm
        · exact hc (isClosing_iff.mpr hclosing)
        · exact h k ws hk

theorem Admissible.unique (h : Admissible line p n vs) (h' : Admissible line p n us) : vs = us := by
  obtain ⟨e, hopen, hlists⟩ := h
  obtain ⟨f, hopen', hlists'⟩ := h'
  obtain rfl := hopen.unique hopen'
  exact hlists.unique hlists'

theorem Admissible.ne_nil (h : Admissible line p n vs) : vs ≠ [] := by
  obtain ⟨e, -, hlists⟩ := h
  exact hlists.ne_nil

/-- The list that counts is determined by the line. -/
theorem IsFirst.unique (h : IsFirst line (some vs)) (h' : IsFirst line (some us)) : vs = us := by
  obtain ⟨p, n, hadm, hfirst⟩ := h
  obtain ⟨q, m, hadm', hfirst'⟩ := h'
  have hp : p = q ∧ n = m := by
    rcases hfirst q m us hadm' with h₁ | ⟨h₁, h₂⟩ <;>
      rcases hfirst' p n vs hadm with h₃ | ⟨h₃, h₄⟩ <;> omega
  obtain ⟨rfl, rfl⟩ := hp
  exact hadm.unique hadm'

theorem IsFirst.eq_none_iff {found : Option (List Variable)} (h : IsFirst line found) :
    found = none ↔ ∀ p n vs, ¬ Admissible line p n vs := by
  constructor
  · rintro rfl
    exact h
  · intro hno
    cases found with
    | none => rfl
    | some vs =>
      obtain ⟨p, n, hadm, -⟩ := h
      exact absurd hadm (hno p n vs)

theorem IsFirst.eq_some_iff {found : Option (List Variable)} (h : IsFirst line found) :
    found = some vs ↔ IsFirst line (some vs) := by
  constructor
  · rintro rfl
    exact h
  · intro hvs
    cases found with
    | none =>
      obtain ⟨p, n, hadm, -⟩ := hvs
      exact absurd hadm (h p n vs)
    | some us => exact congrArg some (h.unique hvs)

theorem IsFirst.ne_nil (h : IsFirst line (some vs)) : vs ≠ [] := by
  obtain ⟨p, n, hadm, -⟩ := h
  exact hadm.ne_nil

/-- No list stands on a line without a semicolon. -/
theorem not_admissible_of_not_mem (hline : ';' ∉ line) : ¬ Admissible line p n vs := by
  rintro ⟨e, ⟨o, rest, hdrop, -⟩, -⟩
  refine hline (List.mem_of_mem_drop (i := p) ?_)
  rw [hdrop]
  simp

end Counts

end Indentation.FirstLine
