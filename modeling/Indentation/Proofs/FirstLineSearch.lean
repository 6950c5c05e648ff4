import Indentation.Proofs.FirstLine

/-!
# The search for a list of variables

The markers of a line are looked at one after the other, with what is known from the last ones at hand.
What is known is always right for the markers still to come (`Known.Valid`), so each look gives the
longest list that the marker opens (`visit_spec`), no lookup fails, and the search ends at the first
marker that opens a list (`search_spec`).

## Main statements

* `exists_reach` — the table says how far the longest list behind each segment extends
* `exists_listBehind` — no lookup fails for a semicolon of the line
* `list?_spec` — the list found is the longest one behind the leftmost opening that has a list
-/

namespace Indentation.FirstLine

open Text

variable {line : List Char}

/-! ## The segments of a line -/

/-- The text from a place on is cut at some semicolons, and holds no other ones. -/
inductive IsCut : Place line → List (Place line) → Prop
  /-- There is no semicolon left. -/
  | last {start : Place line} : ';' ∉ start.rest → IsCut start []
  /-- A segment, with a semicolon behind it. -/
  | segment {start stop : Place line} {ends : List (Place line)} : ';' ∉ start.upTo stop →
      start.rest = start.upTo stop ++ ';' :: (stop.move 1).rest → IsCut (stop.move 1) ends →
      IsCut start (stop :: ends)

theorem rest_of_holds_semicolon {stop : Place line} (h : stop.holds [';'] = true) :
    stop.rest = ';' :: (stop.move 1).rest := by
  obtain ⟨rest, hrest⟩ := Place.holds_iff.mp h
  rw [Place.rest_move, hrest]
  rfl

/-- A text is cut at its semicolons. -/
theorem isCut_of_mem {start : Place line} {ends : List (Place line)}
    (hmem : ∀ e : Place line, e ∈ ends ↔ start.offset ≤ e.offset ∧ e.holds [';'] = true)
    (hsorted : ends.Pairwise (·.offset < ·.offset)) : IsCut start ends := by
  induction ends generalizing start with
  | nil =>
    refine .last fun hc => ?_
    obtain ⟨n, hn⟩ := Place.exists_of_mem_rest hc
    exact absurd ((hmem _).mpr ⟨Nat.le_add_right _ n, hn⟩) List.not_mem_nil
  | cons stop ends ih =>
    obtain ⟨hfirst, hsorted⟩ := List.pairwise_cons.mp hsorted
    obtain ⟨hle, hstop⟩ := (hmem stop).mp List.mem_cons_self
    refine .segment ?_ ?_ (ih ?_ hsorted)
    · intro hc
      obtain ⟨n, hlt, hn⟩ := Place.exists_of_mem_upTo hc
      -- the semicolon would be one of those behind the first one
      rcases List.mem_cons.mp ((hmem _).mpr ⟨Nat.le_add_right _ n, hn⟩) with heq | htail
      · exact absurd (congrArg Place.offset heq) (Nat.ne_of_lt hlt)
      · exact absurd (hfirst _ htail) (Nat.lt_asymm hlt)
    · rw [← rest_of_holds_semicolon hstop]
      exact Place.rest_eq_upTo_append hle
    · intro e
      constructor
      · intro he
        exact ⟨hfirst e he, ((hmem e).mp (List.mem_cons_of_mem _ he)).2⟩
      · rintro ⟨hlt, he⟩
        have hlt : stop.offset < e.offset := hlt
        rcases List.mem_cons.mp ((hmem e).mpr ⟨by omega, he⟩) with rfl | htail
        · exact absurd hlt (Nat.lt_irrefl _)
        · exact htail

/-- The semicolons found on a line cut it. -/
theorem isCut_findAll (line : List Char) : IsCut (.start line) (Place.findAll [';'] line) := by
  refine isCut_of_mem (fun e => ?_) (Place.pairwise_findAll _ _)
  rw [Place.mem_findAll (by decide)]
  exact ⟨fun h => ⟨Nat.zero_le _, h⟩, And.right⟩

theorem IsCut.drop {start stop : Place line} {ends : List (Place line)} (h : IsCut start ends)
    {k : Nat} (hk : ends[k]? = some stop) : IsCut (stop.move 1) (ends.drop (k + 1)) := by
  induction h generalizing k with
  | last => cases hk
  | segment _ _ hcut ih =>
    cases k with
    | zero =>
      obtain rfl := Option.some.inj hk
      exact hcut
    | succ k => exact ih hk

/-! ## The table -/

theorem pairs_cons (start stop : Place line) (ends : List (Place line)) :
    pairs start (stop :: ends) = pair? (start.upTo stop) :: pairs (stop.move 1) ends := rfl

theorem pairs_drop (start : Place line) {stop : Place line} {ends : List (Place line)} {k : Nat}
    (hk : ends[k]? = some stop) :
    (pairs start ends).drop (k + 1) = pairs (stop.move 1) (ends.drop (k + 1)) := by
  induction ends generalizing start k with
  | nil => cases hk
  | cons e ends ih =>
    cases k with
    | zero =>
      obtain rfl := Option.some.inj hk
      rfl
    | succ k =>
      rw [pairs_cons, List.drop_succ_cons, List.drop_succ_cons]
      exact ih (e.move 1) hk

theorem reaches_cons (number : Nat) (s : Option Variable × Place line)
    (segments : List (Option Variable × Place line)) :
    reaches number (s :: segments) =
      furthest number s.1 s.2 ((reaches (number + 1) segments).headD none) ::
        reaches (number + 1) segments := rfl

theorem reaches_drop {segments : List (Option Variable × Place line)} {number k : Nat}
    (hk : k ≤ segments.length) :
    (reaches number segments).drop k = reaches (number + k) (segments.drop k) := by
  induction k generalizing number segments with
  | zero => rfl
  | succ k ih =>
    cases segments with
    | nil => cases hk
    | cons s segments =>
      rw [reaches_cons, List.drop_succ_cons, List.drop_succ_cons, ih (Nat.le_of_succ_le_succ hk),
        Nat.add_assoc, Nat.add_comm 1]

theorem head?_reaches (number : Nat) (segments : List (Option Variable × Place line)) :
    (reaches number segments).head? = some ((reaches number segments).headD none) := by
  cases segments <;> rfl

/-- How far a list extends follows from how far the one behind the next segment does. -/
theorem furthest_eq (start stop : Place line) (k : Nat) (list : Option (List Variable)) :
    furthest (k + 1) (pair? (start.upTo stop)) stop (list.map (k + 1 + ·.length)) =
      (longestBefore (start.upTo stop) (stop.move 1).rest list).map (k + ·.length) := by
  unfold furthest longestBefore
  cases pair? (start.upTo stop) with
  | none => rfl
  | some v =>
    cases list with
    | some vs => simp [Nat.add_assoc, Nat.add_comm 1]
    | none => cases closes (stop.move 1).rest <;> rfl

/-- The variables of a list are what the segments that it takes up are read as. -/
theorem prefix_of_longestBefore {g s : List Char} {list : Option (List Variable)}
    {read : List (Option Variable)} (hlist : ∀ vs ∈ list, vs.map some <+: read) {us : List Variable}
    (hus : us ∈ longestBefore g s list) : us.map some <+: pair? g :: read := by
  unfold longestBefore at hus
  split at hus
  · cases hus
  · next v vs hv =>
    obtain rfl := Option.some.inj hus
    rw [hv, List.map_cons]
    exact List.cons_prefix_cons.mpr ⟨rfl, hlist vs rfl⟩
  · next v hv =>
    split at hus
    · obtain rfl := Option.some.inj hus
      rw [hv]
      exact List.cons_prefix_cons.mpr ⟨rfl, List.nil_prefix⟩
    · cases hus

/--
**The table says how far the longest list from a place on extends**, and its entries are those of the
list.

The table is filled from the last segment to the first, so the induction is on the segments that
follow.
-/
theorem exists_reach {start : Place line} {ends : List (Place line)} (h : IsCut start ends) (k : Nat) :
    ∃ list, IsLongest start.rest list ∧
      (reaches (k + 1) ((pairs start ends).zip ends)).headD none = list.map (k + ·.length) ∧
      ∀ vs ∈ list, vs.map some <+: pairs start ends := by
  induction h generalizing k with
  | last hlast => exact ⟨none, fun n vs => not_lists_of_not_mem hlast, rfl, fun vs hvs => by cases hvs⟩
  | @segment start stop ends hsegment hrest _ ih =>
    obtain ⟨list, hlongest, hreach, hprefix⟩ := ih (k + 1)
    refine ⟨longestBefore (start.upTo stop) (stop.move 1).rest list, ?_, ?_, ?_⟩
    · rw [hrest]
      exact hlongest.before hsegment
    · rw [pairs_cons, List.zip_cons_cons, reaches_cons, hreach]
      exact furthest_eq start stop k list
    · intro us hus
      rw [pairs_cons]
      exact prefix_of_longestBefore hprefix hus

/-! ## Lookups -/

/-- The numbers of the segments are found by the positions at which they end. -/
theorem numberAt_ofLine {stop : Place line} {k : Nat}
    (hk : (Place.findAll [';'] line)[k]? = some stop) :
    (Segments.ofLine line).numberAt stop.offset = .ok k := by
  have hdistinct : ((Place.findAll [';'] line).map (·.offset)).zipIdx.Pairwise
      fun a b => ¬ compare a.1 b.1 = .eq := by
    have hpositions : (((Place.findAll [';'] line).map (·.offset)).zipIdx.map Prod.fst).Pairwise
        (· < ·) := by
      rw [List.zipIdx_map_fst, List.pairwise_map]
      exact Place.pairwise_findAll _ _
    exact (List.pairwise_map.mp hpositions).imp fun hlt heq =>
      Nat.ne_of_lt hlt (Nat.compare_eq_eq.mp heq)
  have hmem : (stop.offset, k) ∈ ((Place.findAll [';'] line).map (·.offset)).zipIdx := by
    rw [List.mem_zipIdx_iff_getElem?, List.getElem?_map, hk, Option.map_some]
  have hindex : (Segments.ofLine line).index[stop.offset]? = some k :=
    Std.TreeMap.getElem?_ofList_of_mem (Nat.compare_eq_eq.mpr rfl) hdistinct hmem
  rw [Segments.numberAt, hindex]

@[simp] theorem length_pairs (start : Place line) (ends : List (Place line)) :
    (pairs start ends).length = ends.length := by
  simp [pairs]

/-- The entry of a segment is filled from the segments behind it. -/
theorem reach_ofLine {stop : Place line} {k : Nat}
    (hk : (Place.findAll [';'] line)[k]? = some stop) :
    (Segments.ofLine line).reach[k]? = some ((reaches (k + 1)
      ((pairs (stop.move 1) ((Place.findAll [';'] line).drop (k + 1))).zip
        ((Place.findAll [';'] line).drop (k + 1)))).headD none) := by
  have hlt : k < (Place.findAll [';'] line).length := (List.getElem?_eq_some_iff.mp hk).1
  let segments := (pairs (.start line) (Place.findAll [';'] line)).zip (Place.findAll [';'] line)
  have hlen : k + 1 ≤ segments.length := by
    rw [List.length_zip, length_pairs, Nat.min_self]
    exact hlt
  have hbehind : (pairs (stop.move 1) ((Place.findAll [';'] line).drop (k + 1))).zip
      ((Place.findAll [';'] line).drop (k + 1)) = segments.drop (k + 1) := by
    rw [← pairs_drop (.start line) hk]
    exact List.drop_zipWith.symm
  calc (Segments.ofLine line).reach[k]?
      = (reaches 0 segments).tail[k]? := List.getElem?_toArray
    _ = ((reaches 0 segments).drop (k + 1)).head? := by rw [List.getElem?_tail, List.head?_drop]
    _ = (reaches (k + 1) (segments.drop (k + 1))).head? := by rw [reaches_drop hlen, Nat.zero_add]
    _ = _ := by rw [head?_reaches, hbehind]

/-- Entries that stand one behind the other are looked up one after the other. -/
theorem mapM_entry {α : Type} {entries : Array α} {xs : List α} {i : Nat}
    (h : xs <+: entries.toList.drop i) :
    (List.range' i xs.length).mapM (Segments.entry entries) = .ok xs := by
  induction xs generalizing i with
  | nil => rfl
  | cons x xs ih =>
    obtain ⟨rest, hrest⟩ := h
    have hx : entries[i]? = some x := by
      have hhead := congrArg List.head? hrest
      rw [List.head?_drop, Array.getElem?_toList] at hhead
      exact hhead.symm
    have htail : xs <+: entries.toList.drop (i + 1) := by
      refine ⟨rest, ?_⟩
      rw [← List.tail_drop, ← hrest]
      rfl
    rw [List.length_cons, List.range'_succ, List.mapM_cons, ih htail, Segments.entry, hx]
    rfl

/-- **No lookup fails for a semicolon of the line**, and what is looked up there is the longest list
behind it. -/
theorem exists_listBehind {stop : Place line} (hstop : stop.holds [';'] = true) :
    ∃ list, IsLongest (stop.move 1).rest list ∧
      (Segments.ofLine line).listBehind stop.offset = .ok (list.map (·.map some)) := by
  obtain ⟨k, hk⟩ := List.mem_iff_getElem?.mp ((Place.mem_findAll (by decide)).mpr hstop)
  obtain ⟨list, hlongest, hreach, hprefix⟩ := exists_reach ((isCut_findAll line).drop hk) k
  refine ⟨list, hlongest, ?_⟩
  have hentry : Segments.entry (Segments.ofLine line).reach k = .ok (list.map (k + ·.length)) := by
    rw [Segments.entry, reach_ofLine hk, hreach]
  rw [Segments.listBehind, numberAt_ofLine hk]
  cases list with
  | none => simp [hentry, Bind.bind, Except.bind]
  | some vs =>
    have hread : (Segments.ofLine line).pairs.toList.drop (k + 1)
        = pairs (stop.move 1) ((Place.findAll [';'] line).drop (k + 1)) := pairs_drop (.start line) hk
    have hlist := hprefix vs rfl
    rw [← hread] at hlist
    have hmap := mapM_entry hlist
    rw [List.length_map] at hmap
    simp [hentry, hmap, Bind.bind, Except.bind, Functor.map, Except.map]

/-! ## A look at a marker -/

section Visit

variable {mark name : Place line} {marks : List (Place line)} {known : Known line} {n : Nat}
  {vs : List Variable}

/-- What is known is right for the markers to come: the names behind them that start in front of the
place at which the last name ends do end there, and the segments are those of the line. -/
structure Known.Valid (known : Known line) (marks : List (Place line)) : Prop where
  nameStop : ∀ stop ∈ known.nameStop, ∀ mark ∈ marks, ∀ name ∈ name? mark,
    name.offset < stop.offset → FirstLine.nameStop name = stop
  segments : ∀ t ∈ known.segments, t = .ofLine line

/-- The longest list that a marker opens, `none` where it opens none. -/
def IsLongestAt (mark : Place line) : Option (List Variable) → Prop
  | none => ∀ n vs, ¬ Admissible line mark.offset n vs
  | some vs => ∃ n, Admissible line mark.offset n vs ∧
      ∀ m us, Admissible line mark.offset m us → m ≤ n

theorem Known.valid_empty (marks : List (Place line)) : Known.Valid {} marks where
  nameStop := fun stop hstop => by cases hstop
  segments := fun t ht => by cases ht

theorem Known.Valid.tail (h : known.Valid (mark :: marks)) : known.Valid marks where
  nameStop := fun stop hstop mark hmark => h.nameStop stop hstop mark (List.mem_cons_of_mem _ hmark)
  segments := h.segments

/-- The place at which a name ends is right, whether it is read off the line or known. -/
theorem Known.Valid.nameStopOf_eq (h : known.Valid (mark :: marks)) (hname : name? mark = some name) :
    known.nameStopOf name = FirstLine.nameStop name := by
  cases hstop : known.nameStop with
  | none => simp [Known.nameStopOf, hstop]
  | some stop =>
    by_cases hle : stop.offset ≤ name.offset
    · simp [Known.nameStopOf, hstop, hle]
    · have hknown := h.nameStop stop hstop mark List.mem_cons_self name hname (Nat.lt_of_not_le hle)
      simp [Known.nameStopOf, hstop, hle, hknown]

theorem Known.Valid.getD_segments (h : known.Valid marks) :
    known.segments.getD (.ofLine line) = .ofLine line := by
  cases ht : known.segments with
  | none => rfl
  | some t => exact h.segments t ht

/-- From within a name the same place is reached at which it ends. -/
theorem nameStop_eq_of_le {name' : Place line} (hle : name.offset ≤ name'.offset)
    (hlt : name'.offset < (nameStop name).offset) : nameStop name' = nameStop name := by
  have hrun : name'.offset - name.offset
      ≤ (name.rest.takeWhile fun c => !isNameStop c).length := by
    rw [nameStop, Place.pass, Place.offset_move] at hlt
    omega
  rw [Place.eq_move_of_le hle, nameStop, Place.pass_move hrun, nameStop]

/-- **The place at which the name behind a marker ends is right for the markers behind it.** -/
theorem Known.valid_of_name {segments : Option (Segments line)} (hm : mark.holds marker = true)
    (hname : name? mark = some name)
    (hbehind : ∀ m ∈ marks, m.holds marker = true ∧ mark.offset < m.offset)
    (hsegments : ∀ t ∈ segments, t = .ofLine line) :
    Known.Valid ⟨some (FirstLine.nameStop name), segments⟩ marks where
  nameStop := by
    rintro stop hstop mark' hmark' name' hname' hlt
    obtain rfl := Option.some.inj hstop
    obtain ⟨hm', hafter⟩ := hbehind mark' hmark'
    have hle := offset_le_of_name? hm hname hm' hafter
    obtain ⟨w₁, w₂, r, -, -, -, -, rfl⟩ := exists_of_name? hm' hname'
    refine nameStop_eq_of_le (Nat.le_trans hle ?_) hlt
    exact Nat.le_add_right _ _
  segments := hsegments

/-- Behind a name with a semicolon, the lists are those of the text behind the semicolon. -/
theorem admissible_iff_lists (hm : mark.holds marker = true) (hname : name? mark = some name)
    (hlt : name.offset < (nameStop name).offset) (hstop : (nameStop name).holds [';'] = true) :
    Admissible line mark.offset n vs ↔ Lists ((nameStop name).move 1).rest n vs := by
  have hopens : OpensAt line mark.offset (nameStop name).offset :=
    (opensAt_iff hm).mpr ⟨name, hname, hlt, hstop, rfl⟩
  rw [← ((nameStop name).move 1).drop_offset]
  constructor
  · rintro ⟨e, hopen, hlists⟩
    rwa [hopen.unique hopens] at hlists
  · exact fun hlists => ⟨_, hopens, hlists⟩

theorem IsLongest.at (hm : mark.holds marker = true) (hname : name? mark = some name)
    (hlt : name.offset < (nameStop name).offset) (hstop : (nameStop name).holds [';'] = true)
    {list : Option (List Variable)} (h : IsLongest ((nameStop name).move 1).rest list) :
    IsLongestAt mark list := by
  have hiff : ∀ {n vs}, Admissible line mark.offset n vs ↔ Lists ((nameStop name).move 1).rest n vs :=
    admissible_iff_lists hm hname hlt hstop
  cases list with
  | none => exact fun n vs hadm => h n vs (hiff.mp hadm)
  | some vs =>
    obtain ⟨n, hn, hmax⟩ := h
    exact ⟨n, hiff.mpr hn, fun m us hadm => hmax m us (hiff.mp hadm)⟩

/--
**A look at a marker finds the longest list that it opens**, without a lookup that fails, and what is
known afterwards is right for the markers behind it.
-/
theorem visit_spec (hm : mark.holds marker = true)
    (hbehind : ∀ m ∈ marks, m.holds marker = true ∧ mark.offset < m.offset)
    (hv : known.Valid (mark :: marks)) :
    ∃ list known', visit known mark = .ok (list.map (·.map some), known') ∧ known'.Valid marks ∧
      IsLongestAt mark list := by
  cases hname : name? mark with
  | none =>
    refine ⟨none, known, by simp [visit, hname], hv.tail, ?_⟩
    rintro n vs ⟨e, hopen, -⟩
    obtain ⟨name, hsome, -⟩ := (opensAt_iff hm).mp hopen
    rw [hname] at hsome
    cases hsome
  | some name =>
    have hstop := hv.nameStopOf_eq hname
    by_cases hopens : name.offset < (nameStop name).offset ∧ (nameStop name).holds [';'] = true
    · obtain ⟨list, hlongest, hlist⟩ := exists_listBehind hopens.2
      refine ⟨list, ⟨some (nameStop name), some (.ofLine line)⟩, ?_, ?_, ?_⟩
      · simp [visit, hname, hstop, hopens, hv.getD_segments, hlist, Bind.bind, Except.bind, pure,
          Except.pure]
      · exact Known.valid_of_name hm hname hbehind fun t ht => (Option.some.inj ht).symm
      · exact hlongest.at hm hname hopens.1 hopens.2
    · refine ⟨none, { known with nameStop := some (nameStop name) }, ?_, ?_, ?_⟩
      · simp [visit, hname, hstop, hopens, pure, Except.pure]
      · exact Known.valid_of_name hm hname hbehind hv.segments
      · rintro n vs ⟨e, hopen, -⟩
        obtain ⟨name', hname', hlt, hsemicolon, -⟩ := (opensAt_iff hm).mp hopen
        obtain rfl := Option.some.inj (hname.symm.trans hname')
        exact hopens ⟨hlt, hsemicolon⟩

end Visit

/-! ## The search -/

/-- The longest list that the first of some markers opens, of those that open one, `none` where none
of them does. -/
def IsFirstOf (marks : List (Place line)) : Option (List Variable) → Prop
  | none => ∀ mark ∈ marks, ∀ n vs, ¬ Admissible line mark.offset n vs
  | some vs => ∃ mark ∈ marks, ∃ n, Admissible line mark.offset n vs ∧
      ∀ mark' ∈ marks, ∀ m us, Admissible line mark'.offset m us →
        mark.offset < mark'.offset ∨ mark.offset = mark'.offset ∧ m ≤ n

section Search

variable {mark : Place line} {marks : List (Place line)} {list : Option (List Variable)}

theorem IsFirstOf.of_head {vs : List Variable} (hbehind : ∀ m ∈ marks, mark.offset < m.offset)
    (h : IsLongestAt mark (some vs)) : IsFirstOf (mark :: marks) (some vs) := by
  obtain ⟨n, hadm, hmax⟩ := h
  refine ⟨mark, List.mem_cons_self, n, hadm, fun mark' hmark' m us hm => ?_⟩
  rcases List.mem_cons.mp hmark' with rfl | hmark'
  · exact Or.inr ⟨rfl, hmax m us hm⟩
  · exact Or.inl (hbehind mark' hmark')

theorem IsFirstOf.cons (hhead : IsLongestAt mark none) (h : IsFirstOf marks list) :
    IsFirstOf (mark :: marks) list := by
  cases list with
  | none =>
    intro mark' hmark'
    rcases List.mem_cons.mp hmark' with rfl | hmark'
    · exact hhead
    · exact h mark' hmark'
  | some vs =>
    obtain ⟨first, hfirst, n, hadm, hmax⟩ := h
    refine ⟨first, List.mem_cons_of_mem _ hfirst, n, hadm, fun mark' hmark' m us hm => ?_⟩
    rcases List.mem_cons.mp hmark' with rfl | hmark'
    · exact absurd hm (hhead m us)
    · exact hmax mark' hmark' m us hm

/-- **The search ends at the first marker that opens a list**, and no lookup fails on the way. -/
theorem search_spec {known : Known line} (hmarks : ∀ m ∈ marks, m.holds marker = true)
    (hsorted : marks.Pairwise (·.offset < ·.offset)) (hv : known.Valid marks) :
    ∃ list, search known marks = .ok (list.map (·.map some)) ∧ IsFirstOf marks list := by
  induction marks generalizing known with
  | nil => exact ⟨none, rfl, fun mark hmark => absurd hmark List.not_mem_nil⟩
  | cons mark marks ih =>
    obtain ⟨hbehind, hsorted⟩ := List.pairwise_cons.mp hsorted
    have htail : ∀ m ∈ marks, m.holds marker = true := fun m hm =>
      hmarks m (List.mem_cons_of_mem _ hm)
    obtain ⟨list, known', hvisit, hv', hlongest⟩ :=
      visit_spec (hmarks mark List.mem_cons_self) (fun m hm => ⟨htail m hm, hbehind m hm⟩) hv
    cases list with
    | some vs =>
      refine ⟨some vs, ?_, .of_head hbehind hlongest⟩
      simp [search, hvisit, Bind.bind, Except.bind, pure, Except.pure]
    | none =>
      obtain ⟨list, hsearch, hfirst⟩ := ih htail hsorted hv'
      refine ⟨list, ?_, hfirst.cons hlongest⟩
      simp [search, hvisit, hsearch, Bind.bind, Except.bind]

end Search

/-! ## The variables on a line -/

/-- The list that counts is that of the first marker which opens one. -/
theorem IsFirstOf.isFirst {list : Option (List Variable)}
    (h : IsFirstOf (Place.findAll marker line) list) : IsFirst line list := by
  cases list with
  | none =>
    rintro p n vs ⟨e, hopen, hlists⟩
    obtain ⟨mark, hmark, rfl⟩ := hopen.exists_marker
    exact h mark hmark n vs ⟨e, hopen, hlists⟩
  | some vs =>
    obtain ⟨mark, -, n, hadm, hmax⟩ := h
    refine ⟨mark.offset, n, hadm, ?_⟩
    rintro q m us ⟨e, hopen, hlists⟩
    obtain ⟨mark', hmark', rfl⟩ := hopen.exists_marker
    exact hmax mark' hmark' m us ⟨e, hopen, hlists⟩

/-- **The search finds the list that counts.** -/
theorem exists_list? (line : List Char) :
    ∃ list, list? line = .ok (list.map (·.map some)) ∧ IsFirst line list := by
  have hmarks : ∀ m ∈ Place.findAll marker line, m.holds marker = true := fun m hm =>
    (Place.mem_findAll (by decide)).mp hm
  obtain ⟨list, hsearch, hfirst⟩ :=
    search_spec hmarks (Place.pairwise_findAll marker line) (Known.valid_empty _)
  exact ⟨list, hsearch, hfirst.isFirst⟩

theorem variables?_eq_of_list? {list : Option (List Variable)}
    (h : list? line = .ok (list.map (·.map some))) : variables? line = list := by
  rw [variables?, h]
  cases list <;> simp

/-- No entry is left out of the variables on a line. -/
theorem list?_eq (line : List Char) : list? line = .ok ((variables? line).map (·.map some)) := by
  obtain ⟨list, hlist, -⟩ := exists_list? line
  rw [variables?_eq_of_list? hlist, hlist]

/-- The variables on a line are the list that counts. -/
theorem isFirst_variables? (line : List Char) : IsFirst line (variables? line) := by
  obtain ⟨list, hlist, hfirst⟩ := exists_list? line
  rwa [variables?_eq_of_list? hlist]

/--
**The list found on a line is the longest one behind the leftmost opening that has a list.**

No list is found exactly if no opening has one. A list that is found is not empty and each of its
entries is a variable; no lookup fails, and in particular the semicolon behind each opening is the end
of a segment in the table. So the variables on the line are the entries of the list.
-/
theorem list?_spec (line : List Char) :
    (list? line = .ok none ↔ ∀ p n vs, ¬ Admissible line p n vs) ∧
    (∀ found, list? line = .ok (some found) ↔ ∃ vs, found = vs.map some ∧
      ∃ p n, Admissible line p n vs ∧
        ∀ q m us, Admissible line q m us → p < q ∨ p = q ∧ m ≤ n) ∧
    (∀ found, list? line = .ok (some found) → found ≠ [] ∧ none ∉ found) ∧
    (∀ fault, list? line ≠ .error fault) ∧
    (∀ p e, OpensAt line p e → ∃ k, (Segments.ofLine line).numberAt e = .ok k) ∧
    list? line = .ok ((variables? line).map (·.map some)) := by
  have hlist := list?_eq line
  have hfirst := isFirst_variables? line
  have hsome : ∀ found, list? line = .ok (some found) ↔
      ∃ vs, found = vs.map some ∧ variables? line = some vs := by
    intro found
    rw [hlist, Except.ok.injEq, Option.map_eq_some_iff]
    exact ⟨fun ⟨vs, hvs, hfound⟩ => ⟨vs, hfound.symm, hvs⟩,
      fun ⟨vs, hfound, hvs⟩ => ⟨vs, hvs, hfound.symm⟩⟩
  refine ⟨?_, ?_, ?_, ?_, ?_, hlist⟩
  · rw [hlist, Except.ok.injEq, Option.map_eq_none_iff]
    exact hfirst.eq_none_iff
  · intro found
    rw [hsome]
    exact exists_congr fun vs => and_congr_right fun _ => hfirst.eq_some_iff
  · intro found hfound
    obtain ⟨vs, rfl, hvs⟩ := (hsome found).mp hfound
    refine ⟨?_, by simp⟩
    rw [Ne, List.map_eq_nil_iff]
    exact (hfirst.eq_some_iff.mp hvs).ne_nil
  · intro fault hfault
    rw [hlist] at hfault
    cases hfault
  · intro p e hopen
    obtain ⟨mark, hmark, rfl⟩ := hopen.exists_marker
    obtain ⟨name, -, -, hstop, rfl⟩ :=
      (opensAt_iff ((Place.mem_findAll (by decide)).mp hmark)).mp hopen
    obtain ⟨k, hk⟩ := List.mem_iff_getElem?.mp ((Place.mem_findAll (by decide)).mpr hstop)
    exact ⟨k, numberAt_ofLine hk⟩

/-- Markers may overlap, and a marker that closes a list may also start a key. -/
example : list? "-*-*- mode: C; a: 1; -*-b: 2; -*-".toList
    = .ok (some [some ⟨['a'], ['1']⟩, some ⟨"-*-b".toList, ['2']⟩]) := by rfl

end Indentation.FirstLine
