import Indentation.Proofs.Json.RoundTrip
import Indentation.Schema.Violation

/-!
# Values that satisfy a schema

Whether a value satisfies a schema does not depend on the order of the members of its objects, so it
is the same for the value and for its canonical form. The checker finds a violation exactly where the
value does not satisfy the schema. Which violations it finds first does depend on the order; that there
are none does not.

## Main statements

* `holds_record` — which objects satisfy a schema that lists the members of a record
* `holds_sorted` — a value satisfies a schema exactly if its canonical form does
* `violation?_eq_none_iff` — the checker accepts exactly the values that satisfy the schema
-/

namespace Indentation

open Json

namespace Schema

/-! ## Demands that are met -/

variable {names : List String} {v : Value}

@[simp] theorem allHold_nil : allHold names v [] = true :=
  rfl

@[simp] theorem allHold_cons (k : Keyword) (ks : List Keyword) :
    allHold names v (k :: ks) = true ↔ k.holds names v = true ∧ allHold names v ks = true := by
  show (k.holds names v && allHold names v ks) = true ↔ _
  exact Bool.and_eq_true_iff

/-! ### The demands on parts of a value -/

theorem holds_required (keys : List String) :
    Keyword.holds names v (.required keys) = true ↔
      (v.obj?.isSome → ∀ k ∈ keys, (v.members.lookup k).isSome) := by
  cases v with
  | obj ms =>
    show (keys.all fun k => (ms.lookup k).isSome) = true ↔ (true → ∀ k ∈ keys, (ms.lookup k).isSome)
    simp
  | _ => exact iff_of_true rfl fun h => by cases h

theorem holds_closed : Keyword.holds names v .closed = true ↔ unlisted names v = [] :=
  List.isEmpty_iff

theorem holds_additional (s : Schema) :
    Keyword.holds names v (.additional s) = true ↔ ∀ m ∈ unlisted names v, s.holds m.2 = true :=
  List.all_eq_true

theorem holds_properties (ps : List (String × Schema)) :
    Keyword.holds names v (.properties ps) = membersHold v.members ps :=
  rfl

theorem membersHold_cons (ms : Members) (k : String) (s : Schema) (ps : List (String × Schema)) :
    membersHold ms ((k, s) :: ps) = true ↔
      (∀ v ∈ ms.lookup k, s.holds v = true) ∧ membersHold ms ps = true := by
  show ((ms.lookup k).all s.holds && membersHold ms ps) = true ↔ _
  rw [Bool.and_eq_true_iff, Option.all_eq_true_iff_get]
  cases ms.lookup k <;> simp

theorem holds_items (s : Schema) :
    Keyword.holds names v (.items s) = true ↔ ∀ w ∈ v.items, s.holds w = true :=
  List.all_eq_true

theorem holds_propertyNames (s : Schema) :
    Keyword.holds names v (.propertyNames s) = true ↔ ∀ m ∈ v.members, s.holds (.str m.1) = true :=
  List.all_eq_true

theorem keyword_holds_ref (name : String) (s : Schema) :
    Keyword.holds names v (.ref name s) = s.holds v :=
  rfl

/-! ### References, collections and numbers -/

theorem holds_ref (name : String) (s : Schema) (v : Value) :
    holds [.ref name s] v = true ↔ s.holds v = true := by
  rw [holds, allHold_cons, keyword_holds_ref]
  exact and_iff_left rfl

/-- The arrays whose items satisfy a schema. -/
theorem holds_array (s : Schema) (vs : List Value) :
    holds [.type .array, .items s] (.arr vs) = true ↔ ∀ v ∈ vs, s.holds v = true := by
  rw [holds, allHold_cons, allHold_cons, holds_items]
  exact ⟨fun h => h.2.1, fun h => ⟨rfl, h, rfl⟩⟩

/-- The objects whose keys and values satisfy a schema each. -/
theorem holds_map (keys values : Schema) (ms : Members) :
    holds [.type .object, .propertyNames keys, .additional values] (.obj ms) = true ↔
      ∀ m ∈ ms, keys.holds (.str m.1) = true ∧ values.holds m.2 = true := by
  have hunlisted : unlisted [] (.obj ms) = ms := List.filter_eq_self.mpr fun _ _ => rfl
  show allHold [] _ _ = true ↔ _
  rw [allHold_cons, allHold_cons, allHold_cons, holds_propertyNames, holds_additional, hunlisted]
  constructor
  · rintro ⟨-, hkeys, hvalues, -⟩ m hm
    exact ⟨hkeys m hm, hvalues m hm⟩
  · intro h
    exact ⟨rfl, fun m hm => (h m hm).1, fun m hm => (h m hm).2, rfl⟩

/-- The integers from a least one on. -/
theorem holds_integer (n m : Int) :
    holds [.type .integer, .minimum n] (.int m) = true ↔ n ≤ m := by
  have hbelow : Keyword.holds [] (.int m) (.minimum n) = true ↔ n ≤ m := by
    show (!decide (m < n)) = true ↔ n ≤ m
    simp
  show allHold [] _ _ = true ↔ _
  rw [allHold_cons, allHold_cons, hbelow]
  exact ⟨fun h => h.2.1, fun h => ⟨rfl, h, rfl⟩⟩

/-! ### Records -/

/-- Members are judged one by one where each stands beside the schema for it. -/
theorem membersHold_iff_forall₂ {all : Members} (hall : (all.map Prod.fst).Nodup)
    {ps : List (String × Schema)} {ms : Members} (hms : ∀ m ∈ ms, m ∈ all)
    (hnames : ps.map Prod.fst = ms.map Prod.fst) :
    membersHold all ps = true ↔ List.Forall₂ (fun p m => p.2.holds m.2 = true) ps ms := by
  induction ps generalizing ms with
  | nil =>
    obtain rfl : ms = [] := List.map_eq_nil_iff.mp hnames.symm
    exact iff_of_true rfl .nil
  | cons p ps ih =>
    cases ms with
    | nil => cases hnames
    | cons m ms =>
      obtain ⟨k, s⟩ := p
      obtain ⟨k', v⟩ := m
      obtain ⟨rfl, hrest⟩ := List.cons.inj hnames
      have hlookup : all.lookup k = some v :=
        (lookup_eq_some_iff hall).mpr (hms _ List.mem_cons_self)
      have hps := ih (fun m hm => hms m (List.mem_cons_of_mem _ hm)) hrest
      rw [membersHold_cons, hlookup, hps, List.forall₂_cons]
      simp

/-- **An object with the members of a record satisfies the schema of the record exactly if each
member satisfies the schema for it.** -/
theorem holds_record {keys : List String} {ps : List (String × Schema)} {ms : Members}
    (hnodup : keys.Nodup) (hps : ps.map Prod.fst = keys) (hms : ms.map Prod.fst = keys) :
    holds [.type .object, .closed, .required keys, .properties ps] (.obj ms) = true ↔
      List.Forall₂ (fun p m => p.2.holds m.2 = true) ps ms := by
  have hlisted : listed [.type .object, .closed, .required keys, .properties ps] = keys := by
    simp [listed, hps]
  have hunlisted : unlisted keys (.obj ms) = [] := by
    refine List.filter_eq_nil_iff.mpr fun m hm => ?_
    have hmem : m.1 ∈ keys := hms ▸ List.mem_map_of_mem hm
    simpa using hmem
  have hrequired : ∀ k ∈ keys, (ms.lookup k).isSome := by
    intro k hk
    exact lookup_isSome_iff.mpr (hms ▸ hk)
  have hmembers := membersHold_iff_forall₂ (hms ▸ hnodup) (fun _ hm => hm) (hps.trans hms.symm)
  rw [← hmembers, holds, hlisted]
  simp only [allHold_cons, holds_closed, holds_required, holds_properties, hunlisted, true_and]
  exact ⟨fun h => h.2.2.1, fun h => ⟨rfl, fun _ => hrequired, h, rfl⟩⟩

/-! ## No demand depends on the order -/

theorem kind_holds_sorted (k : Kind) (v : Value) : k.holds v.sorted = k.holds v := by
  cases k <;> cases v <;> rfl

theorem str?_sorted (v : Value) : v.sorted.str? = v.str? := by
  cases v <;> rfl

theorem isBelow_sorted (n : Int) (v : Value) : isBelow n v.sorted = isBelow n v := by
  cases v <;> rfl

theorem isSome_obj?_sorted (v : Value) : v.sorted.obj?.isSome = v.obj?.isSome := by
  cases v <;> rfl

/-- The members that are not listed are those of the value, each in its canonical form. -/
theorem mem_unlisted_sorted {m : String × Value} :
    m ∈ unlisted names v.sorted ↔ ∃ n ∈ unlisted names v, sortedMember n = m := by
  have hmembers : ∀ w : Value, unlisted names w = w.members.filter fun m => !names.contains m.1 :=
    fun _ => rfl
  rw [hmembers, hmembers, List.mem_filter, Value.mem_members_sorted]
  constructor
  · rintro ⟨⟨n, hn, rfl⟩, hlisted⟩
    exact ⟨n, List.mem_filter.mpr ⟨hn, hlisted⟩, rfl⟩
  · rintro ⟨n, hn, rfl⟩
    obtain ⟨hn, hlisted⟩ := List.mem_filter.mp hn
    exact ⟨⟨n, hn, rfl⟩, hlisted⟩

mutual

/-- One demand is met by a value exactly if it is met by the canonical form of the value. -/
theorem keyword_holds_sorted (k : Keyword) {names : List String} {v : Value} (hv : Exact v) :
    k.holds names v.sorted = true ↔ k.holds names v = true := by
  cases k with
  | type k => simp only [Keyword.holds, kind_holds_sorted]
  | const s => simp only [Keyword.holds, str?_sorted]
  | enum options => simp only [Keyword.holds, str?_sorted]
  | minimum n => simp only [Keyword.holds, isBelow_sorted]
  | minLength n => simp only [Keyword.holds, str?_sorted]
  | pattern p => simp only [Keyword.holds, str?_sorted]
  | required keys =>
    rw [holds_required, holds_required, isSome_obj?_sorted]
    simp only [Value.lookup_members_sorted hv.nodup_members, Option.isSome_map]
  | closed =>
    rw [holds_closed, holds_closed, List.eq_nil_iff_forall_not_mem, List.eq_nil_iff_forall_not_mem]
    simp only [mem_unlisted_sorted]
    exact ⟨fun hd n hn => hd _ ⟨n, hn, rfl⟩, fun hc m ⟨n, hn, _⟩ => hc n hn⟩
  | additional s =>
    rw [holds_additional, holds_additional]
    simp only [mem_unlisted_sorted, forall_exists_index, and_imp, forall_apply_eq_imp_iff₂]
    exact forall₂_congr fun n hn => allHold_sorted s (hv.of_mem_members (List.mem_of_mem_filter hn))
  | properties ps => rw [holds_properties, holds_properties, membersHold_sorted ps hv]
  | items s =>
    rw [holds_items, holds_items, Value.items_sorted]
    simp only [List.mem_map, forall_exists_index, and_imp, forall_apply_eq_imp_iff₂]
    exact forall₂_congr fun w hw => allHold_sorted s (hv.of_mem_items hw)
  | propertyNames s =>
    rw [holds_propertyNames, holds_propertyNames]
    simp only [Value.mem_members_sorted, forall_exists_index, and_imp, forall_apply_eq_imp_iff₂]
    exact Iff.rfl
  | ref name s =>
    rw [keyword_holds_ref, keyword_holds_ref]
    exact allHold_sorted s hv

/-- All demands of a list. -/
theorem allHold_sorted (ks : List Keyword) {names : List String} {v : Value} (hv : Exact v) :
    allHold names v.sorted ks = true ↔ allHold names v ks = true := by
  cases ks with
  | nil => exact Iff.rfl
  | cons k ks => rw [allHold_cons, allHold_cons, keyword_holds_sorted k hv, allHold_sorted ks hv]

/-- The demands on the members that a schema lists. -/
theorem membersHold_sorted (ps : List (String × List Keyword)) {v : Value} (hv : Exact v) :
    membersHold v.sorted.members ps = true ↔ membersHold v.members ps = true := by
  cases ps with
  | nil => exact Iff.rfl
  | cons p ps =>
    obtain ⟨k, s⟩ := p
    rw [membersHold_cons, membersHold_cons, membersHold_sorted ps hv,
      Value.lookup_members_sorted hv.nodup_members]
    refine and_congr_left fun _ => ?_
    cases hk : v.members.lookup k with
    | none => simp
    | some w =>
      have hw : Exact w := hv.of_mem_members ((lookup_eq_some_iff hv.nodup_members).mp hk)
      simp only [Option.map_some, Option.mem_some, forall_eq']
      exact allHold_sorted s hw

end

/-- **Whether a value satisfies a schema does not depend on the order of its members.** -/
theorem holds_sorted (s : Schema) {v : Value} (h : Exact v) :
    s.holds v.sorted = true ↔ s.holds v = true :=
  allHold_sorted s h

/-! ## The checker -/

variable {c : Context}

@[simp] theorem under_eq_nil_iff (step : Step) (vs : List Violation) :
    under step vs = [] ↔ vs = [] := by
  simp [under]

@[simp] theorem Context.require_eq_nil_iff (holds : Bool) (keyword message : String) :
    c.require holds keyword message = [] ↔ holds = true := by
  simp [Context.require]

mutual

/-- The checker finds nothing against a demand exactly if it is met. -/
theorem checkKeyword_eq_nil_iff (k : Keyword) (c : Context) :
    checkKeyword c k = [] ↔ k.holds c.listed c.value = true := by
  cases k with
  | type k => exact Context.require_eq_nil_iff _ _ _
  | const s => exact Context.require_eq_nil_iff _ _ _
  | enum options => exact Context.require_eq_nil_iff _ _ _
  | minimum n => exact Context.require_eq_nil_iff _ _ _
  | minLength n => exact Context.require_eq_nil_iff _ _ _
  | pattern p => exact Context.require_eq_nil_iff _ _ _
  | required keys =>
    obtain ⟨value, kind, listed⟩ := c
    cases value with
    | obj ms =>
      show (keys.flatMap fun k => Context.require _ (ms.lookup k).isSome _ _) = [] ↔
        (keys.all fun k => (ms.lookup k).isSome) = true
      simp [List.flatMap_eq_nil_iff]
    | _ => exact iff_of_true rfl rfl
  | closed =>
    show c.require (c.unlisted.map Prod.fst).isEmpty _ _ = [] ↔ c.unlisted.isEmpty = true
    simp
  | additional s =>
    rw [holds_additional]
    show (c.unlisted.flatMap fun m => under (.key m.1) (violations s m.2)) = [] ↔ _
    simp only [List.flatMap_eq_nil_iff, under_eq_nil_iff]
    exact forall₂_congr fun m _ => checkAll_eq_nil_iff s _
  | properties ps => exact checkMembers_eq_nil_iff ps _
  | items s =>
    rw [holds_items]
    show (c.value.items.zipIdx.flatMap fun p => under (.index p.2) (violations s p.1)) = [] ↔ _
    simp only [List.flatMap_eq_nil_iff, under_eq_nil_iff]
    constructor
    · intro h w hw
      obtain ⟨i, hi⟩ := List.getElem?_of_mem hw
      exact (checkAll_eq_nil_iff s _).mp (h (w, i) (List.mk_mem_zipIdx_iff_getElem?.mpr hi))
    · intro h p hp
      exact (checkAll_eq_nil_iff s _).mpr (h p.1 (List.fst_mem_of_mem_zipIdx hp))
  | propertyNames s =>
    rw [holds_propertyNames]
    show (c.value.members.flatMap fun m => violations s (.str m.1)) = [] ↔ _
    simp only [List.flatMap_eq_nil_iff]
    exact forall₂_congr fun m _ => checkAll_eq_nil_iff s _
  | ref name s => exact checkAll_eq_nil_iff s _

/-- Nothing against the demands of a list. -/
theorem checkAll_eq_nil_iff (ks : List Keyword) (c : Context) :
    checkAll c ks = [] ↔ allHold c.listed c.value ks = true := by
  cases ks with
  | nil => exact iff_of_true rfl rfl
  | cons k ks =>
    rw [allHold_cons, ← checkKeyword_eq_nil_iff k c, ← checkAll_eq_nil_iff ks c]
    exact List.append_eq_nil_iff

/-- Nothing against the members that a schema lists. -/
theorem checkMembers_eq_nil_iff (ps : List (String × List Keyword)) (ms : Members) :
    checkMembers ms ps = [] ↔ membersHold ms ps = true := by
  cases ps with
  | nil => exact iff_of_true rfl rfl
  | cons p ps =>
    obtain ⟨k, s⟩ := p
    rw [membersHold_cons, ← checkMembers_eq_nil_iff ps ms]
    refine List.append_eq_nil_iff.trans (and_congr_left fun _ => ?_)
    cases ms.lookup k with
    | none => simp
    | some v =>
      show under (.key k) (violations s v) = [] ↔ _
      simp only [under_eq_nil_iff, Option.mem_some, forall_eq']
      exact checkAll_eq_nil_iff s _

end

/-- **The checker finds a violation exactly where the schema is not satisfied.** -/
theorem violations_eq_nil_iff (s : Schema) (v : Value) :
    s.violations v = [] ↔ s.holds v = true :=
  checkAll_eq_nil_iff s _

/-- **The checker accepts exactly the values that satisfy the schema**, whichever violation it would
name for the others. -/
theorem violation?_eq_none_iff (s : Schema) (v : Value) : s.violation? v = none ↔ s.holds v = true := by
  rw [← violations_eq_nil_iff]
  unfold Schema.violation?
  cases s.violations v with
  | nil => simp [Violation.best?]
  | cons w ws => simp [Violation.best?]

end Schema

end Indentation
