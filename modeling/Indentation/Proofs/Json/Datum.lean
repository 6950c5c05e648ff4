import Indentation.Json.Datum
import Indentation.Proofs.Json.RoundTrip

/-!
# What is printed for a datum

A datum of plain values, styles and signatures, in lists, tuples and maps to any depth, is printed so
that nothing is lost: the text is read back as the form of the datum. Lists and tuples both have
arrays as their forms, a map has an object, a style has its letter and a signature has an object with
the three things that are said of it.

Nor does anything show that is not part of the datum. The entries of a map have no order, so data that
differ in the order of entries have one text.

## Main statements

* `isForm_sorted` — what is read back is the form of the datum
* `printAt_eq_of_reordered` — the order of the entries of maps does not show in the text
* `print_lossless_and_canonical` — both, and the text ends in one line feed
-/

namespace Indentation

open Json

/-! ## The end of a text -/

namespace Json

variable (layout : Layout) (depth : Nat)

theorem exists_enclose_eq_concat (open' close : Char) (items : List (List Char)) :
    ∃ text, enclose layout depth open' close items = text ++ [close] := by
  unfold enclose
  split
  · exact ⟨[open'], rfl⟩
  · exact ⟨open' :: _, rfl⟩

/-- A decimal ends in a digit. -/
theorem exists_decimal_eq_concat (n : Int) :
    ∃ text c, Signature.decimal n = text ++ [c] ∧ c.isDigit = true := by
  have hdigits : ∀ m : Nat, ∃ text c, Nat.toDigits 10 m = text ++ [c] ∧ c.isDigit = true := by
    intro m
    obtain ⟨text, c, htext⟩ :=
      (List.eq_nil_or_concat (Nat.toDigits 10 m)).resolve_left Nat.toDigits_ne_nil
    rw [List.concat_eq_append] at htext
    have hc : c ∈ Nat.toDigits 10 m := htext ▸ List.mem_append_right text (List.mem_singleton_self c)
    exact ⟨text, c, htext, Numeral.isDigit_of_mem_toDigits hc⟩
  unfold Signature.decimal
  split
  · obtain ⟨text, c, htext, hc⟩ := hdigits n.natAbs
    exact ⟨'-' :: text, c, by rw [htext, List.cons_append], hc⟩
  · exact hdigits n.toNat

/-- A value does not end in a line feed. -/
theorem exists_printAt_eq_concat {v : Value} (h : Exact v) :
    ∃ text c, printAt layout depth v = text ++ [c] ∧ c ≠ '\n' := by
  cases h with
  | null => exact ⟨['n', 'u', 'l'], 'l', rfl, by decide⟩
  | bool b =>
    cases b with
    | true => exact ⟨['t', 'r', 'u'], 'e', rfl, by decide⟩
    | false => exact ⟨['f', 'a', 'l', 's'], 'e', rfl, by decide⟩
  | int n h =>
    obtain ⟨text, c, htext, hc⟩ := exists_decimal_eq_concat n
    refine ⟨text, c, htext, ?_⟩
    rintro rfl
    cases hc
  | str s => exact ⟨'\x22' :: s.toList.flatMap escapeChar, '\x22', rfl, by decide⟩
  | arr items h =>
    obtain ⟨text, htext⟩ := exists_enclose_eq_concat layout (depth + 1) '[' ']'
      (items.map (printAt layout (depth + 1)))
    exact ⟨text, ']', by rw [printAt_arr, htext], by decide⟩
  | obj members hkeys h =>
    obtain ⟨text, htext⟩ := exists_enclose_eq_concat layout (depth + 1) '\x7b' '\x7d'
      ((sortByKey members).map (memberText layout (depth + 1)))
    exact ⟨text, '\x7d', by rw [printAt_obj, htext], by decide⟩

/-- Objects whose members have the same texts have the same text, in whatever order the members
stand. -/
theorem printAt_obj_eq_of_perm {members members' : Members} (hd : (members.map Prod.fst).Nodup)
    (hperm : (members.map fun m => (m.1, printAt layout (depth + 1) m.2)).Perm
      (members'.map fun m => (m.1, printAt layout (depth + 1) m.2))) :
    printAt layout depth (.obj members) = printAt layout depth (.obj members') := by
  rw [printAt, printAt, printMembers_eq_map, printMembers_eq_map, sortByKey_eq_of_perm _ hperm]
  rw [List.map_map]
  exact hd

end Json

namespace Datum

/-! ## Maps whose keys are strings -/

/-- A map whose keys are strings. -/
def dict (entries : List (String × Datum)) : Datum := .map (entries.map fun e => (.str e.1, e.2))

theorem itemsToJson_eq_map (items : List Datum) : itemsToJson items = items.map toJson := by
  induction items with
  | nil => rfl
  | cons d items ih => rw [itemsToJson, ih, List.map_cons]

theorem entriesToJson_eq_map (entries : List (Key × Datum)) :
    entriesToJson entries = entries.map fun e => (e.1, e.2.toJson) := by
  induction entries with
  | nil => rfl
  | cons e entries ih => rw [entriesToJson, ih, List.map_cons]

theorem putEntry_of_not_same {entries : List (Key × Value)} {k : Key}
    (h : ∀ e ∈ entries, e.1.same k = false) (v : Value) :
    putEntry entries k v = entries ++ [(k, v)] := by
  induction entries with
  | nil => rfl
  | cons e entries ih =>
    obtain ⟨he, hentries⟩ := List.forall_mem_cons.mp h
    rw [putEntry, if_neg (Bool.eq_false_iff.mp he), ih hentries, List.cons_append]

/-- Entries with a string each, no two of them the same, make the object that lists them. -/
theorem object_map_str {members : Members} (h : (members.map Prod.fst).Nodup) :
    object (members.map fun m => (.str m.1, m.2)) = .obj members := by
  have hpairwise : (members.map fun m => (Key.str m.1, m.2)).Pairwise
      fun a b => a.1.same b.1 = false := by
    refine List.pairwise_map.mpr ((List.pairwise_map.mp h).imp fun {a b} hab => ?_)
    exact beq_eq_false_iff_ne.mpr hab
  have hput : ∀ (done : List (Key × Value)) (e : Key × Value),
      (∀ b ∈ done, b.1.same e.1 = false) → putEntry done e.1 e.2 = done ++ [e] :=
    fun done e he => putEntry_of_not_same he e.2
  rw [object, foldl_eq_self_of_pairwise hput hpairwise, List.foldl_map]
  exact congrArg Value.obj (Members.foldl_set_eq_self h)

theorem toJson_list (items : List Datum) : (list items).toJson = .arr (items.map toJson) := by
  rw [toJson, itemsToJson_eq_map]

theorem toJson_tuple (items : List Datum) : (tuple items).toJson = .arr (items.map toJson) := by
  rw [toJson, itemsToJson_eq_map]

theorem toJson_dict {entries : List (String × Datum)} (h : (entries.map Prod.fst).Nodup) :
    (dict entries).toJson = .obj (entries.map fun e => (e.1, e.2.toJson)) := by
  rw [dict, toJson, entriesToJson_eq_map, List.map_map, ← object_map_str, List.map_map]
  · rfl
  · rw [List.map_map]
    exact h

/-! ## Data and their forms -/

/-- A datum of plain values, styles and signatures in lists, tuples and maps, whose integers are
within the limit and whose maps have strings as their keys, each of them once. -/
inductive Exact : Datum → Prop where
  | null : Exact .null
  | bool (b : Bool) : Exact (.bool b)
  | int (n : Int) (h : (Nat.toDigits 10 n.natAbs).length ≤ Numeral.limit) : Exact (.int n)
  | str (s : String) : Exact (.str s)
  | style (s : Style) : Exact (.style s)
  | signature (s : Signature) (h : (Nat.toDigits 10 s.width.natAbs).length ≤ Numeral.limit) :
    Exact (.signature s)
  | list (items : List Datum) (h : ∀ d ∈ items, Exact d) : Exact (.list items)
  | tuple (items : List Datum) (h : ∀ d ∈ items, Exact d) : Exact (.tuple items)
  | dict (entries : List (String × Datum)) (hkeys : (entries.map Prod.fst).Nodup)
    (h : ∀ e ∈ entries, Exact e.2) : Exact (.dict entries)

/-- The values that say what a datum says. The members of an object may stand in any order. -/
inductive IsForm : Datum → Value → Prop where
  | null : IsForm .null .null
  | bool (b : Bool) : IsForm (.bool b) (.bool b)
  | int (n : Int) : IsForm (.int n) (.int n)
  | str (s : String) : IsForm (.str s) (.str s)
  | style (s : Style) : IsForm (.style s) (.str (String.singleton s.letter))
  | signature (s : Signature) {members : Members}
    (hperm : members.Perm
      [("signature", .str s.toString), ("style", .str s.style.name), ("width", .int s.width)]) :
    IsForm (.signature s) (.obj members)
  | list (items : List (Datum × Value)) (h : ∀ p ∈ items, IsForm p.1 p.2) :
    IsForm (.list (items.map Prod.fst)) (.arr (items.map Prod.snd))
  | tuple (items : List (Datum × Value)) (h : ∀ p ∈ items, IsForm p.1 p.2) :
    IsForm (.tuple (items.map Prod.fst)) (.arr (items.map Prod.snd))
  | dict (entries : List (String × Datum × Value)) (h : ∀ e ∈ entries, IsForm e.2.1 e.2.2)
    {members : Members} (hperm : members.Perm (entries.map fun e => (e.1, e.2.2))) :
    IsForm (.dict (entries.map fun e => (e.1, e.2.1))) (.obj members)

/-- Data that differ in the order of the entries of maps, at any depth, and in nothing else. -/
inductive Reordered : Datum → Datum → Prop where
  | refl (d : Datum) : Reordered d d
  | list (items : List (Datum × Datum)) (h : ∀ p ∈ items, Reordered p.1 p.2) :
    Reordered (.list (items.map Prod.fst)) (.list (items.map Prod.snd))
  | tuple (items : List (Datum × Datum)) (h : ∀ p ∈ items, Reordered p.1 p.2) :
    Reordered (.tuple (items.map Prod.fst)) (.tuple (items.map Prod.snd))
  | dict (entries : List (String × Datum × Datum)) (hkeys : (entries.map Prod.fst).Nodup)
    (h : ∀ e ∈ entries, Reordered e.2.1 e.2.2) (entries' : List (String × Datum))
    (hperm : entries'.Perm (entries.map fun e => (e.1, e.2.2))) :
    Reordered (.dict (entries.map fun e => (e.1, e.2.1))) (.dict entries')

variable {d e : Datum}

/-- The JSON form of such a datum can be read back from its text. -/
theorem Exact.toJson (h : d.Exact) : Json.Exact d.toJson := by
  induction h with
  | null => exact .null
  | bool b => exact .bool b
  | int n h => exact .int n h
  | str s => exact .str s
  | style s => exact .str _
  | signature s h =>
    refine .obj _ (by simp) ?_
    simp only [List.forall_mem_cons]
    exact ⟨.str _, .str _, .int _ h, fun _ hm => by cases hm⟩
  | list items _ ih =>
    rw [toJson_list]
    exact .arr _ (List.forall_mem_map.mpr ih)
  | tuple items _ ih =>
    rw [toJson_tuple]
    exact .arr _ (List.forall_mem_map.mpr ih)
  | dict entries hkeys _ ih =>
    rw [toJson_dict hkeys]
    exact .obj _ (by rwa [List.map_map]) (List.forall_mem_map.mpr ih)

/-! ## Nothing is lost -/

/-- **The canonical form that is read back is a form of the datum.** -/
theorem isForm_sorted (h : d.Exact) : d.IsForm d.toJson.sorted := by
  induction h with
  | null => exact .null
  | bool b => exact .bool b
  | int n => exact .int n
  | str s => exact .str s
  | style s => exact .style s
  | signature s =>
    show IsForm _ (Value.obj _).sorted
    rw [Value.sorted_obj]
    exact .signature s ((sortByKey_perm _).map sortedMember)
  | list items _ ih =>
    have hform := IsForm.list (items.map fun d => (d, d.toJson.sorted)) (List.forall_mem_map.mpr ih)
    rw [toJson_list, Value.sorted_arr]
    simpa [List.map_map, Function.comp_def] using hform
  | tuple items _ ih =>
    have hform := IsForm.tuple (items.map fun d => (d, d.toJson.sorted)) (List.forall_mem_map.mpr ih)
    rw [toJson_tuple, Value.sorted_arr]
    simpa [List.map_map, Function.comp_def] using hform
  | dict entries hkeys _ ih =>
    have hperm : ((sortByKey (entries.map fun e => (e.1, e.2.toJson))).map sortedMember).Perm
        ((entries.map fun e => (e.1, e.2, e.2.toJson.sorted)).map fun e => (e.1, e.2.2)) := by
      refine ((sortByKey_perm _).map sortedMember).trans (.of_eq ?_)
      rw [List.map_map, List.map_map]
      rfl
    have hform := IsForm.dict _ (List.forall_mem_map.mpr ih) hperm
    rw [toJson_dict hkeys, Value.sorted_obj]
    simpa [List.map_map, Function.comp_def] using hform

/-! ## Orders do not show -/

/-- Items with the same texts are printed alike. -/
theorem printAt_items_congr {items : List (Datum × Datum)} (layout : Layout) (depth : Nat)
    (h : ∀ p ∈ items, ∀ depth, printAt layout depth p.2.toJson = printAt layout depth p.1.toJson) :
    printAt layout depth (.arr ((items.map Prod.snd).map toJson))
      = printAt layout depth (.arr ((items.map Prod.fst).map toJson)) := by
  rw [printAt_arr, printAt_arr]
  simp only [List.map_map]
  exact congrArg _ (List.map_congr_left fun p hp => h p hp (depth + 1))

/-- **Data that differ in the order of the entries of maps have one text.** -/
theorem printAt_eq_of_reordered (h : d.Reordered e) (layout : Layout) (depth : Nat) :
    printAt layout depth e.toJson = printAt layout depth d.toJson := by
  induction h generalizing depth with
  | refl d => rfl
  | list items _ ih =>
    rw [toJson_list, toJson_list]
    exact printAt_items_congr layout depth ih
  | tuple items _ ih =>
    rw [toJson_tuple, toJson_tuple]
    exact printAt_items_congr layout depth ih
  | dict entries hkeys _ entries' hperm ih =>
    have hd : ((entries.map fun e => (e.1, e.2.1)).map Prod.fst).Nodup := by rwa [List.map_map]
    have hd' : (entries'.map Prod.fst).Nodup :=
      (hperm.map Prod.fst).nodup_iff.mpr (by rwa [List.map_map])
    rw [toJson_dict hd, toJson_dict hd']
    refine printAt_obj_eq_of_perm layout depth (by rwa [List.map_map]) ?_
    -- of an entry only its key and the text of its value are printed, and these are the same
    have htexts : (entries.map fun e => (e.1, printAt layout (depth + 1) e.2.2.toJson))
        = entries.map fun e => (e.1, printAt layout (depth + 1) e.2.1.toJson) :=
      List.map_congr_left fun e he => congrArg (Prod.mk e.1) (ih e he (depth + 1))
    have hmap := hperm.map fun e => (e.1, printAt layout (depth + 1) e.2.toJson)
    simp only [List.map_map, Function.comp_def] at hmap ⊢
    rwa [htexts] at hmap

/-- A text ends in one line feed, as no value ends in one. -/
theorem exists_print_eq_concat (h : d.Exact) (layout : Layout) :
    ∃ text c, d.print layout = text ++ [c, '\n'] ∧ c ≠ '\n' := by
  obtain ⟨text, c, htext, hc⟩ := exists_printAt_eq_concat layout 0 h.toJson
  exact ⟨text, c, by rw [Datum.print, Json.print, htext, List.append_assoc, List.singleton_append], hc⟩

/--
**The text of a datum is lossless and canonical.**

Plain values, styles and signatures in lists, tuples and maps to any depth are printed, in every
layout, as a text that is read back as the form of the datum: tuples are read as lists, styles as
their letters and signatures as objects. The text ends in one line feed, and it is the text of every
datum that differs in the order of the entries of maps alone.
-/
theorem print_lossless_and_canonical (hd : d.Exact) (layout : Layout) :
    (∃ v, Json.read (d.print layout) = .ok v ∧ d.IsForm v) ∧
    (∃ text c, d.print layout = text ++ [c, '\n'] ∧ c ≠ '\n') ∧
    ∀ e, d.Reordered e → e.print layout = d.print layout := by
  refine ⟨⟨d.toJson.sorted, read_print hd.toJson layout, isForm_sorted hd⟩,
    exists_print_eq_concat hd layout, fun e he => ?_⟩
  exact congrArg (· ++ ['\n']) (printAt_eq_of_reordered he layout 0)

/-- A map with a list, a tuple and a map in it, whose entries are in two orders at both depths. -/
theorem print_lossless_and_canonical_nested :
    let inner : Datum := .dict [("y", .str "\n"), ("x", .int (-3))]
    let inner' : Datum := .dict [("x", .int (-3)), ("y", .str "\n")]
    let items : List Datum := [.signature (.spaces 4), .style .tabs, .bool true]
    let d : Datum := .dict [("b", .tuple items), ("a", .list [inner, .null])]
    let e : Datum := .dict [("a", .list [inner', .null]), ("b", .tuple items)]
    d.Exact ∧ d.Reordered e ∧ (∃ v, Json.read (d.print (.tree 2)) = .ok v ∧ d.IsForm v) ∧
      (∃ text c, d.print (.tree 2) = text ++ [c, '\n'] ∧ c ≠ '\n') ∧
      e.print (.tree 2) = d.print (.tree 2) := by
  intro inner inner' items d e
  have hinner : inner.Exact := by
    refine .dict _ (by decide) ?_
    simp only [List.forall_mem_cons]
    exact ⟨.str _, .int _ (by decide), fun _ hm => by cases hm⟩
  have hitems : (Datum.tuple items).Exact := by
    refine .tuple _ ?_
    simp only [items, List.forall_mem_cons]
    exact ⟨.signature _ (by decide), .style _, .bool _, fun _ hm => by cases hm⟩
  have hlist : (Datum.list [inner, .null]).Exact := by
    refine .list _ ?_
    simp only [List.forall_mem_cons]
    exact ⟨hinner, .null, fun _ hm => by cases hm⟩
  have hd : d.Exact := by
    refine .dict _ (by decide) ?_
    simp only [List.forall_mem_cons]
    exact ⟨hitems, hlist, fun _ hm => by cases hm⟩
  have hswap : inner.Reordered inner' := by
    refine .dict [("y", .str "\n", .str "\n"), ("x", .int (-3), .int (-3))] (by decide) ?_ _ (.swap _ _ [])
    simp only [List.forall_mem_cons]
    exact ⟨.refl _, .refl _, fun _ hm => by cases hm⟩
  have hlists : (Datum.list [inner, .null]).Reordered (.list [inner', .null]) := by
    refine .list [(inner, inner'), (.null, .null)] ?_
    simp only [List.forall_mem_cons]
    exact ⟨hswap, .refl _, fun _ hm => by cases hm⟩
  have he : d.Reordered e := by
    refine .dict [("b", .tuple items, .tuple items), ("a", .list [inner, .null], .list [inner', .null])]
      (by decide) ?_ _ (.swap _ _ [])
    simp only [List.forall_mem_cons]
    exact ⟨.refl _, hlists, fun _ hm => by cases hm⟩
  obtain ⟨hread, hend, hsame⟩ := print_lossless_and_canonical hd (.tree 2)
  exact ⟨hd, he, hread, hend, hsame e he⟩

/-- A tuple is printed as a list, a style as its letter. -/
example : String.ofList ((Datum.dict [("b", .tuple [.int 1, .style .tabs]), ("a", .null)]).print .line)
    = "\x7b\x22a\x22: null, \x22b\x22: [1, \x22t\x22]\x7d\n" := by cbv

end Datum

end Indentation
