import Mathlib.Data.List.Induction
import Indentation.Proofs.Json.Canonical
import Indentation.Proofs.Json.Scalar

/-!
# Printed values are read back

The text of a value is read back as the canonical form of the value, in every layout.

The reader is followed from one point of the text to another: an equation between two runs says what
is left to read, which arrays and objects are open and what may come next. What a value contributes
is one such equation (`run_printAt`), whatever is open around it and whatever stands behind it, and
the equations for arrays and objects are chains of the ones for their parts.

Floating-point numbers are left out, as what is said about them rests on their own arithmetic.

## Main statements

* `isRead` — the text of a value is read as its canonical form
* `read_print` — and so is a whole document
-/

namespace Indentation.Json

/-! ## Values that are read back -/

/-- A value without floating-point numbers whose integers are within the limit and whose objects
repeat no key. -/
inductive Exact : Value → Prop where
  | null : Exact .null
  | bool (b : Bool) : Exact (.bool b)
  | int (n : Int) (h : (Nat.toDigits 10 n.natAbs).length ≤ Numeral.limit) : Exact (.int n)
  | str (s : String) : Exact (.str s)
  | arr (items : List Value) (h : ∀ v ∈ items, Exact v) : Exact (.arr items)
  | obj (members : Members) (hkeys : (members.map Prod.fst).Nodup)
      (h : ∀ m ∈ members, Exact m.2) : Exact (.obj members)

namespace Exact

variable {v w : Value}

theorem of_mem_items (h : Exact v) (hw : w ∈ v.items) : Exact w := by
  cases h with
  | arr items hitems => exact hitems w hw
  | _ => cases hw

theorem of_mem_members (h : Exact v) {m : String × Value} (hm : m ∈ v.members) : Exact m.2 := by
  cases h with
  | obj members _ hmembers => exact hmembers m hm
  | _ => cases hm

theorem nodup_members (h : Exact v) : (v.members.map Prod.fst).Nodup := by
  cases h with
  | obj members hkeys _ => exact hkeys
  | _ => exact List.nodup_nil

end Exact

/-! ## Runs from one point to another -/

variable {stack stack' : List Frame} {mode mode' : Mode} {s s' rest : List Char}

/-- A run takes a step and goes on from there, unless all is read. -/
theorem run_eq_bind (h : ∀ v, stack = [] → mode = .after v → skipSpace s ≠ []) :
    run stack mode s = (step stack mode (skipSpace s)).bind fun p => run p.1 p.2.1 p.2.2 := by
  rw [run.eq_2 s stack mode h]
  split
  · next hstep =>
    rw [hstep]
    rfl
  · next hstep =>
    rw [hstep]
    rfl

/-- No step is left where all is read, so where one is taken the run goes on. -/
theorem run_of_step (h : step stack mode (skipSpace s) = .ok (stack', mode', rest)) :
    run stack mode s = run stack' mode' rest := by
  have hrest : ∀ v, stack = [] → mode = .after v → skipSpace s ≠ [] := by
    rintro v rfl rfl hs
    rw [hs] at h
    cases h
  rw [run_eq_bind hrest, h]
  rfl

/-- What stands before the next token does not matter. -/
theorem run_congr (h : skipSpace s = skipSpace s') : run stack mode s = run stack mode s' := by
  by_cases hend : ∃ v, stack = [] ∧ mode = .after v ∧ skipSpace s = []
  · obtain ⟨v, rfl, rfl, hs⟩ := hend
    rw [run.eq_1 s v hs, run.eq_1 s' v (h ▸ hs)]
  · have hrest : ∀ v, stack = [] → mode = .after v → skipSpace s ≠ [] :=
      fun v hstack hmode hs => hend ⟨v, hstack, hmode, hs⟩
    rw [run_eq_bind hrest, run_eq_bind (h ▸ hrest), h]

theorem skipSpace_append {space : List Char} (h : ∀ c ∈ space, isSpace c = true) (s : List Char) :
    skipSpace (space ++ s) = skipSpace s :=
  List.dropWhile_append_of_pos h

theorem skipSpace_of_token {c : Char} (h : isSpace c = false) (s : List Char) :
    skipSpace (c :: s) = c :: s := by
  simp [skipSpace, h]

/-- Space is skipped in a run. -/
theorem run_append_space {space : List Char} (h : ∀ c ∈ space, isSpace c = true) (s : List Char) :
    run stack mode (space ++ s) = run stack mode s :=
  run_congr (skipSpace_append h s)

/-- Where a token stands a step is taken. -/
theorem run_of_token {c : Char} (h : isSpace c = false) (s : List Char) :
    run stack mode (c :: s) = (step stack mode (c :: s)).bind fun p => run p.1 p.2.1 p.2.2 := by
  have hrest : ∀ v, stack = [] → mode = .after v → skipSpace (c :: s) ≠ [] := by
    intro v _ _
    rw [skipSpace_of_token h]
    exact List.cons_ne_nil c s
  rw [run_eq_bind hrest, skipSpace_of_token h]

/-- The first item of an array is read as any value. -/
theorem run_firstItem {c : Char} (hspace : isSpace c = false) (hclose : c ≠ ']') (s : List Char) :
    run (.array [] :: stack) .firstItem (c :: s) = run (.array [] :: stack) .value (c :: s) := by
  have hstep : step (.array [] :: stack) .firstItem (c :: s)
      = step (.array [] :: stack) .value (c :: s) := by
    simp only [step]
    split
    · next heq => exact absurd (List.cons.inj heq).1 hclose
    · rfl
  rw [run_of_token hspace, run_of_token hspace, hstep]

/-- The first key of an object is read as any key. -/
theorem run_firstKey {c : Char} (hspace : isSpace c = false) (hclose : c ≠ '\x7d') (s : List Char) :
    run stack .firstKey (c :: s) = run stack (.key []) (c :: s) := by
  have hstep : step stack .firstKey (c :: s) = step stack (.key []) (c :: s) := by
    simp only [step]
    split
    · next heq => exact absurd (List.cons.inj heq).1 hclose
    · rfl
  rw [run_of_token hspace, run_of_token hspace, hstep]

/-! ## Words, numbers and strings -/

theorem endsNumber_cons {c : Char} (h : c.isDigit = false ∧ c ≠ '.' ∧ c ≠ 'e' ∧ c ≠ 'E')
    (s : List Char) : EndsNumber (c :: s) := by
  intro d hd
  cases hd
  exact h

/-- Space, brackets and quotes, and the byte order mark: what no word and no number starts with. -/
def marks : List Char := [' ', '\t', '\n', '\r', '[', ']', '\x7b', '\x22', '\uFEFF']

theorem isSpace_eq_false {c : Char} (h : c ∉ marks) : isSpace c = false := by
  simp only [marks, List.mem_cons, not_or] at h
  simp [isSpace, h]

theorem run_of_readScalar {c : Char} {v : Value} (hc : c ∉ marks)
    (h : readScalar (c :: s) = .ok (v, rest)) :
    run stack .value (c :: s) = run stack (.after v) rest := by
  refine run_of_step ?_
  rw [skipSpace_of_token (isSpace_eq_false hc)]
  show stepValue stack (c :: s) = _
  unfold stepValue
  split
  · next heq =>
    obtain ⟨rfl, -⟩ := List.cons.inj heq
    simp [marks] at hc
  · next heq =>
    obtain ⟨rfl, -⟩ := List.cons.inj heq
    simp [marks] at hc
  · next heq =>
    obtain ⟨rfl, -⟩ := List.cons.inj heq
    simp [marks] at hc
  · rw [h]
    rfl

/-- A decimal starts with a digit or a minus sign. -/
theorem exists_decimal_eq_cons (n : Int) :
    ∃ c cs, Signature.decimal n = c :: cs ∧ c ∉ marks := by
  obtain ⟨c, cs, hcs⟩ := List.exists_cons_of_ne_nil (Nat.toDigits_ne_nil (n := n.toNat) (b := 10))
  unfold Signature.decimal
  by_cases hneg : n < 0
  · rw [if_pos hneg]
    exact ⟨_, _, rfl, by simp [marks]⟩
  · rw [if_neg hneg]
    refine ⟨c, cs, hcs, ?_⟩
    intro hmark
    have hc : c.isDigit = true := Numeral.isDigit_of_mem_toDigits (hcs ▸ List.mem_cons_self)
    have hno : ∀ d ∈ marks, d.isDigit = false := by simp [marks]
    rw [hno c hmark] at hc
    cases hc

theorem run_decimal {n : Int} (hn : (Nat.toDigits 10 n.natAbs).length ≤ Numeral.limit)
    (hrest : EndsNumber rest) :
    run stack .value (Signature.decimal n ++ rest) = run stack (.after (.int n)) rest := by
  obtain ⟨c, cs, hcs, hc⟩ := exists_decimal_eq_cons n
  have hread := readScalar_decimal hn hrest
  rw [hcs, List.cons_append] at hread ⊢
  exact run_of_readScalar hc hread

theorem readString_quoteString (start : List Char) (s : String) (rest : List Char) :
    readString start [] (s.toList.flatMap escapeChar ++ '\x22' :: rest) = .ok (s, rest) := by
  rw [readString_flatMap_escapeChar, List.reverse_nil, List.nil_append, String.ofList_toList]

theorem quoteString_append (s : String) (rest : List Char) :
    quoteString s ++ rest = '\x22' :: (s.toList.flatMap escapeChar ++ '\x22' :: rest) := by
  simp [quoteString]

theorem run_quoteString (s : String) :
    run stack .value (quoteString s ++ rest) = run stack (.after (.str s)) rest := by
  refine run_of_step ?_
  rw [quoteString_append, skipSpace_of_token rfl]
  show (readString _ [] _).map _ = _
  rw [readString_quoteString]
  rfl

/-! ## Arrays -/

variable (layout : Layout) (depth : Nat)

theorem isSpace_opening : ∀ c ∈ layout.opening depth, isSpace c = true := by
  intro c hc
  cases layout with
  | line => cases hc
  | tree step =>
    rcases List.mem_cons.mp hc with rfl | hc
    · rfl
    · rw [List.eq_of_mem_replicate hc]
      rfl

theorem isSpace_closing : ∀ c ∈ layout.closing depth, isSpace c = true :=
  isSpace_opening layout depth

/-- A separator is a comma with space behind it. -/
theorem exists_separator_eq_cons :
    ∃ gap, layout.separator depth = ',' :: gap ∧ ∀ c ∈ gap, isSpace c = true := by
  cases layout with
  | line => exact ⟨[' '], rfl, by simp [isSpace]⟩
  | tree step => exact ⟨_, rfl, isSpace_opening (.tree step) depth⟩

theorem endsNumber_separator (s : List Char) : EndsNumber (layout.separator depth ++ s) := by
  obtain ⟨gap, hgap, -⟩ := exists_separator_eq_cons layout depth
  rw [hgap]
  exact endsNumber_cons (by decide) _

theorem endsNumber_closing {c : Char} (hc : c = ']' ∨ c = '\x7d') (s : List Char) :
    EndsNumber (layout.closing depth ++ c :: s) := by
  cases layout with
  | line => rcases hc with rfl | rfl <;> exact endsNumber_cons (by decide) _
  | tree step => exact endsNumber_cons (by decide) _

/-! ### Between two parts, and behind the last one -/

section

variable (v : Value) (s : List Char)

theorem run_separator_of_array (done : List Value) :
    run (.array done :: stack) (.after v) (layout.separator depth ++ s)
      = run (.array (v :: done) :: stack) .value s := by
  obtain ⟨gap, hgap, hspace⟩ := exists_separator_eq_cons layout depth
  rw [hgap, List.cons_append, ← run_append_space hspace s]
  exact run_of_step (by rw [skipSpace_of_token rfl]; rfl)

theorem run_separator_of_object (done : Members) (k : String) :
    run (.object done k :: stack) (.after v) (layout.separator depth ++ s)
      = run stack (.key ((k, v) :: done)) s := by
  obtain ⟨gap, hgap, hspace⟩ := exists_separator_eq_cons layout depth
  rw [hgap, List.cons_append, ← run_append_space hspace s]
  exact run_of_step (by rw [skipSpace_of_token rfl]; rfl)

theorem run_closing_of_array (done : List Value) :
    run (.array done :: stack) (.after v) (layout.closing depth ++ ']' :: s)
      = run stack (.after (.arr (v :: done).reverse)) s := by
  rw [run_append_space (isSpace_closing layout depth)]
  exact run_of_step (by rw [skipSpace_of_token rfl]; rfl)

theorem run_closing_of_object (done : Members) (k : String) :
    run (.object done k :: stack) (.after v) (layout.closing depth ++ '\x7d' :: s)
      = run stack (.after (object ((k, v) :: done))) s := by
  rw [run_append_space (isSpace_closing layout depth)]
  exact run_of_step (by rw [skipSpace_of_token rfl]; rfl)

end

/-- The text of a value is read as the canonical form of the value. -/
def IsRead (v : Value) : Prop :=
  ∀ (depth : Nat) (stack : List Frame) (rest : List Char), EndsNumber rest →
    run stack .value (printAt layout depth v ++ rest) = run stack (.after v.sorted) rest

variable {layout} {depth}

/-- The items of an array are read one by one. `done` holds those before, last first. -/
theorem run_items {v : Value} {items : List Value} (h : ∀ w ∈ v :: items, IsRead layout w)
    (done : List Value) (outer : Nat) :
    run (.array done :: stack) .value
        ((layout.separator depth).intercalate ((v :: items).map (printAt layout depth))
          ++ (layout.closing outer ++ ']' :: rest))
      = run stack (.after (.arr (done.reverse ++ (v :: items).map Value.sorted))) rest := by
  have hv := h v List.mem_cons_self depth (.array done :: stack)
  induction items generalizing v done with
  | nil =>
    rw [List.map_singleton, List.intercalate_singleton,
      hv _ (endsNumber_closing layout outer (.inl rfl) rest), run_closing_of_array,
      List.reverse_cons, List.map_singleton]
  | cons w items ih =>
    have hrest : ∀ u ∈ w :: items, IsRead layout u := fun u hu => h u (List.mem_cons_of_mem v hu)
    rw [List.map_cons, List.map_cons, List.intercalate_cons_cons, List.append_assoc,
      List.append_assoc, hv _ (endsNumber_separator layout depth _), run_separator_of_array,
      ← List.map_cons, ih hrest _ (hrest w List.mem_cons_self _ _), List.reverse_cons,
      List.append_assoc, List.singleton_append, ← List.map_cons]

/-- A value starts with a character that is neither space nor a closing bracket nor a byte order
mark. -/
theorem exists_printAt_eq_cons {v : Value} (h : Exact v) (layout : Layout) (depth : Nat) :
    ∃ c cs, printAt layout depth v = c :: cs ∧ isSpace c = false ∧ c ≠ ']' ∧ c ≠ '\uFEFF' := by
  have hbracket : ∀ (open' close : Char) (items : List (List Char)) (depth : Nat),
      ∃ cs, enclose layout depth open' close items = open' :: cs := by
    intro open' close items depth
    unfold enclose
    split
    · exact ⟨_, rfl⟩
    · exact ⟨_, rfl⟩
  cases h with
  | null => exact ⟨'n', _, rfl, by decide⟩
  | bool b =>
    cases b with
    | true => exact ⟨'t', _, rfl, by decide⟩
    | false => exact ⟨'f', _, rfl, by decide⟩
  | int n h =>
    obtain ⟨c, cs, hcs, hc⟩ := exists_decimal_eq_cons n
    refine ⟨c, cs, hcs, isSpace_eq_false hc, ?_, ?_⟩
    · rintro rfl
      simp [marks] at hc
    · rintro rfl
      simp [marks] at hc
  | str s => exact ⟨'\x22', _, rfl, by decide⟩
  | arr items h =>
    obtain ⟨cs, hcs⟩ := hbracket '[' ']' (items.map (printAt layout (depth + 1))) (depth + 1)
    exact ⟨'[', cs, by rw [printAt_arr, hcs], by decide⟩
  | obj members hkeys h =>
    obtain ⟨cs, hcs⟩ := hbracket '\x7b' '\x7d'
      ((sortByKey members).map (memberText layout (depth + 1))) (depth + 1)
    exact ⟨'\x7b', cs, by rw [printAt_obj, hcs], by decide⟩

/-! ## Objects -/

theorem Members.set_of_notMem {ms : Members} {k : String} (h : k ∉ ms.map Prod.fst) (v : Value) :
    ms.set k v = ms ++ [(k, v)] := by
  induction ms with
  | nil => rfl
  | cons m ms ih =>
    obtain ⟨hk, hrest⟩ := not_or.mp (List.mem_cons.not.mp h)
    rw [Members.set, if_neg (Ne.symm hk), ih hrest, List.cons_append]

/-- What is put behind the rest wherever it is unlike all of it makes a list of such parts again. -/
theorem foldl_eq_self_of_pairwise {α : Type} {unlike : α → α → Prop} {put : List α → α → List α}
    (hput : ∀ done a, (∀ b ∈ done, unlike b a) → put done a = done ++ [a]) {as : List α}
    (h : as.Pairwise unlike) : as.foldl put [] = as := by
  induction as using List.reverseRecOn with
  | nil => rfl
  | append_singleton as a ih =>
    obtain ⟨has, -, hlast⟩ := List.pairwise_append.mp h
    rw [List.foldl_append, ih has, List.foldl_cons, List.foldl_nil]
    exact hput as a fun b hb => hlast b hb a List.mem_cons_self

/-- Members that are set one after the other, with a new key each, are the members in that order. -/
theorem Members.foldl_set_eq_self {ms : Members} (h : (ms.map Prod.fst).Nodup) :
    ms.foldl (fun done m => Members.set done m.1 m.2) [] = ms := by
  refine foldl_eq_self_of_pairwise (fun done m hm => Members.set_of_notMem ?_ m.2)
    (List.pairwise_map.mp h)
  intro hmem
  obtain ⟨n, hn, hkey⟩ := List.mem_map.mp hmem
  exact hm n hn hkey

/-- Members of different keys make the object that lists them. -/
theorem object_reverse {ms : Members} (h : (ms.map Prod.fst).Nodup) : object ms.reverse = .obj ms := by
  rw [object, List.reverse_reverse]
  exact congrArg Value.obj (Members.foldl_set_eq_self h)

theorem readKey_quoteString (k : String) (s : List Char) :
    readKey (quoteString k ++ ':' :: s) = .ok (k, s) := by
  rw [quoteString_append]
  unfold readKey
  simp only [readString_quoteString, skipSpace_of_token (c := ':') rfl]

/-- The key of a member is read, and then its value. -/
theorem run_memberText {m : String × Value} (h : IsRead layout m.2) (done : Members)
    (hrest : EndsNumber rest) :
    run stack (.key done) (memberText layout depth m ++ rest)
      = run (.object done m.1 :: stack) (.after m.2.sorted) rest := by
  have hspace : ∀ c ∈ [' '], isSpace c = true := by simp [isSpace]
  have htext : memberText layout depth m ++ rest
      = quoteString m.1 ++ ':' :: ([' '] ++ (printAt layout depth m.2 ++ rest)) := by
    simp [memberText, member]
  have hstep : step stack (.key done) (skipSpace (memberText layout depth m ++ rest))
      = .ok (.object done m.1 :: stack, .value, [' '] ++ (printAt layout depth m.2 ++ rest)) := by
    rw [htext, quoteString_append, skipSpace_of_token rfl, ← quoteString_append]
    show (readKey _).map _ = _
    rw [readKey_quoteString]
    rfl
  rw [run_of_step hstep, run_append_space hspace, h depth _ rest hrest]

/-- The members of an object are read one by one. `done` holds those before, last first. -/
theorem run_members {m : String × Value} {members : Members}
    (h : ∀ n ∈ m :: members, IsRead layout n.2) (done : Members) (outer : Nat) :
    run stack (.key done)
        ((layout.separator depth).intercalate ((m :: members).map (memberText layout depth))
          ++ (layout.closing outer ++ '\x7d' :: rest))
      = run stack (.after (object (((m :: members).map sortedMember).reverse ++ done))) rest := by
  have hm : ∀ s, EndsNumber s → run stack (.key done) (memberText layout depth m ++ s)
      = run (.object done m.1 :: stack) (.after m.2.sorted) s :=
    fun s => run_memberText (h m List.mem_cons_self) done
  induction members generalizing m done with
  | nil =>
    rw [List.map_singleton, List.intercalate_singleton,
      hm _ (endsNumber_closing layout outer (.inr rfl) rest), run_closing_of_object]
    rfl
  | cons n members ih =>
    have hrest : ∀ u ∈ n :: members, IsRead layout u.2 :=
      fun u hu => h u (List.mem_cons_of_mem m hu)
    rw [List.map_cons, List.map_cons, List.intercalate_cons_cons, List.append_assoc,
      List.append_assoc, hm _ (endsNumber_separator layout depth _), run_separator_of_object,
      ← List.map_cons, ih hrest _ fun s => run_memberText (hrest n List.mem_cons_self) _]
    simp [sortedMember]

/-! ## Values and documents -/

theorem enclose_cons_append (open' close : Char) (item : List Char) (items : List (List Char)) :
    enclose layout (depth + 1) open' close (item :: items) ++ rest
      = open' :: (layout.opening (depth + 1) ++ ((layout.separator (depth + 1)).intercalate
          (item :: items) ++ (layout.closing depth ++ close :: rest))) := by
  simp [enclose]

theorem isRead_arr {items : List Value} (hexact : ∀ v ∈ items, Exact v)
    (h : ∀ v ∈ items, IsRead layout v) : IsRead layout (.arr items) := by
  intro depth stack rest _
  have hopen : ∀ s, run stack .value ('[' :: s) = run (.array [] :: stack) .firstItem s :=
    fun s => run_of_step (by rw [skipSpace_of_token rfl]; rfl)
  rw [printAt_arr, Value.sorted_arr]
  cases items with
  | nil =>
    show run stack .value ('[' :: ']' :: rest) = _
    rw [hopen]
    exact run_of_step (by rw [skipSpace_of_token rfl]; rfl)
  | cons v items =>
    have hitems := @run_items stack rest layout (depth + 1) v items h [] depth
    obtain ⟨c, cs, hcs, hspace, hclose, -⟩ :=
      exists_printAt_eq_cons (hexact v List.mem_cons_self) layout (depth + 1)
    rw [List.map_cons, hcs, List.intercalate_cons_cons_left, List.cons_append] at hitems
    rw [List.map_cons, enclose_cons_append, hopen, run_append_space (isSpace_opening layout _), hcs,
      List.intercalate_cons_cons_left, List.cons_append, run_firstItem hspace hclose, hitems]
    rfl

theorem isRead_obj {members : Members} (hkeys : (members.map Prod.fst).Nodup)
    (h : ∀ m ∈ members, IsRead layout m.2) : IsRead layout (.obj members) := by
  intro depth stack rest _
  have hopen : ∀ s, run stack .value ('\x7b' :: s) = run stack .firstKey s :=
    fun s => run_of_step (by rw [skipSpace_of_token rfl]; rfl)
  have hnodup := nodup_keys_sortByKey hkeys
  have hread : ∀ m ∈ sortByKey members, IsRead layout m.2 := fun m hm => h m (mem_sortByKey.mp hm)
  rw [printAt_obj, Value.sorted_obj]
  cases hsorted : sortByKey members with
  | nil =>
    show run stack .value ('\x7b' :: '\x7d' :: rest) = _
    rw [hopen]
    exact run_of_step (by rw [skipSpace_of_token rfl]; rfl)
  | cons m ms =>
    rw [hsorted] at hnodup hread
    have hmembers := @run_members stack rest layout (depth + 1) m ms hread [] depth
    have htext : memberText layout (depth + 1) m = '\x22' :: (m.1.toList.flatMap escapeChar
        ++ ['\x22'] ++ ':' :: ' ' :: printAt layout (depth + 1) m.2) := rfl
    rw [List.append_nil, object_reverse (by rw [List.map_map]; exact hnodup), List.map_cons, htext,
      List.intercalate_cons_cons_left, List.cons_append] at hmembers
    rw [List.map_cons, enclose_cons_append, hopen, run_append_space (isSpace_opening layout _), htext,
      List.intercalate_cons_cons_left, List.cons_append, run_firstKey rfl (by decide), hmembers]

/-- **The text of a value is read as its canonical form**, whatever is open around it and whatever
stands behind it. -/
theorem isRead {v : Value} (h : Exact v) (layout : Layout) : IsRead layout v := by
  induction h with
  | null =>
    intro depth stack rest _
    show run stack .value ('n' :: 'u' :: 'l' :: 'l' :: rest) = _
    exact run_of_readScalar (by simp [marks]) (readScalar_null rest)
  | bool b =>
    intro depth stack rest _
    cases b with
    | true =>
      show run stack .value ('t' :: 'r' :: 'u' :: 'e' :: rest) = _
      exact run_of_readScalar (by simp [marks]) (readScalar_true rest)
    | false =>
      show run stack .value ('f' :: 'a' :: 'l' :: 's' :: 'e' :: rest) = _
      exact run_of_readScalar (by simp [marks]) (readScalar_false rest)
  | int n h =>
    intro depth stack rest hrest
    exact run_decimal h hrest
  | str s =>
    intro depth stack rest _
    exact run_quoteString s
  | arr items h ih => exact isRead_arr h ih
  | obj members hkeys _ ih => exact isRead_obj hkeys ih

/-- **A printed document is read back in its canonical form.** -/
theorem read_print {v : Value} (h : Exact v) (layout : Layout) :
    read (print layout v) = .ok v.sorted := by
  have hfeed : ∀ c ∈ ['\n'], isSpace c = true := by simp [isSpace]
  obtain ⟨c, cs, hcs, -, -, hmark⟩ := exists_printAt_eq_cons h layout 0
  have hrun : run [] .value (print layout v) = .ok v.sorted := by
    rw [print, isRead h layout 0 [] ['\n'] (endsNumber_cons (by decide) [])]
    exact run.eq_1 ['\n'] v.sorted (skipSpace_append hfeed [])
  unfold read
  split
  · next heq =>
    rw [print, hcs, List.cons_append] at heq
    exact absurd (List.cons.inj heq).1 hmark
  · rw [hrun]
    rfl

end Indentation.Json
