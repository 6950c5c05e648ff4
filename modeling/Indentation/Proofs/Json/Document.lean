import Indentation.Proofs.Json.RoundTrip
import Indentation.Text.Encoding

/-!
# The characters of a document

A printed document holds no control but line feeds: controls in its strings are written as escapes.
So its line ends are what they are whoever reads them.

## Main statements

* `isPlain_print` — a printed document holds no control but line feeds
* `unifyLineEnds_print` — its line ends stay as they are
-/

namespace Indentation

/-- Where there is no carriage return, every line ends in a line feed. -/
theorem Text.unifyLineEnds_of_notMem {text : List Char} (h : '\r' ∉ text) :
    unifyLineEnds text = text := by
  induction text with
  | nil => rfl
  | cons c text ih =>
    obtain ⟨hc, hrest⟩ := not_or.mp (List.mem_cons.not.mp h)
    rw [unifyLineEnds_cons, if_neg (Ne.symm hc), ih hrest]

namespace Json

/-- A text without controls other than line feeds. -/
def IsPlain (s : List Char) : Prop := ∀ c ∈ s, c = '\n' ∨ 0x20 ≤ c.toNat

@[simp] theorem isPlain_nil : IsPlain [] := fun _ h => by cases h

@[simp] theorem isPlain_cons {c : Char} {s : List Char} :
    IsPlain (c :: s) ↔ (c = '\n' ∨ 0x20 ≤ c.toNat) ∧ IsPlain s :=
  List.forall_mem_cons

@[simp] theorem isPlain_append {s t : List Char} : IsPlain (s ++ t) ↔ IsPlain s ∧ IsPlain t :=
  List.forall_mem_append

theorem isPlain_toDigits (n : Nat) : IsPlain (Nat.toDigits 10 n) := by
  intro c hc
  have hdigit : 48 ≤ c.toNat ∧ c.toNat ≤ 57 := by
    simpa [Char.isDigit, UInt32.le_iff_toNat_le] using Numeral.isDigit_of_mem_toDigits hc
  exact .inr (by omega)

theorem isPlain_decimal (n : Int) : IsPlain (Signature.decimal n) := by
  unfold Signature.decimal
  split
  · simpa using isPlain_toDigits _
  · exact isPlain_toDigits _

/-- What is written for a control is none. -/
theorem isPlain_escapeChar (c : Char) : IsPlain (escapeChar c) := by
  unfold escapeChar
  split_ifs with _ _ _ _ _ _ _ hcontrol
  · simp
  · simp
  · simp
  · simp
  · simp
  · simp
  · simp
  · have hdigit : ∀ n < 16, 0x20 ≤ n.digitChar.toNat := by decide
    rw [hex_of_control hcontrol]
    simp [hdigit (c.toNat / 16) (by omega), hdigit (c.toNat % 16) (by omega)]
  · simpa using .inr (Nat.le_of_not_lt hcontrol)

theorem isPlain_quoteString (s : String) : IsPlain (quoteString s) := by
  have hcontent : IsPlain (s.toList.flatMap escapeChar) := by
    intro c hc
    obtain ⟨d, -, hd⟩ := List.mem_flatMap.mp hc
    exact isPlain_escapeChar d c hd
  simp [quoteString, hcontent]

/-! ### Layouts -/

variable (layout : Layout) (depth : Nat)

theorem isPlain_replicate (n : Nat) : IsPlain (List.replicate n ' ') := by
  intro c hc
  rw [List.eq_of_mem_replicate hc]
  simp

theorem isPlain_opening : IsPlain (layout.opening depth) := by
  cases layout with
  | line => exact isPlain_nil
  | tree step => simpa [Layout.opening] using isPlain_replicate _

theorem isPlain_separator : IsPlain (layout.separator depth) := by
  cases layout with
  | line => simp [Layout.separator]
  | tree step => simpa [Layout.separator] using isPlain_replicate _

variable {layout} {depth}

theorem isPlain_intercalate {sep : List Char} {items : List (List Char)} (hsep : IsPlain sep)
    (hitems : ∀ item ∈ items, IsPlain item) : IsPlain (sep.intercalate items) := by
  induction items with
  | nil => exact isPlain_nil
  | cons item items ih =>
    have hitem := hitems item List.mem_cons_self
    have hrest := ih fun i hi => hitems i (List.mem_cons_of_mem item hi)
    cases items with
    | nil =>
      rw [List.intercalate_singleton]
      exact hitem
    | cons next items =>
      rw [List.intercalate_cons_cons, isPlain_append, isPlain_append]
      exact ⟨⟨hitem, hsep⟩, hrest⟩

theorem isPlain_enclose {open' close : Char} {items : List (List Char)}
    (hbrackets : IsPlain [open', close]) (hitems : ∀ item ∈ items, IsPlain item) :
    IsPlain (enclose layout depth open' close items) := by
  unfold enclose
  split
  · exact hbrackets
  · have hinner := isPlain_intercalate (isPlain_separator layout depth) hitems
    have hclosing : IsPlain (layout.closing (depth - 1)) := isPlain_opening layout (depth - 1)
    simp only [isPlain_cons] at hbrackets
    simp [hbrackets, hinner, hclosing, isPlain_opening]

/-! ### Values -/

theorem isPlain_printAt {v : Value} (h : Exact v) (layout : Layout) (depth : Nat) :
    IsPlain (printAt layout depth v) := by
  induction h generalizing depth with
  | null =>
    show IsPlain ['n', 'u', 'l', 'l']
    simp
  | bool b =>
    cases b with
    | true =>
      show IsPlain ['t', 'r', 'u', 'e']
      simp
    | false =>
      show IsPlain ['f', 'a', 'l', 's', 'e']
      simp
  | int n h => exact isPlain_decimal n
  | str s => exact isPlain_quoteString s
  | arr items h ih =>
    rw [printAt_arr]
    refine isPlain_enclose (by simp) fun item hitem => ?_
    obtain ⟨v, hv, rfl⟩ := List.mem_map.mp hitem
    exact ih v hv (depth + 1)
  | obj members hkeys h ih =>
    rw [printAt_obj]
    refine isPlain_enclose (by simp) fun item hitem => ?_
    obtain ⟨m, hm, rfl⟩ := List.mem_map.mp hitem
    have hvalue := ih m (mem_sortByKey.mp hm) (depth + 1)
    simp [memberText, member, isPlain_quoteString, hvalue]

/-- **A printed document holds no control but line feeds.** -/
theorem isPlain_print {v : Value} (h : Exact v) (layout : Layout) : IsPlain (print layout v) := by
  simp [print, isPlain_printAt h]

/-- **The line ends of a printed document stay as they are.** -/
theorem unifyLineEnds_print {v : Value} (h : Exact v) (layout : Layout) :
    Text.unifyLineEnds (print layout v) = print layout v := by
  refine Text.unifyLineEnds_of_notMem fun hreturn => ?_
  have hplain := isPlain_print h layout _ hreturn
  simp at hplain

end Json

end Indentation
