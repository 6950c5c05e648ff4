import Indentation.Numeral
import Indentation.Proofs.Text
import Mathlib.Data.List.Forall2

/-!
# Widths

Which texts are read as a width, which are not, and which are refused (`Overlong`).

## Main statements

* `width?_eq_some_iff` — a width is written in digits within the limit
* `width?_eq_error_iff` — an overlong width is refused, and no other text is
* `value_toDigits` — the decimal digits of a number stand for it
* `value_congr` — the value of a numeral does not depend on the scripts of its digits
* `exists_toDigits_value` — a numeral is written for its value, in ASCII digits
-/

namespace Indentation.Numeral

open Text

variable {s : List Char}

theorem toNat_of_isDigit {c : Char} (h : c.isDigit = true) : 48 ≤ c.toNat ∧ c.toNat < 58 := by
  simp only [Char.isDigit, Bool.and_eq_true, decide_eq_true_eq] at h
  exact ⟨h.1, Nat.lt_succ_of_le h.2⟩

theorem isBlank_of_isDigit {c : Char} (h : c.isDigit = true) : isBlank c = false := by
  have hc := toNat_of_isDigit h
  cases hblank : isBlank c with
  | false => rfl
  | true =>
    simp only [isBlank, Bool.or_eq_true, Bool.and_eq_true, decide_eq_true_eq, beq_iff_eq] at hblank
    omega

theorem trim_of_digits (hs : ∀ c ∈ s, c.isDigit = true) : trim s = s :=
  trim_eq_self fun c hc => isBlank_of_isDigit (hs c hc)

/-- Digits that are too many, with blanks around them. -/
structure Overlong (s : List Char) : Prop where
  digits : ∀ c ∈ trim s, c.isDigit = true
  limit_lt : limit < (trim s).length

theorem width?_of_not_digits (h : ¬(trim s ≠ [] ∧ ∀ c ∈ trim s, c.isDigit = true)) :
    width? s = .ok none := by
  unfold width?
  dsimp only
  rw [if_pos]
  by_cases hnil : trim s = []
  · simp [hnil]
  · have hdigits : ¬∀ c ∈ trim s, c.isDigit = true := fun hall => h ⟨hnil, hall⟩
    simpa using Or.inr hdigits

/-- Digits are read as a numeral, and zero is no width. -/
theorem width?_of_digits (hne : trim s ≠ []) (hs : ∀ c ∈ trim s, c.isDigit = true) :
    width? s = (read (trim s)).map fun n => if n = 0 then none else some n := by
  unfold width?
  dsimp only
  rw [if_neg]
  simpa [hne] using hs

/-- **A width is written in digits within the limit**, and it is not zero. -/
theorem width?_eq_some_iff {n : Nat} : width? s = .ok (some n) ↔
    (∀ c ∈ trim s, c.isDigit = true) ∧ (trim s).length ≤ limit ∧ n = value (trim s) ∧ 0 < n := by
  by_cases h : trim s ≠ [] ∧ ∀ c ∈ trim s, c.isDigit = true
  · rw [width?_of_digits h.1 h.2]
    unfold read
    by_cases hlimit : (trim s).length ≤ limit
    · rw [if_pos hlimit]
      by_cases hzero : value (trim s) = 0
      · simp [Except.map, hzero]
      · simp only [Except.map, if_neg hzero, Except.ok.injEq, Option.some.injEq]
        constructor
        · rintro rfl
          exact ⟨h.2, hlimit, rfl, Nat.pos_of_ne_zero hzero⟩
        · rintro ⟨-, -, rfl, -⟩
          rfl
    · rw [if_neg hlimit]
      simp [Except.map, hlimit]
  · rw [width?_of_not_digits h]
    constructor
    · intro hnone
      cases hnone
    · rintro ⟨hdigits, -, rfl, hpos⟩
      -- the value of no digits is zero
      refine absurd ⟨fun hnil => ?_, hdigits⟩ h
      rw [hnil] at hpos
      exact absurd hpos (Nat.lt_irrefl 0)

/-- **An overlong width is refused, and no other text is.** -/
theorem width?_eq_error_iff {e : OverlongNumeral} :
    width? s = .error e ↔ Overlong s ∧ e = ⟨(trim s).length⟩ := by
  by_cases h : trim s ≠ [] ∧ ∀ c ∈ trim s, c.isDigit = true
  · rw [width?_of_digits h.1 h.2]
    cases hread : read (trim s) with
    | error e' =>
      obtain ⟨hlimit, rfl⟩ := read_eq_error_iff.mp hread
      have hlong : Overlong s := ⟨h.2, hlimit⟩
      simp [Except.map, hlong, eq_comm]
    | ok n =>
      obtain ⟨hlimit, -⟩ := read_eq_ok_iff.mp hread
      have hshort : ¬Overlong s := fun hlong => Nat.not_lt.mpr hlimit hlong.limit_lt
      simp [Except.map, hshort]
  · rw [width?_of_not_digits h]
    have hshort : ¬Overlong s := by
      intro hlong
      refine h ⟨fun hnil => ?_, hlong.digits⟩
      have hlimit := hlong.limit_lt
      rw [hnil] at hlimit
      exact absurd hlimit (Nat.not_lt_zero _)
    simp [hshort]

/-! ## Decimal digits of a number -/

/-- ASCII digits stand for the number that they stand for in base ten. -/
theorem value_eq_ofDigitChars {ds : List Char} (h : ∀ c ∈ ds, c.isDigit = true) :
    value ds = Nat.ofDigitChars 10 ds 0 := by
  have hfold : ∀ n, ds.foldl (fun n c => 10 * n + (digit? c).getD 0) n
      = Nat.ofDigitChars 10 ds n := by
    induction ds with
    | nil => exact fun n => rfl
    | cons c ds ih =>
      intro n
      rw [List.foldl_cons, ih fun d hd => h d (List.mem_cons_of_mem c hd), Nat.ofDigitChars_cons,
        digit?_of_isDigit (h c List.mem_cons_self)]
      rfl
  exact hfold 0

theorem isDigit_of_mem_toDigits {n : Nat} {c : Char} (h : c ∈ Nat.toDigits 10 n) :
    c.isDigit = true :=
  Nat.isDigit_of_mem_toDigits (by decide) (by decide) h

/-- The digits of a number stand for it. -/
theorem value_toDigits (n : Nat) : value (Nat.toDigits 10 n) = n := by
  rw [value_eq_ofDigitChars fun c hc => isDigit_of_mem_toDigits hc]
  exact Nat.ofDigitChars_ten_toDigits

/-- The digits of a positive number do not start with zero. -/
theorem exists_toDigits_eq_cons {n : Nat} (hn : 0 < n) :
    ∃ c ds, Nat.toDigits 10 n = c :: ds ∧ c ≠ '0' := by
  induction n using Nat.strongRecOn with
  | _ n ih =>
    rw [Nat.toDigits_eq_if (by decide)]
    by_cases hlt : n < 10
    · rw [if_pos hlt]
      refine ⟨n.digitChar, [], rfl, ?_⟩
      have hdigit : ∀ m < 10, 0 < m → m.digitChar ≠ '0' := by decide
      exact hdigit n hlt hn
    · rw [if_neg hlt]
      obtain ⟨c, ds, hds, hc⟩ := ih (n / 10) (by omega) (by omega)
      rw [hds]
      exact ⟨c, _, rfl, hc⟩

/-! ## Digits of any script -/

/-- The same digit, of whatever script. -/
def SameDigit (c e : Char) : Prop := ∃ n, digit? c = some n ∧ digit? e = some n

theorem digit?_digitChar {n : Nat} (h : n < 10) : digit? n.digitChar = some n := by
  have hall : ∀ m < 10, digit? m.digitChar = some m := by decide
  exact hall n h

theorem isDigit_of_sameDigit {c e : Char} (h : SameDigit c e) : isDigit c = true := by
  obtain ⟨n, hc, -⟩ := h
  rw [isDigit, hc]
  rfl

/-- An ASCII digit is no other ASCII digit. -/
theorem SameDigit.eq {c e : Char} (h : SameDigit c e) (hc : c.isDigit = true)
    (he : e.isDigit = true) : c = e := by
  obtain ⟨n, hcn, hen⟩ := h
  rw [digit?_of_isDigit hc] at hcn
  rw [digit?_of_isDigit he] at hen
  have hcn := Option.some.inj hcn
  have hen := Option.some.inj hen
  have hclow := toNat_of_isDigit hc
  have helow := toNat_of_isDigit he
  exact Char.toNat_inj.mp (by omega)

theorem sameDigit_self {c : Char} (h : c.isDigit = true) : SameDigit c c :=
  ⟨_, digit?_of_isDigit h, digit?_of_isDigit h⟩

theorem forall_isDigit_of_sameDigit {ds es : List Char} (h : List.Forall₂ SameDigit ds es) :
    ∀ c ∈ ds, isDigit c = true := by
  induction h with
  | nil => simp
  | cons hdigit _ ih => exact List.forall_mem_cons.mpr ⟨isDigit_of_sameDigit hdigit, ih⟩

theorem eq_of_sameDigit {ds es : List Char} (h : List.Forall₂ SameDigit ds es)
    (hds : ∀ c ∈ ds, c.isDigit = true) (hes : ∀ c ∈ es, c.isDigit = true) : ds = es := by
  induction h with
  | nil => rfl
  | cons hdigit _ ih =>
    obtain ⟨hd, hds⟩ := List.forall_mem_cons.mp hds
    obtain ⟨he, hes⟩ := List.forall_mem_cons.mp hes
    rw [hdigit.eq hd he, ih hds hes]

/-- **The value of a numeral does not depend on the scripts of its digits.** -/
theorem value_congr {ds es : List Char} (h : List.Forall₂ SameDigit ds es) : value ds = value es := by
  have hfold : ∀ n, ds.foldl (fun n c => 10 * n + (digit? c).getD 0) n
      = es.foldl (fun n c => 10 * n + (digit? c).getD 0) n := by
    induction h with
    | nil => exact fun n => rfl
    | cons hdigit _ ih =>
      obtain ⟨m, hc, he⟩ := hdigit
      intro n
      rw [List.foldl_cons, List.foldl_cons, hc, he]
      exact ih _
  exact hfold 0

/-- Digits behind a number are the last ones that are written for what both stand for together. -/
theorem exists_toDigits_foldl {ds : List Char} (hds : ∀ c ∈ ds, isDigit c = true) {n : Nat}
    (hn : 0 < n) : ∃ es, List.Forall₂ SameDigit ds es ∧
      Nat.toDigits 10 (ds.foldl (fun n c => 10 * n + (digit? c).getD 0) n)
        = Nat.toDigits 10 n ++ es := by
  -- `n` is what the digits before have given, and it is positive, so its own digits stay in front
  induction ds generalizing n with
  | nil => exact ⟨[], .nil, (List.append_nil _).symm⟩
  | cons c ds ih =>
    obtain ⟨d, hd⟩ := Option.isSome_iff_exists.mp (hds c List.mem_cons_self)
    have hlt : d < 10 := digit?_lt_ten hd
    obtain ⟨es, hsame, hwritten⟩ := ih (fun e he => hds e (List.mem_cons_of_mem c he))
      (n := 10 * n + d) (by omega)
    refine ⟨d.digitChar :: es, .cons ⟨d, hd, digit?_digitChar hlt⟩ hsame, ?_⟩
    rw [List.foldl_cons, hd, Option.getD_some, hwritten,
      ← Nat.toDigits_append_toDigits (by decide) hn hlt, Nat.toDigits_of_lt_base hlt]
    rw [List.append_assoc, List.singleton_append]

/-- **A numeral that does not start with zero is written for its value**, in ASCII digits. -/
theorem exists_toDigits_value {c : Char} (hc : c.isDigit = true) (hzero : c ≠ '0') {ds : List Char}
    (hds : ∀ d ∈ ds, isDigit d = true) :
    ∃ es, List.Forall₂ SameDigit ds es ∧ Nat.toDigits 10 (value (c :: ds)) = c :: es := by
  have hrange := toNat_of_isDigit hc
  have hne : c.toNat ≠ 48 := fun h => hzero (Char.toNat_inj.mp h)
  have hchar : (c.toNat - 48).digitChar = c := by
    refine Char.toNat_inj.mp ?_
    rw [Nat.toNat_digitChar_of_lt_ten (by omega)]
    omega
  obtain ⟨es, hsame, hwritten⟩ := exists_toDigits_foldl hds (n := c.toNat - 48) (by omega)
  refine ⟨es, hsame, ?_⟩
  rw [value, List.foldl_cons, digit?_of_isDigit hc, Option.getD_some, Nat.mul_zero, Nat.zero_add,
    hwritten, Nat.toDigits_of_lt_base (by omega), hchar]
  rfl

end Indentation.Numeral
