import Indentation.Json.Printer
import Indentation.Json.Reader
import Indentation.Proofs.Numeral
import Indentation.Proofs.Text

/-!
# Printed numbers and strings are read back

What the printer writes for an integer, a string or one of the words is read back as that value,
whatever follows it. Only a number has to be told from what follows it (`EndsNumber`).

## Main statements

* `readScalar_decimal` — an integer within the limit is read back
* `readString_flatMap_escapeChar` — a string is read back, whatever characters it holds
-/

namespace Indentation.Json

open Text

/-! ## Numbers -/

/-- What follows a number and is not read as a part of it. -/
def EndsNumber (rest : List Char) : Prop :=
  ∀ c ∈ rest.head?, c.isDigit = false ∧ c ≠ '.' ∧ c ≠ 'e' ∧ c ≠ 'E'

variable {rest : List Char}

/-- Digits are read up to what ends the number. -/
theorem digitRun_append {ds : List Char} (hds : ∀ c ∈ ds, c.isDigit = true)
    (hrest : EndsNumber rest) :
    digitRun (ds ++ rest) = ds ∧ (ds ++ rest).dropWhile Char.isDigit = rest := by
  have hend : ∀ c ∈ rest.head?, c.isDigit = false := fun c hc => (hrest c hc).1
  exact ⟨Text.takeWhile_append_of_head? hds hend, Text.dropWhile_append_of_head? hds hend⟩

theorem integral?_toDigits (n : Nat) (hrest : EndsNumber rest) :
    integral? (Nat.toDigits 10 n ++ rest) = some (Nat.toDigits 10 n, rest) := by
  rcases Nat.eq_zero_or_pos n with rfl | hn
  · rw [Nat.toDigits_zero]
    rfl
  · obtain ⟨c, ds, hds, hc⟩ := Numeral.exists_toDigits_eq_cons hn
    have hdigits : ∀ d ∈ c :: ds, d.isDigit = true := fun d hd =>
      Numeral.isDigit_of_mem_toDigits (hds ▸ hd)
    obtain ⟨hrun, hdrop⟩ := digitRun_append (fun d hd => hdigits d (List.mem_cons_of_mem c hd)) hrest
    rw [hds, List.cons_append]
    unfold integral?
    split
    · next heq => exact absurd (List.cons.inj heq).1 hc
    · next d s _ heq =>
      obtain ⟨rfl, rfl⟩ := List.cons.inj heq
      rw [if_pos (hdigits c List.mem_cons_self), hrun, hdrop]
    · next heq => cases heq

theorem fraction_of_endsNumber (hrest : EndsNumber rest) : fraction rest = ([], rest) := by
  unfold fraction
  split
  · exact absurd rfl (hrest _ rfl).2.1
  · rfl

theorem exponent?_of_endsNumber (hrest : EndsNumber rest) : exponent? rest = (none, rest) := by
  cases rest with
  | nil => rfl
  | cons c rest =>
    obtain ⟨-, -, he, hE⟩ := hrest c rfl
    simp [exponent?, he, hE]

/-- The digits of a number within the limit are read as that number, behind either sign. -/
theorem readNumber_toDigits {n : Nat} (hn : (Nat.toDigits 10 n).length ≤ Numeral.limit)
    (hrest : EndsNumber rest) (start : List Char) (negative : Bool) :
    readNumber start negative (Nat.toDigits 10 n ++ rest)
      = .ok (.int (if negative then -(n : Int) else n), rest) := by
  have hread : Numeral.read (Nat.toDigits 10 n) = .ok n :=
    Numeral.read_eq_ok_iff.mpr ⟨hn, (Numeral.value_toDigits n).symm⟩
  simp [readNumber, integral?_toDigits n hrest, fraction_of_endsNumber hrest,
    exponent?_of_endsNumber hrest, hread]

/-- No word starts with a digit, and none with a digit behind a minus sign. -/
theorem findSome?_literals_of_digit {c : Char} (hc : c.isDigit = true) (s : List Char) :
    (literals.findSome? fun (word, v) => (dropLead? word (c :: s)).map (v, ·)) = none ∧
      (literals.findSome? fun (word, v) => (dropLead? word ('-' :: c :: s)).map (v, ·)) = none := by
  have hne : ∀ d : Char, d.isDigit = false → d ≠ c := by
    rintro d hd rfl
    rw [hc] at hd
    cases hd
  have hn : 'n' ≠ c := hne _ rfl
  have ht : 't' ≠ c := hne _ rfl
  have hf : 'f' ≠ c := hne _ rfl
  have hN : 'N' ≠ c := hne _ rfl
  have hI : 'I' ≠ c := hne _ rfl
  have hminus : '-' ≠ c := hne _ rfl
  constructor <;> simp [literals, dropLead?, hn, ht, hf, hN, hI, hminus]

/-- **An integer within the limit is read back.** -/
theorem readScalar_decimal {n : Int} (hn : (Nat.toDigits 10 n.natAbs).length ≤ Numeral.limit)
    (hrest : EndsNumber rest) :
    readScalar (Signature.decimal n ++ rest) = .ok (.int n, rest) := by
  obtain ⟨c, ds, hds⟩ := List.exists_cons_of_ne_nil (Nat.toDigits_ne_nil (n := n.natAbs) (b := 10))
  have hc : c.isDigit = true :=
    Numeral.isDigit_of_mem_toDigits (hds ▸ List.mem_cons_self)
  obtain ⟨hplain, hnegated⟩ := findSome?_literals_of_digit hc (ds ++ rest)
  unfold Signature.decimal
  by_cases hneg : n < 0
  · rw [if_pos hneg]
    have hread := readNumber_toDigits hn hrest ('-' :: (Nat.toDigits 10 n.natAbs ++ rest)) true
    have hvalue : -((n.natAbs : Nat) : Int) = n := by omega
    rw [if_pos rfl, hvalue] at hread
    rw [hds] at hread ⊢
    unfold readScalar
    rw [List.cons_append, List.cons_append, hnegated]
    exact hread
  · have habs : n.toNat = n.natAbs := by omega
    rw [if_neg hneg, habs]
    have hread := readNumber_toDigits hn hrest (Nat.toDigits 10 n.natAbs ++ rest) false
    have hvalue : ((n.natAbs : Nat) : Int) = n := by omega
    rw [if_neg (by decide), hvalue] at hread
    rw [hds] at hread ⊢
    unfold readScalar
    rw [List.cons_append] at hread ⊢
    rw [hplain]
    dsimp only
    split
    · next heq =>
      obtain ⟨rfl, -⟩ := List.cons.inj heq
      cases hc
    · exact hread

/-! ## Words -/

theorem readScalar_null (rest : List Char) :
    readScalar ('n' :: 'u' :: 'l' :: 'l' :: rest) = .ok (.null, rest) := by
  simp [readScalar, literals, dropLead?]

theorem readScalar_true (rest : List Char) :
    readScalar ('t' :: 'r' :: 'u' :: 'e' :: rest) = .ok (.bool true, rest) := by
  simp [readScalar, literals, dropLead?]

theorem readScalar_false (rest : List Char) :
    readScalar ('f' :: 'a' :: 'l' :: 's' :: 'e' :: rest) = .ok (.bool false, rest) := by
  simp [readScalar, literals, dropLead?]

/-! ## Strings -/

/-- A control is written as two zeros and two more digits. -/
theorem hex_of_control {n : Nat} (hn : n < 0x20) :
    hex 4 n = ['0', '0', (n / 16).digitChar, (n % 16).digitChar] := by
  revert n
  decide

theorem hexDigit?_digitChar {n : Nat} (hn : n < 16) : hexDigit? n.digitChar = some n := by
  revert n
  decide

/-- The digits of a control are read as its code, if something follows them. -/
theorem hexFour?_hex {n : Nat} (hn : n < 0x20) (hrest : rest ≠ []) :
    hexFour? (hex 4 n ++ rest) = some (n, rest) := by
  obtain ⟨e, rest, rfl⟩ := List.exists_cons_of_ne_nil hrest
  have hhigh : hexDigit? (n / 16).digitChar = some (n / 16) := hexDigit?_digitChar (by omega)
  have hlow : hexDigit? (n % 16).digitChar = some (n % 16) := hexDigit?_digitChar (by omega)
  have hzero : hexDigit? '0' = some 0 := rfl
  have hsum : ((0 * 16 + 0) * 16 + n / 16) * 16 + n % 16 = n := by omega
  rw [hex_of_control hn]
  simp only [List.cons_append, List.nil_append, hexFour?, hzero, hhigh, hlow, Option.bind_eq_bind,
    Option.bind_some, hsum]

theorem readCode_hex {c : Char} (hc : c.toNat < 0x20) (hrest : rest ≠ []) :
    readCode (hex 4 c.toNat ++ rest) = .ok (c, rest) := by
  have hhigh : isHighSurrogate c.toNat = false := by
    simp only [isHighSurrogate, Bool.and_eq_false_iff, decide_eq_false_iff_not]
    omega
  have hlow : isLowSurrogate c.toNat = false := by
    simp only [isLowSurrogate, Bool.and_eq_false_iff, decide_eq_false_iff_not]
    omega
  have hchar : charOfCode c.toNat = c := by
    simp [charOfCode, hhigh, hlow, Char.ofNat_toNat]
  unfold readCode
  rw [hexFour?_hex hc hrest]
  split
  · next heq => cases heq
  · next heq =>
    obtain ⟨rfl, rfl⟩ := Prod.mk.inj (Option.some.inj heq)
    rw [hhigh, hchar]
    rfl
  · next heq =>
    obtain ⟨rfl, rfl⟩ := Prod.mk.inj (Option.some.inj heq)
    rw [hchar]

/-- A character is read back from the way it is written in a string. -/
theorem readString_escapeChar (start seen : List Char) (c : Char) (hrest : rest ≠ []) :
    readString start seen (escapeChar c ++ rest) = readString start (c :: seen) rest := by
  unfold escapeChar
  simp only [beq_iff_eq]
  by_cases hquote : c = '\x22'
  · subst hquote
    simp [readString, escape?]
  by_cases hbackslash : c = '\\'
  · subst hbackslash
    simp [readString, escape?]
  by_cases hfeed : c = '\n'
  · subst hfeed
    simp [readString, escape?]
  by_cases hreturn : c = '\r'
  · subst hreturn
    simp [readString, escape?]
  by_cases htab : c = '\t'
  · subst htab
    simp [readString, escape?]
  by_cases hback : c = '\x08'
  · subst hback
    simp [readString, escape?]
  by_cases hform : c = '\x0c'
  · subst hform
    simp [readString, escape?]
  rw [if_neg hquote, if_neg hbackslash, if_neg hfeed, if_neg hreturn, if_neg htab, if_neg hback,
    if_neg hform]
  by_cases hcontrol : c.toNat < 0x20
  · rw [if_pos hcontrol, List.cons_append, List.cons_append, readString.eq_4]
    have hcode := readCode_hex hcontrol hrest
    split
    · next he =>
      rw [hcode] at he
      cases he
    · next hd =>
      rw [hcode] at hd
      obtain ⟨rfl, rfl⟩ := Prod.mk.inj (Except.ok.inj hd)
      rfl
  · rw [if_neg hcontrol, List.singleton_append, readString.eq_6 _ _ _ _ hquote
      (fun h => absurd h hbackslash) (fun _ h => absurd h hbackslash)
      (fun _ _ h => absurd h hbackslash), if_neg hcontrol]

/-- **A string is read back, whatever characters it holds.** -/
theorem readString_flatMap_escapeChar (start seen s rest : List Char) :
    readString start seen (s.flatMap escapeChar ++ '\x22' :: rest)
      = .ok (String.ofList (seen.reverse ++ s), rest) := by
  induction s generalizing seen with
  | nil => rw [List.flatMap_nil, List.nil_append, readString.eq_2, List.append_nil]
  | cons c s ih =>
    have hrest : s.flatMap escapeChar ++ '\x22' :: rest ≠ [] := by simp
    rw [List.flatMap_cons, List.append_assoc, readString_escapeChar start seen c hrest, ih,
      List.reverse_cons, List.append_assoc, List.singleton_append]

end Indentation.Json
