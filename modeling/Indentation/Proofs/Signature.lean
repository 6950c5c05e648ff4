import Indentation.Proofs.Numeral
import Indentation.Proofs.Verdict
import Indentation.Schema.Basic

/-!
# Written signatures

Known signatures that are written alike are the same, and what is written for a verdict is what the
schema of reports accepts as a signature.

## Main statements

* `render_injective` — two known signatures that are written alike are the same
* `isSignature_render` — the schema accepts what is written for a verdict
-/

namespace Indentation.Signature

variable {s t : Signature}

/-! ## Decimals -/

theorem toDigits_injective {m n : Nat} (h : Nat.toDigits 10 m = Nat.toDigits 10 n) : m = n := by
  rw [← Numeral.value_toDigits m, h, Numeral.value_toDigits]

/-- A sign is no digit, so an integer is told from its decimal text. -/
theorem decimal_injective {m n : Int} (h : decimal m = decimal n) : m = n := by
  have hsign : ∀ a b : Nat, '-' :: Nat.toDigits 10 a ≠ Nat.toDigits 10 b := by
    intro a b hab
    have hdigit : ('-').isDigit = true :=
      Numeral.isDigit_of_mem_toDigits (hab ▸ List.mem_cons_self)
    cases hdigit
  unfold decimal at h
  by_cases hm : m < 0 <;> by_cases hn : n < 0
  · rw [if_pos hm, if_pos hn] at h
    have habs := toDigits_injective (List.cons.inj h).2
    omega
  · rw [if_pos hm, if_neg hn] at h
    exact absurd h (hsign _ _)
  · rw [if_neg hm, if_pos hn] at h
    exact absurd h.symm (hsign _ _)
  · rw [if_neg hm, if_neg hn] at h
    have habs := toDigits_injective h
    omega

theorem decimal_ne_nil (n : Int) : decimal n ≠ [] := by
  unfold decimal
  split
  · exact List.cons_ne_nil _ _
  · exact Nat.toDigits_ne_nil

/-! ## Signatures -/

theorem render_of_known (h : s.isUnknown = false) : s.render = s.style.letter :: decimal s.width := by
  rw [render, h]
  rfl

/-- The letter alone is written for an unknown style only. -/
theorem render_eq_unknown_iff : s.render = unknown.render ↔ s.isUnknown = true := by
  constructor
  · intro h
    by_contra hs
    rw [render_of_known (Bool.eq_false_iff.mpr hs)] at h
    exact decimal_ne_nil s.width (List.cons.inj h).2
  · intro h
    have hstyle : s.style = .unknown := by simpa [isUnknown] using h
    rw [render, if_pos h, hstyle]
    rfl

/-- **Two known signatures that are written alike are the same.** -/
theorem render_injective (hs : s.isUnknown = false) (ht : t.isUnknown = false)
    (h : s.render = t.render) : s = t := by
  rw [render_of_known hs, render_of_known ht] at h
  obtain ⟨hletter, hwidth⟩ := List.cons.inj h
  calc s = ⟨s.style, s.width⟩ := rfl
    _ = ⟨t.style, t.width⟩ := by rw [Style.letter_injective hletter, decimal_injective hwidth]
    _ = t := rfl

theorem toString_eq_iff : s.toString = t.toString ↔ s.render = t.render :=
  ⟨fun h => String.ofList_injective h, fun h => congrArg String.ofList h⟩

theorem toString_eq_unknown_iff : s.toString = unknown.toString ↔ s.isUnknown = true :=
  toString_eq_iff.trans render_eq_unknown_iff

/-- What is written for a known signature is written for no other. -/
theorem eq_of_toString_eq (ht : t.isUnknown = false) (h : s.toString = t.toString) : s = t := by
  refine render_injective (Bool.eq_false_iff.mpr fun hs => ?_) ht (toString_eq_iff.mp h)
  rw [toString_eq_unknown_iff.mpr hs] at h
  exact Bool.eq_false_iff.mp ht (toString_eq_unknown_iff.mp h.symm)

/-! ## What the schema accepts -/

/-- A signature that is known, or says that there is no evidence. -/
def IsVerdict (s : Signature) : Prop := s = .unknown ∨ s.Known

theorem IsVerdict.width_nonneg (h : s.IsVerdict) : 0 ≤ s.width := by
  rcases h with rfl | h
  · exact Int.le_refl 0
  · exact Int.le_of_lt h.width_pos

/-- A known signature is written as its letter and a numeral. -/
theorem Known.exists_render (h : s.Known) : ∃ d ds, s.render = s.style.letter :: d :: ds ∧
    decimal s.width = d :: ds ∧ d ≠ '0' ∧ ∀ c ∈ d :: ds, c.isDigit = true := by
  have hpos := h.width_pos
  have hdecimal : decimal s.width = Nat.toDigits 10 s.width.toNat := by rw [decimal, if_neg (by omega)]
  obtain ⟨d, ds, hds, hd⟩ := Numeral.exists_toDigits_eq_cons (n := s.width.toNat) (by omega)
  rw [hds] at hdecimal
  refine ⟨d, ds, ?_, hdecimal, hd, fun c hc => ?_⟩
  · rw [render_of_known h.isUnknown_eq_false, hdecimal]
  · exact Numeral.isDigit_of_mem_toDigits (hds ▸ hc)

/-- **The schema accepts what is written for a verdict.** -/
theorem IsVerdict.isSignature_render (h : s.IsVerdict) : Pattern.isSignature s.render = true := by
  rcases h with rfl | h
  · rfl
  · obtain ⟨d, ds, hrender, -, hd, hdigits⟩ := h.exists_render
    have hall : ds.all Char.isDigit = true :=
      List.all_eq_true.mpr fun c hc => hdigits c (List.mem_cons_of_mem d hc)
    have hletter : s.style.letter = 's' ∨ s.style.letter = 't' ∨ s.style.letter = 'm' := by
      have hstyle := h.style_ne_unknown
      cases hs : s.style with
      | spaces => exact .inl rfl
      | tabs => exact .inr (.inl rfl)
      | mixed => exact .inr (.inr rfl)
      | unknown => exact absurd hs hstyle
    rw [hrender]
    rcases hletter with hl | hl | hl <;>
      simp [Pattern.isSignature, hl, hdigits d List.mem_cons_self, hd, hall]

theorem IsVerdict.holds_pattern (h : s.IsVerdict) : Pattern.holds .signature s.toString = true := by
  have hrender := h.isSignature_render
  simp [Pattern.holds, toString, hrender]

/-- What is detected is a verdict. -/
theorem isVerdict_of_detect {skipDocs : Bool} {text : List Char} (h : detect skipDocs text = .ok s) :
    s.IsVerdict := by
  obtain ⟨settings, hsettings, hs⟩ := exists_of_detect h
  by_cases hnone : settings.verdict? = none ∧ histogramOf skipDocs text = []
  · refine .inl ?_
    rw [hs, hnone.1, hnone.2]
    rfl
  · refine .inr ?_
    rw [hs]
    exact known_verdict hsettings (Decidable.not_and_iff_not_or_not.mp hnone)

end Indentation.Signature
