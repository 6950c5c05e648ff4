import Indentation.Proofs.DirectiveText

/-!
# What directives set

What holds of the settings whatever the directives were (`Settings.WellFormed`), because every text
that is read as a directive keeps it: a width comes from a numeral that is not zero or from a named
preset, mixed mode is asked for together with tabs or left open, but never ruled out, and a preset
brings both its widths.

## Main statements

* `wellFormed_settingsAfter` — the settings are well formed after any lines
* `wellFormed_of_settled` — and so are the settled settings
-/

namespace Indentation

/-! ## Widths -/

/-- The widths in the settings are positive. -/
structure Settings.Positive (s : Settings) : Prop where
  softTabStop : ∀ w ∈ s.softTabStop, 0 < w
  tabStop : ∀ w ∈ s.tabStop, 0 < w
  styleSoftTabStop : ∀ w ∈ s.styleSoftTabStop, 0 < w
  styleTabStop : ∀ w ∈ s.styleTabStop, 0 < w

theorem Settings.positive_default : ({} : Settings).Positive := by
  constructor <;> simp

theorem Numeral.pos_of_validWidth? {value : List Char} {w : Int} (h : validWidth? value = some w) :
    0 < w := by
  unfold validWidth? at h
  split at h
  · next n hn =>
    obtain rfl := Option.some.inj h
    exact Int.natCast_pos.mpr (width?_pos hn)
  · cases h

/-- Every named preset has positive widths. -/
theorem Preset.positive_of_lookup {name : String} {p : Preset}
    (h : Preset.table.lookup name = some p) : 0 < p.softTabStop ∧ 0 < p.tabStop := by
  have hall : ∀ q ∈ Preset.table, 0 < q.2.softTabStop ∧ 0 < q.2.tabStop := by decide
  obtain ⟨before, after, htable, -⟩ := List.lookup_eq_some_iff.mp h
  exact hall (name, p) (by rw [htable]; simp)

/-- Of two widths the first that is there counts. -/
theorem forall_mem_orElse {α : Type} {p : α → Prop} {a b : Option α} (ha : ∀ w ∈ a, p w)
    (hb : ∀ w ∈ b, p w) : ∀ w ∈ (a <|> b), p w := by
  cases a with
  | none => exact hb
  | some w => exact ha

namespace DirectiveText

variable {x : DirectiveText}

theorem pos_of_mem_bind {value : Option (List Char)} :
    ∀ w ∈ value.bind Numeral.validWidth?, 0 < w := by
  intro w hw
  obtain ⟨v, -, hv⟩ := Option.bind_eq_some_iff.mp hw
  exact Numeral.pos_of_validWidth? hv

theorem positive_of_preset? {p : Preset} (h : x.preset? = some p) :
    0 < p.softTabStop ∧ 0 < p.tabStop := by
  obtain ⟨value, -, hp⟩ := Option.bind_eq_some_iff.mp h
  exact Preset.positive_of_lookup hp

end DirectiveText

/-- A text keeps the widths positive. -/
theorem Settings.Positive.write {s : Settings} (hs : s.Positive) (x : DirectiveText) :
    (x.write s).Positive where
  softTabStop := forall_mem_orElse DirectiveText.pos_of_mem_bind hs.softTabStop
  tabStop := forall_mem_orElse DirectiveText.pos_of_mem_bind
    (forall_mem_orElse hs.tabStop DirectiveText.pos_of_mem_bind)
  styleSoftTabStop := by
    refine forall_mem_orElse ?_ hs.styleSoftTabStop
    intro w hw
    obtain ⟨p, hp, rfl⟩ := Option.map_eq_some_iff.mp hw
    exact (DirectiveText.positive_of_preset? hp).1
  styleTabStop := by
    refine forall_mem_orElse ?_ hs.styleTabStop
    intro w hw
    obtain ⟨p, hp, rfl⟩ := Option.map_eq_some_iff.mp hw
    exact (DirectiveText.positive_of_preset? hp).2

/-! ## Fields that go together -/

/-- The widths in the settings are positive, and no field is set that another rules out. -/
structure Settings.WellFormed (s : Settings) : Prop extends s.Positive where
  mixedMode_ne_false : s.mixedMode ≠ some false
  useTabs_of_mixedMode : s.mixedMode = some true → s.useTabs ≠ none
  styleSoftTabStop_iff : s.styleSoftTabStop ≠ none ↔ s.styleTabStop ≠ none
  styleWidths_of_styleUseTabs : s.styleUseTabs ≠ none →
    s.styleSoftTabStop ≠ none ∧ s.styleTabStop ≠ none

theorem Settings.wellFormed_default : ({} : Settings).WellFormed where
  toPositive := positive_default
  mixedMode_ne_false := by simp
  useTabs_of_mixedMode := by simp
  styleSoftTabStop_iff := Iff.rfl
  styleWidths_of_styleUseTabs h := absurd rfl h

namespace DirectiveText

/-- A text that says how tabs are mixed says whether they are used. -/
theorem useTabs?_of_tabMode? {x : DirectiveText} {b : Bool} (h : x.tabMode? = some b) :
    x.useTabs? ≠ none := by
  unfold useTabs?
  split
  · simp
  · split <;> simp [h]

/-- The value that switches tabs off takes mixed mode back, and does not rule it out. -/
theorem mixedMode_write (x : DirectiveText) (s : Settings) :
    (x.write s).mixedMode = none ∧ x.tabMode? = some false ∨
      (x.write s).mixedMode = some true ∧ x.tabMode? = some true ∨
        (x.write s).mixedMode = s.mixedMode ∧ x.tabMode? = none := by
  unfold write
  cases x.tabMode? with
  | none => exact .inr (.inr ⟨rfl, rfl⟩)
  | some b =>
    cases b with
    | false => exact .inl ⟨rfl, rfl⟩
    | true => exact .inr (.inl ⟨rfl, rfl⟩)

end DirectiveText

theorem orElse_ne_none_iff {α : Type} {a b : Option α} : (a <|> b) ≠ none ↔ a ≠ none ∨ b ≠ none := by
  cases a <;> simp

/-- **A text leaves the settings well formed.** -/
theorem Settings.WellFormed.write {s : Settings} (hs : s.WellFormed) (x : DirectiveText) :
    (x.write s).WellFormed where
  toPositive := hs.toPositive.write x
  mixedMode_ne_false := by
    rcases x.mixedMode_write s with ⟨h, -⟩ | ⟨h, -⟩ | ⟨h, -⟩ <;> rw [h]
    · simp
    · simp
    · exact hs.mixedMode_ne_false
  useTabs_of_mixedMode := by
    intro hmixed
    refine orElse_ne_none_iff.mpr ?_
    rcases x.mixedMode_write s with ⟨h, -⟩ | ⟨-, hmode⟩ | ⟨h, -⟩
    · rw [h] at hmixed
      cases hmixed
    · exact .inl (DirectiveText.useTabs?_of_tabMode? hmode)
    · exact .inr (hs.useTabs_of_mixedMode (h ▸ hmixed))
  styleSoftTabStop_iff := by
    show (x.preset?.map (·.softTabStop) <|> s.styleSoftTabStop) ≠ none ↔
      (x.preset?.map (·.tabStop) <|> s.styleTabStop) ≠ none
    rw [orElse_ne_none_iff, orElse_ne_none_iff, hs.styleSoftTabStop_iff]
    simp
  styleWidths_of_styleUseTabs := by
    intro htabs
    show (x.preset?.map (·.softTabStop) <|> s.styleSoftTabStop) ≠ none ∧
      (x.preset?.map (·.tabStop) <|> s.styleTabStop) ≠ none
    rw [orElse_ne_none_iff, orElse_ne_none_iff]
    -- a preset that says whether tabs are used is there, and so are its widths
    rcases orElse_ne_none_iff.mp htabs with hpreset | hold
    · have hsome : x.preset? ≠ none := fun hnone => hpreset (by rw [hnone]; rfl)
      exact ⟨.inl (by simpa using hsome), .inl (by simpa using hsome)⟩
    · obtain ⟨hsoft, htab⟩ := hs.styleWidths_of_styleUseTabs hold
      exact ⟨.inr hsoft, .inr htab⟩

/-- **The settings are well formed after any lines.** -/
theorem wellFormed_settingsAfter {ls : List Line} {k : Nat} {s : Settings}
    (h : settingsAfter ls k = .ok s) : s.WellFormed :=
  settingsAfter_invariant (fun x _ hs => hs.write x) (Nat.zero_le k) rfl h Settings.wellFormed_default

/-- The settled settings are well formed. -/
theorem wellFormed_of_settled {text : List Char} {s : Settings} (h : settledSettings text = .ok s) :
    s.WellFormed := by
  obtain ⟨k, hk, -⟩ := exists_settingsAfter_of_settled h
  exact wellFormed_settingsAfter hk

end Indentation
