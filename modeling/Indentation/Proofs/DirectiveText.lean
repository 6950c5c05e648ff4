import Mathlib
import Indentation.Proofs.Settle

/-!
# What sequences of directives come to

A directive is written as an option of a modeline or as a variable (`DirectiveText`). What such a text
sets is said here from its name and value alone: at most one thing of six kinds, and often nothing.

## How the six kinds share the settings

Of most kinds the last text counts. A tab stop has two sources, of which one gives way to the other
wherever it stands: of the widths from `c-basic-offset` the first counts, and only where no width of
the other source is set. Options and variables both choose about tabs, but variables alone ask for
mixed mode or take that back.

One text takes the settings from `s` to `x.write s` (`applyReading_of_read`), and a sequence of them
takes the empty settings to a value with a closed form (`foldl_write`), by induction from its end.

## Main statements

* `settings_of_texts` — the settings after a sequence of texts, field by field
* `settingsAfter_invariant` — what each text keeps, lines keep
-/

namespace Indentation

open Text

/-- The width that a value gives, if it is valid. -/
def Numeral.validWidth? (value : List Char) : Option Int :=
  match width? value with
  | .ok (some n) => some n
  | _ => none

theorem Numeral.validWidth?_of_width? {value : List Char} {w : Option Nat}
    (h : width? value = .ok w) : validWidth? value = w.map Int.ofNat := by
  unfold validWidth?
  rw [h]
  cases w <;> rfl

/-- A text that may be read as a directive. -/
inductive DirectiveText where
  | ofOption (token : List Char)
  | ofVariable (v : Variable)
  deriving DecidableEq, Repr

namespace DirectiveText

/-- What reading the text as a directive gives. -/
def read : DirectiveText → DirectiveReading
  | ofOption token => Modeline.readOption token
  | ofVariable v => v.read

/-! ## What a text sets -/

/-- The value of an option with one of the names. -/
def optionValue? (names : List String) : DirectiveText → Option (List Char)
  | ofOption token =>
    (cutAt? '=' token).bind fun (name, value) =>
      if String.ofList (lowercase name) ∈ names then some value else none
  | ofVariable _ => none

/-- Whether the text is an option without a value, with one of the names. -/
def isFlag (names : List String) : DirectiveText → Bool
  | ofOption token => (cutAt? '=' token).isNone && String.ofList (lowercase token) ∈ names
  | ofVariable _ => false

/-- The value of the variable with the name. -/
def variableValue? (name : String) : DirectiveText → Option (List Char)
  | ofOption _ => none
  | ofVariable v => if String.ofList v.key = name then some v.value else none

variable (x : DirectiveText)

/-- The soft tab stop that the text sets. -/
def softTabStop? : Option Int :=
  (x.optionValue? Modeline.softTabStopNames).bind Numeral.validWidth?

/-- The tab stop that the text sets, whatever is set already. -/
def tabStop? : Option Int :=
  (x.optionValue? Modeline.tabStopNames <|> x.variableValue? "tab-width").bind Numeral.validWidth?

/-- The tab stop that the text sets where none is set. -/
def basicOffset? : Option Int := (x.variableValue? "c-basic-offset").bind Numeral.validWidth?

/-- The known value of the variable that switches tabs on or off. -/
def tabMode? : Option Bool :=
  (x.variableValue? "indent-tabs-mode").bind fun value =>
    if String.ofList value = "t" then some true
    else if String.ofList value = "nil" then some false
    else none

/-- Whether tabs are used, if the text says so in either notation. -/
def useTabs? : Option Bool :=
  if x.isFlag Modeline.expandTabNames then some false
  else if x.isFlag Modeline.noExpandTabNames then some true
  else x.tabMode?

/-- The known style that the text names. -/
def preset? : Option Preset :=
  (x.variableValue? "style").bind fun value => Preset.table.lookup (String.ofList value)

/-- The settings after a text, by what it sets. -/
def write (s : Settings) : Settings where
  softTabStop := x.softTabStop? <|> s.softTabStop
  tabStop := x.tabStop? <|> s.tabStop <|> x.basicOffset?
  useTabs := x.useTabs? <|> s.useTabs
  mixedMode := x.tabMode?.elim s.mixedMode fun b => if b then some true else none
  styleSoftTabStop := x.preset?.map (·.softTabStop) <|> s.styleSoftTabStop
  styleTabStop := x.preset?.map (·.tabStop) <|> s.styleTabStop
  styleUseTabs := x.preset?.bind (·.useTabs) <|> s.styleUseTabs

/-! ## One text -/

/-- No name is one of the soft tab stop and one of the tab stop. -/
theorem not_mem_tabStopNames {name : String} (h : name ∈ Modeline.softTabStopNames) :
    name ∉ Modeline.tabStopNames := by
  have hall : ∀ n ∈ Modeline.softTabStopNames, n ∉ Modeline.tabStopNames := by decide
  exact hall name h

theorem write_ofOption_of_cutAt? {token name value : List Char}
    (hcut : cutAt? '=' token = some (name, value)) (s : Settings) :
    (ofOption token).write s = { s with
      softTabStop := (if String.ofList (lowercase name) ∈ Modeline.softTabStopNames
        then Numeral.validWidth? value else none) <|> s.softTabStop
      tabStop := (if String.ofList (lowercase name) ∈ Modeline.tabStopNames
        then Numeral.validWidth? value else none) <|> s.tabStop } := by
  have hvalue : ∀ names, (ofOption token).optionValue? names
      = if String.ofList (lowercase name) ∈ names then some value else none := by
    intro names
    rw [optionValue?, hcut]
    rfl
  have hflag : ∀ names, (ofOption token).isFlag names = false := by
    intro names
    rw [isFlag, hcut]
    rfl
  have hvar : ∀ n, (ofOption token).variableValue? n = none := fun _ => rfl
  unfold write softTabStop? tabStop? basicOffset? useTabs? tabMode? preset?
  simp only [hvalue, hflag, hvar]
  split <;> split <;> simp

theorem write_ofOption_of_cutAt?_eq_none {token : List Char} (hcut : cutAt? '=' token = none)
    (s : Settings) :
    (ofOption token).write s = { s with
      useTabs := (if String.ofList (lowercase token) ∈ Modeline.expandTabNames then some false
        else if String.ofList (lowercase token) ∈ Modeline.noExpandTabNames then some true
        else none) <|> s.useTabs } := by
  have hvalue : ∀ names, (ofOption token).optionValue? names = none := by
    intro names
    rw [optionValue?, hcut]
    rfl
  have hflag : ∀ names, (ofOption token).isFlag names
      = decide (String.ofList (lowercase token) ∈ names) := by
    intro names
    rw [isFlag, hcut]
    rfl
  have hvar : ∀ n, (ofOption token).variableValue? n = none := fun _ => rfl
  unfold write softTabStop? tabStop? basicOffset? useTabs? tabMode? preset?
  simp only [hvalue, hflag, hvar]
  simp

/-- An option that is read takes the settings to those with what it sets. -/
theorem applyReading_of_readOption {token : List Char} {r : Option Directive}
    (h : Modeline.readOption token = .ok r) (s : Settings) :
    s.applyReading r = (ofOption token).write s := by
  unfold Modeline.readOption at h
  split at h
  · next name value hcut =>
    rw [write_ofOption_of_cutAt? hcut]
    cases hw : Numeral.width? value with
    | error e =>
      rw [hw] at h
      cases h
    | ok w =>
      rw [hw] at h
      obtain rfl := Except.ok.inj h
      rw [Numeral.validWidth?_of_width? hw]
      by_cases hsoft : String.ofList (lowercase name) ∈ Modeline.softTabStopNames
      · have htab := not_mem_tabStopNames hsoft
        cases w <;> simp [hsoft, htab, Settings.applyReading, Settings.apply]
      · by_cases htab : String.ofList (lowercase name) ∈ Modeline.tabStopNames
        · cases w <;> simp [hsoft, htab, Settings.applyReading, Settings.apply]
        · cases w <;> simp [hsoft, htab, Settings.applyReading]
  · next hcut =>
    rw [write_ofOption_of_cutAt?_eq_none hcut]
    obtain rfl := Except.ok.inj h
    by_cases hexpand : String.ofList (lowercase token) ∈ Modeline.expandTabNames
    · simp [hexpand, Settings.applyReading, Settings.apply]
    · by_cases hno : String.ofList (lowercase token) ∈ Modeline.noExpandTabNames
      · simp [hexpand, hno, Settings.applyReading, Settings.apply]
      · simp [hexpand, hno, Settings.applyReading]

theorem write_ofVariable (v : Variable) (s : Settings) :
    (ofVariable v).write s = { s with
      tabStop := ((ofVariable v).variableValue? "tab-width").bind Numeral.validWidth? <|> s.tabStop <|>
        ((ofVariable v).variableValue? "c-basic-offset").bind Numeral.validWidth?
      useTabs := (ofVariable v).tabMode? <|> s.useTabs
      mixedMode := (ofVariable v).tabMode?.elim s.mixedMode fun b => if b then some true else none
      styleSoftTabStop := (ofVariable v).preset?.map (·.softTabStop) <|> s.styleSoftTabStop
      styleTabStop := (ofVariable v).preset?.map (·.tabStop) <|> s.styleTabStop
      styleUseTabs := (ofVariable v).preset?.bind (·.useTabs) <|> s.styleUseTabs } := by
  have hvalue : ∀ names, (ofVariable v).optionValue? names = none := fun _ => rfl
  have hflag : ∀ names, (ofVariable v).isFlag names = false := fun _ => rfl
  unfold write softTabStop? tabStop? basicOffset? useTabs?
  simp only [hvalue, hflag]
  simp

/-- A value made of a width is made of one that is read. -/
theorem exists_of_map_width?_eq_ok {value : List Char} {f : Option Nat → Option Directive}
    {r : Option Directive} (h : (Numeral.width? value).map f = .ok r) :
    ∃ w, Numeral.width? value = .ok w ∧ f w = r := by
  cases hw : Numeral.width? value with
  | error e =>
    rw [hw] at h
    cases h
  | ok w =>
    rw [hw] at h
    exact ⟨w, rfl, Except.ok.inj h⟩

theorem lookup_tabMode (name : String) : TabMode.table.lookup name =
    if name = "t" then some ⟨true, some true⟩ else if name = "nil" then some ⟨false, none⟩
    else none := by
  unfold TabMode.table
  rw [List.lookup_cons, List.lookup_cons, List.lookup_nil]
  by_cases ht : name = "t"
  · simp [ht]
  · have ht' : (name == "t") = false := beq_eq_false_iff_ne.mpr ht
    by_cases hnil : name = "nil"
    · simp [hnil]
    · have hnil' : (name == "nil") = false := beq_eq_false_iff_ne.mpr hnil
      simp [ht, ht', hnil, hnil']

theorem applyReading_of_readVariable {v : Variable} {r : Option Directive} (h : v.read = .ok r)
    (s : Settings) : s.applyReading r = (ofVariable v).write s := by
  have hvalue : ∀ key, String.ofList v.key = key → ∀ name,
      (ofVariable v).variableValue? name = if key = name then some v.value else none := by
    rintro key rfl name
    rfl
  rw [write_ofVariable, tabMode?, preset?]
  unfold Variable.read at h
  split at h
  · next hkey =>
    obtain ⟨w, hw, rfl⟩ := exists_of_map_width?_eq_ok h
    cases w <;> simp [hvalue _ hkey, Numeral.validWidth?_of_width? hw, Settings.applyReading,
      Settings.apply]
  · next hkey =>
    obtain ⟨w, hw, rfl⟩ := exists_of_map_width?_eq_ok h
    cases w <;> simp [hvalue _ hkey, Numeral.validWidth?_of_width? hw, Settings.applyReading,
      Settings.apply]
  · next hkey =>
    obtain rfl := Except.ok.inj h
    rw [lookup_tabMode]
    by_cases ht : String.ofList v.value = "t"
    · simp [hvalue _ hkey, ht, Settings.applyReading, Settings.apply]
    · by_cases hnil : String.ofList v.value = "nil"
      · simp [hvalue _ hkey, hnil, Settings.applyReading, Settings.apply]
      · simp [hvalue _ hkey, ht, hnil, Settings.applyReading]
  · next hkey =>
    obtain rfl := Except.ok.inj h
    cases hp : Preset.table.lookup (String.ofList v.value) <;>
      simp [hvalue _ hkey, hp, Settings.applyReading, Settings.apply]
  · next htab hoffset hmode hstyle =>
    obtain rfl := Except.ok.inj h
    simp [(hvalue _ rfl "tab-width").trans (if_neg htab),
      (hvalue _ rfl "c-basic-offset").trans (if_neg hoffset),
      (hvalue _ rfl "indent-tabs-mode").trans (if_neg hmode),
      (hvalue _ rfl "style").trans (if_neg hstyle), Settings.applyReading]

/-- **What a text does to the settings is what it sets.** -/
theorem applyReading_of_read {x : DirectiveText} {r : Option Directive} (h : x.read = .ok r)
    (s : Settings) : s.applyReading r = x.write s := by
  cases x with
  | ofOption token => exact applyReading_of_readOption h s
  | ofVariable v => exact applyReading_of_readVariable h s

/-! ## Sequences of texts -/

theorem getLast?_filterMap_concat {α β : Type} (f : α → Option β) (xs : List α) (x : α) :
    ((xs ++ [x]).filterMap f).getLast? = (f x <|> (xs.filterMap f).getLast?) := by
  rw [List.filterMap_append, List.getLast?_append]
  cases h : f x <;> simp [h]

theorem head?_filterMap_concat {α β : Type} (f : α → Option β) (xs : List α) (x : α) :
    ((xs ++ [x]).filterMap f).head? = ((xs.filterMap f).head? <|> f x) := by
  rw [List.filterMap_append, List.head?_append]
  cases h : f x <;> simp [h]

theorem foldl_write_of_applyAll {xs : List DirectiveText} {s t : Settings}
    (h : s.applyAll (xs.map read) = (t, none)) : xs.foldl (fun s x => x.write s) s = t := by
  induction xs generalizing s with
  | nil => exact (Prod.mk.inj h).1
  | cons x xs ih =>
    rw [List.map_cons] at h
    cases hx : x.read with
    | error e =>
      rw [hx] at h
      cases h
    | ok r =>
      rw [hx, Settings.applyAll, applyReading_of_read hx] at h
      exact ih h

theorem foldl_write (xs : List DirectiveText) : xs.foldl (fun s x => x.write s) {} =
    { softTabStop := (xs.filterMap softTabStop?).getLast?
      tabStop := (xs.filterMap tabStop?).getLast? <|> (xs.filterMap basicOffset?).head?
      useTabs := (xs.filterMap useTabs?).getLast?
      mixedMode := if (xs.filterMap tabMode?).getLast? = some true then some true else none
      styleSoftTabStop := (xs.filterMap preset?).getLast?.map (·.softTabStop)
      styleTabStop := (xs.filterMap preset?).getLast?.map (·.tabStop)
      styleUseTabs := ((xs.filterMap preset?).filterMap (·.useTabs)).getLast? } := by
  induction xs using List.reverseRecOn with
  | nil => rfl
  | append_singleton xs x ih =>
    rw [List.foldl_append, List.foldl_cons, List.foldl_nil, ih, write]
    simp only [getLast?_filterMap_concat, head?_filterMap_concat, List.filterMap_filterMap]
    congr 1
    · -- the first of the offsets counts, so a later one is put behind the others
      simp [Option.or_assoc]
    · cases x.tabMode? <;> simp
    · cases x.preset? <;> simp
    · cases x.preset? <;> simp

/-- Two sequences in which the same things are set, kind by kind, however the kinds alternate. -/
structure Agree (xs ys : List DirectiveText) : Prop where
  softTabStops : xs.filterMap softTabStop? = ys.filterMap softTabStop?
  tabStops : xs.filterMap tabStop? = ys.filterMap tabStop?
  basicOffsets : xs.filterMap basicOffset? = ys.filterMap basicOffset?
  tabChoices : xs.filterMap useTabs? = ys.filterMap useTabs?
  tabModes : xs.filterMap tabMode? = ys.filterMap tabMode?
  presets : xs.filterMap preset? = ys.filterMap preset?

theorem Agree.foldl_write {xs ys : List DirectiveText} (h : Agree xs ys) :
    xs.foldl (fun s x => x.write s) {} = ys.foldl (fun s x => x.write s) {} := by
  rw [DirectiveText.foldl_write, DirectiveText.foldl_write, h.softTabStops, h.tabStops,
    h.basicOffsets, h.tabChoices, h.tabModes, h.presets]

end DirectiveText

open DirectiveText in
/--
**The settings after a sequence of texts, field by field.**

Of most kinds of directive the last counts. Of the offsets the first does, where no tab stop is set
another way. Sequences that agree kind by kind lead to the same settings.
-/
theorem settings_of_texts (xs : List DirectiveText) (s : Settings)
    (h : ({} : Settings).applyAll (xs.map DirectiveText.read) = (s, none)) :
    s.softTabStop = (xs.filterMap softTabStop?).getLast? ∧
    s.tabStop = ((xs.filterMap tabStop?).getLast? <|> (xs.filterMap basicOffset?).head?) ∧
    s.useTabs = (xs.filterMap useTabs?).getLast? ∧
    s.mixedMode = (if (xs.filterMap tabMode?).getLast? = some true then some true else none) ∧
    s.styleSoftTabStop = (xs.filterMap preset?).getLast?.map (·.softTabStop) ∧
    s.styleTabStop = (xs.filterMap preset?).getLast?.map (·.tabStop) ∧
    s.styleUseTabs = ((xs.filterMap preset?).filterMap (·.useTabs)).getLast? ∧
    ∀ ys t, ({} : Settings).applyAll (ys.map DirectiveText.read) = (t, none) → Agree xs ys →
      t = s := by
  have hs := foldl_write_of_applyAll h
  have hagree : ∀ ys t, ({} : Settings).applyAll (ys.map DirectiveText.read) = (t, none) →
      Agree xs ys → t = s := by
    intro ys t ht hxy
    rw [← foldl_write_of_applyAll ht, ← hs, hxy.foldl_write]
  rw [foldl_write] at hs
  subst hs
  exact ⟨rfl, rfl, rfl, rfl, rfl, rfl, rfl, hagree⟩

/-- The tab stop of an option goes before an offset that was there first, and an option that turns
tabs off leaves mixed mode alone. -/
theorem settings_of_texts_offset_first :
    ({} : Settings).applyAll ([.ofVariable ⟨"c-basic-offset".toList, "2".toList⟩,
        .ofVariable ⟨"indent-tabs-mode".toList, "t".toList⟩, .ofOption "TS=8".toList,
        .ofOption "et".toList, .ofVariable ⟨"c-basic-offset".toList, "4".toList⟩].map
          DirectiveText.read)
      = ({ tabStop := some 8, useTabs := some false, mixedMode := some true }, none) ∧
    ∀ ys t, ({} : Settings).applyAll (ys.map DirectiveText.read) = (t, none) →
      DirectiveText.Agree [.ofVariable ⟨"c-basic-offset".toList, "2".toList⟩,
        .ofVariable ⟨"indent-tabs-mode".toList, "t".toList⟩, .ofOption "TS=8".toList,
        .ofOption "et".toList, .ofVariable ⟨"c-basic-offset".toList, "4".toList⟩] ys →
      t = { tabStop := some 8, useTabs := some false, mixedMode := some true } := by
  have h : ({} : Settings).applyAll ([.ofVariable ⟨"c-basic-offset".toList, "2".toList⟩,
        .ofVariable ⟨"indent-tabs-mode".toList, "t".toList⟩, .ofOption "TS=8".toList,
        .ofOption "et".toList, .ofVariable ⟨"c-basic-offset".toList, "4".toList⟩].map
          DirectiveText.read)
      = ({ tabStop := some 8, useTabs := some false, mixedMode := some true }, none) := by cbv
  exact ⟨h, (settings_of_texts _ _ h).2.2.2.2.2.2.2⟩

/-! ## The texts of a text -/

/-- What is applied on a line is read from options and variables. -/
theorem DirectiveState.exists_read_of_mem_readings {d : DirectiveState} {number : Nat}
    {line : List Char} {r : DirectiveReading} (h : r ∈ d.readings number line) :
    ∃ x : DirectiveText, x.read = r := by
  unfold DirectiveState.readings at h
  rcases List.mem_append.mp h with hfirst | h
  · split at hfirst
    · unfold FirstLine.readings at hfirst
      split at hfirst
      · cases hfirst
      · obtain ⟨v, -, rfl⟩ := List.mem_map.mp hfirst
        exact ⟨.ofVariable v, rfl⟩
    · cases hfirst
  · rcases List.mem_append.mp h with hmodeline | hlocal
    · unfold Modeline.readings at hmodeline
      split at hmodeline
      · cases hmodeline
      · obtain ⟨token, -, rfl⟩ := List.mem_map.mp hmodeline
        exact ⟨.ofOption token, rfl⟩
    · obtain ⟨v, -, rfl⟩ := Option.map_eq_some_iff.mp (Option.mem_toList.mp hlocal)
      exact ⟨.ofVariable v, rfl⟩

/-- **What each text keeps, lines keep**, from any line of a text on. -/
theorem settingsAfter_invariant {P : Settings → Prop}
    (hstep : ∀ (x : DirectiveText) s, P s → P (x.write s)) {ls : List Line} {j k : Nat}
    (hjk : j ≤ k) {s t : Settings} (hs : settingsAfter ls j = .ok s)
    (ht : settingsAfter ls k = .ok t) (h : P s) : P t := by
  obtain ⟨d, hd, rfl⟩ := settingsAfter_eq_ok hs
  obtain ⟨d', hd', rfl⟩ := settingsAfter_eq_ok ht
  -- the state after `k` lines is what the lines behind the first `j` make of the state after those
  have hsplit : ls.take k = ls.take j ++ (ls.take k).drop j := by
    have htake : (ls.take k).take j = ls.take j := by rw [List.take_take, Nat.min_eq_left hjk]
    rw [← htake, List.take_append_drop]
  rw [hsplit, DirectiveState.feedAll_append, hd] at hd'
  refine DirectiveState.feedAll_invariant ?_ h hd'
  intro d number line directive hmem s hs
  obtain ⟨x, hx⟩ := DirectiveState.exists_read_of_mem_readings hmem
  show P (s.applyReading (some directive))
  rw [DirectiveText.applyReading_of_read hx]
  exact hstep x s hs

end Indentation
