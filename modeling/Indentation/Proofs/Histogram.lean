import Indentation.Verdict
import Mathlib.Algebra.Ring.Nat

/-!
# The signature with the most votes

Histograms that arise from a list of votes, and the signature that wins in a histogram.

## Main statements

* `votes_ofVotes`, `mem_keys_ofVotes` — a histogram of votes counts them
* `total_vote`, `pos_of_mem_vote` — a vote adds one to the votes, and leaves no count at zero
* `leader?_spec` — the leader is an entry that no entry beats
* `winner?_eq_some_iff` — a signature wins if it was voted for and no other beats it
* `winner?_of_forall_lt` — a signature with more votes than any other wins
* `IsScaled.verdict_eq` — the verdict does not depend on the scale of the counts
* `resolve_eq_ok_iff` — votes are resolved to their verdict if all of them can be written
-/

namespace Indentation

namespace Histogram

/-! ## Histograms of votes -/

/-- The histogram of a list of votes. -/
def ofVotes (sigs : List Signature) : Histogram := sigs.foldl vote []

theorem votes_foldl_vote (h : Histogram) (sigs : List Signature) (s : Signature) :
    (sigs.foldl vote h).votes s = h.votes s + sigs.count s := by
  induction sigs generalizing h with
  | nil => simp
  | cons t sigs ih =>
    rw [List.foldl_cons, ih]
    by_cases hts : t = s
    · subst hts
      rw [votes_vote_self, List.count_cons_self]
      omega
    · rw [votes_vote_of_ne h (Ne.symm hts), List.count_cons_of_ne hts]

/-- A histogram of votes counts them. -/
@[simp] theorem votes_ofVotes (sigs : List Signature) (s : Signature) :
    (ofVotes sigs).votes s = sigs.count s := by
  rw [ofVotes, votes_foldl_vote]
  simp [votes]

theorem mem_keys_vote {h : Histogram} {s t : Signature} :
    t ∈ (h.vote s).keys ↔ t ∈ h.keys ∨ t = s := by
  rw [vote, keys_add]
  split
  · next hs =>
    constructor
    · exact Or.inl
    · rintro (ht | rfl)
      · exact ht
      · exact hs
  · rw [List.mem_append, List.mem_singleton]

theorem mem_keys_foldl_vote (h : Histogram) (sigs : List Signature) (s : Signature) :
    s ∈ (sigs.foldl vote h).keys ↔ s ∈ h.keys ∨ s ∈ sigs := by
  induction sigs generalizing h with
  | nil => simp
  | cons t sigs ih => rw [List.foldl_cons, ih, mem_keys_vote, List.mem_cons, or_assoc]

/-- The signatures in a histogram of votes are those that were voted for. -/
theorem mem_keys_ofVotes {sigs : List Signature} {s : Signature} :
    s ∈ (ofVotes sigs).keys ↔ s ∈ sigs := by
  rw [ofVotes, mem_keys_foldl_vote]
  simp [keys]

/-- Without votes, and only then, a histogram is empty. -/
theorem ofVotes_eq_nil_iff {sigs : List Signature} : ofVotes sigs = [] ↔ sigs = [] := by
  constructor
  · intro h
    refine List.eq_nil_iff_forall_not_mem.mpr fun s hs => ?_
    rw [← mem_keys_ofVotes, h] at hs
    cases hs
  · rintro rfl
    rfl

theorem nodup_keys_foldl_vote {h : Histogram} (hd : h.keys.Nodup) (sigs : List Signature) :
    (sigs.foldl vote h).keys.Nodup := by
  induction sigs generalizing h with
  | nil => exact hd
  | cons t sigs ih => exact ih (nodup_vote hd t)

theorem nodup_keys_ofVotes (sigs : List Signature) : (ofVotes sigs).keys.Nodup :=
  nodup_keys_foldl_vote (h := []) List.nodup_nil sigs

/-- The entry of a signature holds its votes. -/
theorem votes_of_mem {h : Histogram} (hd : h.keys.Nodup) {s : Signature} {n : Int}
    (hs : (s, n) ∈ h) : h.votes s = n := by
  induction h with
  | nil => cases hs
  | cons p h ih =>
    obtain ⟨t, m⟩ := p
    obtain ⟨ht, hd'⟩ := List.nodup_cons.mp hd
    rcases List.mem_cons.mp hs with heq | hmem
    · obtain ⟨rfl, rfl⟩ := Prod.mk.inj heq
      simp [votes]
    · have hst : (s == t) = false := by
        refine beq_eq_false_iff_ne.mpr ?_
        rintro rfl
        exact ht (List.mem_map.mpr ⟨(s, n), hmem, rfl⟩)
      simpa [votes, List.lookup_cons, hst] using ih hd' hmem

/-- A signature without an entry has no votes. -/
theorem votes_of_not_mem {h : Histogram} {s : Signature} (hs : s ∉ h.keys) : h.votes s = 0 := by
  have hlookup : h.lookup s = none := by
    refine List.lookup_eq_none_iff.mpr fun e he => bne_iff_ne.mpr ?_
    rintro rfl
    exact hs (List.mem_map_of_mem he)
  rw [votes, hlookup]
  rfl

/-! ## Counts -/

/-- The number of votes for all signatures together. -/
def total (h : Histogram) : Int := h.foldr (fun e n => e.2 + n) 0

@[simp] theorem total_cons (e : Signature × Int) (h : Histogram) :
    total (e :: h) = e.2 + h.total := rfl

theorem total_vote (h : Histogram) (s : Signature) : (h.vote s).total = h.total + 1 := by
  unfold vote
  induction h with
  | nil => rfl
  | cons e h ih =>
    unfold add
    split
    · simp only [total_cons]
      omega
    · simp only [total_cons, ih]
      omega

/-- A vote leaves every count positive. -/
theorem pos_of_mem_vote {h : Histogram} (hpos : ∀ e ∈ h, 1 ≤ e.2) (s : Signature) :
    ∀ e ∈ h.vote s, 1 ≤ e.2 := by
  unfold vote
  induction h with
  | nil => simp [add]
  | cons e h ih =>
    obtain ⟨he, hrest⟩ := List.forall_mem_cons.mp hpos
    unfold add
    split
    · exact List.forall_mem_cons.mpr ⟨by dsimp only; omega, hrest⟩
    · exact List.forall_mem_cons.mpr ⟨he, ih hrest⟩

/-! ## The leader -/

/-- The place of a style in the order of signatures. -/
def rank (s : Style) : Nat := s.letter.toNat

/-- One entry beats another by its votes, then by its letter, then by its width. -/
theorem beats_iff {a b : Signature × Int} :
    beats a b = true ↔ b.2 < a.2 ∨ a.2 = b.2 ∧
      (rank a.1.style < rank b.1.style ∨
        rank a.1.style = rank b.1.style ∧ a.1.width < b.1.width) := by
  -- with letters and styles as numbers, the order is one that `omega` knows
  have hletter : ∀ s t : Style, s.letter < t.letter ↔ rank s < rank t := by
    intro s t
    cases s <;> cases t <;> decide
  have hstyle : ∀ s t : Style, s = t ↔ rank s = rank t := by
    intro s t
    cases s <;> cases t <;> decide
  simp only [beats, Signature.precedes, Bool.or_eq_true, Bool.and_eq_true, decide_eq_true_eq,
    beq_iff_eq, hletter, hstyle]

theorem not_beats_self (a : Signature × Int) : beats a a = false := by
  rw [Bool.eq_false_iff, ne_eq, beats_iff]
  omega

/-- An entry that beats another is beaten by what beats it. -/
theorem beats_trans {a b c : Signature × Int} (hab : beats a b = true) (hbc : beats b c = true) :
    beats a c = true := by
  rw [beats_iff] at *
  omega

/-- Of two entries one beats any third that the other beats, or is not beaten by the other. -/
theorem not_beats_trans {a b c : Signature × Int} (hab : beats a b = false)
    (hbc : beats b c = false) : beats a c = false := by
  rw [Bool.eq_false_iff, ne_eq, beats_iff] at *
  omega

theorem foldl_leader_spec (e : Signature × Int) (h : Histogram) :
    (h.foldl (fun best e => if beats e best then e else best) e) ∈ e :: h ∧
      ∀ f ∈ e :: h, beats f (h.foldl (fun best e => if beats e best then e else best) e) = false := by
  induction h generalizing e with
  | nil =>
    refine ⟨List.mem_cons_self, fun f hf => ?_⟩
    rw [List.mem_singleton.mp hf]
    exact not_beats_self e
  | cons d h ih =>
    rw [List.foldl_cons]
    cases hde : beats d e with
    | true =>
      simp only [if_true]
      obtain ⟨hmem, hmax⟩ := ih d
      refine ⟨List.mem_cons_of_mem e hmem, fun f hf => ?_⟩
      -- `d` beats `e`, so what beats the new leader is not `e`
      rcases List.mem_cons.mp hf with rfl | hf
      · refine Bool.eq_false_iff.mpr fun hbeats => ?_
        exact absurd (beats_trans hde hbeats) (Bool.eq_false_iff.mp (hmax d List.mem_cons_self))
      · exact hmax f hf
    | false =>
      simp only [Bool.false_eq_true, if_false]
      obtain ⟨hmem, hmax⟩ := ih e
      refine ⟨?_, fun f hf => ?_⟩
      · rcases List.mem_cons.mp hmem with heq | hmem
        · rw [heq]
          exact List.mem_cons_self
        · exact List.mem_cons_of_mem e (List.mem_cons_of_mem d hmem)
      · rcases List.mem_cons.mp hf with rfl | hf
        · exact hmax f List.mem_cons_self
        · rcases List.mem_cons.mp hf with rfl | hf
          · exact not_beats_trans hde (hmax e List.mem_cons_self)
          · exact hmax f (List.mem_cons_of_mem e hf)

/-- **The leader is an entry that no entry beats.** -/
theorem leader?_spec {h : Histogram} {e : Signature × Int} (he : h.leader? = some e) :
    e ∈ h ∧ ∀ f ∈ h, beats f e = false := by
  cases h with
  | nil => cases he
  | cons d h =>
    obtain rfl := Option.some.inj he
    exact foldl_leader_spec d h

theorem leader?_eq_none_iff {h : Histogram} : h.leader? = none ↔ h = [] := by
  cases h <;> simp [leader?]

theorem winner?_eq_none_iff {h : Histogram} : h.winner? = none ↔ h = [] := by
  rw [winner?, Option.map_eq_none_iff, leader?_eq_none_iff]

/-- The winner was voted for. -/
theorem mem_keys_of_winner? {h : Histogram} {s : Signature} (hs : h.winner? = some s) :
    s ∈ h.keys := by
  obtain ⟨e, he, rfl⟩ := Option.map_eq_some_iff.mp hs
  exact List.mem_map_of_mem (leader?_spec he).1

theorem rank_injective {s t : Style} (h : rank s = rank t) : s = t :=
  Style.letter_injective (Char.toNat_inj.mp h)

/-- Of two entries for different signatures one beats the other. -/
theorem eq_of_not_beats {a b : Signature × Int} (hab : beats a b = false)
    (hba : beats b a = false) : a.1 = b.1 := by
  rw [Bool.eq_false_iff, ne_eq, beats_iff] at hab hba
  have hrank : rank a.1.style = rank b.1.style := by omega
  have hwidth : a.1.width = b.1.width := by omega
  calc a.1 = ⟨a.1.style, a.1.width⟩ := rfl
    _ = ⟨b.1.style, b.1.width⟩ := by rw [rank_injective hrank, hwidth]
    _ = b.1 := rfl

/-- Of two signatures with equally many votes the one that is not beaten precedes the other. -/
theorem precedes_of_not_beats {s t : Signature} {n : Int} (h : beats (s, n) (t, n) = false)
    (hne : s ≠ t) : t.precedes s = true := by
  cases hprecedes : t.precedes s with
  | true => rfl
  | false =>
    have hback : beats (t, n) (s, n) = false := by simp [beats, hprecedes]
    exact absurd (eq_of_not_beats h hback) hne

/-- An entry that does not beat another has fewer votes, or as many and the other one precedes it. -/
theorem lt_or_precedes_of_not_beats {s t : Signature} {m n : Int} (h : beats (t, m) (s, n) = false) :
    m < n ∨ m = n ∧ (t = s ∨ s.precedes t = true) := by
  have hle := Bool.eq_false_iff.mp h
  rw [ne_eq, beats_iff] at hle
  by_cases hlt : m < n
  · exact .inl hlt
  · obtain rfl : m = n := by omega
    refine .inr ⟨rfl, ?_⟩
    by_cases hts : t = s
    · exact .inl hts
    · exact .inr (precedes_of_not_beats h hts)

/-- **A signature wins exactly if it was voted for and no other beats it.** -/
theorem winner?_eq_some_iff {h : Histogram} (hd : h.keys.Nodup) {s : Signature} :
    h.winner? = some s ↔
      s ∈ h.keys ∧ ∀ t ∈ h.keys, beats (t, h.votes t) (s, h.votes s) = false := by
  constructor
  · intro hs
    obtain ⟨⟨s', n⟩, he, rfl⟩ := Option.map_eq_some_iff.mp hs
    obtain ⟨hmem, hmax⟩ := leader?_spec he
    refine ⟨List.mem_map_of_mem hmem, fun t ht => ?_⟩
    obtain ⟨⟨t', m⟩, htm, rfl⟩ := List.mem_map.mp ht
    rw [votes_of_mem hd htm, votes_of_mem hd hmem]
    exact hmax _ htm
  · rintro ⟨hs, hmax⟩
    cases he : h.leader? with
    | none =>
      rw [leader?_eq_none_iff.mp he] at hs
      cases hs
    | some e =>
      obtain ⟨hmem, hlead⟩ := leader?_spec he
      obtain ⟨⟨s', n⟩, hsn, rfl⟩ := List.mem_map.mp hs
      have hbeaten := hmax e.1 (List.mem_map_of_mem hmem)
      rw [votes_of_mem hd hmem, votes_of_mem hd hsn] at hbeaten
      have heq : e.1 = s' := eq_of_not_beats hbeaten (hlead _ hsn)
      rw [winner?, he, Option.map_some, heq]

/-- No signature has more votes than the winner. -/
theorem votes_le_of_winner? {h : Histogram} (hd : h.keys.Nodup) {s t : Signature}
    (hs : h.winner? = some s) (ht : t ∈ h.keys) : h.votes t ≤ h.votes s := by
  rcases lt_or_precedes_of_not_beats (((winner?_eq_some_iff hd).mp hs).2 t ht) with hlt | ⟨heq, -⟩
  · exact Int.le_of_lt hlt
  · exact Int.le_of_eq heq

/-- **A signature with more votes than any other wins.** -/
theorem winner?_of_forall_lt {h : Histogram} (hd : h.keys.Nodup) {s : Signature} (hs : s ∈ h.keys)
    (hlt : ∀ t ∈ h.keys, t ≠ s → h.votes t < h.votes s) : h.winner? = some s := by
  refine (winner?_eq_some_iff hd).mpr ⟨hs, fun t ht => ?_⟩
  by_cases hts : t = s
  · rw [hts]
    exact not_beats_self _
  · have hvotes := hlt t ht hts
    rw [Bool.eq_false_iff, ne_eq, beats_iff]
    omega

end Histogram

/-! ## Verdicts without settings -/

/-- Without settings the winner is at most promoted. -/
theorem verdict_default (h : Histogram) :
    h.verdict {} = match h.winner? with
      | none => .unknown
      | some winner => h.promoteMixed winner := by
  unfold Histogram.verdict
  cases h.winner? <;> rfl

namespace Histogram

/-- A signature is promoted to the mixed one of its width or not at all. -/
theorem promoteMixed_cases (h : Histogram) (s : Signature) :
    h.promoteMixed s = s ∨ s.style = .spaces ∧ h.promoteMixed s = .mixed s.width := by
  unfold promoteMixed
  by_cases hs : s.style = .spaces
  · rw [if_pos hs]
    dsimp only
    split
    · exact Or.inr ⟨hs, rfl⟩
    · exact Or.inl rfl
  · rw [if_neg hs]
    exact Or.inl rfl

/-- Without mixed votes of its width a signature is not promoted. -/
theorem promoteMixed_of_votes_eq_zero {h : Histogram} {s : Signature}
    (hm : h.votes (.mixed s.width) = 0) : h.promoteMixed s = s := by
  simp [promoteMixed, hm]

/-! ## Scale -/

section Scale

variable {h h' : Histogram} {k : Int}

/-- `h'` holds the entries of `h` with all counts multiplied by `k`. -/
structure IsScaled (k : Int) (h h' : Histogram) : Prop where
  nodup : h.keys.Nodup
  nodup' : h'.keys.Nodup
  mem_keys_iff : ∀ s, s ∈ h'.keys ↔ s ∈ h.keys
  votes_eq : ∀ s, h'.votes s = k * h.votes s

theorem beats_scale (hk : 0 < k) (s t : Signature) (m n : Int) :
    beats (s, k * m) (t, k * n) = beats (s, m) (t, n) := by
  have hlt : k * n < k * m ↔ n < m := Int.mul_lt_mul_left hk
  have heq : k * m = k * n ↔ m = n := Int.mul_eq_mul_left_iff (Int.ne_of_gt hk)
  unfold beats
  simp only [hlt, heq, Bool.beq_eq_decide_eq]

/-- **Which signature wins does not depend on the scale of the counts.** -/
theorem IsScaled.winner?_eq (hk : 0 < k) (hs : IsScaled k h h') : h'.winner? = h.winner? := by
  refine Option.ext fun s => ?_
  rw [winner?_eq_some_iff hs.nodup', winner?_eq_some_iff hs.nodup]
  simp only [hs.mem_keys_iff, hs.votes_eq, beats_scale hk]

/-- Neither does whether the winner is promoted. -/
theorem IsScaled.promoteMixed_eq (hk : 0 < k) (hs : IsScaled k h h') (s : Signature) :
    h'.promoteMixed s = h.promoteMixed s := by
  have hzero : k * h.votes (.mixed s.width) ≠ 0 ↔ h.votes (.mixed s.width) ≠ 0 := by
    rw [ne_eq, Int.mul_eq_zero]
    omega
  have hshare : k * h.votes (.mixed s.width) * mixedShare ≥ k * h.votes s ↔
      h.votes (.mixed s.width) * mixedShare ≥ h.votes s := by
    rw [Int.mul_assoc]
    exact Int.mul_le_mul_left hk
  simp only [promoteMixed, hs.votes_eq, hzero, hshare]

/-- **So the verdict does not depend on it**, whatever the settings say. -/
theorem IsScaled.verdict_eq (hk : 0 < k) (hs : IsScaled k h h') (settings : Settings) :
    h'.verdict settings = h.verdict settings := by
  rw [verdict, verdict, hs.winner?_eq hk]
  cases h.winner? with
  | none => rfl
  | some s => exact congrArg settings.override (hs.promoteMixed_eq hk s)

end Scale

end Histogram

/-! ## Written votes -/

section Written

variable {h : Histogram} {settings : Settings}

theorem Signature.writable_of_lt {sig : Signature} (h : sig.width.natAbs < 10 ^ Numeral.limit) :
    sig.Writable :=
  .inr ((Nat.length_toDigits_le_iff (by decide) (by decide)).mpr h)

/-- A known signature can be written if its width is below ten to the power of the limit. -/
theorem Signature.writable_iff {sig : Signature} (hknown : sig.isUnknown = false) :
    sig.Writable ↔ sig.width.natAbs < 10 ^ Numeral.limit := by
  refine ⟨fun h => ?_, writable_of_lt⟩
  rcases h with hunknown | hlength
  · rw [hknown] at hunknown
    cases hunknown
  · exact (Nat.length_toDigits_le_iff (by decide) (by decide)).mp hlength

theorem Histogram.written_of_writable (hw : ∀ sig ∈ h.keys, sig.Writable) :
    h.written = .ok (h.map fun e => (e.1.render, e.2)) := by
  unfold written
  induction h with
  | nil => rfl
  | cons e h ih =>
    have hhead : e.1.write = .ok e.1.render := if_pos (hw e.1 List.mem_cons_self)
    have htail := ih fun sig hsig => hw sig (List.mem_cons_of_mem _ hsig)
    rw [List.mapM_cons, htail, hhead]
    rfl

theorem Histogram.written_of_not_writable {sig : Signature} (hsig : sig ∈ h.keys)
    (hw : ¬ sig.Writable) : h.written = .error ⟨⟩ := by
  unfold written
  induction h with
  | nil => cases hsig
  | cons e h ih =>
    rw [List.mapM_cons]
    by_cases hhead : e.1.Writable
    · rcases List.mem_cons.mp hsig with rfl | htail
      · exact absurd hhead hw
      · rw [ih htail, Signature.write, if_pos hhead]
        rfl
    · rw [Signature.write, if_neg hhead]
      rfl

/-- **Votes that can be written are resolved to their verdict.** -/
theorem resolve_of_writable (hw : ∀ sig ∈ h.keys, sig.Writable) (settings : Settings) :
    resolve h settings = .ok (h.verdict settings) := by
  unfold resolve Histogram.verdict
  cases h.winner? with
  | none => rfl
  | some winner =>
    rw [Histogram.written_of_writable hw]
    rfl

/-- One vote that cannot be written is enough for there to be no verdict. -/
theorem resolve_of_not_writable {sig : Signature} (hsig : sig ∈ h.keys) (hw : ¬ sig.Writable)
    (settings : Settings) : resolve h settings = .error ⟨⟩ := by
  unfold resolve
  cases hwin : h.winner? with
  | none =>
    rw [Histogram.winner?_eq_none_iff.mp hwin] at hsig
    cases hsig
  | some winner =>
    rw [Histogram.written_of_not_writable hsig hw]
    rfl

/-- Votes can all be written, or one of them cannot. -/
theorem writable_or_exists (h : Histogram) :
    (∀ sig ∈ h.keys, sig.Writable) ∨ ∃ sig ∈ h.keys, ¬ sig.Writable := by
  by_cases hw : ∃ sig ∈ h.keys, ¬ sig.Writable
  · exact Or.inr hw
  · exact Or.inl fun sig hsig => Decidable.not_not.mp fun hnot => hw ⟨sig, hsig, hnot⟩

theorem resolve_eq_ok_iff {verdict : Signature} :
    resolve h settings = .ok verdict ↔
      (∀ sig ∈ h.keys, sig.Writable) ∧ h.verdict settings = verdict := by
  rcases writable_or_exists h with hw | ⟨sig, hsig, hnot⟩
  · rw [resolve_of_writable hw, Except.ok.injEq]
    exact ⟨fun heq => ⟨hw, heq⟩, And.right⟩
  · rw [resolve_of_not_writable hsig hnot]
    exact ⟨nofun, fun hok => absurd (hok.1 sig hsig) hnot⟩

/-- The scale of the counts does not matter for the record of a verdict either. -/
theorem Histogram.IsScaled.resolve_eq {h' : Histogram} {k : Int} (hk : 0 < k) (hs : IsScaled k h h')
    (settings : Settings) : resolve h' settings = resolve h settings := by
  rcases writable_or_exists h with hw | ⟨sig, hsig, hnot⟩
  · have hw' : ∀ sig ∈ h'.keys, sig.Writable := fun sig hsig => hw sig ((hs.mem_keys_iff sig).mp hsig)
    rw [resolve_of_writable hw, resolve_of_writable hw', hs.verdict_eq hk]
  · rw [resolve_of_not_writable hsig hnot,
      resolve_of_not_writable ((hs.mem_keys_iff sig).mpr hsig) hnot]

end Written

end Indentation
