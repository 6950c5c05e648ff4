import Indentation.Signature

/-!
# Histograms

A histogram counts votes for signatures. Each signature that was voted for stands in it once.

## Main statements

* `votes_vote_self`, `votes_vote_of_ne` — a vote adds one to its signature and leaves the others
  alone
* `nodup_vote` — no signature is entered twice
-/

namespace Indentation

/-- Signatures with their counts, in the order of their first votes. -/
abbrev Histogram := List (Signature × Int)

namespace Histogram

/-- The number of votes for a signature. -/
def votes (h : Histogram) (s : Signature) : Int := (h.lookup s).getD 0

/-- Adds `n` votes for a signature. -/
def add (h : Histogram) (s : Signature) (n : Int) : Histogram :=
  match h with
  | [] => [(s, n)]
  | (t, m) :: rest => if t = s then (t, m + n) :: rest else (t, m) :: add rest s n

/-- Adds one vote for a signature. -/
def vote (h : Histogram) (s : Signature) : Histogram := h.add s 1

/-- The signatures that stand in a histogram. -/
def keys (h : Histogram) : List Signature := h.map Prod.fst

/-- A vote adds one to the votes for its signature. -/
theorem votes_vote_self (h : Histogram) (s : Signature) : (h.vote s).votes s = h.votes s + 1 := by
  induction h with
  | nil => simp [vote, votes, add]
  | cons p h ih =>
    obtain ⟨t, m⟩ := p
    by_cases hts : t = s
    · subst hts
      simp [vote, votes, add]
    · have hst : (s == t) = false := by simpa using Ne.symm hts
      simpa [vote, votes, add, List.lookup_cons, hts, hst] using ih

/-- A vote leaves the votes for every other signature alone. -/
theorem votes_vote_of_ne (h : Histogram) {s t : Signature} (hst : t ≠ s) :
    (h.vote s).votes t = h.votes t := by
  induction h with
  | nil =>
    have : (t == s) = false := by simpa using hst
    simp [vote, votes, add, List.lookup_cons, this]
  | cons p h ih =>
    obtain ⟨u, m⟩ := p
    by_cases hus : u = s
    · subst hus
      have : (t == u) = false := by simpa using hst
      simp [vote, votes, add, List.lookup_cons, this]
    · by_cases htu : t = u
      · subst htu
        simp [vote, votes, add, hus]
      · have : (t == u) = false := by simpa using htu
        simpa [vote, votes, add, List.lookup_cons, hus, this] using ih

theorem keys_add (h : Histogram) (s : Signature) (n : Int) :
    (h.add s n).keys = if s ∈ h.keys then h.keys else h.keys ++ [s] := by
  induction h with
  | nil => rfl
  | cons p h ih =>
    obtain ⟨t, m⟩ := p
    by_cases hts : t = s
    · simp [add, keys, hts]
    · have hst : s ≠ t := Ne.symm hts
      simp only [keys] at ih
      by_cases hs : s ∈ h.map Prod.fst <;> simp_all [add, keys]

/-- No signature is entered twice. -/
theorem nodup_vote {h : Histogram} (hd : h.keys.Nodup) (s : Signature) : (h.vote s).keys.Nodup := by
  rw [vote, keys_add]
  split
  · exact hd
  · next hs =>
    rw [List.nodup_append]
    refine ⟨hd, by simp, ?_⟩
    intro a ha b hb
    rw [List.mem_singleton.mp hb]
    exact fun hab => hs (hab ▸ ha)

/-- Whether the first entry goes before the second: more votes, and of equally many the signature
that precedes. -/
def beats (a b : Signature × Int) : Bool :=
  b.2 < a.2 || (a.2 == b.2 && a.1.precedes b.1)

/-- The entry that no other beats. -/
def leader? : Histogram → Option (Signature × Int)
  | [] => none
  | e :: rest => some (rest.foldl (fun best e => if beats e best then e else best) e)

/-- The signature with the most votes, and of several the first by letter and width. -/
def winner? (h : Histogram) : Option Signature := h.leader?.map Prod.fst

end Histogram

end Indentation
