/-!
# Places in a text

A search that goes on where the last one ended keeps a position. A place is a position together with
the text from there on, so that the text need not be counted off anew for each step.

## Main statements

* `Place.ext_offset` — the position determines the place
* `Place.pass_eq_move` — a run is passed in one step
* `Place.pass_move` — from within a run the same place behind it is reached
-/

namespace Indentation.Text

/-- A position in a text, with the text from there on. -/
structure Place (s : List Char) where
  offset : Nat
  rest : List Char
  drop_offset : s.drop offset = rest

namespace Place

variable {s : List Char}

/-- The place at which a text starts. -/
def start (s : List Char) : Place s := ⟨0, s, rfl⟩

/-- The place a number of characters further on. -/
def move (n : Nat) (p : Place s) : Place s where
  offset := p.offset + n
  rest := p.rest.drop n
  drop_offset := by rw [← p.drop_offset, List.drop_drop]

/-- The place behind the longest run of certain characters at a place. -/
def pass (q : Char → Bool) (p : Place s) : Place s := p.move (p.rest.takeWhile q).length

/-- Whether a text stands at a place. -/
def holds (t : List Char) (p : Place s) : Bool := t.isPrefixOf p.rest

/-- The text from a place up to another one. -/
def upTo (p q : Place s) : List Char := p.rest.take (q.offset - p.offset)

/-- The next `n` places, behind those of `found` in reverse. -/
def walk : Nat → Place s → List (Place s) → List (Place s)
  | 0, _, found => found.reverse
  | n + 1, p, found => walk n (p.move 1) (p :: found)

/-- The places of a text at which a character stands, from left to right. -/
def all (s : List Char) : List (Place s) := walk s.length (start s) []

/-- The places of a text at which another one stands, from left to right. They are those that a
search finds which goes on one character behind the last place found. -/
def findAll (t s : List Char) : List (Place s) := (all s).filter (holds t)

/-! ## Steps -/

variable {p q : Place s}

/-- **The position determines the place.** -/
theorem ext_offset (h : p.offset = q.offset) : p = q := by
  obtain ⟨i, rest, rfl⟩ := p
  obtain ⟨j, rest', rfl⟩ := q
  obtain rfl : i = j := h
  rfl

@[simp] theorem offset_start : (start s).offset = 0 := rfl

@[simp] theorem rest_start : (start s).rest = s := rfl

@[simp] theorem offset_move (n : Nat) : (p.move n).offset = p.offset + n := rfl

@[simp] theorem rest_move (n : Nat) : (p.move n).rest = p.rest.drop n := rfl

@[simp] theorem move_zero : p.move 0 = p := ext_offset rfl

@[simp] theorem move_move (n m : Nat) : (p.move n).move m = p.move (n + m) :=
  ext_offset (Nat.add_assoc ..)

/-- A place further on is reached in one step. -/
theorem eq_move_of_le (h : p.offset ≤ q.offset) : q = p.move (q.offset - p.offset) :=
  ext_offset (by rw [offset_move]; omega)

/-- A run that ends where a character stands that it may not hold is passed in one step. -/
theorem pass_eq_move {f : Char → Bool} {a x : List Char} (h : p.rest = a ++ x)
    (ha : ∀ c ∈ a, f c = true) (hx : ∀ c ∈ x.head?, f c = false) : p.pass f = p.move a.length := by
  have hrun : x.takeWhile f = [] := by
    cases x with
    | nil => rfl
    | cons c x =>
      have hc : f c = false := hx c rfl
      simp [hc]
  rw [pass, h, List.takeWhile_append_of_pos ha, hrun, List.append_nil]

/-- What is left of a run from within it on. -/
theorem takeWhile_drop {f : Char → Bool} {l : List Char} {n : Nat}
    (h : n ≤ (l.takeWhile f).length) : (l.drop n).takeWhile f = (l.takeWhile f).drop n := by
  induction l generalizing n with
  | nil => simp
  | cons c l ih =>
    cases n with
    | zero => rfl
    | succ n =>
      cases hc : f c with
      | false => simp [hc] at h
      | true =>
        have hn : n ≤ (l.takeWhile f).length := by simpa [hc] using h
        simpa [hc] using ih hn

/-- From a place within a run the same place behind the run is reached. -/
theorem pass_move {f : Char → Bool} {n : Nat} (h : n ≤ (p.rest.takeWhile f).length) :
    (p.move n).pass f = p.pass f := by
  rw [pass, rest_move, takeWhile_drop h, List.length_drop, move_move, Nat.add_sub_cancel' h, pass]

end Place

end Indentation.Text
