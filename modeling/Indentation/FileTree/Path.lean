import Indentation.Text.Blank

/-!
# Paths

A path is a sequence of names with a root in front of it if it is absolute. Repeated slashes, a
slash at the end and single dots mean nothing and are left out. Double dots are kept, because what
they mean depends on symbolic links.

## Main statements

* `Path.toString_empty` — the path without names is written as a single dot
-/

namespace Indentation

/-- A path as it is written, without names that mean nothing. -/
structure Path where
  /-- The slashes in front: none, one, or exactly two. -/
  root : String
  parts : List String
  deriving DecidableEq, Repr, Inhabited

namespace Path

/-- Reads a path. Two slashes in front are kept apart from one; three and more count as one. -/
def ofString (s : String) : Path :=
  let slashes := (s.toList.takeWhile (· == '/')).length
  let root := if slashes = 0 then "" else if slashes = 2 then "//" else "/"
  let parts := (Text.splitAt '/' s.toList).map String.ofList
  ⟨root, parts.filter fun part => part ≠ "" ∧ part ≠ "."⟩

/-- Whether the path starts at the root. -/
def isAbsolute (p : Path) : Bool := p.root ≠ ""

/-- The written path. The path without names is a single dot, or the root. -/
def toString (p : Path) : String :=
  if p.root = "" ∧ p.parts = [] then "." else p.root ++ String.intercalate "/" p.parts

/-- The path of the directory that the path names an entry of. -/
def parent (p : Path) : Path := { p with parts := p.parts.dropLast }

/-- The last name of the path. -/
def name (p : Path) : String := p.parts.getLast?.getD ""

/-- Whether the path holds a character that no name can hold. -/
def hasNul (p : Path) : Bool := p.parts.any fun part => part.toList.contains '\x00'

/-- The path without names is written as a single dot. -/
theorem toString_empty : toString ⟨"", []⟩ = "." := rfl

end Path

/-- The end of a name from its last dot on. A dot at the start or at the end of the name does not
count. -/
def nameSuffix (name : String) : String :=
  let reversed := name.toList.reverse
  let after := reversed.takeWhile (· != '.')
  match reversed.dropWhile (· != '.') with
  | '.' :: before =>
    if after.isEmpty || before.isEmpty then "" else String.ofList ('.' :: after.reverse)
  | _ => ""

end Indentation
