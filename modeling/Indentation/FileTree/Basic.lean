import Indentation.FileTree.Path
import Indentation.Text.Quoted

/-!
# File trees

A file tree is a state of a file system: which directories there are, and which files and symbolic
links stand in them. An entry is known by its location, the names that lead to it from the root
without a detour over links.

A path is followed name by name. A link is replaced by its target, and `..` leads from the directory
that was reached, which need not be the one that was written. At most `maxLinks` links are followed.

A path can also be located without regard to what stands on the way: then names that are not there
stay as they are, and `..` takes the name before it back.

## Termination

`follow` and `locateFrom` either consume a name, or replace one by the names of a link's target and
have one link less to go.
-/

namespace Indentation

/-- The names that lead to an entry from the root. -/
abbrev Location := List String

/-- What stands at a location. -/
inductive Entry where
  | file (bytes : List UInt8)
  | directory
  | link (target : String)
  deriving DecidableEq, Repr

/-- Why a path cannot be used as it should be. -/
inductive PathFault where
  | notFound
  | exists
  | notADirectory
  | isADirectory
  | tooManyLinks
  | embeddedNul
  deriving DecidableEq, Repr

/-- A fault with the path that it is about. -/
structure PathError where
  fault : PathFault
  path : Path
  deriving DecidableEq, Repr

namespace PathFault

/-- The number by which operating systems know the fault. -/
def number : PathFault → Nat
  | notFound => 2
  | «exists» => 17
  | notADirectory => 20
  | isADirectory => 21
  | tooManyLinks => 40
  | embeddedNul => 22

/-- The words for the fault. -/
def words : PathFault → String
  | notFound => "No such file or directory"
  | «exists» => "File exists"
  | notADirectory => "Not a directory"
  | isADirectory => "Is a directory"
  | tooManyLinks => "Too many levels of symbolic links"
  | embeddedNul => "embedded null byte"

end PathFault

/-- The message for a path that cannot be used. -/
def PathError.message (e : PathError) : String :=
  match e.fault with
  | .embeddedNul => e.fault.words
  | fault =>
    let quoted := String.ofList (Text.quote e.path.toString.toList)
    s!"[Errno {fault.number}] {fault.words}: {quoted}"

/-- A state of a file system. The root is a directory and has no entry. -/
structure FileTree where
  entries : List (Location × Entry) := []
  deriving DecidableEq, Repr

namespace FileTree

/-- What stands at a location. -/
def entry? (t : FileTree) (l : Location) : Option Entry :=
  if l.isEmpty then some .directory else t.entries.lookup l

/-- Puts an entry at a location in place of what stands there. -/
def set (t : FileTree) (l : Location) (e : Entry) : FileTree :=
  if t.entries.any (·.1 = l) then
    ⟨t.entries.map fun p => if p.1 = l then (l, e) else p⟩
  else ⟨t.entries ++ [(l, e)]⟩

/-- The locations of the directories above a location, the root excepted. -/
def ancestors (l : Location) : List Location :=
  (List.range (l.length - 1)).map fun n => l.take (n + 1)

/-- Puts an entry at a location and makes the directories above it. -/
def add (t : FileTree) (l : Location) (e : Entry) : FileTree :=
  let withParents := (ancestors l).foldl
    (fun t l => if (t.entry? l).isSome then t else t.set l .directory) t
  withParents.set l e

/-- The entries below a location, each with the names that lead to it from there. -/
def below (t : FileTree) (l : Location) : List (List String × Entry) :=
  t.entries.filterMap fun (m, e) =>
    if l.length < m.length && l.isPrefixOf m then some (m.drop l.length, e) else none

/-! ## Following paths -/

/-- The names that the target of a link gives. A slash at its end, with a dot or without, is kept as
a dot: it asks for a directory. -/
def targetNames (target : String) : List String :=
  let names := (Path.ofString target).parts
  match target.toList.reverse with
  | '/' :: _ | '.' :: '/' :: _ => names ++ ["."]
  | _ => names

/-- Where the names of a path start: at the root, or at the directory `current`. -/
def startOf (p : Path) (current : Location) : Location := if p.isAbsolute then [] else current

/-- The greatest number of links that are followed on the way along one path. -/
def maxLinks : Nat := 40

/-- The location that names lead to from the directory at `current`. With `mayEnd`, the last name
may be one that is not there. -/
def follow (t : FileTree) (mayEnd : Bool) (links : Nat) (current : Location) (names : List String) :
    Except PathFault Location :=
  match names with
  | [] => .ok current
  | "." :: rest => follow t mayEnd links current rest
  | ".." :: rest => follow t mayEnd links current.dropLast rest
  | name :: rest =>
    let next := current ++ [name]
    match t.entry? next with
    | some .directory => follow t mayEnd links next rest
    | some (.file _) => if rest.isEmpty then .ok next else .error .notADirectory
    | some (.link target) =>
      match links with
      | 0 => .error .tooManyLinks
      | links + 1 =>
        follow t mayEnd links (startOf (Path.ofString target) current) (targetNames target ++ rest)
    | none => if mayEnd && rest.isEmpty then .ok next else .error .notFound
termination_by (links, names.length)

/-- Follows a path from a working directory. -/
def followPath (t : FileTree) (mayEnd : Bool) (cwd : Location) (p : Path) :
    Except PathFault Location :=
  if p.hasNul then .error .embeddedNul
  else t.follow mayEnd maxLinks (startOf p cwd) p.parts

/-- What a path leads to. -/
def find? (t : FileTree) (cwd : Location) (p : Path) : Option Entry :=
  match t.followPath false cwd p with
  | .ok l => t.entry? l
  | .error _ => none

/-- Whether a path leads to a directory. -/
def isDirectory (t : FileTree) (cwd : Location) (p : Path) : Bool :=
  match t.find? cwd p with
  | some .directory => true
  | _ => false

/-! ## Locating paths -/

/-- A part of the way ahead. -/
inductive Waypoint where
  | name (s : String)
  /-- All names of the target of a link have been passed. -/
  | endOf (link : Location)

/-- The names on the way ahead. -/
def Waypoint.names (ahead : List Waypoint) : List String :=
  ahead.filterMap fun
    | .name s => some s
    | .endOf _ => none

/-- The location that names give without regard to what stands there. -/
def lexical (names : List String) : Location :=
  names.foldl (fun l name => if name = ".." then l.dropLast else l ++ [name]) []

/-- The location that a way leads to. `known` holds the links that were met, each with what it leads
to unless the way is still inside its target. A link that leads into itself counts as a name. -/
def locateFrom (t : FileTree) (links : Nat) (known : List (Location × Option Location))
    (current : Location) (ahead : List Waypoint) : Location :=
  match ahead with
  | [] => current
  | .endOf link :: rest => locateFrom t links ((link, some current) :: known) current rest
  | .name ".." :: rest => locateFrom t links known current.dropLast rest
  | .name name :: rest =>
    let next := current ++ [name]
    match t.entry? next with
    | some (.link target) =>
      match known.lookup next with
      | some (some l) => locateFrom t links known l rest
      | some none => lexical (next ++ Waypoint.names rest)
      | none =>
        match links with
        | 0 => lexical (next ++ Waypoint.names rest)
        | links + 1 =>
          let p := Path.ofString target
          locateFrom t links ((next, none) :: known) (startOf p current)
            (p.parts.map .name ++ .endOf next :: rest)
    | _ => locateFrom t links known next rest
termination_by (links, ahead.length)

/-- The location that a path leads to, whether something stands there or not. -/
def locate (t : FileTree) (cwd : Location) (p : Path) : Location :=
  t.locateFrom t.entries.length [] (startOf p cwd) (p.parts.map .name)

/-- The absolute path of a location. -/
def pathOf (l : Location) : Path := ⟨"/", l⟩

/-! ## Reading and writing -/

/-- The bytes of the file that a path leads to. -/
def read (t : FileTree) (cwd : Location) (p : Path) : Except PathError (List UInt8) :=
  match t.followPath false cwd p with
  | .error fault => .error ⟨fault, p⟩
  | .ok l =>
    match t.entry? l with
    | some (.file bytes) => .ok bytes
    | some _ => .error ⟨.isADirectory, p⟩
    | none => .error ⟨.notFound, p⟩

/-- The tree with a file of the given bytes where the path leads to. Its directory has to be
there. -/
def write (t : FileTree) (cwd : Location) (p : Path) (bytes : List UInt8) :
    Except PathError FileTree :=
  match t.followPath true cwd p with
  | .error fault => .error ⟨fault, p⟩
  | .ok l =>
    match t.entry? l with
    | some .directory => .error ⟨.isADirectory, p⟩
    | _ => .ok (t.set l (.file bytes))

/-- The tree with a new directory. -/
def makeDirectory (t : FileTree) (cwd : Location) (p : Path) : Except PathError FileTree :=
  match t.followPath false cwd p.parent with
  | .error fault => .error ⟨fault, p⟩
  | .ok l =>
    let new := l ++ [p.name]
    match t.entry? l with
    | some .directory =>
      if p.parts.isEmpty || p.name = ".." || (t.entry? new).isSome then .error ⟨.exists, p⟩
      else .ok (t.set new .directory)
    | _ => .error ⟨.notADirectory, p⟩

/-- The tree with a directory, which may be there already. -/
def ensureDirectory (t : FileTree) (cwd : Location) (p : Path) : Except PathError FileTree :=
  match t.makeDirectory cwd p with
  | .ok t => .ok t
  | .error e => if e.fault ≠ .notFound && t.isDirectory cwd p then .ok t else .error e

/-- The tree with a directory and all directories above it. `depth` bounds how far above. -/
def ensureDirectories (t : FileTree) (cwd : Location) (p : Path) (depth : Nat) :
    Except PathError FileTree :=
  match t.ensureDirectory cwd p, depth with
  | .error ⟨.notFound, q⟩, depth + 1 =>
    if p.parts.isEmpty then .error ⟨.notFound, q⟩
    else do
      let t ← t.ensureDirectories cwd p.parent depth
      t.ensureDirectory cwd p
  | r, _ => r

end FileTree

end Indentation
