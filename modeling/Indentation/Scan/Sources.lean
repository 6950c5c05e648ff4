import Indentation.FileTree.Basic
import Indentation.Scan.Config
import Indentation.Text.Lowercase

/-!
# Source files

The source files that a scan finds, in the order of the names that lead to them. Directories are
entered where they stand and never through links. A file that a scan starts at is a source file
whatever its name or size.

## Main statements

* `sources_of_missing` — a scan that starts nowhere finds nothing
-/

namespace Indentation.ScanConfig

/-- Whether the names that lead to a file from the start of the scan let it be a source file. -/
def admitsNames (c : ScanConfig) (names : List String) : Bool :=
  let name := names.getLast?.getD ""
  let ext := String.ofList (Text.lowercase (nameSuffix name).toList)
  !c.ignoreFiles.contains name && c.includeExts.contains ext
    && !names.any fun part => c.ignoreDirs.contains part

/-- The location of the source file that an entry is, if it is one. Its names lead to it from
`root`. -/
def source? (c : ScanConfig) (t : FileTree) (root : Location) (names : List String) (e : Entry) :
    Option Location :=
  let isLink := match e with
    | .link _ => true
    | _ => false
  if isLink && !c.followSymlinks then none
  else
    match t.follow false FileTree.maxLinks root names with
    | .error _ => none
    | .ok l =>
      match t.entry? l with
      | some (.file bytes) =>
        if c.admitsNames names && (bytes.length : Int) ≤ c.maxFileBytes then some l else none
      | _ => none

/-- Entries in the order of the names that lead to them. -/
def sortByNames (entries : List (List String × Entry)) : List (List String × Entry) :=
  entries.mergeSort fun a b => !decide (b.1 < a.1)

/-- The locations of the source files that a scan finds. -/
def sources (c : ScanConfig) (t : FileTree) (cwd : Location) : List Location :=
  match t.followPath false cwd c.root with
  | .error _ => []
  | .ok root =>
    match t.entry? root with
    | some (.file _) => [root]
    | some .directory => (sortByNames (t.below root)).filterMap fun (names, e) =>
      c.source? t root names e
    | _ => []

/-- A scan that starts nowhere finds nothing. -/
theorem sources_of_missing {c : ScanConfig} {t : FileTree} {cwd : Location} {fault : PathFault}
    (h : t.followPath false cwd c.root = .error fault) : c.sources t cwd = [] := by
  simp [sources, h]

end Indentation.ScanConfig
