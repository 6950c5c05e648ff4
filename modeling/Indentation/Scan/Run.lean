import Indentation.Detect
import Indentation.Scan.Report
import Indentation.Scan.Sources

/-!
# Scans

A scan detects the indentation of every source file under its root and reports the verdicts. Every
report is checked against the schema of reports before it is handed out.

## Main statements

* `findings_cons_of_error` — a file that cannot be judged ends the scan
-/

namespace Indentation

open Json

/-- Why there is no report. -/
inductive ScanError where
  | rootMissing (root : Path)
  /-- The root leads through links in a circle. -/
  | linkLoop (link : Path)
  | badRoot (e : PathError)
  | config (e : SizeLimitError)
  | overlong (e : OverlongNumeral)
  | invalid (v : Violation)

/-- The message for a scan without report. -/
def ScanError.message : ScanError → String
  | rootMissing root => s!"scan_tree: root does not exist: {root.toString}"
  | linkLoop link => s!"Symlink loop from {String.ofList (Text.quote link.toString.toList)}"
  | badRoot e => e.message
  | config e => e.message
  | overlong e => e.message
  | invalid v => v.message

namespace Scan

/-- The path by which a report lists a file: from the directory of the scan, or the bare name if the
file is elsewhere. -/
def listedPath (base file : Location) : String :=
  if base.isPrefixOf file then "/".intercalate (file.drop base.length)
  else file.getLast?.getD ""

/-- The bytes of the file at a location. -/
def bytesAt (t : FileTree) (l : Location) : List UInt8 :=
  match t.entry? l with
  | some (.file bytes) => bytes
  | _ => []

/-- A file that a scan has found: the path by which the report lists it, and the bytes in it. -/
structure SourceFile where
  path : String
  bytes : List UInt8
  deriving DecidableEq, Repr

/-- The source file at a location. -/
def sourceFile (t : FileTree) (base l : Location) : SourceFile := ⟨listedPath base l, bytesAt t l⟩

/-- The verdicts on some files. -/
def findings (skipDocs : Bool) : List SourceFile → Except OverlongNumeral (List Finding)
  | [] => .ok []
  | f :: fs =>
    match detectBytes skipDocs f.bytes with
    | .error e => .error e
    | .ok signature => (findings skipDocs fs).map (⟨f.path, signature⟩ :: ·)

/-- A file that cannot be judged ends the scan. -/
theorem findings_cons_of_error {skipDocs : Bool} {f : SourceFile} {fs : List SourceFile}
    {e : OverlongNumeral} (h : detectBytes skipDocs f.bytes = .error e) :
    findings skipDocs (f :: fs) = .error e := by
  simp [findings, h]

/-- The location that a scan starts at. The root is located first, so that names which are taken
back by `..` need not be there. -/
def rootLocation (t : FileTree) (cwd : Location) (root : Path) : Except ScanError Location :=
  if root.hasNul then .error (.badRoot ⟨.embeddedNul, root⟩)
  else
    let path := FileTree.pathOf (t.locate cwd root)
    match t.followPath false [] path with
    | .ok l => .ok l
    | .error .tooManyLinks => .error (.linkLoop path)
    | .error _ => .error (.rootMissing path)

/-- The report on some files, if it satisfies the schema of reports. -/
def reportOn (skipDocs : Bool) (root : String) (files : List SourceFile) :
    Except ScanError Report := do
  let found ← (findings skipDocs files).mapError .overlong
  let report := Report.ofFindings root found
  (ReportSchema.check report.toJson).mapError .invalid
  pure report

/-- The report on the source files under a location. -/
def reportAt (c : ScanConfig) (t : FileTree) (root : Location) : Except ScanError Report :=
  let base := if t.entry? root = some .directory then root else root.dropLast
  let c := { c with root := FileTree.pathOf root }
  reportOn c.skipDocs c.root.toString ((c.sources t []).map (sourceFile t base))

/-- The report of a scan from a working directory in an environment. -/
def run (c : ScanConfig) (t : FileTree) (cwd : Location) (env : Environment) :
    Except ScanError Report := do
  let root ← rootLocation t cwd c.root
  let c ← (c.withEnvironment env).mapError .config
  reportAt c t root

end Scan

end Indentation
