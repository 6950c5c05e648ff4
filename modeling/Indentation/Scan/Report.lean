import Indentation.Histogram
import Indentation.Json.Record
import Indentation.Schema.File

/-!
# Scan reports

A report lists the files of a scan with their verdicts, in the order of their paths. Its summary is
computed from that list: how many files have which signature, and which known signature most files
have.

## Main statements

* `files_ofFindings_perm` — a report lists what was found, and nothing else
-/

namespace Indentation

open Json

/-- A file with the verdict on it. -/
structure Finding where
  /-- The path from the directory that was scanned. -/
  path : String
  signature : Signature
  deriving DecidableEq, Repr

/-- What a scan found. -/
structure Report where
  root : String
  files : List Finding
  deriving DecidableEq, Repr

namespace Report

/-- The report on what was found, put in the order of the paths. -/
def ofFindings (root : String) (findings : List Finding) : Report :=
  ⟨root, findings.mergeSort fun a b => a.path ≤ b.path⟩

/-- A report lists what was found, and nothing else. -/
theorem files_ofFindings_perm (root : String) (findings : List Finding) :
    (ofFindings root findings).files.Perm findings :=
  List.mergeSort_perm _ _

/-! ## The summary -/

/-- The files of each known signature, counted. -/
def votes (r : Report) : Histogram :=
  (r.files.map Finding.signature).foldl (fun h s => if s.isUnknown then h else h.vote s) []

/-- The signature that most files have, of those whose style is known. -/
def prevailing (r : Report) : Signature := r.votes.winner?.getD .unknown

/-- How often a written signature occurs. -/
def count (r : Report) (written : String) : Nat :=
  r.files.countP fun f => f.signature.toString == written

/-- The written signatures that occur, in their order, with how often they do. -/
def bySignature (r : Report) : List (String × Nat) :=
  let written := (r.files.map fun f => f.signature.toString).eraseDups
  (written.mergeSort fun a b => a ≤ b).map fun w => (w, r.count w)

/-- The number of files of unknown style. -/
def unknown (r : Report) : Nat := r.count Signature.unknown.toString

/-! ## The report as JSON -/

/-- A file and its verdict as an object. -/
def fileToJson (f : Finding) : Value :=
  .obj (("path", .str f.path) :: (f.signature.toJson.obj?.getD []))

/-- The summary as an object. -/
def summaryToJson (r : Report) : Value :=
  .obj [("files_scanned", .int r.files.length),
    ("by_signature", .obj (r.bySignature.map fun (w, n) => (w, .int n))),
    ("prevailing", .str r.prevailing.toString), ("unknown", .int r.unknown)]

/-- The report as an object. -/
def toJson (r : Report) : Value :=
  .obj [("schema_version", .str ReportSchema.version), ("root", .str r.root),
    ("files", .arr (r.files.map fileToJson)), ("summary", r.summaryToJson)]

end Report

end Indentation
