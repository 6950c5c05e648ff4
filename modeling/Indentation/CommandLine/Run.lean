import Indentation.CommandLine.Command
import Indentation.Detect.File
import Indentation.ExitStatus
import Indentation.Json.Printer
import Indentation.Scan.Run
import Indentation.Version

/-!
# Runs

A run of the program takes the words of a command line, the standard input, the environment and the
files, and gives what is printed, the files afterwards and how the run ends. It does nothing else,
so that a run is a function.

## Main statements

* `run_of_stop` — a command line that is refused leaves the files alone
* `tree_validate` — so does a validation
-/

namespace Indentation.CommandLine

/-- What a run takes. -/
structure Input where
  words : List String
  stdin : List Char := []
  env : Environment := []
  tree : FileTree := {}
  cwd : Location := []

/-- Why a run breaks off. -/
inductive Failure where
  | overlong (e : OverlongNumeral)
  | path (e : PathError)
  | scan (e : ScanError)

/-- The message for a run that breaks off. -/
def Failure.message : Failure → String
  | overlong e => e.message
  | path e => e.message
  | scan e => e.message

/-- How a run ends. -/
inductive Ending where
  | exit (s : ExitStatus)
  /-- The command line held no command to carry out. -/
  | stopped (s : ExitStatus)
  | failed (f : Failure)

/-- What a run gives. -/
structure Outcome where
  ending : Ending
  stdout : List Char := []
  stderr : List Char := []
  tree : FileTree

/-- A text as a line. -/
def line (s : String) : List Char := s.toList ++ ['\n']

/-- The end of a run that answers on the standard output. -/
def Outcome.print (t : FileTree) (s : ExitStatus) (out : List Char) : Outcome :=
  { ending := .exit s, stdout := out, tree := t }

/-- The end of a run that complains on the standard error output. -/
def Outcome.complain (t : FileTree) (s : ExitStatus) (message : String) : Outcome :=
  { ending := .exit s, stderr := line message, tree := t }

/-- The end of a run that breaks off. -/
def Outcome.fail (t : FileTree) (f : Failure) : Outcome := { ending := .failed f, tree := t }

/-! ## Detection -/

/-- The verdict on the standard input or on a file. -/
def verdict (i : Input) (path : String) (skipDocs : Bool) : Except DetectFileError Signature :=
  if path = "-" then (detect skipDocs i.stdin).mapError .overlong
  else detectFile skipDocs "utf-8" i.tree i.cwd (Path.ofString path)

/-- The text of a verdict. -/
def verdictText (json : Bool) (s : Signature) : List Char :=
  if json then Json.print (.tree 2) s.toJson else line s.toString

/-- Prints the verdict, and compares it with the expected one if there is one. -/
def answer (t : FileTree) (json : Bool) (expected : Option Signature) (s : Signature) : Outcome :=
  let out := Outcome.print t .success (verdictText json s)
  match expected with
  | none => out
  | some e =>
    if s = e then out
    else
      { out with
        ending := .exit .violation
        stderr := line s!"mismatch: expected {e.toString}, detected {s.toString}" }

/-- Carries out a detection. The expected verdict is read before the file. -/
def runDetect (i : Input) (path : String) (json : Bool) (expected : Option String)
    (skipDocs : Bool) : Outcome :=
  match expected.mapM fun e => Signature.parse e.toList with
  | .error e => .complain i.tree .error s!"error: --expect: {e.message}"
  | .ok expected =>
    match verdict i path skipDocs with
    | .error (.overlong e) => .fail i.tree (.overlong e)
    | .error e => .complain i.tree .error s!"error: {e.message}"
    | .ok s => answer i.tree json expected s

/-! ## Scans -/

/-- The line that sums up a report. -/
def summaryLine (r : Report) : String :=
  s!"{r.files.length} files, prevailing style {r.prevailing.toString}, {r.unknown} undetermined"

/-- The files with a report at a path. Directories that are missing are made. -/
def store (i : Input) (path : Path) (text : List Char) : FileTree × Option PathError :=
  match i.tree.ensureDirectories i.cwd path.parent path.parts.length with
  | .error e => (i.tree, some e)
  | .ok t =>
    match t.write i.cwd path (Text.Utf8.encode text) with
    | .error e => (t, some e)
    | .ok t => (t, none)

/-- Puts a report out: to the standard output, or to a file with a summary on the standard error
output. -/
def publish (i : Input) (out : Option String) (s : ExitStatus) (r : Report) : Outcome :=
  let text := Json.print (.tree 2) r.toJson
  match out with
  | none => .print i.tree s text
  | some path =>
    match store i (Path.ofString path) text with
    | (t, some e) => .fail t (.path e)
    | (t, none) => .complain t s (summaryLine r)

/-- Carries out a scan. With `strict`, a file whose style cannot be told is a violation. -/
def runScan (i : Input) (root : String) (out : Option String) (strict skipDocs : Bool) : Outcome :=
  match Scan.run { root := Path.ofString root, skipDocs } i.tree i.cwd i.env with
  | .error (.linkLoop p) => .fail i.tree (.scan (.linkLoop p))
  | .error (.invalid v) => .fail i.tree (.scan (.invalid v))
  | .error e => .complain i.tree .error s!"error: {e.message}"
  | .ok r => publish i out (if strict && r.unknown != 0 then .violation else .success) r

/-! ## Validation -/

/-- Whether a file cannot be read, so that nothing can be said about what it holds. -/
def isUnreadable : ReportSchema.FileError → Bool
  | .path e => e.fault != .embeddedNul
  | _ => false

/-- Carries out a validation. -/
def runValidate (i : Input) (report : String) : Outcome :=
  match ReportSchema.checkFile i.tree i.cwd (Path.ofString report) with
  | .ok _ => .print i.tree .success (line "OK")
  | .error e =>
    if isUnreadable e then .complain i.tree .error s!"ERROR: {e.message}"
    else .complain i.tree .violation s!"FAIL: {e.message}"

/-! ## Whole runs -/

/-- Carries out a command. -/
def execute (i : Input) : Command → Outcome
  | .detect path json expected skipDocs => runDetect i path json expected skipDocs
  | .scan root out strict skipDocs => runScan i root out strict skipDocs
  | .validate report => runValidate i report
  | .nothing => .complain i.tree .error "error: please provide a file or use a subcommand."

/-- The end of a run whose command line held no command. -/
def stop (t : FileTree) (s : Stop) : Outcome :=
  match s.why with
  | .help => { ending := .stopped .success, tree := t }
  | .version => { ending := .stopped .success, stdout := line s!"{s.program} {version}", tree := t }
  | .usage e =>
    { ending := .stopped .error, stderr := line s!"{s.program}: error: {e.message}", tree := t }

/-- Runs the program. -/
def run (i : Input) : Outcome :=
  match Command.read i.words with
  | .error s => stop i.tree s
  | .ok command => execute i command

/-- A command line that is refused leaves the files alone. -/
theorem run_of_stop {i : Input} {s : Stop} (h : Command.read i.words = .error s) :
    (run i).tree = i.tree := by
  simp only [run, h, stop]
  split <;> rfl

/-- A validation leaves the files alone. -/
theorem tree_validate (i : Input) (report : String) : (runValidate i report).tree = i.tree := by
  unfold runValidate
  split
  · rfl
  · split <;> rfl

end Indentation.CommandLine
