import Indentation.CommandLine.Run

/-!
# The program

The outer layer of the program. It takes the files that a command is about into a file tree, runs
the command on that, prints what the run prints, and carries the changes over to the file system.

What cannot be read is left out of the tree, as if it were not there.
-/

namespace Indentation.CommandLine

/-- The paths that a command is about, each with whether everything below it counts. -/
def Command.paths : Command → List (Path × Bool)
  | .detect path _ _ _ => if path = "-" then [] else [(Path.ofString path, false)]
  | .scan root out _ _ =>
    (Path.ofString root, true) :: out.toList.map fun path => (Path.ofString path, false)
  | .validate report => [(Path.ofString report, false)]
  | .nothing => []

/-- The location of a directory or file in the file system. -/
def locationOf (path : String) : IO Location := do
  pure (Path.ofString (← IO.FS.realPath path).toString).parts

/-- Takes in what stands under a name in a directory. With `deep`, this includes all that is
below. -/
partial def capture (t : FileTree) (deep : Bool) (directory : Location) (name : String) :
    IO FileTree := do
  let here := directory ++ [name]
  try
    let path := (← IO.FS.realPath (FileTree.pathOf directory).toString) / name
    match (← path.symlinkMetadata).type with
    | .dir =>
      let mut t := t.add here .directory
      if deep then
        for entry in ← path.readDir do
          t ← capture t true here entry.fileName
      pure t
    | .file => pure (t.add here (.file (← IO.FS.readBinFile path).toList))
    | .symlink =>
      let target := (← IO.FS.realPath path).toString
      let l ← locationOf target
      capture (t.add here (.link target)) false l.dropLast (l.getLast?.getD "")
    | .other => pure t
  catch _ => pure t

/-- Takes in what a path leads to, and what stands on the way. -/
def capturePath (cwd : Location) (t : FileTree) (p : Path) (deep : Bool) : IO FileTree := do
  let start := if p.isAbsolute then "/" else (FileTree.pathOf cwd).toString
  let mut t := t
  let mut walked := start
  for name in p.parts do
    try
      if name ≠ ".." then t ← capture t false (← locationOf walked) name
    catch _ => pure ()
    walked := walked ++ "/" ++ name
  if deep then
    try
      let root ← locationOf walked
      for entry in ← (← IO.FS.realPath walked).readDir do
        t ← capture t true root entry.fileName
    catch _ => pure ()
  pure t

/-- Carries the changes from one state over to the file system. -/
def apply (old new : FileTree) : IO Unit := do
  for (l, e) in new.entries do
    if old.entry? l ≠ some e then
      let path := (FileTree.pathOf l).toString
      match e with
      | .directory => IO.FS.createDirAll path
      | .file bytes => IO.FS.writeBinFile path ⟨bytes.toArray⟩
      | .link _ => pure ()

/-- The variables of the environment that a run looks at. -/
def environment : IO Environment := do
  match ← IO.getEnv ScanConfig.sizeLimitVariable with
  | some text => pure [(ScanConfig.sizeLimitVariable, text)]
  | none => pure []

/-- The bytes of a stream up to its end. -/
partial def readAll (s : IO.FS.Stream) (seen : ByteArray) : IO ByteArray := do
  let more ← s.read 65536
  if more.isEmpty then pure seen else readAll s (seen ++ more)

/-- The standard input, if the command reads it. -/
def standardInput : Command → IO (List Char)
  | .detect "-" _ _ _ => do
    let bytes ← readAll (← IO.getStdin) .empty
    pure (Text.Utf8.decode bytes.toList)
  | _ => pure []

/-- The files and the standard input that a command is about. -/
def gather (cwd : Location) (command : Command) : IO (FileTree × List Char) := do
  let mut t := ({} : FileTree).add cwd .directory
  for (path, deep) in command.paths do
    t ← capturePath cwd t path deep
  pure (t, ← standardInput command)

/-- Prints what a run prints, and gives its exit status as a number. -/
def report (o : Outcome) : IO UInt32 := do
  let stdout ← IO.getStdout
  let stderr ← IO.getStderr
  stdout.putStr (String.ofList o.stdout)
  stderr.putStr (String.ofList o.stderr)
  match o.ending with
  | .exit s => pure (UInt32.ofNat s.code)
  | .stopped s => pure (UInt32.ofNat s.code)
  | .failed f =>
    stderr.putStrLn f.message
    pure 1

end Indentation.CommandLine

open Indentation CommandLine in
/-- Runs the program with the words of the command line. -/
def main (words : List String) : IO UInt32 := do
  let cwd ← locationOf "."
  let (tree, stdin) ← match Command.read words with
    | .ok command => gather cwd command
    | .error _ => pure ({}, [])
  let outcome := run { words, stdin, env := ← environment, tree, cwd }
  apply tree outcome.tree
  report outcome
