import Indentation.Detect
import Indentation.FileTree.Basic
import Indentation.Text.Encoding

/-!
# Detection in files

A file is read in the encoding that is asked for. Bytes that stand for nothing in that encoding are
replaced, and line ends of all kinds become line feeds.
-/

namespace Indentation

/-- Why there is no verdict on a file. -/
inductive DetectFileError where
  | noSuchFile (path : Path)
  | encoding (name : String) (fault : Text.Encoding.NameFault)
  | overlong (e : OverlongNumeral)
  deriving DecidableEq, Repr

/-- The message for a file without verdict. -/
def DetectFileError.message : DetectFileError → String
  | noSuchFile path => s!"detect_file: no such file: {path.toString}"
  | encoding name fault => fault.message name
  | overlong e => e.message

/-- Detects the indentation of a file. -/
def detectFile (skipDocs : Bool) (encoding : String) (t : FileTree) (cwd : Location) (path : Path) :
    Except DetectFileError Signature :=
  match t.read cwd path with
  | .error _ => .error (.noSuchFile path)
  | .ok bytes =>
    match Text.Encoding.ofName encoding with
    | .error fault => .error (.encoding encoding fault)
    | .ok encoding =>
      (detect skipDocs (Text.unifyLineEnds (encoding.decode bytes))).mapError .overlong

end Indentation
