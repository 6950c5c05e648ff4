import Indentation.FileTree.Basic
import Indentation.Json.Reader
import Indentation.Schema.Basic
import Indentation.Text.Utf8

/-!
# The schema of reports

Reports are exchanged as JSON documents, and this is the schema that they satisfy. The schema is
itself a JSON document. It is kept, with the directory that it stands in, as a small file tree.
-/

namespace Indentation.ReportSchema

open Json

/-- The version that a report names. -/
def version : String := "indent_report_v1"

/-- The file name of the schema. -/
def fileName : String := "indent_report.schema.json"

/-- A written signature. -/
def signature : Schema := [.type .string, .pattern .signature]

/-- The finding on one file. -/
def fileEntry : Schema :=
  [.type .object, .closed, .required ["path", "signature", "style", "width"],
    .properties [("path", [.type .string, .minLength 1]),
      ("signature", [.ref "signature" signature]),
      ("style", [.enum (Style.all.map Style.name)]),
      ("width", [.type .integer, .minimum 0])]]

/-- The counts over all files. -/
def summary : Schema :=
  [.type .object, .closed, .required ["files_scanned", "by_signature", "prevailing", "unknown"],
    .properties [("files_scanned", [.type .integer, .minimum 0]),
      ("by_signature", [.type .object, .propertyNames [.ref "signature" signature],
        .additional [.type .integer, .minimum 1]]),
      ("prevailing", [.ref "signature" signature]),
      ("unknown", [.type .integer, .minimum 0])]]

/-- A report. -/
def schema : Schema :=
  [.type .object, .closed, .required ["schema_version", "root", "files", "summary"],
    .properties [("schema_version", [.const version]), ("root", [.type .string]),
      ("files", [.type .array, .items [.ref "file_entry" fileEntry]]), ("summary", summary)]]

/-! ## The schema as a document -/

mutual

/-- A demand as members of a JSON object. -/
def keywordToJson : Keyword → Members
  | .type k => [("type", .str k.name)]
  | .const s => [("const", .str s)]
  | .enum options => [("enum", .arr (options.map .str))]
  | .minimum n => [("minimum", .int n)]
  | .minLength n => [("minLength", .int n)]
  | .pattern p => [("pattern", .str p.text)]
  | .required keys => [("required", .arr (keys.map .str))]
  | .closed => [("additionalProperties", .bool false)]
  | .additional s => [("additionalProperties", .obj (keywordsToJson s))]
  | .properties ps => [("properties", .obj (propertiesToJson ps))]
  | .items s => [("items", .obj (keywordsToJson s))]
  | .propertyNames s => [("propertyNames", .obj (keywordsToJson s))]
  | .ref name _ => [("$ref", .str ("#/$defs/" ++ name))]

/-- Demands as members of a JSON object. -/
def keywordsToJson : List Keyword → Members
  | [] => []
  | k :: ks => keywordToJson k ++ keywordsToJson ks

/-- Schemas for members as members of a JSON object. -/
def propertiesToJson : List (String × List Keyword) → Members
  | [] => []
  | (k, s) :: ps => (k, .obj (keywordsToJson s)) :: propertiesToJson ps

end

/-- The document that holds the schema. -/
def document : Value :=
  let head : Members :=
    [("$schema", .str "https://json-schema.org/draft/2020-12/schema"), ("$id", .str fileName),
      ("title", .str "Indentation scan report")]
  let definitions : Members :=
    [("signature", .obj (keywordsToJson signature)),
     ("file_entry", .obj (keywordsToJson fileEntry))]
  .obj (head ++ keywordsToJson schema ++ [("$defs", .obj definitions)])

/-- The directory of the schemas. -/
def directory : Location := ["data", "schemas"]

/-- The file tree of the schemas. -/
def tree : FileTree :=
  ({} : FileTree).add (directory ++ [fileName])
    (.file (Text.Utf8.encode (Json.print (.tree 2) document)))

/-- Why a schema is not loaded. -/
inductive LoadError where
  | path (e : PathError)
  | json (e : ReadError)

/-- Loads the schema of a given name, which is a path from the directory of the schemas. -/
def load (name : String) : Except LoadError Value :=
  match tree.read directory (Path.ofString name) with
  | .error e => .error (.path e)
  | .ok bytes => (Json.read (Text.Utf8.decode bytes)).mapError .json

end Indentation.ReportSchema
