/-
What a run reports on its way.
-/
import SwaggerRoutes.Api.Loading
import SwaggerRoutes.Files.Path

namespace SwaggerRoutes

open SwaggerRoutes.Api SwaggerRoutes.Files

/-- One report. -/
inductive LogRecord
  | undeclaredVersion
  | loaded (location : String)
  | assembling (operations paths : Nat)
  | emitting (method : Method) (path id : String)
  | wrote (path : Path)
deriving DecidableEq, Repr

namespace LogRecord

def level : LogRecord → String
  | .undeclaredVersion => "WARN"
  | .emitting .. => "DEBUG"
  | .loaded _ | .assembling .. | .wrote _ => "INFO"

def message : LogRecord → String
  | .undeclaredVersion =>
    "Document does not declare \x60swagger: \"2.0\"\x60; reading it as Swagger 2.0"
  | .loaded location => "Loaded Swagger spec from " ++ location
  | .assembling operations paths =>
    "Assembling " ++ toString operations ++ " operations across " ++ toString paths ++ " paths"
  | .emitting method path id =>
    "Emitting " ++ method.name ++ " " ++ path ++ " (" ++ id ++ ")"
  | .wrote path => "Wrote " ++ path.text

/-- The report as one line. -/
def text (record : LogRecord) : String := record.level ++ " " ++ record.message

/-- The reports of the operations of a path, in order. -/
def ofPath (path : String) (item : PathItem) : List LogRecord :=
  item.operations.map fun (method, operation) => .emitting method path operation.id

/-- The reports of all operations of a specification, in order. -/
def ofSpecification (spec : Specification) : List LogRecord :=
  spec.paths.flatMap fun (path, item) => ofPath path item

/-- The reports of reading a specification out of a document. -/
def ofDocument (document : Json.Value) : List LogRecord :=
  if declaresVersion document then [] else [.undeclaredVersion]

end LogRecord

end SwaggerRoutes
