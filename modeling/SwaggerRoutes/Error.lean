/-
Why a run fails, and how that is said.
-/
import SwaggerRoutes.Api.Loading
import SwaggerRoutes.Config.Basic
import SwaggerRoutes.Document
import SwaggerRoutes.Files.Tree
import SwaggerRoutes.Web

namespace SwaggerRoutes

/-- The cause of a failure. -/
inductive Error
  /-- An operation on files failed. -/
  | files (fault : Files.Fault)
  /-- The file of a path holds no document. -/
  | unreadable (path : String)
  /-- What came back from a web address is no success. -/
  | refused (address : String) (status : Web.Status)
  /-- What came back from a web address holds no document. -/
  | unreadableReply (address : String)
  /-- A document has a faulty parameter. -/
  | specification (fault : Api.Fault)
  /-- Settings are refused. -/
  | config (fault : Config.Fault)
  /-- A file of settings is no YAML of the right shape. -/
  | yaml
  /-- A file of settings is no TOML of the right shape. -/
  | toml
  /-- A web address could not be fetched. -/
  | remote (fault : Web.Fault)
deriving DecidableEq, Repr

namespace Error

/-- What precedes the message of every fault of a document. -/
def documentLead : String := "OpenAPI error: "

/-- The message of a fault, with the operation in which it occurred. -/
def faultMessage (fault : Api.Fault) : String :=
  fault.method.name ++ " " ++ fault.path ++ ": " ++ documentLead ++ fault.cause.message

/-- The message of a failure. -/
def message : Error → String
  | .files fault => "I/O error: " ++ fault.message
  | .unreadable path =>
    documentLead ++ "Failed to parse Swagger spec at " ++ path ++ ": " ++ Document.unreadable
  | .refused address status =>
    documentLead ++ "Failed to fetch Swagger spec from " ++ address ++ ": HTTP " ++ status.text
  | .unreadableReply address =>
    documentLead ++ "Failed to parse Swagger spec from " ++ address ++ ": " ++ Document.unreadable
  | .specification fault => documentLead ++ faultMessage fault
  | .config fault => "Configuration error: " ++ fault.message
  | .yaml => "YAML parsing error: not a mapping of settings"
  | .toml => "TOML parsing error: not a table of settings"
  | .remote fault => "HTTP error: " ++ fault.message

/-- The message of the failure and of what lies below it, outermost first. -/
def chain (error : Error) : List String :=
  match error with
  | .files fault => [error.message, fault.message]
  | .remote fault => error.message :: fault.message :: fault.causes
  | _ => [error.message]

end Error

end SwaggerRoutes
