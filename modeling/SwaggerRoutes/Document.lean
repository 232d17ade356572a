/-
Reading a document from a text in either of two formats. JSON is tried first; what is no JSON may
be YAML.
-/
import SwaggerRoutes.Json.Reader
import SwaggerRoutes.Yaml.Document

namespace SwaggerRoutes.Document

/-- The document that a text holds. -/
def read? (text : String) : Option Json.Value :=
  match Json.read? text with
  | some value => some value
  | none => Yaml.readDocument? text

/-- What is said of a text in neither format. -/
def unreadable : String := "content is neither valid JSON nor YAML"

end SwaggerRoutes.Document
