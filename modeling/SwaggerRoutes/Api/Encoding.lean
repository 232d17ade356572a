/-
Specifications as JSON: what each part is written as, and the reading of it back.
-/
import SwaggerRoutes.Api.Basic
import SwaggerRoutes.Json.Decoding

namespace SwaggerRoutes.Api

open SwaggerRoutes.Json

/-! ## Writing -/

def Items.toJson (items : Items) : Value :=
  .object [("data_type", .ofString? items.dataType)]

def Kind.toJson : Kind → Value
  | .serializable s =>
    .object [("kind", .string "serializable"),
      ("data_type", .ofString? s.dataType),
      ("default_value", .ofString? s.defaultValue),
      ("allowable_values", .ofStrings s.allowableValues),
      ("collection_format", .ofString? s.collectionFormat),
      ("items", (s.items.map Items.toJson).getD .null)]
  | .body schema => .object [("kind", .string "body"), ("schema", schema.getD .null)]

def Parameter.toJson (p : Parameter) : Value :=
  .object [("name", .string p.name),
    ("location", .string p.location.name),
    ("required", .ofBool? p.required),
    ("description", .ofString? p.description),
    ("kind", p.kind.toJson)]

def Operation.toJson (o : Operation) : Value :=
  .object [("id", .string o.id),
    ("description", .ofString? o.description),
    ("consumes", .ofStrings o.consumes),
    ("produces", .ofStrings o.produces),
    ("parameters", .array (o.parameters.map Parameter.toJson))]

def PathItem.toJson (item : PathItem) : Value :=
  .object [("operations", .array (item.operations.map fun (method, operation) =>
    .ofPair (.string method.name) operation.toJson))]

def Specification.toJson (spec : Specification) : Value :=
  .object [("title", .string spec.title),
    ("paths", .array (spec.paths.map fun (path, item) => .ofPair (.string path) item.toJson))]

/-! ## Reading -/

def Method.ofJson? (value : Value) : Option Method := value.alternative?.bind Method.ofName?

def Location.ofJson? (value : Value) : Option Location := value.alternative?.bind Location.ofName?

def Items.ofJson? (value : Value) : Option Items := do
  match ← value.fields? ["data_type"] with
  | [dataType] => return ⟨← Value.optionOf? Value.string? dataType⟩
  | _ => none

def Serialization.ofJson? (value : Value) : Option Serialization := do
  let names := ["data_type", "default_value", "allowable_values", "collection_format", "items"]
  match ← value.fields? names with
  | [dataType, defaultValue, some allowableValues, collectionFormat, items] =>
    return {
      dataType := ← Value.optionOf? Value.string? dataType
      defaultValue := ← Value.optionOf? Value.string? defaultValue
      allowableValues := ← allowableValues.listOf? Value.string?
      collectionFormat := ← Value.optionOf? Value.string? collectionFormat
      items := ← Value.optionOf? Items.ofJson? items }
  | _ => none

/-- The schema of a body parameter. -/
def schema? (value : Value) : Option (Option Value) := do
  match ← value.fields? ["schema"] with
  | [schema] => Value.optionOf? some schema
  | _ => none

/-- The name of the kind of a parameter, and the value that holds the rest: the same object, or an
array without its first item. -/
def kindName? : Value → Option (String × Value)
  | .object members =>
    match find? "kind" members with
    | some (.string kind) => some (kind, .object members)
    | _ => none
  | .array (.string kind :: rest) => some (kind, .array rest)
  | _ => none

def Kind.ofJson? (value : Value) : Option Kind := do
  let (kind, content) ← kindName? value
  if kind = "serializable" then (Serialization.ofJson? content).map .serializable
  else if kind = "body" then (schema? content).map .body
  else none

def Parameter.ofJson? (value : Value) : Option Parameter := do
  match ← value.fields? ["name", "location", "required", "description", "kind"] with
  | [some name, some location, required, description, some kind] =>
    return {
      name := ← name.string?
      location := ← Location.ofJson? location
      required := ← Value.optionOf? Value.bool? required
      description := ← Value.optionOf? Value.string? description
      kind := ← Kind.ofJson? kind }
  | _ => none

def Operation.ofJson? (value : Value) : Option Operation := do
  match ← value.fields? ["id", "description", "consumes", "produces", "parameters"] with
  | [some id, description, some consumes, some produces, some parameters] =>
    return {
      id := ← id.string?
      description := ← Value.optionOf? Value.string? description
      consumes := ← consumes.listOf? Value.string?
      produces := ← produces.listOf? Value.string?
      parameters := ← parameters.listOf? Parameter.ofJson? }
  | _ => none

/-- A pair written as an array of two. -/
def pair? {α β : Type} (first? : Value → Option α) (second? : Value → Option β) :
    Value → Option (α × β)
  | .array [first, second] => do return (← first? first, ← second? second)
  | _ => none

def PathItem.ofJson? (value : Value) : Option PathItem := do
  match ← value.fields? ["operations"] with
  | [some operations] =>
    return ⟨← operations.listOf? (pair? Method.ofJson? Operation.ofJson?)⟩
  | _ => none

def Specification.ofJson? (value : Value) : Option Specification := do
  match ← value.fields? ["title", "paths"] with
  | [some title, some paths] =>
    return ⟨← title.string?, ← paths.listOf? (pair? Value.string? PathItem.ofJson?)⟩
  | _ => none

end SwaggerRoutes.Api
