/-
Reading a specification out of a Swagger document. Only parameters can be at fault: an entry whose
reference leads nowhere, or that is no object, or that does not say where it is carried. The first
faulty entry is reported, in the order of paths, verbs and entries. Whatever else is missing or of
the wrong type reads as absent.
-/
import SwaggerRoutes.Api.Basic
import SwaggerRoutes.Json.Pointer
import SwaggerRoutes.Json.Writer

namespace SwaggerRoutes.Api

open SwaggerRoutes.Json

/-! ## Faults -/

/-- What is wrong with an entry of a list of parameters. -/
inductive ParameterFault
  | unresolved (reference : String)
  | notObject
  | noLocation (name : String)
  | unknownLocation (name location : String)
deriving DecidableEq, Repr

/-- A fault and the operation in which it occurred. -/
structure Fault where
  method : Method
  path : String
  cause : ParameterFault
deriving DecidableEq, Repr

def ParameterFault.message : ParameterFault → String
  | .unresolved reference => "Unresolved reference '" ++ reference ++ "'"
  | .notObject => "Parameter is not an object"
  | .noLocation name => "Parameter '" ++ name ++ "' has no 'in' field"
  | .unknownLocation name location =>
    "Parameter '" ++ name ++ "' has unsupported location '" ++ location ++ "'"

/-! ## Fields -/

/-- The string under a name, if there is one. -/
def stringField? (name : String) (members : List (String × Value)) : Option String :=
  (find? name members).bind Value.string?

/-- The strings of the list under a name; other items are left out. -/
def stringList (name : String) (members : List (String × Value)) : List String :=
  (((find? name members).bind Value.array?).getD []).filterMap Value.string?

/-- A value as it stands in generated code: a string as its own text, any other in compact form. -/
def sourceText : Value → String
  | .string text => text
  | value => value.compactText

/-- The values of an enumeration; `null` is none of them. -/
def enumTexts (members : List (String × Value)) : List String :=
  let values := ((find? "enum" members).bind Value.array?).getD []
  (values.filter fun value => !value.isNull).map sourceText

/-- The default value; `null` is none. -/
def defaultText? (members : List (String × Value)) : Option String :=
  match find? "default" members with
  | none => none
  | some .null => none
  | some value => some (sourceText value)

/-! ## Parameters -/

/-- The value that an entry stands for: the one its reference names, or itself. -/
def resolve (document entry : Value) : Except ParameterFault Value :=
  match (entry.get? "$ref").bind Value.string? with
  | none => .ok entry
  | some reference =>
    match reference.toList with
    | '#' :: pointer =>
      match document.pointer? pointer with
      | some value => .ok value
      | none => .error (.unresolved reference)
    | _ => .error (.unresolved reference)

/-- How a parameter outside the body is written. -/
def serialization (members : List (String × Value)) : Serialization where
  dataType := stringField? "type" members
  defaultValue := defaultText? members
  allowableValues := enumTexts members
  collectionFormat := stringField? "collectionFormat" members
  items := ((find? "items" members).bind Value.object?).map fun items =>
    ⟨stringField? "type" items⟩

/-- The kind of a parameter follows from its location. -/
def kind (location : Location) (members : List (String × Value)) : Kind :=
  if location = .body then .body (find? "schema" members)
  else .serializable (serialization members)

/-- The parameter that a value describes. -/
def parameter (value : Value) : Except ParameterFault Parameter :=
  match value.object? with
  | none => .error .notObject
  | some members =>
    let name := (stringField? "name" members).getD ""
    match stringField? "in" members with
    | none => .error (.noLocation name)
    | some spelling =>
      match Location.ofName? spelling with
      | none => .error (.unknownLocation name spelling)
      | some location => .ok {
          name
          location
          required := (find? "required" members).bind Value.bool?
          description := stringField? "description" members
          kind := kind location members }

/-- The parameter of an entry, after its reference. -/
def entryParameter (document entry : Value) : Except ParameterFault Parameter :=
  resolve document entry >>= parameter

/-! ## Operations and paths -/

/-- The entries of the parameters of an operation. -/
def parameterEntries (members : List (String × Value)) : List Value :=
  ((find? "parameters" members).bind Value.array?).getD []

/-- The operation that an object describes. -/
def operation (document : Value) (members : List (String × Value)) :
    Except ParameterFault Operation := do
  let parameters ← (parameterEntries members).mapM (entryParameter document)
  return {
    id := (stringField? "operationId" members).getD ""
    description := stringField? "description" members
    consumes := stringList "consumes" members
    produces := stringList "produces" members
    parameters }

/-- The verbs that a path declares, with the objects under them, in the order of all verbs. -/
def declaredOperations (item : Value) : List (Method × List (String × Value)) :=
  Method.all.filterMap fun method =>
    ((item.get? method.name).bind Value.object?).map fun members => (method, members)

/-- The operations of a path. -/
def pathItem (document : Value) (path : String) (item : Value) : Except Fault PathItem := do
  let operations ← (declaredOperations item).mapM fun (method, members) =>
    match operation document members with
    | .ok operation => .ok (method, operation)
    | .error cause => .error { method, path, cause }
  return { operations }

/-- Whether a name is set aside for extensions. -/
def isExtension (name : String) : Bool := name.startsWith "x-"

/-- The paths that a document declares, in its order, extensions left out. -/
def declaredPaths (document : Value) : List (String × Value) :=
  (((document.get? "paths").bind Value.object?).getD []).filter fun path => !isExtension path.1

/-! ## Documents -/

/-- A field of the `info` object. -/
def infoField? (document : Value) (name : String) : Option String :=
  ((document.get? "info").bind (Value.get? name)).bind Value.string?

def title? (document : Value) : Option String := infoField? document "title"

def version? (document : Value) : Option String := infoField? document "version"

/-- Whether a document says that it is of version 2.0. -/
def declaresVersion (document : Value) : Bool :=
  (document.get? "swagger").bind Value.string? == some "2.0"

/-- The specification that a document describes. -/
def specification (document : Value) : Except Fault Specification := do
  let paths ← (declaredPaths document).mapM fun (path, item) => do
    return (path, ← pathItem document path item)
  return { title := (title? document).getD "", paths }

end SwaggerRoutes.Api
