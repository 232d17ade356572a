/-
What is read of a Swagger 2.0 document: paths with their operations, and operations with their
parameters. All lists keep the order in which the generated routes will stand.
-/
import SwaggerRoutes.Json.Value

namespace SwaggerRoutes.Api

/-! ## Methods -/

/-- The verbs that a path can declare. -/
inductive Method
  | get | put | post | delete | patch | head | options
deriving DecidableEq, Repr

namespace Method

/-- The verbs in the order in which the operations of one path are listed. -/
def all : List Method := [.get, .put, .post, .delete, .patch, .head, .options]

/-- The verb in lower case, as documents and route definitions spell it. -/
def name : Method → String
  | .get => "get"
  | .put => "put"
  | .post => "post"
  | .delete => "delete"
  | .patch => "patch"
  | .head => "head"
  | .options => "options"

def ofName? (text : String) : Option Method := all.find? (·.name == text)

/-- The place of a verb in the list of all. -/
def index (method : Method) : Nat := all.idxOf method

theorem mem_all (method : Method) : method ∈ all := by cases method <;> decide

theorem nodup_all : all.Nodup := by decide

theorem ofName?_name (method : Method) : ofName? method.name = some method := by
  cases method <;> decide

theorem name_inj {method method' : Method} (same : method.name = method'.name) : method = method' := by
  have names := congrArg ofName? same
  rwa [ofName?_name, ofName?_name, Option.some.injEq] at names

end Method

/-! ## Parameters -/

/-- Where a request carries a parameter. -/
inductive Location
  | query | header | path | body | formData
deriving DecidableEq, Repr

namespace Location

def all : List Location := [.query, .header, .path, .body, .formData]

/-- The spelling of documents, which is also that of the constants in route definitions. -/
def name : Location → String
  | .query => "query"
  | .header => "header"
  | .path => "path"
  | .body => "body"
  | .formData => "formData"

def ofName? (text : String) : Option Location := all.find? (·.name == text)

theorem ofName?_name (location : Location) : ofName? location.name = some location := by
  cases location <;> decide

end Location

/-- What an array parameter holds. -/
structure Items where
  dataType : Option String
deriving DecidableEq, Repr

/-- How a parameter outside the body is written. The default value and the allowed ones are texts:
a string stands for itself, any other value for its compact form. -/
structure Serialization where
  dataType : Option String := none
  defaultValue : Option String := none
  allowableValues : List String := []
  collectionFormat : Option String := none
  items : Option Items := none
deriving DecidableEq, Repr

/-- A parameter is either written as text or is the body, which a schema describes. -/
inductive Kind
  | serializable (serialization : Serialization)
  | body (schema : Option Json.Value)
deriving Repr

/-- A parameter of an operation. Whether it is required is `none` if the document does not say. -/
structure Parameter where
  name : String
  location : Location
  required : Option Bool
  description : Option String
  kind : Kind
deriving Repr

/-! ## Operations -/

/-- An operation; its id is empty if the document gives none. -/
structure Operation where
  id : String := ""
  description : Option String := none
  consumes : List String := []
  produces : List String := []
  parameters : List Parameter := []
deriving Repr

/-- The operations of one path. -/
structure PathItem where
  operations : List (Method × Operation) := []
deriving Repr

/-- A document as far as routes depend on it. -/
structure Specification where
  title : String := ""
  paths : List (String × PathItem) := []
deriving Repr

/-- The number of operations on all paths together. -/
def Specification.operationCount (spec : Specification) : Nat :=
  (spec.paths.map fun path => path.2.operations.length).foldl (· + ·) 0

end SwaggerRoutes.Api
