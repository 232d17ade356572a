/-
From a specification to its route definitions: one statement that declares the root of all routes,
then one statement for every operation, in the order of the specification. Nothing here can fail;
absent and empty fields are left out.
-/
import SwaggerRoutes.Api.Basic
import SwaggerRoutes.Route.Call
import SwaggerRoutes.Text.Identifier

namespace SwaggerRoutes.Route

open SwaggerRoutes.Api

/-! ## Parameters -/

/-- The data type that lets the type of the items be given. -/
def arrayType : String := "array"

/-- The calls for how a parameter is written. -/
def serializationCalls (s : Serialization) : List Call :=
  [.string "dataType" s.dataType,
   .each "allowableValues" s.allowableValues,
   .constant "collectionFormat" .collectionFormat s.collectionFormat,
   .raw "defaultValue" s.defaultValue,
   .string "arrayType"
    (if s.dataType = some arrayType then s.items.bind (·.dataType) else none)]

/-- The calls for the kind of a parameter; a body has none. -/
def kindCalls : Kind → List Call
  | .serializable serialization => serializationCalls serialization
  | .body _ => []

/-- The block of calls that defines one parameter. -/
def parameterCalls (parameter : Parameter) : List Call :=
  [.plain "\n.param()",
   .string "name" (some parameter.name),
   .constant "type" .restParamType (some parameter.location.name)]
  ++ kindCalls parameter.kind ++
  [.flag "required" parameter.required,
   .string "description" parameter.description,
   .plain "\n.endParam()"]

/-! ## Operations -/

/-- How the processor is called that a route hands its exchanges to. -/
abbrev Naming := Operation → String

/-- The operation id, even if it is empty. -/
def Naming.operationId : Naming := fun operation => operation.id

/-- The operation id with a text before and a text after it. -/
def Naming.affixed (before after : String) : Naming :=
  fun operation => before ++ operation.id ++ after

/-- The calls of one endpoint: verb and path, what describes the operation, its parameters, and
the processor last. -/
def operationCalls (naming : Naming) (path : String) (method : Method) (operation : Operation) :
    List Call :=
  [.fragment ⟨"rest." ++ slot ++ "(" ++ slot ++ ")", [.literal method.name, .str path]⟩,
   .string "id" (some operation.id),
   .string "description" operation.description,
   .joined "consumes" operation.consumes,
   .joined "produces" operation.produces]
  ++ operation.parameters.flatMap parameterCalls ++
  [.fragment ⟨".route().process(" ++ slot ++ ")", [.str (naming operation)]⟩]

/-- The statement of one operation. -/
def operationStatement (naming : Naming) (path : String) (method : Method)
    (operation : Operation) : Statement :=
  .ofCalls (operationCalls naming path method operation)

/-- The statements of one path, in the order of its operations. -/
def pathStatements (naming : Naming) (path : String) (item : PathItem) : List Statement :=
  item.operations.map fun (method, operation) => operationStatement naming path method operation

/-! ## The whole -/

/-- The declaration of the root of all routes. -/
def bootstrap : Statement :=
  ⟨[⟨"final " ++ slot ++ " rest = rest()", [.type .restDefinition]⟩]⟩

/-- The name of the generated class: the title without the characters that no identifier may hold.
It may be empty or begin with a digit. -/
def className (title : String) : String := String.ofList (Text.identifierText title.toList)

/-- The route definitions of a specification. -/
def assemble (naming : Naming) (spec : Specification) : Artifact where
  className := className spec.title
  statements := bootstrap :: spec.paths.flatMap fun (path, item) => pathStatements naming path item

end SwaggerRoutes.Route
