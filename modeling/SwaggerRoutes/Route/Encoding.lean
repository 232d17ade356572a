/-
Route definitions as JSON: what each kind of value is written as, and the reading of it back.
-/
import SwaggerRoutes.Json.Decoding
import SwaggerRoutes.Route.Statement

namespace SwaggerRoutes.Route

open SwaggerRoutes.Json

/-! ## Writing -/

/-- An alternative with content: its name under `kind`, the content under `value`. -/
def tagged (kind : String) (value : Value) : Value :=
  .object [("kind", .string kind), ("value", value)]

def Argument.toJson : Argument → Value
  | .literal text => tagged "literal" (.string text)
  | .str text => tagged "str" (.string text)
  | .enumConstant host constant =>
    tagged "enum_constant"
      (.object [("ty", .string host.simpleName), ("constant", .string constant)])
  | .type host => tagged "type" (.string host.simpleName)

def Fragment.toJson (fragment : Fragment) : Value :=
  .object [("template", .string fragment.template),
    ("args", .array (fragment.args.map Argument.toJson))]

def Statement.toJson (statement : Statement) : Value :=
  .object [("fragments", .array (statement.fragments.map Fragment.toJson))]

def Artifact.toJson (artifact : Artifact) : Value :=
  .object [("class_name", .string artifact.className),
    ("statements", .array (artifact.statements.map Statement.toJson))]

/-! ## Reading -/

def HostType.ofJson? (value : Value) : Option HostType := value.alternative?.bind HostType.ofName?

/-- The constant of a framework type. -/
def enumConstant? (value : Value) : Option Argument := do
  match ← value.fields? ["ty", "constant"] with
  | [some type, some constant] =>
    return .enumConstant (← HostType.ofJson? type) (← constant.string?)
  | _ => none

def Argument.ofJson? (value : Value) : Option Argument := do
  match ← value.fields? ["kind", "value"] with
  | [some kind, some content] =>
    let kind ← kind.alternative?
    if kind = "literal" then content.string?.map .literal
    else if kind = "str" then content.string?.map .str
    else if kind = "enum_constant" then enumConstant? content
    else if kind = "type" then (HostType.ofJson? content).map .type
    else none
  | _ => none

def Fragment.ofJson? (value : Value) : Option Fragment := do
  match ← value.fields? ["template", "args"] with
  | [some template, some args] =>
    return ⟨← template.string?, ← args.listOf? Argument.ofJson?⟩
  | _ => none

def Statement.ofJson? (value : Value) : Option Statement := do
  match ← value.fields? ["fragments"] with
  | [some fragments] => return ⟨← fragments.listOf? Fragment.ofJson?⟩
  | _ => none

def Artifact.ofJson? (value : Value) : Option Artifact := do
  match ← value.fields? ["class_name", "statements"] with
  | [some className, some statements] =>
    return ⟨← className.string?, ← statements.listOf? Statement.ofJson?⟩
  | _ => none

end SwaggerRoutes.Route
