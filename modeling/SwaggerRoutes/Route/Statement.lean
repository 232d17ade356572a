/-
Generated route definitions, before they are written in a language. A statement is a list of
fragments; a fragment is a template, in which every pair of braces is a slot, with the arguments
for its slots. Filling goes from left to right and never looks into what it has inserted.
-/
import SwaggerRoutes.Text.Blank
import SwaggerRoutes.Text.Pieces

namespace SwaggerRoutes.Route

open SwaggerRoutes.Text

/-! ## Types of the host framework -/

/-- The framework types that generated code refers to. -/
inductive HostType
  | routeBuilder | restDefinition | restParamType | collectionFormat
deriving DecidableEq, Repr

namespace HostType

/-- The types in the order of their qualified names. -/
def all : List HostType := [.routeBuilder, .collectionFormat, .restDefinition, .restParamType]

def simpleName : HostType → String
  | .routeBuilder => "RouteBuilder"
  | .restDefinition => "RestDefinition"
  | .restParamType => "RestParamType"
  | .collectionFormat => "CollectionFormat"

def package : HostType → String
  | .routeBuilder => "org.apache.camel.builder"
  | .restDefinition | .restParamType | .collectionFormat => "org.apache.camel.model.rest"

def qualifiedName (type : HostType) : String := type.package ++ "." ++ type.simpleName

def ofName? (text : String) : Option HostType := all.find? (·.simpleName == text)

theorem mem_all (type : HostType) : type ∈ all := by cases type <;> decide

theorem ofName?_simpleName (type : HostType) : ofName? type.simpleName = some type := by
  cases type <;> decide

end HostType

/-! ## Statements -/

/-- One argument of a fragment. -/
inductive Argument
  /-- Inserted as it is. -/
  | literal (text : String)
  /-- Written as a string literal. -/
  | str (text : String)
  /-- Written as a constant of a type. -/
  | enumConstant (type : HostType) (constant : String)
  /-- Written as the name of a type. -/
  | type (type : HostType)
deriving DecidableEq, Repr

/-- The framework type that an argument refers to. -/
def Argument.hostType? : Argument → Option HostType
  | .enumConstant host _ => some host
  | .type host => some host
  | .literal _ => none
  | .str _ => none

/-- A template and the arguments for its slots. -/
structure Fragment where
  template : String
  args : List Argument
deriving DecidableEq, Repr

/-- One chain of calls, such as the registration of one endpoint. -/
structure Statement where
  fragments : List Fragment := []
deriving DecidableEq, Repr

/-- Everything needed to write one class of routes. -/
structure Artifact where
  className : String := ""
  statements : List Statement := []
deriving DecidableEq, Repr

/-- The mark of a slot in a template. -/
def slot : String := "\x7b\x7d"

theorem toList_slot : slot.toList = ['\x7b', '\x7d'] := by decide

/-! ## Filling slots -/

/-- The template with each slot replaced by what `write` makes of the next argument. Slots without
an argument stay, arguments without a slot are not written. -/
def fillM [Monad m] (write : Argument → m String) :
    (template : List Char) → List Argument → m (List Char)
  | [], _ => pure []
  | '\x7b' :: '\x7d' :: rest, [] => do
    return '\x7b' :: '\x7d' :: (← fillM write rest [])
  | '\x7b' :: '\x7d' :: rest, arg :: args => do
    let text ← write arg
    return text.toList ++ (← fillM write rest args)
  | c :: rest, args => do
    return c :: (← fillM write rest args)

/-- How many slots a template has. -/
def slotCount : (template : List Char) → Nat
  | [] => 0
  | '\x7b' :: '\x7d' :: rest => slotCount rest + 1
  | _ :: rest => slotCount rest

namespace Fragment

/-- A fragment without arguments. -/
def plain (template : String) : Fragment := ⟨template, []⟩

/-- The text of a fragment, with a rendering of arguments that may have effects. -/
def renderM [Monad m] (write : Argument → m String) (fragment : Fragment) : m String := do
  return String.ofList (← fillM write fragment.template.toList fragment.args)

/-- The text of a fragment. -/
def render (write : Argument → String) (fragment : Fragment) : String :=
  fragment.renderM (m := Id) write

/-- Every slot has an argument and every argument a slot. -/
def Matched (fragment : Fragment) : Prop :=
  slotCount fragment.template.toList = fragment.args.length

instance (fragment : Fragment) : Decidable fragment.Matched := by
  unfold Matched; infer_instance

/-- The names of the methods that a template calls: what follows each point up to a parenthesis,
if it begins with a letter. -/
def methodNames (fragment : Fragment) : List String :=
  let calls := (pieces '.' fragment.template.toList).drop 1
  let names := calls.map fun call => trim (call.takeWhile (· != '('))
  (names.filter fun name => (name.head?.map isLetter).getD false).map String.ofList

end Fragment

namespace Statement

/-- The text of a statement, its fragments rendered in order. -/
def renderM [Monad m] (write : Argument → m String) (statement : Statement) : m String := do
  return String.join (← statement.fragments.mapM (Fragment.renderM write))

/-- The text of a statement. -/
def render (write : Argument → String) (statement : Statement) : String :=
  String.join (statement.fragments.map (Fragment.render write))

/-- All arguments, in order. -/
def arguments (statement : Statement) : List Argument := statement.fragments.flatMap (·.args)

/-- The names of the methods that a statement calls, in order. -/
def methodNames (statement : Statement) : List String :=
  statement.fragments.flatMap Fragment.methodNames

end Statement

end SwaggerRoutes.Route
