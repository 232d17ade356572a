/-
The calls that make up a statement. Each call says what it is about and adds at most one fragment:
an absent or empty value adds none.
-/
import SwaggerRoutes.Route.Statement

namespace SwaggerRoutes.Route

open SwaggerRoutes.Text

/-- One step in building a statement. -/
inductive Call
  /-- A flag, written as a bare truth value. -/
  | flag (method : String) (value : Option Bool)
  /-- A constant of a framework type; an empty name counts as absent. -/
  | constant (method : String) (type : HostType) (name : Option String)
  /-- A text inserted as it is, even if empty. -/
  | raw (method : String) (text : Option String)
  /-- A string; an empty one counts as absent. -/
  | string (method : String) (text : Option String)
  /-- A list of strings passed as one string with commas between. -/
  | joined (method : String) (values : List String)
  /-- A list of strings, each an argument of its own. -/
  | each (method : String) (values : List String)
  /-- A fragment without arguments. -/
  | plain (template : String)
  /-- Any fragment. -/
  | fragment (fragment : Fragment)
deriving DecidableEq, Repr

namespace Call

/-- A call of a method with one argument, on a line of its own. -/
def unary (method : String) (arg : Argument) : Fragment :=
  ⟨"\n." ++ method ++ "(" ++ slot ++ ")", [arg]⟩

/-- A string call, unless the string is absent or empty. -/
def stringFragments (method : String) : Option String → List Fragment
  | none => []
  | some text => if text = "" then [] else [unary method (.str text)]

/-- The fragments of a call: none or one. -/
def fragments : Call → List Fragment
  | .flag _ none => []
  | .flag method (some value) => [unary method (.literal (if value then "true" else "false"))]
  | .constant _ _ none => []
  | .constant method type (some name) =>
    if name = "" then [] else [unary method (.enumConstant type name)]
  | .raw _ none => []
  | .raw method (some text) => [unary method (.literal text)]
  | .string method text => stringFragments method text
  | .joined method values => stringFragments method (some (joinStrings "," values))
  | .each _ [] => []
  | .each method (value :: values) =>
    let slots := joinStrings "," ((value :: values).map fun _ => slot)
    [⟨"\n." ++ method ++ "(" ++ slots ++ ")", (value :: values).map .str⟩]
  | .plain template => [.plain template]
  | .fragment added => [added]

/-- A call adds at most one fragment. -/
theorem length_fragments_le (call : Call) : call.fragments.length ≤ 1 := by
  unfold fragments stringFragments
  repeat' split
  all_goals simp

end Call

/-- The statement that a list of calls builds. -/
def Statement.ofCalls (calls : List Call) : Statement := ⟨calls.flatMap Call.fragments⟩

/-- The fragments that further calls add come after the ones that are there. -/
theorem Statement.fragments_ofCalls_append (first second : List Call) :
    (Statement.ofCalls (first ++ second)).fragments =
      (Statement.ofCalls first).fragments ++ (Statement.ofCalls second).fragments := by
  simp [Statement.ofCalls]

end SwaggerRoutes.Route
