/-
Route definitions as the source of one Java class, and the place of its file. A statement stands
indented in the body of `configure`; its further lines are indented deeper, one call on a line.
-/
import SwaggerRoutes.Java.Literal
import SwaggerRoutes.Route.Statement

namespace SwaggerRoutes.Java

open SwaggerRoutes.Text SwaggerRoutes.Route

/-! ## Statements -/

/-- The source text of an argument. -/
def argument : Argument → String
  | .literal text => text
  | .str text => literal text
  | .enumConstant type constant => type.simpleName ++ "." ++ constant
  | .type type => type.simpleName

/-- What stands before a statement. -/
def statementIndent : String := "        "

/-- What stands before each further line of a statement. -/
def continuationIndent : String := "            "

/-- The text with the further lines of a statement indented. -/
def indentLines (text : List Char) : List Char :=
  replaceChar '\n' ('\n' :: continuationIndent.toList) text

/-- A statement in the body of `configure`, without the semicolon. -/
def statement (s : Statement) : String :=
  statementIndent ++ String.ofList (indentLines (s.render argument).toList)

/-! ## Imports -/

/-- Whether a class refers to a framework type. -/
def refersTo (artifact : Artifact) (type : HostType) : Bool :=
  artifact.statements.any fun s => s.arguments.any fun arg => arg.hostType? == some type

/-- The framework types that a class needs, in the order of their qualified names. -/
def importedTypes (artifact : Artifact) : List HostType :=
  HostType.all.filter fun type => type == .routeBuilder || refersTo artifact type

/-- The qualified names of the imports. -/
def imports (artifact : Artifact) : List String :=
  (importedTypes artifact).map HostType.qualifiedName

/-! ## The class -/

/-- The line that names the package, and an empty line; nothing for the default package. -/
def packageLines (package : String) : String :=
  if package = "" then "" else "package " ++ package ++ ";\n\n"

def importLine (name : String) : String := "import " ++ name ++ ";\n"

def statementLine (s : Statement) : String := statement s ++ ";\n"

/-- The line that opens the class. -/
def classLine (className : String) : String :=
  "public final class " ++ className ++ " extends RouteBuilder \x7b\n"

/-- The source of the class for a package. -/
def source (package : String) (artifact : Artifact) : String :=
  packageLines package
    ++ String.join ((imports artifact).map importLine)
    ++ "\n" ++ classLine artifact.className
    ++ "\n    public void configure() \x7b\n"
    ++ String.join (artifact.statements.map statementLine)
    ++ "    \x7d\n\x7d\n"

end SwaggerRoutes.Java
