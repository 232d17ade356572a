/-
Running the program: its output, its exit status, and the report of a failure.
-/
import SwaggerRoutes.CommandLine.Arguments
import SwaggerRoutes.Generate
import SwaggerRoutes.Json.Writer
import SwaggerRoutes.Route.Encoding

namespace SwaggerRoutes.CommandLine

open SwaggerRoutes.Files SwaggerRoutes.Route

/-! ## Texts -/

def versionText : String := "camelgen 0.1.0\n"

def helpText : String :=
  "CLI for generating Camel REST DSL route builders from Swagger specs\n\n"
  ++ "Usage: camelgen <COMMAND>\n\n"
  ++ "Commands:\n"
  ++ "  generate  Generate a Camel RouteBuilder from a Swagger spec and write it to disk\n"
  ++ "  render    Print the generated Java source to stdout\n"
  ++ "  inspect   Print the intermediate route statements as JSON\n"
  ++ "  help      Print this message or the help of the given subcommand(s)\n\n"
  ++ "Options:\n"
  ++ "  -h, --help     Print help\n"
  ++ "  -V, --version  Print version\n"

def usageText : String := "Usage: camelgen <COMMAND>\n"

/-! ## Failures -/

/-- A failure and what was being done when it occurred. -/
structure Failure where
  context : String
  cause : Error
deriving DecidableEq, Repr

/-- A message whose further lines are indented by a number of spaces. -/
def indentFurther (width : Nat) (message : String) : List Char :=
  Text.replaceChar '\n' ('\n' :: List.replicate width ' ') message.toList

/-- The causes with their numbers, a line each. -/
def numberedCauses (first : Nat) : List String → List Char
  | [] => []
  | message :: rest =>
    let number := (toString first).toList
    List.replicate (5 - number.length) ' ' ++ number ++ ": ".toList ++ indentFurther 7 message
      ++ '\n' :: numberedCauses (first + 1) rest

/-- The causes of a failure: a single one without a number. -/
def causeLines : List String → List Char
  | [message] => "    ".toList ++ indentFurther 4 message ++ ['\n']
  | messages => numberedCauses 0 messages

/-- The report of a failure. -/
def Failure.report (failure : Failure) : String :=
  "Error: " ++ failure.context ++ "\n\nCaused by:\n"
    ++ String.ofList (causeLines failure.cause.chain)

/-! ## Commands -/

/-- The value given to an option. -/
def valueOf? (values : Values) (flag : Flag) : Option String := values.lookup flag

/-- The settings given by options. -/
def flagSettings (values : Values) : Config.Partial where
  schemaPath := valueOf? values .schemaPath
  outputDir := valueOf? values .outputDir
  package := valueOf? values .package

variable {m : Type → Type} [Monad m] [MonadExceptOf Error m] [Host m]

/-- An action, or the failure that it ended in. -/
def attempt (context : String) (action : m α) : ExceptT Failure m α :=
  ExceptT.mk (tryCatchThe Error (do return .ok (← action))
    fun cause => return .error { context, cause })

/-- The settings of a run: options first, then the file that an option names, then defaults. -/
def resolve (values : Values) : ExceptT Failure m Config := do
  let below : Config ←
    match valueOf? values .config with
    | some path => attempt ("Failed to load config " ++ path) (loadConfig ⟨path⟩)
    | none => pure {}
  let config := (flagSettings values).orElse below
  attempt "Invalid configuration" (check config)
  return config

/-- What a command prints. -/
def output (values : Values) : Command → ExceptT Failure m String
  | .generate => do
    let config ← resolve values
    let path ← attempt ("Failed to generate routes from " ++ config.schemaPath) (generate config)
    return "Successfully generated route builder: " ++ path.text ++ "\n"
  | .render => do
    let config ← resolve values
    attempt ("Failed to render routes from " ++ config.schemaPath) (render config)
  | .inspect => do
    let location := (valueOf? values .schemaPath).getD ""
    let document ← attempt ("Failed to load Swagger spec from " ++ location) (loadDocument location)
    let spec ← attempt "Failed to read Swagger spec" (readSpecification document)
    return (assemble Naming.operationId spec).toJson.indentedText ++ "\n"

/-! ## The program -/

/-- How a run ends. -/
structure Outcome where
  exitCode : Nat
  stdout : String := ""
  stderr : String := ""
deriving DecidableEq, Repr

/-- Runs the program. -/
def run (arguments : List String) : m Outcome :=
  match Request.parse? arguments with
  | none => return { exitCode := 2, stderr := usageText }
  | some .help => return { exitCode := 0, stdout := helpText }
  | some .version => return { exitCode := 0, stdout := versionText }
  | some (.run command values) => do
    match ← (output values command).run with
    | .ok stdout => return { exitCode := 0, stdout }
    | .error failure => return { exitCode := 1, stderr := failure.report }

end SwaggerRoutes.CommandLine
