/-
The arguments of the command line. A command comes first; its options follow in any order, each at
most once, with the value in the next argument or after an equals sign.
-/
import SwaggerRoutes.Text.Pieces

namespace SwaggerRoutes.CommandLine

open SwaggerRoutes.Text

/-! ## Options -/

/-- The options of all commands. -/
inductive Flag
  | config | schemaPath | package | outputDir
deriving DecidableEq, Repr

namespace Flag

def all : List Flag := [.config, .schemaPath, .package, .outputDir]

def name : Flag → String
  | .config => "--config"
  | .schemaPath => "--schema-path"
  | .package => "--package"
  | .outputDir => "--output-dir"

def ofName? (text : String) : Option Flag := all.find? (·.name == text)

theorem ofName?_name (flag : Flag) : ofName? flag.name = some flag := by cases flag <;> decide

/-- Whether the value is a path, which must not be empty. -/
def takesPath : Flag → Bool
  | .config | .outputDir => true
  | .schemaPath | .package => false

end Flag

/-! ## Commands -/

/-- What the program can be told to do with a document. -/
inductive Command
  | generate | render | inspect
deriving DecidableEq, Repr

namespace Command

def all : List Command := [.generate, .render, .inspect]

def name : Command → String
  | .generate => "generate"
  | .render => "render"
  | .inspect => "inspect"

def ofName? (text : String) : Option Command := all.find? (·.name == text)

theorem ofName?_name (command : Command) : ofName? command.name = some command := by
  cases command <;> decide

/-- The options that a command takes. -/
def flags : Command → List Flag
  | .generate => [.config, .schemaPath, .package, .outputDir]
  | .render => [.config, .schemaPath, .package]
  | .inspect => [.schemaPath]

/-- The options that a command cannot do without. -/
def required : Command → List Flag
  | .inspect => [.schemaPath]
  | .generate | .render => []

end Command

/-- Options with their values, each at most once. -/
abbrev Values := List (Flag × String)

/-- What the arguments ask for. -/
inductive Request
  | run (command : Command) (values : Values)
  | help
  | version
deriving DecidableEq, Repr

/-! ## Reading -/

/-- Whether an argument cannot be the value of an option before it. -/
def looksLikeFlag (argument : String) : Bool :=
  argument.toList.head? == some '-' && argument != "-"

/-- An argument cut at its first equals sign. -/
def splitValue (argument : String) : String × Option String :=
  let chars := argument.toList
  let name := String.ofList (chars.takeWhile (· != '='))
  match chars.dropWhile (· != '=') with
  | _ :: value => (name, some (String.ofList value))
  | [] => (name, none)

/-- The values with one more, unless it is there already or the option does not accept it. -/
def addValue? (command : Command) (values : Values) (flag : Flag) (value : String) :
    Option Values :=
  if !command.flags.contains flag || values.any (·.1 == flag) || (flag.takesPath && value = "") then
    none
  else some (values ++ [(flag, value)])

/-- Whether an argument asks for help. What follows the letter does not count. -/
def asksHelp (argument : String) : Bool :=
  argument == "--help" || "-h".toList.isPrefixOf argument.toList

/-- Whether an argument asks for the version. -/
def asksVersion (argument : String) : Bool :=
  argument == "--version" || "-V".toList.isPrefixOf argument.toList

/-- The options after a command, `none` within if one of them asks for help. Two dashes alone end
the options; nothing may follow. -/
def values? (command : Command) (values : Values) : List String → Option (Option Values)
  | [] => some (some values)
  | "--" :: rest => if rest.isEmpty then some (some values) else none
  | argument :: rest =>
    if asksHelp argument then some none
    else match splitValue argument with
      | (name, some value) =>
        match Flag.ofName? name with
        | none => none
        | some flag =>
          match addValue? command values flag value with
          | none => none
          | some values => values? command values rest
      | (name, none) =>
        match Flag.ofName? name, rest with
        | some flag, value :: rest =>
          if looksLikeFlag value then none
          else match addValue? command values flag value with
            | none => none
            | some values => values? command values rest
        | _, _ => none

/-- A request whose options are complete. -/
def complete? (command : Command) (values : Values) : Option Request :=
  if command.required.all fun flag => values.any (·.1 == flag) then some (.run command values)
  else none

/-- What the arguments ask for; `none` if they are no proper use of the program. -/
def Request.parse? : List String → Option Request
  | [] => none
  | first :: rest =>
    if asksHelp first then some .help
    else if asksVersion first then some .version
    else if first = "help" then
      match rest with
      | [] => some .help
      | [name] => if name = "help" || (Command.ofName? name).isSome then some .help else none
      | _ => none
    else
      match Command.ofName? first with
      | none => none
      | some command =>
        match values? command [] rest with
        | none => none
        | some none => some .help
        | some (some values) => complete? command values

end SwaggerRoutes.CommandLine
