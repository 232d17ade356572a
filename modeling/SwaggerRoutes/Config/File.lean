/-
Settings in files: which format a file has by its name, how settings are written in each, and how
they are read back. In a file every setting may be missing; keys that are no setting are ignored.
-/
import SwaggerRoutes.Config.Basic
import SwaggerRoutes.Files.Path
import SwaggerRoutes.Toml.Table
import SwaggerRoutes.Toml.Written
import SwaggerRoutes.Yaml.Document
import SwaggerRoutes.Yaml.Written

namespace SwaggerRoutes.Config

open SwaggerRoutes.Files (Path)

/-! ## Formats -/

inductive Format
  | yaml | toml
deriving DecidableEq, Repr

/-- The format that the extension of a path stands for. -/
def Format.ofPath? (path : Path) : Option Format :=
  match path.extension? with
  | none => none
  | some extension =>
    if extension = "yaml" || extension = "yml" then some .yaml
    else if extension = "toml" then some .toml
    else none

/-! ## Settings one by one -/

/-- The settings. -/
inductive Key
  | schemaPath | outputDir | package
deriving DecidableEq, Repr

namespace Key

def all : List Key := [.schemaPath, .outputDir, .package]

def name : Key → String
  | .schemaPath => "schema_path"
  | .outputDir => "output_dir"
  | .package => "package"

def ofName? (text : String) : Option Key := all.find? (·.name == text)

theorem ofName?_name (key : Key) : ofName? key.name = some key := by cases key <;> decide

end Key

/-- The value of one setting. -/
def get (config : Config) : Key → String
  | .schemaPath => config.schemaPath
  | .outputDir => config.outputDir
  | .package => config.package

/-- Settings of which some may be missing. -/
structure Partial where
  schemaPath : Option String := none
  outputDir : Option String := none
  package : Option String := none
deriving DecidableEq, Repr

namespace Partial

def get (settings : Partial) : Key → Option String
  | .schemaPath => settings.schemaPath
  | .outputDir => settings.outputDir
  | .package => settings.package

def set (settings : Partial) (value : String) : Key → Partial
  | .schemaPath => { settings with schemaPath := some value }
  | .outputDir => { settings with outputDir := some value }
  | .package => { settings with package := some value }

/-- The settings with what is missing taken from others. -/
def orElse (settings : Partial) (others : Config) : Config where
  schemaPath := settings.schemaPath.getD others.schemaPath
  outputDir := settings.outputDir.getD others.outputDir
  package := settings.package.getD others.package

theorem get_set_self (settings : Partial) (value : String) (key : Key) :
    (settings.set value key).get key = some value := by
  cases key <;> rfl

theorem get_set_of_ne {key other : Key} (h : other ≠ key) (settings : Partial) (value : String) :
    (settings.set value key).get other = settings.get other := by
  cases key <;> cases other <;> first | rfl | exact absurd rfl h

/-- A setting that is there counts, and one that is missing is taken from the others. -/
theorem get_orElse (settings : Partial) (others : Config) (key : Key) :
    (settings.orElse others).get key = (settings.get key).getD (others.get key) := by
  cases key <;> rfl

end Partial

/-! ## Writing -/

/-- Settings as a YAML text. -/
def toYaml (config : Config) : String :=
  String.ofList (Key.all.flatMap fun key => Yaml.Written.entry key.name (config.get key))

/-- Settings as a TOML text. -/
def toToml (config : Config) : String :=
  String.ofList (Key.all.flatMap fun key => Toml.Written.entry key.name (config.get key))

def write (config : Config) : Format → String
  | .yaml => config.toYaml
  | .toml => config.toToml

/-! ## Reading -/

/-- The settings among the entries of a YAML mapping. The value of a setting is the text of a
scalar, whatever its tag and form; no setting may be given twice. -/
def ofEntries? (anchors : Yaml.Anchors) : List (Yaml.Node × Yaml.Node) → Nat → Partial →
    Option Partial
  | [], _, settings => some settings
  | (key, value) :: rest, left, settings => do
    let (name, left) ← Yaml.scalarText? anchors key left
    match Key.ofName? name with
    | none => ofEntries? anchors rest left settings
    | some key =>
      if (settings.get key).isSome then none
      else
        let (text, left) ← Yaml.scalarText? anchors value left
        ofEntries? anchors rest left (settings.set text key)

/-- The settings in a YAML text. Nothing at all is as good as an empty mapping. -/
def ofYaml? (text : String) : Option Partial := do
  match ← Yaml.Node.read? text with
  | none => return {}
  | some node =>
    match node.bare with
    | .mapping _ entries =>
      ofEntries? (Yaml.anchorsOf node) entries (Yaml.maxAliases node) {}
    | .scalar _ true "" => return {}
    | _ => none

/-- One setting in a TOML document, `none` within if it is missing. It must be a string. -/
def tomlString? (entries : Toml.Entries) (key : Key) : Option (Option String) :=
  match Toml.find? key.name entries with
  | none => some none
  | some (.string text) => some (some text)
  | some _ => none

/-- The settings in a TOML text. -/
def ofToml? (text : String) : Option Partial := do
  let entries ← Toml.read? text
  return {
    schemaPath := ← tomlString? entries .schemaPath
    outputDir := ← tomlString? entries .outputDir
    package := ← tomlString? entries .package }

def read? : Format → String → Option Partial
  | .yaml => ofYaml?
  | .toml => ofToml?

end SwaggerRoutes.Config
