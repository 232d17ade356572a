/-
From settings to a generated class: the document is loaded, its routes are assembled, and the class
is written below the output directory.
-/
import SwaggerRoutes.Config.File
import SwaggerRoutes.Host
import SwaggerRoutes.Java.Source
import SwaggerRoutes.Route.Assembly

namespace SwaggerRoutes

open SwaggerRoutes.Api SwaggerRoutes.Files SwaggerRoutes.Route

/-! ## Where a class stands -/

/-- The place of a class below the root of its source tree: a directory for each part of the
package, and a file named like the class. -/
def Java.relativePath (package : String) (artifact : Artifact) : Path :=
  let parts := (Text.pieces '.' package.toList).filter (· != [])
  let directory : Path :=
    parts.foldl (fun (path : Path) part => path.join (String.ofList part)) ⟨""⟩
  directory.join (artifact.className ++ ".java")

variable {m : Type → Type} [Monad m] [MonadExceptOf Error m] [Host m]

/-! ## Documents -/

/-- The document that a text from a location holds. -/
def readDocument (location : String) (unreadable : Error) (text : String) : m Json.Value :=
  match Document.read? text with
  | none => throw unreadable
  | some document => do
    Host.note (.loaded location)
    return document

/-- The document in a file. -/
def loadFile (path : Path) : m Json.Value := do
  readDocument path.text (.unreadable path.text) (← Host.readText path)

/-- The text that a reply from an address brings, if it is one of success. -/
def replyText (address : String) (reply : Web.Reply) : Except Error String :=
  if reply.status.isSuccess then reply.text.mapError .remote
  else .error (.refused address reply.status)

/-- The document at a web address. -/
def loadAddress (address : String) : m Json.Value := do
  let reply ← Host.fetch address
  let text ← MonadExcept.ofExcept (replyText address reply)
  readDocument address (.unreadableReply address) text

/-- The document at a location: at a web address, or in the file of a path. -/
def loadDocument (location : String) : m Json.Value := do
  if ← Host.isAddress location then loadAddress location else loadFile ⟨location⟩

/-- The specification that a document describes. -/
def readSpecification (document : Json.Value) : m Specification := do
  (LogRecord.ofDocument document).forM Host.note
  match specification document with
  | .ok spec => return spec
  | .error fault => throw (.specification fault)

/-! ## Classes -/

/-- The settings, if they pass their check. -/
def check (config : Config) : m Unit :=
  match config.validate with
  | .ok () => return ()
  | .error fault => throw (.config fault)

/-- The routes of the document that the settings name. -/
def loadArtifact (config : Config) : m Artifact := do
  check config
  let document ← loadDocument config.schemaPath
  let spec ← readSpecification document
  Host.note (.assembling spec.operationCount spec.paths.length)
  (LogRecord.ofSpecification spec).forM Host.note
  return assemble Naming.operationId spec

/-- The source of the class. -/
def render (config : Config) : m String := do
  let artifact ← loadArtifact config
  return Java.source config.package artifact

/-- Writes a text below a directory, and makes the directories that are missing. -/
def writeBelow (directory : Path) (relative : Path) (text : String) : m Path := do
  let target := directory.join relative.text
  Host.makeParents target
  Host.writeText target text
  Host.note (.wrote target)
  return target

/-- Writes a class below the root of a source tree. -/
def writeArtifact (package : String) (artifact : Artifact) (outputDir : String) : m Path :=
  writeBelow ⟨outputDir⟩ (Java.relativePath package artifact) (Java.source package artifact)

/-- Writes the class that the settings describe. -/
def generate (config : Config) : m Path := do
  let artifact ← loadArtifact config
  writeArtifact config.package artifact config.outputDir

/-! ## Settings in files -/

/-- The settings that a file gives. -/
def loadSettings (path : Path) : m Config.Partial := do
  match Config.Format.ofPath? path with
  | none => throw (.config (.unsupportedFile path.text))
  | some format =>
    let text ← Host.readText path
    match Config.read? format text, format with
    | some settings, _ => return settings
    | none, .yaml => throw .yaml
    | none, .toml => throw .toml

/-- The settings in a file, with defaults for what is missing. -/
def loadConfig (path : Path) : m Config := do
  return (← loadSettings path).orElse {}

/-- Writes settings to a file in the format of its name. -/
def saveConfig (config : Config) (path : Path) : m Unit := do
  match Config.Format.ofPath? path with
  | none => throw (.config (.unsupportedFile path.text))
  | some format => Host.writeText path (config.write format)

end SwaggerRoutes
