/-
The settings of a run and the check that they must pass before any file is touched.
-/
import SwaggerRoutes.Text.Blank
import SwaggerRoutes.Text.Pieces

namespace SwaggerRoutes

open SwaggerRoutes.Text

/-- The settings: the document to read, the root of the generated source tree, and the package of
the generated class, empty for the default package. -/
structure Config where
  schemaPath : String := "petstore.json"
  outputDir : String := "target/generated-sources/swagger-routes"
  package : String := "com.example.helloworld"
deriving DecidableEq, Repr

namespace Config

instance : Inhabited Config := ⟨{}⟩

/-- Why settings are refused. -/
inductive Fault
  | emptySchemaPath
  | emptyOutputDir
  | invalidPackage (package : String)
  | unsupportedFile (path : String)
deriving DecidableEq, Repr

def Fault.message : Fault → String
  | .emptySchemaPath => "schema path must not be empty"
  | .emptyOutputDir => "output directory must not be empty"
  | .invalidPackage package => "'" ++ package ++ "' is not a valid Java package name"
  | .unsupportedFile path =>
    "Unsupported config file '" ++ path ++ "': expected .yaml, .yml or .toml"

/-- Whether a text holds nothing but blanks. -/
def allBlank (text : String) : Bool := text.toList.all isBlank

def isIdentifierStart (c : Char) : Bool := isLetter c || c = '_' || c = '$'

/-- A part of a package name. -/
def isPackagePart : List Char → Bool
  | [] => false
  | c :: rest => isIdentifierStart c && rest.all fun c => isIdentifierStart c || isDigit c

/-- A package name: empty, or parts with a single dot between neighbours. -/
def isPackage (package : String) : Bool :=
  package.toList = [] || (pieces '.' package.toList).all isPackagePart

/-- The first fault of the settings, if any. -/
def validate (config : Config) : Except Fault Unit :=
  if allBlank config.schemaPath then .error .emptySchemaPath
  else if allBlank config.outputDir then .error .emptyOutputDir
  else if !isPackage config.package then .error (.invalidPackage config.package)
  else .ok ()

theorem validate_eq_ok_iff {config : Config} : config.validate = .ok () ↔
    allBlank config.schemaPath = false ∧ allBlank config.outputDir = false ∧ isPackage config.package = true := by
  unfold validate
  cases allBlank config.schemaPath <;> cases allBlank config.outputDir <;> cases isPackage config.package <;> simp

end Config

end SwaggerRoutes
