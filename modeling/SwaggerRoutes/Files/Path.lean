/-
Paths as they are written. A path is kept exactly as it was put together; only its steps, which say
where it leads, leave out empty components and single dots.
-/
import SwaggerRoutes.Text.Pieces

namespace SwaggerRoutes.Files

open SwaggerRoutes.Text

/-- A written path. -/
structure Path where
  text : String
deriving DecidableEq, Repr

/-- One step of a path: to the directory above, or to an entry of the directory. -/
inductive Step
  | up
  | name (name : String)
deriving DecidableEq, Repr

namespace Path

/-- Whether the path starts at the root of all files. -/
def isAbsolute (path : Path) : Bool := path.text.toList.head? == some '/'

/-- The path with more put after it. A path from the root replaces what was there; otherwise one
slash separates the two, unless there is nothing before it or a slash already. -/
def join (path : Path) (more : String) : Path :=
  let before := path.text.toList
  if more.toList.head? = some '/' then ⟨more⟩
  else if before.isEmpty || before.getLast? = some '/' then ⟨path.text ++ more⟩
  else ⟨path.text ++ "/" ++ more⟩

/-- The components between slashes. -/
def components (path : Path) : List (List Char) := pieces '/' path.text.toList

/-- The step that a component stands for, if it is one. -/
def step? (component : List Char) : Option Step :=
  if component = [] || component = ['.'] then none
  else if component = ['.', '.'] then some .up
  else some (.name (String.ofList component))

/-- The steps of a path. -/
def steps (path : Path) : List Step := path.components.filterMap step?

/-- Whether the path ends so that it can only name a directory: with a slash or a single dot. -/
def namesDirectory (path : Path) : Bool :=
  match path.components.getLast? with
  | some component => component == [] || component == ['.']
  | none => false

/-- Whether the last component that is not empty is a single dot. -/
def endsInDot (path : Path) : Bool :=
  (path.components.filter (· != [])).getLast? == some ['.']

/-- The extension of the last name of a path: what follows its last dot, unless that dot is its
first character. -/
def extension? (path : Path) : Option String :=
  match path.steps.getLast? with
  | some (.name name) =>
    let parts := pieces '.' name.toList
    if parts.length < 2 || (parts.length == 2 && parts.head? == some []) then none
    else parts.getLast?.map String.ofList
  | _ => none

/-- A step as it is written. -/
def stepText : Step → String
  | .up => ".."
  | .name name => name

/-- The path of the directory that the last step starts from. -/
def parent (path : Path) : Path :=
  ⟨(if path.isAbsolute then "/" else "") ++ joinStrings "/" (path.steps.dropLast.map stepText)⟩

end Path

end SwaggerRoutes.Files
