/-
A tree of files, with a working directory where relative paths start. Places in the tree are lists
of names from the root. Reading a file, writing one and making directories are functions on the
tree; each fails with the first fault that it meets on its way.
-/
import SwaggerRoutes.Files.Path

namespace SwaggerRoutes.Files

/-! ## Faults -/

/-- Why an operation on files failed. -/
inductive Fault
  | notFound
  | notDirectory
  | isDirectory
  | exists
  | nameTooLong
  | notText
  | nulInName
  | other (message : String)
deriving DecidableEq, Repr

def Fault.message : Fault → String
  | .notFound => "No such file or directory (os error 2)"
  | .notDirectory => "Not a directory (os error 20)"
  | .isDirectory => "Is a directory (os error 21)"
  | .exists => "File exists (os error 17)"
  | .nameTooLong => "File name too long (os error 36)"
  | .notText => "stream did not contain valid UTF-8"
  | .nulInName => "file name contained an unexpected NUL byte"
  | .other message => message

/-- The longest name of an entry, in bytes. -/
def maxNameSize : Nat := 255

/-- The longest path, in bytes. -/
def maxPathSize : Nat := 4095

/-! ## The tree -/

/-- What stands at a place. -/
inductive Entry
  | file (content : ByteArray)
  | directory

instance : DecidableEq Entry
  | .file a, .file b =>
    @decidable_of_iff _ (a = b) ⟨congrArg Entry.file, Entry.file.inj⟩ (ByteArray.instDecidableEq a b)
  | .directory, .directory => isTrue rfl
  | .file _, .directory => isFalse nofun
  | .directory, .file _ => isFalse nofun

/-- A place in the tree: the names on the way from the root. -/
abbrev Place := List String

/-- A tree of files. The root is a directory without an entry of its own. -/
structure Tree where
  entries : List (Place × Entry) := []
  workingDirectory : Place := []
deriving DecidableEq

namespace Tree

/-- The first entry for a place. -/
def lookup (place : Place) : List (Place × Entry) → Option Entry
  | [] => none
  | (p, entry) :: rest => if p = place then some entry else lookup place rest

/-- The entries with one set: a place that is there keeps its position, a new one comes last. -/
def update (place : Place) (entry : Entry) : List (Place × Entry) → List (Place × Entry)
  | [] => [(place, entry)]
  | (p, old) :: rest =>
    if p = place then (p, entry) :: rest else (p, old) :: update place entry rest

/-- What stands at a place. -/
def entry? (tree : Tree) (place : Place) : Option Entry :=
  if place = [] then some .directory else lookup place tree.entries

/-- The tree with an entry set. -/
def put (tree : Tree) (place : Place) (entry : Entry) : Tree :=
  { tree with entries := update place entry tree.entries }

def isDirectory (tree : Tree) (place : Place) : Bool := tree.entry? place == some .directory

/-- Setting what is there already changes nothing. -/
theorem update_eq_self {place : Place} {entry : Entry} {entries : List (Place × Entry)}
    (h : lookup place entries = some entry) : update place entry entries = entries := by
  fun_induction update place entry entries <;> simp_all [lookup]

theorem lookup_update_self (place : Place) (entry : Entry) (entries : List (Place × Entry)) :
    lookup place (update place entry entries) = some entry := by
  fun_induction update place entry entries <;> simp_all [lookup]

theorem lookup_update_of_ne {place other : Place} (h : other ≠ place) (entry : Entry)
    (entries : List (Place × Entry)) :
    lookup other (update place entry entries) = lookup other entries := by
  fun_induction update place entry entries <;> grind [lookup]

/-! ## Finding places -/

/-- Where a path starts. -/
def start (tree : Tree) (path : Path) : Place :=
  if path.isAbsolute then [] else tree.workingDirectory

def nameSize (name : String) : Nat := name.utf8ByteSize

/-- The place that steps lead to. Each step starts in a directory and ends at an entry. -/
def walk (tree : Tree) : Place → List Step → Except Fault Place
  | place, [] => .ok place
  | place, step :: rest =>
    if !tree.isDirectory place then .error .notDirectory
    else match step with
      | .up => walk tree place.dropLast rest
      | .name name =>
        if maxNameSize < nameSize name then .error .nameTooLong
        else match tree.entry? (place ++ [name]) with
          | none => .error .notFound
          | some _ => walk tree (place ++ [name]) rest

/-- A text that no operation accepts as a path. -/
def refused? (path : Path) : Option Fault :=
  if path.text.toList.contains '\x00' then some .nulInName
  else if path.text = "" then some .notFound
  else if maxPathSize < path.text.utf8ByteSize then some .nameTooLong
  else none

/-- The place of the entry that a path names. -/
def locate (tree : Tree) (path : Path) : Except Fault Place :=
  match refused? path with
  | some fault => .error fault
  | none =>
    match tree.walk (tree.start path) path.steps with
    | .error fault => .error fault
    | .ok place =>
      if path.namesDirectory && !tree.isDirectory place then .error .notDirectory else .ok place

/-- The place where a file of that path is written: in a directory that exists, under a name that
is no directory. -/
def target (tree : Tree) (path : Path) : Except Fault Place :=
  match refused? path with
  | some fault => .error fault
  | none =>
    match path.steps.getLast? with
    | some (.name name) =>
      if path.endsInDot then
        match tree.locate path with
        | .error fault => .error fault
        | .ok _ => .error .isDirectory
      else
        match tree.walk (tree.start path) path.steps.dropLast with
        | .error fault => .error fault
        | .ok place =>
          if !tree.isDirectory place then .error .notDirectory
          else if path.namesDirectory then .error .isDirectory
          else if maxNameSize < nameSize name then .error .nameTooLong
          else if tree.isDirectory (place ++ [name]) then .error .isDirectory
          else .ok (place ++ [name])
    | _ =>
      match tree.locate path with
      | .error fault => .error fault
      | .ok _ => .error .isDirectory

/-! ## Reading and writing -/

/-- The content of a file as a text. -/
def readText (tree : Tree) (path : Path) : Except Fault String :=
  match tree.locate path with
  | .error fault => .error fault
  | .ok place =>
    match tree.entry? place with
    | some (.file content) =>
      match String.fromUTF8? content with
      | some text => .ok text
      | none => .error .notText
    | some .directory => .error .isDirectory
    | none => .error .notFound

/-- The tree with a file of that content, new or in place of the old one. -/
def writeFile (tree : Tree) (path : Path) (content : ByteArray) : Except Fault Tree :=
  match tree.target path with
  | .error fault => .error fault
  | .ok place => .ok (tree.put place (.file content))

/-- The tree with a file of that text. -/
def writeText (tree : Tree) (path : Path) (text : String) : Except Fault Tree :=
  tree.writeFile path text.toUTF8

/-! ## Making directories -/

/-- The tree with one directory more, whose steps from a place are given. -/
def makeDirectory (tree : Tree) (place : Place) (steps : List Step) : Except Fault Tree :=
  match steps.getLast? with
  | none => .error .exists
  | some last =>
    match tree.walk place steps.dropLast with
    | .error fault => .error fault
    | .ok above =>
      if !tree.isDirectory above then .error .notDirectory
      else match last with
        | .up => .error .exists
        | .name name =>
          if maxNameSize < nameSize name then .error .nameTooLong
          else match tree.entry? (above ++ [name]) with
            | some _ => .error .exists
            | none => .ok (tree.put (above ++ [name]) .directory)

/-- Whether steps lead to a directory. -/
def leadsToDirectory (tree : Tree) (place : Place) (steps : List Step) : Bool :=
  match tree.walk place steps with
  | .ok p => tree.isDirectory p
  | .error _ => false

/-- A directory is made, or was there before. -/
def ensureDirectory (tree : Tree) (place : Place) (steps : List Step) : Except Fault Tree :=
  match tree.makeDirectory place steps with
  | .ok tree => .ok tree
  | .error fault => if tree.leadsToDirectory place steps then .ok tree else .error fault

/-- Makes a directory and all that are missing above it; the steps are given in reverse. What was
made before a fault stays. -/
def makeDirectoriesFrom (tree : Tree) (place : Place) : List Step → Except Fault Unit × Tree
  | [] => (.ok (), tree)
  | last :: before =>
    let steps := before.reverse ++ [last]
    match tree.ensureDirectory place steps with
    | .ok tree => (.ok (), tree)
    | .error .notFound =>
      match tree.makeDirectoriesFrom place before with
      | (.error fault, tree) => (.error fault, tree)
      | (.ok (), tree) =>
        match tree.ensureDirectory place steps with
        | .ok tree => (.ok (), tree)
        | .error fault => (.error fault, tree)
    | .error fault => (.error fault, tree)

/-- The size of the path that steps write. -/
def stepsSize (steps : List Step) : Nat :=
  (steps.map fun step => match step with
    | .up => 3
    | .name name => nameSize name + 1).foldl (· + ·) 0

/-- Whether a step holds the character that no name may hold. -/
def hasNul (steps : List Step) : Bool :=
  steps.any fun step => match step with
    | .up => false
    | .name name => name.toList.contains '\x00'

/-- Makes the directories that steps name. -/
def makeDirectories (tree : Tree) (place : Place) (steps : List Step) : Except Fault Unit × Tree :=
  if hasNul steps then (.error .nulInName, tree)
  else if maxPathSize < stepsSize steps then (.error .nameTooLong, tree)
  else tree.makeDirectoriesFrom place steps.reverse

/-- Makes the directories that a file of that path stands in. -/
def makeParents (tree : Tree) (path : Path) : Except Fault Unit × Tree :=
  tree.makeDirectories (tree.start path) path.steps.dropLast

/-! ## Listing -/

/-- The rest of a place below another one. -/
def below? : (directory place : Place) → Option Place
  | [], place => some place
  | _ :: _, [] => none
  | d :: directory, p :: place => if d = p then below? directory place else none

/-- The files below the working directory, as relative paths in the order of their texts. -/
def files (tree : Tree) : List (String × ByteArray) :=
  let found := tree.entries.filterMap fun (place, entry) =>
    match entry with
    | .file content =>
      (below? tree.workingDirectory place).map fun names =>
        (Text.joinStrings "/" names, content)
    | .directory => none
  found.mergeSort fun a b => a.1 ≤ b.1

end Tree

end SwaggerRoutes.Files
