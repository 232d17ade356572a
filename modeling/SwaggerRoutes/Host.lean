/-
What a run asks of the system that it runs on: fetching what is on the web, reading and writing texts,
making directories, and taking reports. The same run works on a tree of files that is a value, and on a
disk.
-/
import SwaggerRoutes.Error
import SwaggerRoutes.Log

namespace SwaggerRoutes

open SwaggerRoutes.Files

/-- A system of files in a web, in a monad where runs can fail. -/
class Host (m : Type → Type) where
  /-- Whether a location is a web address. -/
  isAddress : String → m Bool
  /-- What comes back from a web address. -/
  fetch : String → m Web.Reply
  /-- The text of a file. -/
  readText : Path → m String
  /-- Makes the directories that a file of that path stands in. -/
  makeParents : Path → m Unit
  /-- Writes a file of that text. -/
  writeText : Path → String → m Unit
  /-- Takes a report. -/
  note : LogRecord → m Unit

/-- A tree of files, the web around it, and the reports so far. Runs change the tree and the reports, and
the web answers as it did. -/
structure Workspace where
  tree : Tree := {}
  web : Web := .unreachable
  log : List LogRecord := []

/-- Runs on a workspace. What was done before a failure stays. -/
abbrev Session := ExceptT Error (StateM Workspace)

namespace Session

/-- An operation that only looks at the tree. -/
def look (f : Tree → Except Fault α) : Session α := fun w =>
  match f w.tree with
  | .ok result => (.ok result, w)
  | .error fault => (.error (.files fault), w)

/-- An operation that changes the tree, even when it fails. -/
def alter (f : Tree → Except Fault Unit × Tree) : Session Unit := fun w =>
  match f w.tree with
  | (.ok (), tree) => (.ok (), { w with tree })
  | (.error fault, tree) => (.error (.files fault), { w with tree })

/-- An operation that changes the tree unless it fails. -/
def change (f : Tree → Except Fault Tree) : Session Unit := fun w =>
  match f w.tree with
  | .ok tree => (.ok (), { w with tree })
  | .error fault => (.error (.files fault), w)

instance : Host Session where
  isAddress location w := (.ok (w.web.isAddress location), w)
  fetch address w :=
    match w.web.get address with
    | .ok reply => (.ok reply, w)
    | .error fault => (.error (.remote fault), w)
  readText path := look (·.readText path)
  makeParents path := alter (·.makeParents path)
  writeText path text := change (·.writeText path text)
  note record := modify fun w => { w with log := w.log ++ [record] }

end Session

end SwaggerRoutes
