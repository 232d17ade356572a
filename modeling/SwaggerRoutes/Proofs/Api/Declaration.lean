/-
What a document declares, spelled on the document itself: operations, which are the objects under verbs
in the members of `paths`, and the entries of their parameters. Operations are listed by the order of the
paths in the document, those of one path by the order of all verbs; entries stand in the order of their
lists. The reading of a document visits the same things in the same order.
-/
import SwaggerRoutes.Api.Loading
import Mathlib.Data.List.Basic

namespace SwaggerRoutes.Api

open SwaggerRoutes.Json

/-! ## Operations -/

/-- An operation that a document declares: its verb, its path and the members of its object. -/
structure Declaration where
  method : Method
  path : String
  members : List (String × Value)

namespace Declaration

/-- The operation id of a declaration; empty if it is missing or no string. -/
def id (d : Declaration) : String :=
  match find? "operationId" d.members with
  | some (.string text) => text
  | _ => ""

/-- The entries of the parameters of a declaration. -/
def entries (d : Declaration) : List Value :=
  match find? "parameters" d.members with
  | some (.array entries) => entries
  | _ => []

/-- The declaration under a verb of a path, if there is an object. -/
def ofMethod? (path : String) (item : Value) (method : Method) : Option Declaration :=
  match item.get? method.name with
  | some (.object members) => some ⟨method, path, members⟩
  | _ => none

/-- The declarations of one path. -/
def ofItem (path : String) (item : Value) : List Declaration := Method.all.filterMap (ofMethod? path item)

/-- The declarations of a document; what stands under the name of an extension is none. -/
def ofDocument (document : Value) : List Declaration :=
  match document.get? "paths" with
  | some (.object paths) =>
    (paths.filter fun path => !isExtension path.1).flatMap fun (path, item) => ofItem path item
  | _ => []

/-- What tells a declaration from the others. -/
def key (d : Declaration) : Method × String := (d.method, d.path)

end Declaration

/-! ## Entries -/

/-- An entry of the parameters of one operation. -/
structure Occurrence where
  path : String
  method : Method
  entry : Value

/-- The entries of all declarations of a document. -/
def occurrences (document : Value) : List Occurrence :=
  (Declaration.ofDocument document).flatMap fun d => d.entries.map fun entry => ⟨d.path, d.method, entry⟩

/-! ## Declarations as the reading of a document finds them -/

theorem Declaration.ofItem_eq (path : String) (item : Value) :
    Declaration.ofItem path item =
      (declaredOperations item).map fun (method, members) => ⟨method, path, members⟩ := by
  unfold Declaration.ofItem declaredOperations
  rw [List.map_filterMap]
  congr 1
  funext method
  unfold Declaration.ofMethod?
  cases item.get? method.name with
  | none => rfl
  | some value => cases value <;> rfl

theorem Declaration.ofDocument_eq (document : Value) :
    Declaration.ofDocument document =
      (declaredPaths document).flatMap fun (path, item) => Declaration.ofItem path item := by
  unfold Declaration.ofDocument declaredPaths
  cases document.get? "paths" with
  | none => rfl
  | some value => cases value <;> rfl

theorem Declaration.id_eq (d : Declaration) : d.id = (stringField? "operationId" d.members).getD "" := by
  unfold Declaration.id stringField?
  cases find? "operationId" d.members with
  | none => rfl
  | some value => cases value <;> rfl

theorem Declaration.entries_eq (d : Declaration) : d.entries = parameterEntries d.members := by
  unfold Declaration.entries parameterEntries
  cases find? "parameters" d.members with
  | none => rfl
  | some value => cases value <;> rfl

theorem occurrences_eq (document : Value) :
    occurrences document = (declaredPaths document).flatMap fun (path, item) =>
      (declaredOperations item).flatMap fun (method, members) =>
        (parameterEntries members).map fun entry => ⟨path, method, entry⟩ := by
  unfold occurrences
  rw [Declaration.ofDocument_eq, List.flatMap_assoc]
  refine List.flatMap_congr fun (path, item) _ => ?_
  dsimp only
  rw [Declaration.ofItem_eq, List.flatMap_map]
  refine List.flatMap_congr fun (method, members) _ => ?_
  dsimp only
  rw [Declaration.entries_eq]

end SwaggerRoutes.Api
