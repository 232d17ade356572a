/-
The types that route definitions refer to. A call refers to a type only if it passes one of its constants
and the name of the constant is not empty; so an endpoint refers to a type of parameters for each of its
parameters, and to the collection formats where a parameter gives one. The main statement lists the
references of a specification.
-/
import SwaggerRoutes.Proofs.Route.Content
import SwaggerRoutes.Proofs.Route.Slots

namespace SwaggerRoutes.Route

open SwaggerRoutes.Api

/-- The argument refers to a type. -/
def Argument.isReference (arg : Argument) : Bool := arg.hostType?.isSome

/-! ## Arguments of a class -/

namespace Artifact

/-- All arguments, in order. -/
def arguments (artifact : Artifact) : List Argument := artifact.statements.flatMap Statement.arguments

/-- The arguments that fill slots, in order. -/
def filling (artifact : Artifact) : List Argument := artifact.statements.flatMap Statement.filling

/-- The arguments that refer to a type, in order. -/
def references (artifact : Artifact) : List Argument := artifact.arguments.filter Argument.isReference

end Artifact

/-! ## References of calls -/

/-- The references in the fragments that a call adds. -/
def Call.references : Call → List Argument
  | .constant _ type name => ((present name).map (.enumConstant type)).toList
  | .fragment added => added.args.filter Argument.isReference
  | _ => []

theorem filter_map_str (texts : List String) : (texts.map Argument.str).filter Argument.isReference = [] := by
  induction texts with
  | nil => rfl
  | cons text texts ih => exact ih

/-- Strings refer to nothing. -/
theorem filter_stringClause (method : String) (text : Option String) :
    ((stringClause method text).fragments.flatMap Fragment.args).filter Argument.isReference = [] := by
  cases text <;> rfl

theorem filter_stringsClause (method : String) (values : List String) :
    ((stringsClause method values).fragments.flatMap Fragment.args).filter Argument.isReference = [] := by
  rw [stringsClause]
  split
  · rfl
  · rw [fragments_some, List.flatMap_singleton]
    exact filter_map_str values

theorem Call.filter_fragments (call : Call) :
    (call.fragments.flatMap Fragment.args).filter Argument.isReference = call.references := by
  cases call with
  | flag method value => cases value <;> rfl
  | constant method type name =>
    rw [fragments_constant, references]
    cases present name <;> rfl
  | raw method text => cases text <;> rfl
  | string method text => rw [fragments_string, filter_stringClause]; rfl
  | joined method values => rw [fragments_joined, filter_stringClause]; rfl
  | each method values => rw [fragments_each, filter_stringsClause]; rfl
  | plain template => rfl
  | fragment added => rw [fragments, references, List.flatMap_singleton]

/-- The references of a statement are those of the calls that build it. -/
theorem filter_arguments_ofCalls (calls : List Call) :
    (Statement.ofCalls calls).arguments.filter Argument.isReference = calls.flatMap Call.references := by
  rw [Statement.arguments, Statement.ofCalls, List.flatMap_assoc, List.filter_flatMap]
  exact List.flatMap_congr fun call _ => call.filter_fragments

/-! ## References of a specification -/

/-- The parameters of all operations, in order. -/
def specificationParameters (spec : Specification) : List Parameter :=
  spec.paths.flatMap fun (_, item) => item.operations.flatMap fun (_, o) => o.parameters

theorem exists_mem_specificationParameters {spec : Specification} {property : Parameter → Prop} :
    (∃ p ∈ specificationParameters spec, property p) ↔
      ∃ entry ∈ spec.paths, ∃ row ∈ entry.2.operations, ∃ p ∈ row.2.parameters, property p := by
  simp only [specificationParameters, List.mem_flatMap]
  constructor
  · rintro ⟨p, ⟨entry, hentry, row, hrow, hp⟩, holds⟩
    exact ⟨entry, hentry, row, hrow, p, hp, holds⟩
  · rintro ⟨entry, hentry, row, hrow, p, hp, holds⟩
    exact ⟨p, ⟨entry, hentry, row, hrow, hp⟩, holds⟩

/-- The references in the block of a parameter: where the parameter is carried, and how a list is written if
this is given. -/
def parameterReferences (p : Parameter) : List Argument :=
  .enumConstant .restParamType p.location.name ::
    ((present (writing p.kind).collectionFormat).map (.enumConstant .collectionFormat)).toList

theorem flatMap_references_kindCalls (kind : Kind) : (kindCalls kind).flatMap Call.references =
    ((present (writing kind).collectionFormat).map (.enumConstant .collectionFormat)).toList := by
  cases kind with
  | body schema => rfl
  | serializable s => simp [kindCalls, serializationCalls, Call.references, writing]

theorem flatMap_references_parameterCalls (p : Parameter) :
    (parameterCalls p).flatMap Call.references = parameterReferences p := by
  rw [parameterCalls, List.flatMap_append, List.flatMap_append, flatMap_references_kindCalls]
  simp [Call.references, parameterReferences, present_name]

theorem filter_arguments_operationStatement (naming : Naming) (path : String) (method : Method) (o : Operation) :
    (operationStatement naming path method o).arguments.filter Argument.isReference =
      o.parameters.flatMap parameterReferences := by
  have blocks : (o.parameters.flatMap parameterCalls).flatMap Call.references =
      o.parameters.flatMap parameterReferences := by
    rw [List.flatMap_assoc]
    exact List.flatMap_congr fun p _ => flatMap_references_parameterCalls p
  rw [operationStatement, filter_arguments_ofCalls, operationCalls, List.flatMap_append, List.flatMap_append, blocks]
  simp [Call.references, Argument.isReference, Argument.hostType?]

/-- A class refers to the definition of routes, and to what the parameters of its specification refer to. -/
theorem references_assemble (naming : Naming) (spec : Specification) :
    (assemble naming spec).references =
      .type .restDefinition :: (specificationParameters spec).flatMap parameterReferences := by
  have first : bootstrap.arguments.filter Argument.isReference = [.type .restDefinition] := rfl
  rw [Artifact.references, Artifact.arguments, assemble, List.flatMap_cons, List.filter_append, first,
    List.filter_flatMap, specificationParameters]
  simp only [List.flatMap_assoc, pathStatements, List.flatMap_map, filter_arguments_operationStatement]
  rfl

end SwaggerRoutes.Route
