/-
The imports of a class. They are the types that the class refers to, each once and in the order of their
names. In the source of a specification's class, a type is imported exactly if its name is written for an
argument that refers to a type; names that stand in texts from the document, which are inserted as they
are or as strings, are not looked at.
-/
import SwaggerRoutes.Proofs.Java.Lines
import SwaggerRoutes.Proofs.Route.Matching
import SwaggerRoutes.Proofs.Route.Reference

namespace SwaggerRoutes.Java

open SwaggerRoutes.Text SwaggerRoutes.Api SwaggerRoutes.Route

/-! ## The list of imports -/

theorem qualifiedName_injective : Function.Injective HostType.qualifiedName := by
  intro t t' same
  cases t <;> cases t' <;> first | rfl | exact absurd same (by decide)

theorem refersTo_iff {artifact : Artifact} {t : HostType} :
    refersTo artifact t = true ↔ ∃ arg ∈ artifact.arguments, arg.hostType? = some t := by
  simp only [refersTo, List.any_eq_true, beq_iff_eq, Artifact.arguments, List.mem_flatMap]
  constructor
  · rintro ⟨s, hs, arg, harg, refers⟩
    exact ⟨arg, ⟨s, hs, harg⟩, refers⟩
  · rintro ⟨arg, ⟨s, hs, harg⟩, refers⟩
    exact ⟨s, hs, arg, harg, refers⟩

theorem mem_importedTypes_iff {artifact : Artifact} {t : HostType} :
    t ∈ importedTypes artifact ↔ t = .routeBuilder ∨ ∃ arg ∈ artifact.arguments, arg.hostType? = some t := by
  rw [importedTypes, List.mem_filter, Bool.or_eq_true, beq_iff_eq, refersTo_iff]
  exact and_iff_right t.mem_all

theorem mem_imports_iff {artifact : Artifact} {t : HostType} :
    t.qualifiedName ∈ imports artifact ↔ t ∈ importedTypes artifact :=
  List.mem_map_of_injective qualifiedName_injective

theorem imports_increasing (artifact : Artifact) : (imports artifact).Pairwise (· < ·) := by
  have all : (HostType.all.map HostType.qualifiedName).Pairwise (· < ·) := by decide
  exact all.sublist (List.filter_sublist.map _)

/-- Classes with the same arguments, in whatever order, have the same imports. -/
theorem imports_eq_of_perm {artifact other : Artifact} (perm : other.arguments.Perm artifact.arguments) :
    imports other = imports artifact := by
  refine congrArg (List.map _) (List.filter_congr fun t _ => congrArg (_ || ·) ?_)
  rw [Bool.eq_iff_iff, refersTo_iff, refersTo_iff]
  simp only [perm.mem_iff]

/-! ## The lines of imports -/

theorem importHead_injective : Function.Injective importHead := by
  intro t t' same
  have texts := congrArg String.toList same
  simp only [importHead, String.toList_append, List.append_cancel_left_eq, List.append_cancel_right_eq] at texts
  exact qualifiedName_injective (String.toList_injective texts)

theorem head?_packageHead (package : String) : (packageHead package).toList.head? = some 'p' := by
  rw [packageHead, String.toList_append, String.toList_append, List.append_assoc]
  exact head?_append_of_head? (by decide) _

theorem mem_lines_iff {line text : String} : line ∈ lines text ↔ line.toList ∈ pieces '\n' text.toList := by
  rw [lines, List.mem_map]
  constructor
  · rintro ⟨piece, mem, rfl⟩
    rwa [String.toList_ofList]
  · exact fun mem => ⟨_, mem, String.ofList_toList⟩

/-- Lines that are not empty stand among those of the package or after them. -/
theorem mem_pieces_packageLines {line : List Char} (nonempty : line ≠ []) (package : String) (rest : List Char) :
    line ∈ pieces '\n' ((packageLines package).toList ++ rest) ↔
      line ∈ pieces '\n' (packageLines package).toList ∨ line ∈ pieces '\n' rest := by
  unfold packageLines
  split
  · simp [pieces, nonempty]
  · have ends : ";\n\n".toList = ";".toList ++ '\n' :: ['\n'] := by decide
    have text : ("package " ++ package ++ ";\n\n").toList = (packageHead package).toList ++ '\n' :: ['\n'] := by
      simp only [packageHead, String.toList_append, ends, List.append_assoc]
    rw [text, List.append_assoc, List.cons_append, pieces_append_cons, pieces_append_cons]
    simp [pieces, nonempty]

/-- The name of a package that ends no line imports nothing. -/
theorem importHead_notMem_packageLines {package : String} (noFeed : '\n' ∉ package.toList) (t : HostType) :
    importHead t ∉ lines (packageLines package) := by
  have head := head?_importHead t
  have cut := pieces_packageLines noFeed []
  rw [List.append_nil] at cut
  rw [mem_lines_iff, cut]
  intro mem
  rcases List.mem_append.1 mem with package | last
  · split at package
    · cases package
    · rcases List.mem_cons.1 package with same | empty
      · rw [same, head?_packageHead] at head
        exact absurd head (by decide)
      · rw [List.mem_singleton.1 empty] at head
        cases head
  · rw [List.mem_singleton.1 last] at head
    cases head

theorem head?_classHead (className : String) : (classHead className).toList.head? = some 'p' := by
  obtain ⟨rest, text⟩ := isPrefix_classHead className
  rw [← text]
  exact head?_append_of_head? (by decide) rest

/-- The source holds the lines of the imported types, besides what the name of the package holds. -/
theorem mem_lines_source {package : String} {artifact : Artifact} (noFeed : '\n' ∉ artifact.className.toList)
    (t : HostType) : importHead t ∈ lines (source package artifact) ↔
      importHead t ∈ lines (packageLines package) ∨ t ∈ importedTypes artifact := by
  have head := head?_importHead t
  have nonempty : (importHead t).toList ≠ [] := by
    intro empty
    rw [empty] at head
    cases head
  have noClass : (importHead t).toList ≠ (classHead artifact.className).toList := by
    intro same
    rw [same, head?_classHead] at head
    exact absurd head (by decide)
  have noBody : (importHead t).toList ∉ pieces '\n' (configureLine.toList ++
      ((artifact.statements.flatMap fun s => (statementLine s).toList) ++ classEnd.toList)) := by
    intro mem
    have begins := head?_of_mem_body artifact _ mem
    rw [head] at begins
    exact absurd begins (by decide)
  have injective : Function.Injective fun t => (importHead t).toList :=
    fun t t' same => importHead_injective (String.toList_injective same)
  rw [mem_lines_iff, mem_lines_iff, toList_source, mem_pieces_packageLines nonempty, pieces_imports,
    pieces_classLine noFeed, List.mem_append, List.mem_cons, List.mem_cons]
  simp only [nonempty, noClass, noBody, or_false]
  exact or_congr_right (List.mem_map_of_injective injective)

/-! ## The class of a specification -/

variable {naming : Naming} {spec : Specification} {t : HostType}

theorem filling_assemble (naming : Naming) (spec : Specification) :
    (assemble naming spec).filling = (assemble naming spec).arguments :=
  List.flatMap_congr fun _ mem => Statement.filling_eq_arguments (matched_of_mem_assemble mem)

theorem mem_references_iff {artifact : Artifact} {arg : Argument} :
    arg ∈ artifact.references ↔ arg ∈ artifact.arguments ∧ arg.hostType? ≠ none := by
  rw [Artifact.references, List.mem_filter, Argument.isReference, Option.isSome_iff_ne_none]

/-- What is referred to is imported. -/
theorem mem_importedTypes_of_references {artifact : Artifact} {arg : Argument} (mem : arg ∈ artifact.references)
    (refers : arg.hostType? = some t) : t ∈ importedTypes artifact :=
  mem_importedTypes_iff.2 (.inr ⟨arg, (mem_references_iff.1 mem).1, refers⟩)

theorem mem_references_assemble {arg : Argument} : arg ∈ (assemble naming spec).references ↔
    arg = .type .restDefinition ∨ ∃ p ∈ specificationParameters spec, arg ∈ parameterReferences p := by
  rw [references_assemble, List.mem_cons, List.mem_flatMap]

theorem mem_parameterReferences_iff {arg : Argument} {p : Parameter} : arg ∈ parameterReferences p ↔
    arg = .enumConstant .restParamType p.location.name ∨
      ∃ name, present (writing p.kind).collectionFormat = some name ∧
        .enumConstant .collectionFormat name = arg := by
  rw [parameterReferences, List.mem_cons, Option.mem_toList, Option.map_eq_some_iff]

/-- A parameter outside the body says how a list is written. -/
def GivesFormat (p : Parameter) : Prop :=
  ∃ s name, p.kind = .serializable s ∧ s.collectionFormat = some name ∧ name ≠ ""

theorem givesFormat_iff {p : Parameter} :
    GivesFormat p ↔ ∃ name, present (writing p.kind).collectionFormat = some name := by
  simp only [GivesFormat, present_eq_some]
  cases p.kind with
  | serializable s => simp [writing]
  | body schema => simp [writing]

/-- The types of a specification's class. -/
theorem mem_importedTypes_assemble : t ∈ importedTypes (assemble naming spec) ↔
    t = .routeBuilder ∨ t = .restDefinition ∨ t = .restParamType ∧ specificationParameters spec ≠ [] ∨
      t = .collectionFormat ∧ ∃ p ∈ specificationParameters spec, GivesFormat p := by
  constructor
  · intro imported
    rcases mem_importedTypes_iff.1 imported with rfl | ⟨arg, mem, refers⟩
    · exact .inl rfl
    have reference := mem_references_iff.2 ⟨mem, by rw [refers]; simp⟩
    rcases mem_references_assemble.1 reference with rfl | ⟨p, hp, harg⟩
    · cases refers
      exact .inr (.inl rfl)
    rcases mem_parameterReferences_iff.1 harg with rfl | ⟨name, given, rfl⟩
    · cases refers
      exact .inr (.inr (.inl ⟨rfl, List.ne_nil_of_mem hp⟩))
    · cases refers
      exact .inr (.inr (.inr ⟨rfl, p, hp, givesFormat_iff.2 ⟨name, given⟩⟩))
  · rintro (rfl | rfl | ⟨rfl, some⟩ | ⟨rfl, p, hp, gives⟩)
    · exact mem_importedTypes_iff.2 (.inl rfl)
    · exact mem_importedTypes_of_references (mem_references_assemble.2 (.inl rfl)) rfl
    · obtain ⟨p, hp⟩ := List.exists_mem_of_ne_nil _ some
      exact mem_importedTypes_of_references
        (mem_references_assemble.2 (.inr ⟨p, hp, mem_parameterReferences_iff.2 (.inl rfl)⟩)) rfl
    · obtain ⟨name, given⟩ := givesFormat_iff.1 gives
      exact mem_importedTypes_of_references
        (mem_references_assemble.2 (.inr ⟨p, hp, mem_parameterReferences_iff.2 (.inr ⟨name, given, rfl⟩)⟩)) rfl

/-! ## Names that are written -/

/-- The name of the type is written in the rendering of the argument. -/
def Writes (arg : Argument) (t : HostType) : Prop := t.simpleName.toList <:+: (argument arg).toList

instance (arg : Argument) (t : HostType) : Decidable (Writes arg t) :=
  List.instDecidableIsInfixOfDecidableEq _ _

theorem writes_of_refers {arg : Argument} (refers : arg.hostType? = some t) : Writes arg t := by
  cases arg with
  | literal text => cases refers
  | str text => cases refers
  | type host =>
    cases refers
    exact List.infix_refl _
  | enumConstant host constant =>
    cases refers
    rw [Writes, argument, String.toList_append, String.toList_append, List.append_assoc]
    exact (List.prefix_append _ _).isInfix

theorem eq_of_writes_restDefinition (writes : Writes (.type .restDefinition) t) : t = .restDefinition := by
  revert writes
  cases t <;> decide +kernel

theorem eq_of_writes_location {location : Location}
    (writes : Writes (.enumConstant .restParamType location.name) t) : t = .restParamType := by
  revert writes
  cases t <;> cases location <;> decide +kernel

/-- The name of a type is written for an argument that refers to a type exactly if the type is imported, apart
from the class that is extended. -/
theorem mem_importedTypes_iff_writes : t ∈ importedTypes (assemble naming spec) ↔
    t = .routeBuilder ∨ ∃ arg ∈ (assemble naming spec).filling, arg.hostType? ≠ none ∧ Writes arg t := by
  rw [filling_assemble]
  constructor
  · intro imported
    rcases mem_importedTypes_iff.1 imported with rfl | ⟨arg, mem, refers⟩
    · exact .inl rfl
    · exact .inr ⟨arg, mem, by rw [refers]; simp, writes_of_refers refers⟩
  · rintro (rfl | ⟨arg, mem, reference, writes⟩)
    · exact mem_importedTypes_iff.2 (.inl rfl)
    rw [mem_importedTypes_assemble]
    rcases mem_references_assemble.1 (mem_references_iff.2 ⟨mem, reference⟩) with rfl | ⟨p, hp, harg⟩
    · exact .inr (.inl (eq_of_writes_restDefinition writes))
    rcases mem_parameterReferences_iff.1 harg with rfl | ⟨name, given, rfl⟩
    · exact .inr (.inr (.inl ⟨eq_of_writes_location writes, List.ne_nil_of_mem hp⟩))
    · -- a constant may spell any name, but then all types are imported
      cases t with
      | routeBuilder => exact .inl rfl
      | restDefinition => exact .inr (.inl rfl)
      | restParamType => exact .inr (.inr (.inl ⟨rfl, List.ne_nil_of_mem hp⟩))
      | collectionFormat => exact .inr (.inr (.inr ⟨rfl, p, hp, givesFormat_iff.2 ⟨name, given⟩⟩))

/-! ## The whole -/

/-- The imports of a class are strictly increasing, do not depend on the order of its arguments, and name the
types that an argument refers to and the class that is extended. For a specification these are the definition
of routes, the types of parameters if there is a parameter, and the collection formats if one is given; and in
the source, below the line of the package, a type is imported exactly if its name is written for an argument
that refers to a type. -/
theorem imports_exact :
    (∀ artifact : Artifact,
      (imports artifact).Pairwise (· < ·) ∧
      (∀ other : Artifact, other.arguments.Perm artifact.arguments → imports other = imports artifact) ∧
      (∀ name ∈ imports artifact, ∃ t : HostType, name = t.qualifiedName) ∧
      ∀ t : HostType, t.qualifiedName ∈ imports artifact ↔
        t = .routeBuilder ∨ ∃ arg ∈ artifact.arguments, arg.hostType? = some t) ∧
    ∀ (naming : Naming) (spec : Specification),
      HostType.restDefinition.qualifiedName ∈ imports (assemble naming spec) ∧
      (HostType.restParamType.qualifiedName ∈ imports (assemble naming spec) ↔
        ∃ entry ∈ spec.paths, ∃ row ∈ entry.2.operations, row.2.parameters ≠ []) ∧
      (HostType.collectionFormat.qualifiedName ∈ imports (assemble naming spec) ↔
        ∃ entry ∈ spec.paths, ∃ row ∈ entry.2.operations, ∃ p ∈ row.2.parameters, GivesFormat p) ∧
      ∀ (package : String) (t : HostType),
        ('\n' ∉ package.toList → importHead t ∉ lines (packageLines package)) ∧
        (importHead t ∈ lines (source package (assemble naming spec)) ↔
          importHead t ∈ lines (packageLines package) ∨ t = .routeBuilder ∨
            ∃ arg ∈ (assemble naming spec).filling, arg.hostType? ≠ none ∧ Writes arg t) := by
  refine ⟨fun artifact => ⟨imports_increasing artifact, fun _ => imports_eq_of_perm, fun name mem => ?_,
    fun t => ?_⟩, fun naming spec => ⟨?_, ?_, ?_, fun package t => ⟨fun noFeed => ?_, ?_⟩⟩⟩
  · obtain ⟨t, -, rfl⟩ := List.mem_map.1 mem
    exact ⟨t, rfl⟩
  · rw [mem_imports_iff, mem_importedTypes_iff]
  · rw [mem_imports_iff, mem_importedTypes_assemble]
    exact .inr (.inl rfl)
  · rw [mem_imports_iff, mem_importedTypes_assemble, specificationParameters]
    simp
  · rw [mem_imports_iff, mem_importedTypes_assemble, exists_mem_specificationParameters]
    simp
  · exact importHead_notMem_packageLines noFeed t
  · have noFeed : '\n' ∉ (assemble naming spec).className.toList := by
      show '\n' ∉ (className spec.title).toList
      exact notMem_className_of (by decide +kernel) spec.title
    rw [mem_lines_source noFeed, mem_importedTypes_iff_writes]

/-- A specification with one operation of that id, which has one parameter of that default value. -/
def spelling (id : String) (defaultValue : Option String) : Specification where
  title := "Pets"
  paths := [("/pets", ⟨[(.get, {
    id
    parameters := [{
      name := "tags"
      location := .query
      required := none
      description := none
      kind := .serializable { dataType := some "string", defaultValue } }] })]⟩)]

/-- The statements in reverse, and the fragments of each. -/
def backwards (artifact : Artifact) : Artifact :=
  { artifact with statements := artifact.statements.reverse.map fun s => ⟨s.fragments.reverse⟩ }

theorem imports_exact_backwards :
    (backwards (assemble Naming.operationId (spelling "list" none))).arguments ≠
        (assemble Naming.operationId (spelling "list" none)).arguments ∧
      imports (backwards (assemble Naming.operationId (spelling "list" none))) =
        imports (assemble Naming.operationId (spelling "list" none)) :=
  ⟨by decide +kernel, (imports_exact.1 _).2.1 _ (by decide +kernel)⟩

/-- The parameter gives no format of collections. -/
theorem importHead_notMem_spelling (id : String) (defaultValue : Option String) : importHead .collectionFormat ∉
    lines (source "" (assemble Naming.operationId (spelling id defaultValue))) := by
  have noFeed : '\n' ∉ (assemble Naming.operationId (spelling id defaultValue)).className.toList :=
    notMem_className_of (by decide +kernel) "Pets"
  rw [mem_lines_source noFeed, mem_importedTypes_assemble]
  rintro (package | extended | declared | ⟨parameter, -⟩ | ⟨-, p, hp, s, name, kind, given, -⟩)
  · exact importHead_notMem_packageLines (by decide) _ package
  · cases extended
  · cases declared
  · cases parameter
  · obtain rfl := List.mem_singleton.1 hp
    cases kind
    cases given

/-- Texts of the document are not looked at: a default value, which is inserted as it is, and the id of an
operation, which is written as a string, may spell a type that is not imported. -/
theorem spelled_type_not_imported :
    ¬ (importHead .collectionFormat ∈
          lines (source "" (assemble Naming.operationId (spelling "list" (some "CollectionFormat")))) ↔
        HostType.collectionFormat = .routeBuilder ∨
          ∃ arg ∈ (assemble Naming.operationId (spelling "list" (some "CollectionFormat"))).filling,
            Writes arg .collectionFormat) ∧
      ¬ (importHead .collectionFormat ∈
          lines (source "" (assemble Naming.operationId (spelling "CollectionFormat" none))) ↔
        HostType.collectionFormat = .routeBuilder ∨
          ∃ arg ∈ (assemble Naming.operationId (spelling "CollectionFormat" none)).filling,
            Writes arg .collectionFormat) := by
  have default : Writes (.literal "CollectionFormat") .collectionFormat := List.infix_refl _
  have quoted : Writes (.str "CollectionFormat") .collectionFormat := ⟨['"'], ['"'], by decide +kernel⟩
  constructor
  · intro same
    exact importHead_notMem_spelling _ _ (same.2 (.inr ⟨_, by decide +kernel, default⟩))
  · intro same
    exact importHead_notMem_spelling _ _ (same.2 (.inr ⟨_, by decide +kernel, quoted⟩))

end SwaggerRoutes.Java
