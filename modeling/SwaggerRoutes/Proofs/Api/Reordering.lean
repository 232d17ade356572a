/-
The order of members counts only in `paths`. Of two documents that are equal up to the order of members,
with their paths in the same order, either both fail with the same fault, or both give the same
specification up to the order of members in the schemas of bodies. This needs that no default value and
no value of an enumeration is an array or an object, since these stand in the specification as texts; and
that no object has one name twice, which holds of every document that is read (`distinct_of_read?`). The
main statement says so, and that no generated class depends on the order.
-/
import SwaggerRoutes.Java.Source
import SwaggerRoutes.Proofs.Api.Agreement
import SwaggerRoutes.Proofs.Api.FirstFault
import SwaggerRoutes.Proofs.Json.Reordering
import SwaggerRoutes.Route.Assembly

namespace SwaggerRoutes.Api

open SwaggerRoutes.Json SwaggerRoutes.Route

/-! ## Parameters up to the order of members in schemas -/

/-- The same kind of parameter, up to the order of members in the schema of a body. -/
inductive Kind.Alike : Kind → Kind → Prop
  | serializable (serialization : Serialization) :
      Alike (.serializable serialization) (.serializable serialization)
  | body {schema schema' : Option Value} (reordered : Option.Rel Reordered schema schema') :
      Alike (.body schema) (.body schema')

/-- The same parameter, up to the order of members in the schema of a body. -/
structure Parameter.Alike (p p' : Parameter) : Prop where
  name : p.name = p'.name
  location : p.location = p'.location
  required : p.required = p'.required
  description : p.description = p'.description
  kind : p.kind.Alike p'.kind

/-- The default value and the values of the enumeration are neither arrays nor objects. -/
structure PlainTexts (members : List (String × Value)) : Prop where
  default : ∀ value, find? "default" members = some value → value.IsScalar
  enum : ∀ values, find? "enum" members = some (.array values) → ∀ value ∈ values, value.IsScalar

/-- The names of the paths stand in the same order in both documents. -/
def SamePathOrder (document document' : Value) : Prop :=
  ∀ paths paths', document.get? "paths" = some (.object paths) →
    document'.get? "paths" = some (.object paths') → paths.map Prod.fst = paths'.map Prod.fst

/-! ## Fields -/

section Fields

variable {members members' : List (String × Value)}

theorem stringField?_eq (h : Shuffled (.object members) (.object members')) (name : String) :
    stringField? name members = stringField? name members' :=
  bind_eq_of_rel (h.find? name) fun _ _ related => related.string?

theorem forall₂_arrayField (h : Shuffled (.object members) (.object members')) (name : String) :
    List.Forall₂ Shuffled (((find? name members).bind Value.array?).getD [])
      (((find? name members').bind Value.array?).getD []) :=
  rel_getD_nil (rel_bind (h.find? name) fun _ _ related => related.array?)

theorem stringList_eq (h : Shuffled (.object members) (.object members')) (name : String) :
    stringList name members = stringList name members' :=
  filterMap_eq_of_forall₂ (forall₂_arrayField h name) fun _ _ related => related.string?

theorem defaultText?_eq (h : Shuffled (.object members) (.object members')) (plain : PlainTexts members) :
    defaultText? members = defaultText? members' := by
  have related := h.find? "default"
  have scalar := plain.default
  unfold defaultText?
  generalize find? "default" members = value?, find? "default" members' = value?' at related scalar ⊢
  cases related with
  | none => rfl
  | some related => rw [related.reordered.eq_of_isScalar (scalar _ rfl)]

theorem enumTexts_eq (h : Shuffled (.object members) (.object members')) (plain : PlainTexts members) :
    enumTexts members = enumTexts members' := by
  have related := rel_bind (h.find? "enum") fun _ _ related => related.array?
  have scalar : ∀ values, (find? "enum" members).bind Value.array? = some values →
      ∀ value ∈ values, value.IsScalar := fun values given => plain.enum values (bind_array?_eq_some.1 given)
  unfold enumTexts
  generalize (find? "enum" members).bind Value.array? = values?,
    (find? "enum" members').bind Value.array? = values?' at related scalar ⊢
  cases related with
  | none => rfl
  | some each =>
    -- without members to reorder the values are the same
    have both := (List.forall₂_and_left _ _).2 ⟨scalar _ rfl, each⟩
    have same := both.imp fun _ _ h => h.2.reordered.eq_of_isScalar h.1
    rw [List.forall₂_eq_eq_eq] at same
    rw [same]

theorem serialization_eq (h : Shuffled (.object members) (.object members')) (plain : PlainTexts members) :
    serialization members = serialization members' := by
  have items := rel_bind (h.find? "items") fun _ _ related => related.object?
  unfold serialization
  rw [stringField?_eq h "type", stringField?_eq h "collectionFormat", defaultText?_eq h plain,
    enumTexts_eq h plain, map_eq_of_rel items fun _ _ each => congrArg Items.mk (stringField?_eq each "type")]

theorem kind_alike (h : Shuffled (.object members) (.object members')) (plain : PlainTexts members)
    (location : Location) : (kind location members).Alike (kind location members') := by
  unfold kind
  split
  · exact .body (rel_imp (h.find? "schema") fun _ _ related => related.reordered)
  · rw [serialization_eq h plain]
    exact .serializable _

end Fields

/-! ## Entries -/

section Entries

variable {document document' : Value}

theorem agree_parameter_object {members members' : List (String × Value)}
    (h : Shuffled (.object members) (.object members')) :
    Agree (fun p p' => PlainTexts members → p.Alike p') (parameter (.object members))
      (parameter (.object members')) := by
  have required : (find? "required" members).bind Value.bool? = (find? "required" members').bind Value.bool? :=
    bind_eq_of_rel (h.find? "required") fun _ _ related => related.bool?
  simp only [parameter, Value.object?, ← stringField?_eq h, ← required]
  cases stringField? "in" members with
  | none => exact .fault _
  | some spelling =>
    cases known : Location.ofName? spelling with
    | none => simp only [known]; exact .fault _
    | some location =>
      simp only [known]
      exact .result fun plain => ⟨rfl, rfl, rfl, rfl, kind_alike h plain location⟩

theorem agree_parameter {value value' : Value} (h : Shuffled value value') :
    Agree (fun p p' => (∀ members, value = .object members → PlainTexts members) → p.Alike p')
      (parameter value) (parameter value') := by
  -- values of different kinds are never equal up to order, and only objects are not refused at once
  cases value <;> cases h.reordered <;> first
    | exact .fault ParameterFault.notObject
    | exact (agree_parameter_object h).imp fun _ _ alike plain => alike (plain _ rfl)

/-- The references of two entries lead nowhere in both documents, or to values that are equal up to
order. -/
theorem agree_resolve (h : Shuffled document document') {entry entry' : Value} (hentry : Shuffled entry entry') :
    Agree (fun value value' => Reads document entry value ∧ Shuffled value value')
      (resolve document entry) (resolve document' entry') := by
  have reference : (entry.get? "$ref").bind Value.string? = (entry'.get? "$ref").bind Value.string? :=
    bind_eq_of_rel (hentry.get? "$ref") fun _ _ related => related.string?
  unfold resolve
  rw [← reference]
  cases refers : (entry.get? "$ref").bind Value.string? with
  | none => exact .result ⟨.itself (bind_string?_eq_none.1 refers), hentry⟩
  | some reference =>
    dsimp only
    split
    next pointer fragment =>
      have found := h.pointer? pointer
      generalize designates : document.pointer? pointer = value?, document'.pointer? pointer = value?' at found ⊢
      cases found with
      | none => exact .fault _
      | some related =>
        exact .result ⟨.reference (bind_string?_eq_some.1 refers) fragment designates, related⟩
    next => exact .fault _

/-- An entry is refused in both documents for the same reason, or gives the same parameter in both. -/
theorem agree_entryParameter (h : Shuffled document document') {entry entry' : Value}
    (hentry : Shuffled entry entry') :
    Agree (fun p p' => (∀ members, Reads document entry (.object members) → PlainTexts members) → p.Alike p')
      (entryParameter document entry) (entryParameter document' entry') := by
  refine (agree_resolve h hentry).bind fun value value' ⟨reads, related⟩ => ?_
  refine (agree_parameter related).imp fun p p' alike plain => alike ?_
  rintro members rfl
  exact plain members reads

end Entries

/-! ## Documents -/

section Documents

variable {document document' : Value} {R : Parameter → Parameter → Prop}

theorem title?_eq (h : Shuffled document document') : title? document = title? document' :=
  bind_eq_of_rel (rel_bind (h.get? "info") fun _ _ related => related.get? "title")
    fun _ _ related => related.string?

/-- The paths pair up if their names are in the same order. -/
theorem sameKey_declaredPaths (h : Shuffled document document') (order : SamePathOrder document document') :
    List.Forall₂ (SameKey Shuffled) (declaredPaths document) (declaredPaths document') := by
  have objects := rel_bind (h.get? "paths") fun _ _ related => related.object?
  unfold declaredPaths
  refine List.rel_filter ?_ ?_
  · rintro _ _ ⟨key, -⟩
    exact Iff.rfl
  · generalize given : (document.get? "paths").bind Value.object? = paths?,
      given' : (document'.get? "paths").bind Value.object? = paths?' at objects ⊢
    cases objects with
    | none => exact .nil
    | some related =>
      exact related.forall₂_of_order
        (order _ _ (bind_object?_eq_some.1 given) (bind_object?_eq_some.1 given'))

theorem membersAgree_of_shuffled {members members' : List (String × Value)}
    (h : Shuffled (.object members) (.object members'))
    (entries : ∀ entry ∈ parameterEntries members, ∀ entry', Shuffled entry entry' →
      Agree R (entryParameter document entry) (entryParameter document' entry')) :
    MembersAgree document document' R members members' where
  id := stringField?_eq h _
  description := stringField?_eq h _
  consumes := stringList_eq h _
  produces := stringList_eq h _
  entries :=
    (forall₂_mem (forall₂_arrayField h "parameters")).imp fun entry entry' ⟨mem, related⟩ =>
      entries entry mem entry' related

theorem itemsAgree_of_shuffled {item item' : Value} (h : Shuffled item item')
    (entries : ∀ method members, (method, members) ∈ declaredOperations item →
      ∀ entry ∈ parameterEntries members, ∀ entry', Shuffled entry entry' →
        Agree R (entryParameter document entry) (entryParameter document' entry')) :
    ItemsAgree document document' R item item' := by
  intro method
  have objects := rel_bind (h.get? method.name) fun _ _ related => related.object?
  generalize given : (item.get? method.name).bind Value.object? = members?,
    (item'.get? method.name).bind Value.object? = members?' at objects ⊢
  cases objects with
  | none => exact .none
  | some related =>
    have declared := mem_declaredOperations.2 (bind_object?_eq_some.1 given)
    exact .some (membersAgree_of_shuffled related (entries method _ declared))

/-- The specifications agree if the entries do that pair up. -/
theorem agree_specification_of_shuffled (h : Shuffled document document')
    (order : SamePathOrder document document')
    (entries : ∀ o ∈ occurrences document, ∀ entry', Shuffled o.entry entry' →
      Agree R (entryParameter document o.entry) (entryParameter document' entry')) :
    Agree (Specification.Like R) (specification document) (specification document') := by
  refine agree_specification (title?_eq h) ?_
  refine (forall₂_mem (sameKey_declaredPaths h order)).imp ?_
  rintro _ _ ⟨onPath, ⟨path, related⟩⟩
  exact .row path (itemsAgree_of_shuffled related fun _ _ declared entry mem =>
    entries ⟨path, _, entry⟩ (mem_occurrences_of_declared onPath declared mem))

end Documents

/-! ## Routes -/

theorem kindCalls_eq {kind kind' : Kind} (h : kind.Alike kind') : kindCalls kind = kindCalls kind' := by
  cases h <;> rfl

theorem parameterCalls_eq {p p' : Parameter} (h : p.Alike p') : parameterCalls p = parameterCalls p' := by
  unfold parameterCalls
  rw [h.name, h.location, h.required, h.description, kindCalls_eq h.kind]

theorem operationStatement_eq {naming : Naming} {o o' : Operation} (h : o.Like Parameter.Alike o')
    (name : naming o = naming o') (path : String) (method : Method) :
    operationStatement naming path method o = operationStatement naming path method o' := by
  unfold operationStatement operationCalls
  rw [h.id, h.description, h.consumes, h.produces, name,
    flatMap_eq_of_forall₂ h.parameters fun _ _ => parameterCalls_eq]

/-- Routes do not depend on the order of members in schemas. -/
theorem assemble_eq {naming : Naming} {spec spec' : Specification} (h : spec.Like Parameter.Alike spec')
    (names : ∀ o o', o.Like Parameter.Alike o' → naming o = naming o') :
    assemble naming spec = assemble naming spec' := by
  refine congrArg₂ Artifact.mk (congrArg className h.title) (congrArg (bootstrap :: ·) ?_)
  refine flatMap_eq_of_forall₂ h.paths ?_
  rintro _ _ ⟨path, operations⟩
  refine map_eq_of_forall₂ operations ?_
  rintro _ _ ⟨method, like⟩
  exact operationStatement_eq like (names _ _ like) path method

/-! ## The whole -/

/-- Of two documents that are equal up to the order of members, their paths in the same order, both fail
with the same fault or neither does. If no default value and no value of an enumeration is an array or an
object, they give the same specification up to the order of members in the schemas of bodies, and the
same classes of routes. -/
theorem specification_reordered {document document' : Value} (distinct : document.Distinct)
    (reordered : Reordered document document')
    (order : SamePathOrder document document') :
    (∀ fault, specification document = .error fault ↔ specification document' = .error fault) ∧
    ((∀ o ∈ occurrences document, ∀ members, Reads document o.entry (.object members) →
        PlainTexts members) →
      ∀ spec, specification document = .ok spec →
        ∃ spec', specification document' = .ok spec' ∧ spec.Like Parameter.Alike spec' ∧
          (∀ name : String → String,
            assemble (fun o => name o.id) spec = assemble (fun o => name o.id) spec') ∧
          ∀ package, Java.source package (assemble Naming.operationId spec) =
            Java.source package (assemble Naming.operationId spec')) := by
  have shuffled : Shuffled document document' := ⟨distinct, reordered⟩
  constructor
  · -- whether an entry is refused does not depend on its texts, so no condition is needed here
    exact (agree_specification_of_shuffled shuffled order fun _ _ _ related =>
      (agree_entryParameter shuffled related).imp fun _ _ _ => trivial).error_iff
  · intro plain spec loads
    have agree := agree_specification_of_shuffled shuffled order fun o mem _ related =>
      (agree_entryParameter shuffled related).imp fun _ _ alike => alike (plain o mem)
    obtain ⟨spec', loads', like⟩ := agree.exists_of_ok loads
    have routes : ∀ name : String → String,
        assemble (fun o => name o.id) spec = assemble (fun o => name o.id) spec' :=
      fun name => assemble_eq like fun _ _ same => congrArg name same.id
    exact ⟨spec', loads', like, routes, fun package => congrArg (Java.source package) (routes id)⟩

/-- A document with one operation, whose body is described elsewhere. -/
def addition : Value := .object [
  ("paths", .object [("/pets", .object [("post", .object [
    ("operationId", .string "add"),
    ("parameters", .array [
      .object [("$ref", .string "#/parameters/pet")],
      .object [("name", .string "notify"), ("in", .string "query"), ("default", .bool false)]])])])]),
  ("parameters", .object [("pet", .object [
    ("in", .string "body"),
    ("schema", .object [("type", .string "object"), ("title", .string "Pet")])])])]

/-- The same document with all members in reverse order. -/
def reversedAddition : Value := .object [
  ("parameters", .object [("pet", .object [
    ("schema", .object [("title", .string "Pet"), ("type", .string "object")]),
    ("in", .string "body")])]),
  ("paths", .object [("/pets", .object [("post", .object [
    ("parameters", .array [
      .object [("$ref", .string "#/parameters/pet")],
      .object [("default", .bool false), ("in", .string "query"), ("name", .string "notify")]]),
    ("operationId", .string "add")])])])]

theorem reordered_addition : Reordered addition reversedAddition := by
  have only {name : String} {value value' : Value} (h : Reordered value value') :
      Reordered (.object [(name, value)]) (.object [(name, value')]) :=
    .object (.cons (.row name h) .nil) (.refl _)
  have pair {name other : String} {a a' b b' : Value} (ha : Reordered a a') (hb : Reordered b b') :
      Reordered (.object [(name, a), (other, b)]) (.object [(other, b'), (name, a')]) :=
    .object (.cons (.row name ha) (.cons (.row other hb) .nil)) (.swap ..)
  have query : Reordered
      (.object [("name", .string "notify"), ("in", .string "query"), ("default", .bool false)])
      (.object [("default", .bool false), ("in", .string "query"), ("name", .string "notify")]) :=
    .object (List.forall₂_same.2 fun (key, value) _ => .row key (.same value)) (List.reverse_perm _).symm
  exact pair (only (only (pair (.same _) (.array (.cons (.same _) (.cons query .nil))))))
    (only (pair (.same _) (pair (.same _) (.same _))))

theorem specification_reordered_addition :
    addition.Distinct ∧ Reordered addition reversedAddition ∧ SamePathOrder addition reversedAddition ∧
      ∃ spec spec', specification addition = .ok spec ∧ specification reversedAddition = .ok spec' ∧
        spec.Like Parameter.Alike spec' ∧
        ∀ package, Java.source package (assemble Naming.operationId spec) =
          Java.source package (assemble Naming.operationId spec') := by
  have distinct : addition.Distinct := by
    simp [addition, Value.Distinct, Value.DistinctMembers, Value.DistinctItems]
  have order : SamePathOrder addition reversedAddition := by
    intro paths paths' given given'
    cases given
    cases given'
    rfl
  have plain : ∀ o ∈ occurrences addition, ∀ members, Reads addition o.entry (.object members) →
      PlainTexts members := by
    have both : occurrences addition =
        [⟨"/pets", .post, .object [("$ref", .string "#/parameters/pet")]⟩,
          ⟨"/pets", .post, .object
            [("name", .string "notify"), ("in", .string "query"), ("default", .bool false)]⟩] := by with_unfolding_all rfl
    intro o mem members reads
    rw [both] at mem
    simp only [List.mem_cons, List.not_mem_nil, or_false] at mem
    obtain rfl | rfl := mem
    · have fragment : "#/parameters/pet".toList = '#' :: "/parameters/pet".toList := by decide
      have body : Reads addition (.object [("$ref", .string "#/parameters/pet")]) (.object [
          ("in", .string "body"),
          ("schema", .object [("type", .string "object"), ("title", .string "Pet")])]) :=
        .reference rfl fragment (by rfl)
      cases reads.unique body
      exact ⟨by simp [find?], by simp [find?]⟩
    · cases reads.unique (.itself (by simp [Value.get?, find?]))
      exact ⟨by simp [find?, Value.IsScalar], by simp [find?]⟩
  obtain ⟨-, alike⟩ := specification_reordered distinct reordered_addition order
  obtain ⟨spec, loads⟩ : ∃ spec, specification addition = .ok spec := ⟨_, by with_unfolding_all rfl⟩
  obtain ⟨spec', loads', like, -, sources⟩ := alike plain spec loads
  exact ⟨distinct, reordered_addition, order, spec, spec', loads, loads', like, sources⟩

end SwaggerRoutes.Api
