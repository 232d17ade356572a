/-
Members that are not read. Extensions among the paths, names in a path that are no verbs, and names in an
operation that are none of its fields may hold anything: the value of a reference either stands elsewhere,
or holds the added member under a name that no parameter reads, or is reached past the added member. The
main statement is that such a member can be added anywhere in its object, as long as no reference leads to
the object itself or to the object of all paths.
-/
import SwaggerRoutes.Proofs.Api.Inlining

namespace SwaggerRoutes.Api

open SwaggerRoutes.Json

/-! ## Places of members that are not read -/

/-- The names under which an object describes an operation. -/
def operationFields : List String := ["operationId", "description", "consumes", "produces", "parameters"]

/-- In the object at the place, nothing is read under the name. -/
inductive Unread : (place : List Step) → (name : String) → Prop
  | ofPaths {name : String} (apart : isExtension name = true) : Unread [.member "paths"] name
  | ofPath {path name : String} (counts : isExtension path = false)
      (noVerb : ∀ method : Method, name ≠ method.name) : Unread [.member "paths", .member path] name
  | ofOperation {path name : String} {method : Method} (counts : isExtension path = false)
      (noField : name ∉ operationFields) :
      Unread [.member "paths", .member path, .member method.name] name

/-- The steps of the pointer are those of the place. -/
def Designates (pointer : List Char) (place : List Step) : Prop :=
  ∃ steps, steps? pointer = some steps ∧ List.Forall₂ (fun text step => step.Written text) steps place

/-- No entry of a list of parameters has a reference to the place. -/
def Unreferred (document : Value) (place : List Step) : Prop :=
  ∀ o ∈ occurrences document, ∀ reference pointer, o.entry.get? "$ref" = some (.string reference) →
    reference.toList = '#' :: pointer → ¬ Designates pointer place

/-! ## What references read -/

section References

variable {document : Value} {place : List Step} {name : String} {before after : List (String × Value)}

/-- From a point on the way to the object other than the object of all paths, the way leads on by a name that
no parameter reads, or it has ended. -/
theorem Unread.cases_split (unread : Unread place name) {taken rest : List Step} (split : place = taken ++ rest) :
    taken = [.member "paths"] ∨ (∃ name further, rest = .member name :: further ∧ name ∉ parameterFields) ∨
      taken = place := by
  cases unread with
  | ofPaths =>
    match taken, split with
    | [], split => exact .inr (.inl ⟨"paths", _, split.symm, by decide⟩)
    | [_], split => cases split; exact .inl rfl
    | _ :: _ :: _, split => cases split
  | ofPath =>
    match taken, split with
    | [], split => exact .inr (.inl ⟨"paths", _, split.symm, by decide⟩)
    | [_], split => cases split; exact .inl rfl
    | [_, _], split => cases split; exact .inr (.inr rfl)
    | _ :: _ :: _ :: _, split => cases split
  | @ofOperation path name method =>
    match taken, split with
    | [], split => exact .inr (.inl ⟨"paths", _, split.symm, by decide⟩)
    | [_], split => cases split; exact .inl rfl
    | [_, _], split => cases split; exact .inr (.inl ⟨_, _, rfl, method.name_notMem_parameterFields⟩)
    | [_, _, _], split => cases split; exact .inr (.inr rfl)
    | _ :: _ :: _ :: _ :: _, split => cases split

/-- What is reached past an object is reached past it with one more member, too. -/
theorem follow?_insert (fresh : name ∉ (before ++ after).map Prod.fst) (value : Value) {next : String}
    {further : List String} {part : Value}
    (leads : (Value.object (before ++ after)).follow? (next :: further) = some part) :
    (Value.object (before ++ (name, value) :: after)).follow? (next :: further) = some part := by
  obtain ⟨inner, found, onward⟩ := Option.bind_eq_some_iff.1 leads
  have there : next ∈ (before ++ after).map Prod.fst :=
    (find?_isSome_iff next _).1 (Option.isSome_iff_exists.2 ⟨inner, found⟩)
  have other : next ≠ name := by rintro rfl; exact fresh there
  have found' : find? next (before ++ (name, value) :: after) = some inner := by
    rw [find?_insert_of_ne other]; exact found
  exact Option.bind_eq_some_iff.2 ⟨inner, found', onward⟩

/-- Where a pointer leads to a parameter, the added member leaves this parameter as it is. -/
theorem pointer?_insert (unread : Unread place name) (stands : document.at? place = some (.object (before ++ after)))
    (fresh : name ∉ (before ++ after).map Prod.fst) (value : Value) {pointer : List Char} {part : Value}
    {p : Parameter} (designates : document.pointer? pointer = some part) (reads : parameter part = .ok p)
    (other : ¬ Designates pointer place) (other' : ¬ Designates pointer [.member "paths"]) :
    ∃ part', (document.replaced place (.object (before ++ (name, value) :: after))).pointer? pointer = some part' ∧
      parameter part' = .ok p := by
  obtain ⟨steps, hsteps, leads⟩ := Value.pointer?_eq_some_iff.1 designates
  cases course stands (.object (before ++ (name, value) :: after)) steps with
  | aside same =>
    exact ⟨part, Value.pointer?_eq_some_iff.2 ⟨steps, hsteps, same.trans leads⟩, reads⟩
  | above taken rest part' split written holds isPart isPart' =>
    obtain rfl : part' = part := Option.some.inj (isPart.symm.trans leads)
    rcases unread.cases_split split with rfl | ⟨name, further, rfl, unread⟩ | rfl
    · exact absurd ⟨steps, hsteps, written⟩ other'
    · refine ⟨_, Value.pointer?_eq_some_iff.2 ⟨steps, hsteps, isPart'⟩, ?_⟩
      rw [parameter_replaced unread, reads]
    · exact absurd ⟨steps, hsteps, written⟩ other
  | below taken next further split written isPart isPart' =>
    have onward := follow?_insert fresh value (isPart.symm.trans leads)
    exact ⟨part, Value.pointer?_eq_some_iff.2 ⟨steps, hsteps, isPart'.trans onward⟩, reads⟩

end References

/-! ## What is read besides references -/

section Agreement

variable {document document' : Value} {members members' : List (String × Value)}

/-- Two objects with the same fields, in which the entries read alike. -/
theorem membersAgree_congr (fields : ∀ field ∈ operationFields, find? field members' = find? field members)
    (same : ∀ entry ∈ parameterEntries members,
      entryParameter document entry = entryParameter document' entry) :
    MembersAgree document document' Eq members members' := by
  simp only [operationFields, List.forall_mem_cons] at fields
  obtain ⟨id, description, consumes, produces, parameters, -⟩ := fields
  have entries : parameterEntries members' = parameterEntries members := by
    rw [parameterEntries, parameters, parameterEntries]
  refine ⟨?_, ?_, ?_, ?_, ?_⟩
  · rw [stringField?, stringField?, id]
  · rw [stringField?, stringField?, description]
  · rw [stringList, stringList, consumes]
  · rw [stringList, stringList, produces]
  · rw [entries]
    exact (membersAgree_self same).entries

/-- Two objects with the same operations, in which the entries read alike. -/
theorem itemsAgree_congr
    (verbs : ∀ method : Method, find? method.name members' = find? method.name members)
    (same : ∀ method inner, (method, inner) ∈ declaredOperations (.object members) →
      ∀ entry ∈ parameterEntries inner, entryParameter document entry = entryParameter document' entry) :
    ItemsAgree document document' Eq (.object members) (.object members') := by
  intro method
  have verb : (Value.object members').get? method.name = (Value.object members).get? method.name := verbs method
  rw [verb]
  exact itemsAgree_self same method

end Agreement

section Extended

variable {document document' value : Value} {place : List Step} {name : String}
  {before after : List (String × Value)}

/-- An extension among the paths is left out. -/
theorem agree_specification_ofPaths (stands : document.at? [.member "paths"] = some (.object (before ++ after)))
    (apart : isExtension name = true)
    (edited : document.replaced [.member "paths"] (.object (before ++ (name, value) :: after)) = document')
    (same : ∀ o ∈ occurrences document, entryParameter document o.entry = entryParameter document' o.entry) :
    Agree (Specification.Like Eq) (specification document) (specification document') := by
  obtain ⟨root, object, rfl, hroot, ⟨⟩⟩ := Value.at?_member stands
  have declared : declaredPaths document' = declaredPaths (.object root) := by
    have old : declaredPaths (.object root) = (before ++ after).filter fun member => !isExtension member.1 := by
      rw [declaredPaths, Value.get?, hroot]; rfl
    have new : declaredPaths document' =
        (before ++ (name, value) :: after).filter fun member => !isExtension member.1 := by
      rw [← edited, Value.replaced_member hroot, declaredPaths, Value.get?, find?_put_self]; rfl
    rw [old, new, List.filter_append, List.filter_append, List.filter_cons_of_neg (by simp [apart])]
  refine agree_specification ?_ ?_
  · rw [← edited, Value.replaced_member hroot, title?, title?, infoField?, infoField?, Value.get?, Value.get?,
      find?_put_of_ne (by decide)]
  · rw [declared]
    refine List.forall₂_same.2 fun row onPath => .row row.1 (itemsAgree_self ?_)
    exact fun method members operation entry listed =>
      same ⟨row.1, method, entry⟩ (mem_occurrences_of_declared onPath operation listed)

/-- A document with an added member that is not read, while all entries read as before. -/
theorem agree_specification_insert (unread : Unread place name)
    (stands : document.at? place = some (.object (before ++ after)))
    (edited : document.replaced place (.object (before ++ (name, value) :: after)) = document')
    (same : ∀ o ∈ occurrences document, entryParameter document o.entry = entryParameter document' o.entry) :
    Agree (Specification.Like Eq) (specification document) (specification document') := by
  cases unread with
  | ofPaths apart => exact agree_specification_ofPaths stands apart edited same
  | ofPath counts noVerb =>
    refine agree_specification_replaced stands counts edited same fun item ends entries => ?_
    obtain rfl : item = .object (before ++ after) := Option.some.inj ends
    exact itemsAgree_congr (fun method => find?_insert_of_ne (noVerb method).symm value before after) entries
  | ofOperation counts noField =>
    refine agree_specification_replaced stands counts edited same fun item ends entries => ?_
    obtain ⟨verbs, operation, rfl, found, ⟨⟩⟩ := Value.at?_member ends
    have declared := mem_declaredOperations.2 (show (Value.object verbs).get? _ = _ from found)
    have fields : ∀ field ∈ operationFields,
        find? field (before ++ (name, value) :: after) = find? field (before ++ after) := by
      intro field mem
      exact find?_insert_of_ne (by rintro rfl; exact noField mem) value before after
    rw [Value.replaced_member found]
    exact itemsAgree_put found (membersAgree_congr fields (entries _ _ declared)) entries

end Extended

/-! ## The whole -/

/-- If the specification of a document can be read, a member that is not read can be added anywhere in its
object, provided that no reference of an entry is to this object or to the object of all paths: the
specification stays the same. -/
theorem specification_insert {document : Value} {spec : Specification} {place : List Step} {name : String}
    {before after : List (String × Value)} (loads : specification document = .ok spec)
    (unread : Unread place name) (stands : document.at? place = some (.object (before ++ after)))
    (fresh : name ∉ (before ++ after).map Prod.fst) (unreferred : Unreferred document place)
    (unreferred' : Unreferred document [.member "paths"]) (value : Value) :
    specification (document.replaced place (.object (before ++ (name, value) :: after))) = .ok spec := by
  generalize edited : document.replaced place (.object (before ++ (name, value) :: after)) = document'
  have same : ∀ o ∈ occurrences document,
      entryParameter document o.entry = entryParameter document' o.entry := by
    intro o mem
    obtain ⟨p, reads⟩ := exists_of_specification_eq_ok loads mem
    rw [reads, ← edited]
    obtain ⟨part, means, described⟩ := exists_reads reads
    cases means with
    | itself plain => rw [entryParameter_of_reads (.itself plain), described]
    | reference refers fragment designates =>
      obtain ⟨part', designates', described'⟩ := pointer?_insert unread stands fresh value designates described
        (unreferred o mem _ _ refers fragment) (unreferred' o mem _ _ refers fragment)
      rw [entryParameter_of_reads (.reference refers fragment designates'), described']
  obtain ⟨spec', loads', like⟩ := (agree_specification_insert unread stands edited same).exists_of_ok loads
  rw [loads', like.eq]

/-- A document whose operation holds a parameter to which a reference leads, and stands in a path that is
a parameter in the eyes of another reference. -/
def aroundOperation : Value := .object [
  ("paths", .object [("/pets", .object [
    ("name", .string "tag"),
    ("in", .string "query"),
    ("get", .object [
      ("x-limit", .object [("name", .string "limit"), ("in", .string "query")]),
      ("parameters", .array [referenceTo "#/paths/~1pets/get/x-limit", referenceTo "#/paths/~1pets"])])])])]

/-- Between the two members of the operation, a third one that is a parameter for nobody. -/
theorem specification_insert_aroundOperation :
    ∃ spec, specification aroundOperation = .ok spec ∧ spec.operationCount = 1 ∧
      specification (aroundOperation.replaced [.member "paths", .member "/pets", .member "get"] (.object [
        ("x-limit", .object [("name", .string "limit"), ("in", .string "query")]),
        ("summary", referenceTo "#/paths"),
        ("parameters", .array [referenceTo "#/paths/~1pets/get/x-limit", referenceTo "#/paths/~1pets"])])) =
          .ok spec := by
  obtain ⟨spec, loads, one⟩ : ∃ spec, specification aroundOperation = .ok spec ∧ spec.operationCount = 1 :=
    ⟨_, by with_unfolding_all rfl, by with_unfolding_all rfl⟩
  have both : occurrences aroundOperation = [⟨"/pets", .get, referenceTo "#/paths/~1pets/get/x-limit"⟩,
      ⟨"/pets", .get, referenceTo "#/paths/~1pets"⟩] := by with_unfolding_all rfl
  have four : steps? "/paths/~1pets/get/x-limit".toList = some ["paths", "/pets", "get", "x-limit"] := by decide +kernel
  have two : steps? "/paths/~1pets".toList = some ["paths", "/pets"] := by decide +kernel
  have unreferred : ∀ place, place.length ≠ 4 → place.length ≠ 2 → Unreferred aroundOperation place := by
    intro place not4 not2 o mem reference pointer refers fragment ⟨steps, read, written⟩
    have length := written.length_eq
    rw [both, List.mem_cons, List.mem_singleton] at mem
    obtain rfl | rfl := mem
    · cases refers
      obtain rfl : pointer = "/paths/~1pets/get/x-limit".toList := (List.cons.inj fragment).2.symm
      cases four.symm.trans read
      exact not4 length.symm
    · cases refers
      obtain rfl : pointer = "/paths/~1pets".toList := (List.cons.inj fragment).2.symm
      cases two.symm.trans read
      exact not2 length.symm
  have counts : isExtension "/pets" = false := by decide +kernel
  have noField : "summary" ∉ operationFields := by decide
  have unread : Unread [.member "paths", .member "/pets", .member Method.get.name] "summary" :=
    .ofOperation counts noField
  have stands : aroundOperation.at? [.member "paths", .member "/pets", .member "get"] = some (.object
      ([("x-limit", .object [("name", .string "limit"), ("in", .string "query")])] ++ [("parameters",
        .array [referenceTo "#/paths/~1pets/get/x-limit", referenceTo "#/paths/~1pets"])])) := rfl
  exact ⟨spec, loads, one, specification_insert loads unread stands (by decide)
    (unreferred _ (by decide) (by decide)) (unreferred _ (by decide) (by decide)) (referenceTo "#/paths")⟩

end SwaggerRoutes.Api
