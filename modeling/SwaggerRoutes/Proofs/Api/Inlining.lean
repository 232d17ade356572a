/-
A reference may be replaced by its target. Other references point into the document in which this is
done, at the edited operation, at its path, or at the whole, but what they read of a parameter stands
under other names than the edited member; and what a reference that can be read designates is neither the
replaced reference nor a part of it. The main statement is that the specification stays the same.
-/
import SwaggerRoutes.Proofs.Api.Agreement
import SwaggerRoutes.Proofs.Api.FirstFault
import SwaggerRoutes.Proofs.Json.Place

namespace SwaggerRoutes.Api

open SwaggerRoutes.Json

/-! ## What a parameter reads -/

/-- The names under which an object describes a parameter. -/
def parameterFields : List String :=
  ["name", "in", "required", "description", "type", "default", "enum", "collectionFormat", "items", "schema"]

/-- A parameter depends on nothing but these members. -/
theorem parameter_congr {members members' : List (String × Value)}
    (same : ∀ name ∈ parameterFields, find? name members' = find? name members) :
    parameter (.object members') = parameter (.object members) := by
  simp only [parameterFields, List.forall_mem_cons] at same
  obtain ⟨name, location, required, description, type, default, enum, collectionFormat, items, schema, -⟩ := same
  simp only [parameter, kind, serialization, stringField?, defaultText?, enumTexts, Value.object?, name, location,
    required, description, type, default, enum, collectionFormat, items, schema]

/-- What changes below a member of another name does not change a parameter. -/
theorem parameter_replaced {name : String} (unread : name ∉ parameterFields) (value : Value)
    (rest : List Step) (new : Value) :
    parameter (value.replaced (.member name :: rest) new) = parameter value := by
  rw [Value.replaced]
  cases found : value.part? (.member name) with
  | none => rfl
  | some part =>
    obtain ⟨members, _, rfl, ⟨⟩, -⟩ | ⟨_, _, _, ⟨⟩, _⟩ := Value.part?_cases found
    refine parameter_congr fun field mem => find?_put_of_ne ?_ _ _
    rintro rfl
    exact unread mem

theorem exists_of_parameter_eq_ok {value : Value} {p : Parameter} (h : parameter value = .ok p) :
    ∃ members, value = .object members := by
  cases value with
  | object members => exact ⟨members, rfl⟩
  | _ => cases h

/-! ## Entries that can be read -/

theorem entryParameter_of_reads {document entry value : Value} (reads : Reads document entry value) :
    entryParameter document entry = parameter value := by
  rcases resolve_cases document entry with
    ⟨other, resolved, reads'⟩ | ⟨reference, -, refers, lost⟩
  · rw [entryParameter, resolved, reads.unique reads']
    rfl
  · exact (reads.not_lost refers lost).elim

/-- A parameter is read off the value that its entry stands for. -/
theorem exists_reads {document entry : Value} {p : Parameter} (h : entryParameter document entry = .ok p) :
    ∃ value, Reads document entry value ∧ parameter value = .ok p := by
  rcases resolve_cases document entry with ⟨value, resolved, reads⟩ | ⟨reference, refused, -⟩
  · rw [entryParameter_of_reads reads] at h
    exact ⟨value, reads, h⟩
  · rw [entryParameter, refused] at h
    cases h

/-- If a document can be read, then so can all entries. -/
theorem exists_of_specification_eq_ok {document : Value} {spec : Specification}
    (loads : specification document = .ok spec) {o : Occurrence} (mem : o ∈ occurrences document) :
    ∃ p, entryParameter document o.entry = .ok p := by
  have none : (occurrences document).findSome? (Occurrence.fault? document) = none := by
    rw [← fault?_specification, loads]
    rfl
  have sound := Occurrence.fault?_eq_none.1 (List.findSome?_eq_none_iff.1 none o mem)
  cases reading : entryParameter document o.entry with
  | error cause => exact absurd (entryParameter_eq_error_iff.1 reading) (sound cause)
  | ok p => exact ⟨p, rfl⟩

/-! ## The edited place -/

/-- The place of an entry in the parameters of an operation. -/
def entryPlace (path : String) (method : Method) (i : Nat) : List Step :=
  [.member "paths", .member path, .member method.name, .member "parameters", .item i]

/-- An entry that is nothing but a reference. -/
def referenceTo (reference : String) : Value := .object [("$ref", .string reference)]

theorem Method.name_notMem_parameterFields (method : Method) : method.name ∉ parameterFields := by
  cases method <;> decide

/-- From a point on the way to an entry other than the object of all paths, the way leads on by a name
that no parameter reads, or into an array, or it has ended. -/
theorem cases_entryPlace {path : String} {method : Method} {i : Nat} {taken rest : List Step}
    (split : entryPlace path method i = taken ++ rest) :
    taken = [.member "paths"] ∨ (∃ name further, rest = .member name :: further ∧ name ∉ parameterFields) ∨
      rest = [.item i] ∨ rest = [] := by
  match taken, split with
  | [], split => exact .inr (.inl ⟨"paths", _, split.symm, by decide⟩)
  | [_], split => cases split; exact .inl rfl
  | [_, _], split => cases split; exact .inr (.inl ⟨_, _, rfl, method.name_notMem_parameterFields⟩)
  | [_, _, _], split => cases split; exact .inr (.inl ⟨"parameters", _, rfl, by decide⟩)
  | [_, _, _, _], split => cases split; exact .inr (.inr (.inl rfl))
  | [_, _, _, _, _], split => cases split; exact .inr (.inr (.inr rfl))
  | _ :: _ :: _ :: _ :: _ :: _ :: _, split => cases split

section Replaced

variable {document new : Value} {path : String} {method : Method} {i : Nat} {reference : String}

/-- Nothing below a reference is an object. -/
theorem follow?_referenceTo_ne (reference next : String) (further : List String)
    (members : List (String × Value)) :
    (referenceTo reference).follow? (next :: further) ≠ some (.object members) := by
  intro leads
  rw [Value.follow?_cons, referenceTo, Value.step?, find?] at leads
  split at leads
  · cases further with
    | nil => cases leads
    | cons => cases leads
  · cases leads

/-- Where a pointer leads to a parameter, the edit leaves this parameter as it is. -/
theorem pointer?_replaced (stands : document.at? (entryPlace path method i) = some (referenceTo reference))
    {pointer : List Char} {value : Value} {p : Parameter} (designates : document.pointer? pointer = some value)
    (reads : parameter value = .ok p) (other : pointer ≠ "/paths".toList) :
    ∃ value', (document.replaced (entryPlace path method i) new).pointer? pointer = some value' ∧
      parameter value' = .ok p := by
  -- the pointer meets the edit in one of three ways; a parameter is an object, so it cannot pass it
  obtain ⟨steps, hsteps, leads⟩ := Value.pointer?_eq_some_iff.1 designates
  obtain ⟨members, rfl⟩ := exists_of_parameter_eq_ok reads
  cases course stands new steps with
  | aside same =>
    exact ⟨_, Value.pointer?_eq_some_iff.2 ⟨steps, hsteps, same.trans leads⟩, reads⟩
  | above taken rest part split written holds before after =>
    obtain rfl : part = .object members := Option.some.inj (before.symm.trans leads)
    rcases cases_entryPlace split with rfl | ⟨name, further, rfl, unread⟩ | rfl | rfl
    · -- the only pointer to the object of all paths
      cases written with
      | cons first none =>
        cases none
        obtain rfl : _ = "paths" := first
        exact absurd (eq_of_steps?_eq_singleton hsteps (by decide) (by decide)) other
    · refine ⟨_, Value.pointer?_eq_some_iff.2 ⟨steps, hsteps, after⟩, ?_⟩
      rw [parameter_replaced unread, reads]
    · -- an object has no items
      cases holds
    · -- the reference itself describes no parameter
      cases holds
      cases reads
  | below taken next further split written before after =>
    exact absurd (before.symm.trans leads) (follow?_referenceTo_ne reference next further members)

theorem entryParameter_replaced (stands : document.at? (entryPlace path method i) = some (referenceTo reference))
    {entry : Value} {p : Parameter} (reads : entryParameter document entry = .ok p)
    (other : entry.get? "$ref" ≠ some (.string "#/paths")) :
    entryParameter (document.replaced (entryPlace path method i) new) entry = .ok p := by
  obtain ⟨value, means, described⟩ := exists_reads reads
  cases means with
  | itself plain => rw [entryParameter_of_reads (.itself plain), described]
  | @reference text pointer _ refers fragment designates =>
    -- the pointer is not `/paths`, since the reference is not `#/paths`
    have elsewhere : pointer ≠ "/paths".toList := by
      rintro rfl
      have spelling : text = "#/paths" := String.toList_inj.1 (fragment.trans (by decide))
      exact other (spelling ▸ refers)
    obtain ⟨value', designates', described'⟩ := pointer?_replaced stands designates described elsewhere
    rw [entryParameter_of_reads (.reference refers fragment designates'), described']

end Replaced

/-! ## Documents that differ in one entry -/

section Unchanged

variable {document document' : Value}

theorem membersAgree_self {members : List (String × Value)}
    (same : ∀ entry ∈ parameterEntries members,
      entryParameter document entry = entryParameter document' entry) :
    MembersAgree document document' Eq members members :=
  ⟨rfl, rfl, rfl, rfl, List.forall₂_same.2 fun entry mem => .of_eq (same entry mem)⟩

theorem itemsAgree_self {item : Value}
    (same : ∀ method members, (method, members) ∈ declaredOperations item →
      ∀ entry ∈ parameterEntries members,
        entryParameter document entry = entryParameter document' entry) :
    ItemsAgree document document' Eq item item := by
  intro method
  cases declared : (item.get? method.name).bind Value.object? with
  | none => exact .none
  | some members =>
    have declared := mem_declaredOperations.2 (bind_object?_eq_some.1 declared)
    exact .some (membersAgree_self (same method members declared))

/-- An operation in which one entry is replaced by another that reads alike. -/
theorem membersAgree_replaced {members : List (String × Value)} {i : Nat} {entry new : Value}
    (stands : (Value.object members).at? [.member "parameters", .item i] = some entry)
    (alike : entryParameter document entry = entryParameter document' new)
    (same : ∀ entry ∈ parameterEntries members,
      entryParameter document entry = entryParameter document' entry) :
    ∃ members', (Value.object members).replaced [.member "parameters", .item i] new = .object members' ∧
      MembersAgree document document' Eq members members' := by
  obtain ⟨_, list, ⟨⟩, hlist, stands⟩ := Value.at?_member stands
  obtain ⟨entries, _, rfl, hentry, ⟨⟩⟩ := Value.at?_item stands
  have listed : parameterEntries members = entries := by rw [parameterEntries, hlist]; rfl
  rw [listed] at same
  refine ⟨_, Value.replaced_member hlist _ new, ?_⟩
  rw [Value.replaced_item hentry]
  -- the other fields stand under other names
  have field (name : String) (other : name ≠ "parameters") (value : Value) :
      find? name (put "parameters" value members) = find? name members := find?_put_of_ne other value members
  refine ⟨?_, ?_, ?_, ?_, ?_⟩
  · rw [stringField?, stringField?, field _ (by decide)]
  · rw [stringField?, stringField?, field _ (by decide)]
  · rw [stringList, stringList, field _ (by decide)]
  · rw [stringList, stringList, field _ (by decide)]
  · rw [listed, parameterEntries, find?_put_self]
    exact forall₂_set hentry (.of_eq alike) fun entry mem => .of_eq (same entry mem)

/-- A path in which the operation under one verb is replaced by another that agrees with it. -/
theorem itemsAgree_put {verbs members members' : List (String × Value)} {method : Method}
    (found : find? method.name verbs = some (.object members))
    (agree : MembersAgree document document' Eq members members')
    (same : ∀ method members, (method, members) ∈ declaredOperations (.object verbs) →
      ∀ entry ∈ parameterEntries members,
        entryParameter document entry = entryParameter document' entry) :
    ItemsAgree document document' Eq (.object verbs) (.object (put method.name (.object members') verbs)) := by
  intro other
  by_cases verb : other = method
  · subst verb
    rw [Value.get?, Value.get?, found, find?_put_self]
    exact .some agree
  · have names : other.name ≠ method.name := fun names => verb (Method.name_inj names)
    rw [Value.get?, Value.get?, find?_put_of_ne names]
    exact itemsAgree_self same other

theorem itemsAgree_replaced {item entry new : Value} {method : Method} {i : Nat}
    (stands : item.at? [.member method.name, .member "parameters", .item i] = some entry)
    (alike : entryParameter document entry = entryParameter document' new)
    (same : ∀ method members, (method, members) ∈ declaredOperations item →
      ∀ entry ∈ parameterEntries members,
        entryParameter document entry = entryParameter document' entry) :
    ItemsAgree document document' Eq item
      (item.replaced [.member method.name, .member "parameters", .item i] new) := by
  obtain ⟨verbs, operation, rfl, found, below⟩ := Value.at?_member stands
  obtain ⟨members, _, rfl, -, -⟩ := Value.at?_member below
  have declared := mem_declaredOperations.2 (show (Value.object verbs).get? method.name = _ from found)
  obtain ⟨members', replaced, agree⟩ := membersAgree_replaced below alike (same method members declared)
  rw [Value.replaced_member found, replaced]
  exact itemsAgree_put found agree same

/-- A document in which something at or below a path is replaced, while the path agrees with what it was and
all entries of the document read as before. -/
theorem agree_specification_replaced {path : String} {rest : List Step} {old new : Value}
    (stands : document.at? (.member "paths" :: .member path :: rest) = some old)
    (counts : isExtension path = false)
    (edited : document.replaced (.member "paths" :: .member path :: rest) new = document')
    (same : ∀ o ∈ occurrences document, entryParameter document o.entry = entryParameter document' o.entry)
    (agree : ∀ item, item.at? rest = some old →
      (∀ method members, (method, members) ∈ declaredOperations item →
        ∀ entry ∈ parameterEntries members,
          entryParameter document entry = entryParameter document' entry) →
      ItemsAgree document document' Eq item (item.replaced rest new)) :
    Agree (Specification.Like Eq) (specification document) (specification document') := by
  obtain ⟨root, object, rfl, hroot, below⟩ := Value.at?_member stands
  obtain ⟨paths, item, rfl, hitem, below'⟩ := Value.at?_member below
  have kept : (!isExtension path) = true := by rw [counts]; rfl
  -- the edited path among those declared
  have before : declaredPaths (.object root) = paths.filter fun member => !isExtension member.1 := by
    rw [declaredPaths, Value.get?, hroot]; rfl
  have after : declaredPaths document' =
      put path (item.replaced rest new) (declaredPaths (.object root)) := by
    rw [← edited, Value.replaced_member hroot, Value.replaced_member hitem, declaredPaths,
      Value.get?, find?_put_self, before]
    exact @filter_put (fun name => !isExtension name) path kept _ _
  have entries {path : String} {item : Value} (onPath : (path, item) ∈ declaredPaths (.object root))
      (method : Method) (members : List (String × Value)) (declared : (method, members) ∈ declaredOperations item)
      (entry : Value) (listed : entry ∈ parameterEntries members) :
      entryParameter (.object root) entry = entryParameter document' entry :=
    same ⟨path, method, entry⟩ (mem_occurrences_of_declared onPath declared listed)
  have onPath : find? path (declaredPaths (.object root)) = some item := by
    rw [before, ← hitem]
    exact @find?_filter (fun name => !isExtension name) path kept _
  refine agree_specification ?_ ?_
  · rw [← edited, Value.replaced_member hroot, title?, title?, infoField?, infoField?, Value.get?,
      Value.get?, find?_put_of_ne (by decide)]
  · rw [after]
    exact forall₂_put onPath (agree item below' (entries (mem_of_find? onPath)))
      fun _ _ mem => itemsAgree_self (entries mem)

/-- A document in which one entry is replaced by another that reads alike, while all entries of it read as
before. -/
theorem specification_eq_of_replaced {path : String} {method : Method} {i : Nat} {entry new : Value}
    (stands : document.at? (entryPlace path method i) = some entry) (counts : isExtension path = false)
    (edited : document.replaced (entryPlace path method i) new = document')
    (alike : entryParameter document entry = entryParameter document' new)
    (same : ∀ o ∈ occurrences document, entryParameter document o.entry = entryParameter document' o.entry) :
    Agree (Specification.Like Eq) (specification document) (specification document') :=
  agree_specification_replaced stands counts edited same fun _ below => itemsAgree_replaced below alike

end Unchanged

/-! ## The whole -/

/-- If the specification of a document can be read, an entry that is nothing but a reference may be replaced
by what it designates, provided that this is not a reference itself and that no reference of an entry is
to the object of all paths: the specification stays the same. -/
theorem specification_replaced {document target : Value} {spec : Specification} {path : String}
    {method : Method} {i : Nat} {reference : String}
    (loads : specification document = .ok spec)
    (others : ∀ o ∈ occurrences document, o.entry.get? "$ref" ≠ some (.string "#/paths"))
    (counts : isExtension path = false)
    (stands : document.at? (entryPlace path method i) = some (referenceTo reference))
    (designates : Reads document (referenceTo reference) target)
    (plain : ∀ text, target.get? "$ref" ≠ some (.string text)) :
    specification (document.replaced (entryPlace path method i) target) = .ok spec := by
  generalize edited : document.replaced (entryPlace path method i) target = document'
  have same : ∀ o ∈ occurrences document,
      entryParameter document o.entry = entryParameter document' o.entry := by
    intro o mem
    obtain ⟨p, reads⟩ := exists_of_specification_eq_ok loads mem
    rw [reads, ← edited, entryParameter_replaced stands reads (others o mem)]
  have alike : entryParameter document (referenceTo reference) = entryParameter document' target := by
    rw [entryParameter_of_reads designates, entryParameter_of_reads (.itself plain)]
  obtain ⟨spec', loads', like⟩ :=
    (specification_eq_of_replaced stands counts edited alike same).exists_of_ok loads
  rw [loads', like.eq]

/-- A document whose only operation is also the target of a reference. -/
def selfReferring : Value := .object [
  ("paths", .object [("/pets", .object [("get", .object [
    ("name", .string "tag"),
    ("in", .string "query"),
    ("parameters", .array [referenceTo "#/parameters/limit", referenceTo "#/paths/~1pets/get"])])])]),
  ("parameters", .object [("limit", .object [("name", .string "limit"), ("in", .string "query")])])]

theorem specification_replaced_selfReferring :
    ∃ spec, specification selfReferring = .ok spec ∧ spec.operationCount = 1 ∧
      selfReferring.at? (entryPlace "/pets" .get 0) = some (referenceTo "#/parameters/limit") ∧
      specification (selfReferring.replaced (entryPlace "/pets" .get 0)
        (.object [("name", .string "limit"), ("in", .string "query")])) = .ok spec := by
  obtain ⟨spec, loads, one⟩ : ∃ spec, specification selfReferring = .ok spec ∧ spec.operationCount = 1 :=
    ⟨_, by with_unfolding_all rfl, by with_unfolding_all rfl⟩
  have stands : selfReferring.at? (entryPlace "/pets" .get 0) = some (referenceTo "#/parameters/limit") := by rfl
  have both : occurrences selfReferring =
      [⟨"/pets", .get, referenceTo "#/parameters/limit"⟩, ⟨"/pets", .get, referenceTo "#/paths/~1pets/get"⟩] := by
    with_unfolding_all rfl
  have others : ∀ o ∈ occurrences selfReferring, o.entry.get? "$ref" ≠ some (.string "#/paths") := by
    rw [both]
    simp [referenceTo, Value.get?, find?]
  have fragment : "#/parameters/limit".toList = '#' :: "/parameters/limit".toList := by decide
  have designates : Reads selfReferring (referenceTo "#/parameters/limit")
      (.object [("name", .string "limit"), ("in", .string "query")]) := .reference rfl fragment (by rfl)
  have plain : ∀ text, (Value.object [("name", .string "limit"), ("in", .string "query")]).get? "$ref" ≠
      some (.string text) := by simp [Value.get?, find?]
  exact ⟨spec, loads, one, stands,
    specification_replaced loads others (by decide +kernel) stands designates plain⟩

end SwaggerRoutes.Api
