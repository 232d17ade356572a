/-
When the reading of a document fails, and with what. An entry of a list of parameters is flawed if
its reference leads nowhere or if the value to read is no description of a parameter; whether it is
depends on nothing else in the document. The main statement is that the reading fails exactly if some
operation lists a flawed entry, and that it reports the first one in the order of paths, verbs and
entries.
-/
import SwaggerRoutes.Error
import SwaggerRoutes.Proofs.Api.Declaration

namespace SwaggerRoutes.Api

open SwaggerRoutes.Json

/-! ## Flawed entries -/

/-- The value to read for an entry: the one that its reference designates, or the entry itself if it
has no reference. -/
inductive Reads (document entry : Value) : Value → Prop
  | itself (plain : ∀ reference, entry.get? "$ref" ≠ some (.string reference)) :
      Reads document entry entry
  | reference {reference : String} {pointer : List Char} {value : Value}
      (refers : entry.get? "$ref" = some (.string reference))
      (fragment : reference.toList = '#' :: pointer)
      (designates : document.pointer? pointer = some value) : Reads document entry value

/-- A value is no description of a parameter, and why. -/
inductive Malformed : Value → ParameterFault → Prop
  | notObject {value : Value} (other : ∀ members, value ≠ .object members) :
      Malformed value .notObject
  | noLocation {members : List (String × Value)}
      (missing : ∀ spelling, find? "in" members ≠ some (.string spelling)) :
      Malformed (.object members) (.noLocation ((stringField? "name" members).getD ""))
  | unknownLocation {members : List (String × Value)} {spelling : String}
      (given : find? "in" members = some (.string spelling))
      (unknown : spelling ∉ ["query", "header", "path", "body", "formData"]) :
      Malformed (.object members)
        (.unknownLocation ((stringField? "name" members).getD "") spelling)

/-- An entry cannot be read as a parameter, and why. -/
inductive Flawed (document entry : Value) : ParameterFault → Prop
  | unresolved {reference : String} (refers : entry.get? "$ref" = some (.string reference))
      (lost : ∀ pointer, reference.toList = '#' :: pointer → document.pointer? pointer = none) :
      Flawed document entry (.unresolved reference)
  | malformed {value : Value} {cause : ParameterFault} (reads : Reads document entry value)
      (wrong : Malformed value cause) : Flawed document entry cause

/-! ## Reading an entry -/

theorem string?_eq_some {value : Value} {text : String} :
    value.string? = some text ↔ value = .string text := by
  cases value <;> simp [Value.string?]

theorem object?_eq_some {value : Value} {members : List (String × Value)} :
    value.object? = some members ↔ value = .object members := by
  cases value <;> simp [Value.object?]

theorem array?_eq_some {value : Value} {items : List Value} :
    value.array? = some items ↔ value = .array items := by
  cases value <;> simp [Value.array?]

theorem bind_string?_eq_some {value? : Option Value} {text : String} :
    value?.bind Value.string? = some text ↔ value? = some (.string text) := by
  cases value? <;> simp [string?_eq_some]

theorem bind_object?_eq_some {value? : Option Value} {members : List (String × Value)} :
    value?.bind Value.object? = some members ↔ value? = some (.object members) := by
  cases value? <;> simp [object?_eq_some]

theorem bind_array?_eq_some {value? : Option Value} {items : List Value} :
    value?.bind Value.array? = some items ↔ value? = some (.array items) := by
  cases value? <;> simp [array?_eq_some]

theorem bind_string?_eq_none {value? : Option Value} :
    value?.bind Value.string? = none ↔ ∀ text, value? ≠ some (.string text) := by
  simp only [Option.eq_none_iff_forall_ne_some, ne_eq, bind_string?_eq_some]

theorem Location.ofName?_eq_none {spelling : String} :
    Location.ofName? spelling = none ↔ spelling ∉ ["query", "header", "path", "body", "formData"] := by
  have names : ["query", "header", "path", "body", "formData"] = Location.all.map Location.name := rfl
  rw [names, Location.ofName?, List.find?_eq_none, List.mem_map]
  simp

/-- What comes of resolving an entry. -/
theorem resolve_cases (document entry : Value) :
    (∃ value, resolve document entry = .ok value ∧ Reads document entry value) ∨
      ∃ reference, resolve document entry = .error (.unresolved reference) ∧
        entry.get? "$ref" = some (.string reference) ∧
        ∀ pointer, reference.toList = '#' :: pointer → document.pointer? pointer = none := by
  unfold resolve
  split
  next plain => exact .inl ⟨entry, rfl, .itself (bind_string?_eq_none.1 plain)⟩
  next reference refers =>
    have refers := bind_string?_eq_some.1 refers
    split
    next pointer fragment =>
      cases designates : document.pointer? pointer with
      | some value => exact .inl ⟨value, rfl, .reference refers fragment designates⟩
      | none =>
        refine .inr ⟨reference, rfl, refers, fun other same => ?_⟩
        rw [fragment] at same
        rw [← (List.cons.inj same).2, designates]
    next foreign => exact .inr ⟨reference, rfl, refers, fun pointer same => absurd same (foreign pointer)⟩

theorem Reads.unique {document entry value value' : Value} (reads : Reads document entry value)
    (reads' : Reads document entry value') : value = value' := by
  cases reads with
  | itself plain =>
    cases reads' with
    | itself => rfl
    | reference refers => exact absurd refers (plain _)
  | reference refers fragment designates =>
    cases reads' with
    | itself plain => exact absurd refers (plain _)
    | reference refers' fragment' designates' =>
      rw [refers, Option.some.injEq, Value.string.injEq] at refers'
      subst refers'
      rw [fragment, List.cons.injEq] at fragment'
      rw [← fragment'.2, designates] at designates'
      exact Option.some.inj designates'

theorem Reads.not_lost {document entry value : Value} (reads : Reads document entry value)
    {reference : String} (refers : entry.get? "$ref" = some (.string reference))
    (lost : ∀ pointer, reference.toList = '#' :: pointer → document.pointer? pointer = none) : False := by
  cases reads with
  | itself plain => exact plain _ refers
  | reference refers' fragment designates =>
    rw [refers, Option.some.injEq, Value.string.injEq] at refers'
    subst refers'
    rw [lost _ fragment] at designates
    cases designates

theorem parameter_eq_error_iff {value : Value} {cause : ParameterFault} :
    parameter value = .error cause ↔ Malformed value cause := by
  constructor
  · unfold parameter
    split
    next other =>
      rintro ⟨⟩
      refine .notObject fun members same => ?_
      rw [object?_eq_some.2 same] at other
      cases other
    next members object =>
      obtain rfl := object?_eq_some.1 object
      dsimp only
      split
      next missing => rintro ⟨⟩; exact .noLocation (bind_string?_eq_none.1 missing)
      next spelling given =>
        split
        next unknown =>
          rintro ⟨⟩
          exact .unknownLocation (bind_string?_eq_some.1 given) (Location.ofName?_eq_none.1 unknown)
        next => rintro ⟨⟩
  · intro wrong
    cases wrong with
    | notObject other =>
      cases value with
      | object members => exact absurd rfl (other members)
      | _ => rfl
    | noLocation missing =>
      simp only [parameter, Value.object?, stringField?, bind_string?_eq_none.2 missing]
    | unknownLocation given unknown =>
      simp only [parameter, Value.object?, stringField?, bind_string?_eq_some.2 given,
        Location.ofName?_eq_none.2 unknown]

/-- An entry is refused exactly if it is flawed, with what is wrong with it. -/
theorem entryParameter_eq_error_iff {document entry : Value} {cause : ParameterFault} :
    entryParameter document entry = .error cause ↔ Flawed document entry cause := by
  rcases resolve_cases document entry with
    ⟨value, resolved, reads⟩ | ⟨reference, refused, refers, lost⟩
  · have step : entryParameter document entry = parameter value := by rw [entryParameter, resolved]; rfl
    rw [step, parameter_eq_error_iff]
    constructor
    · exact .malformed reads
    · intro flawed
      cases flawed with
      | unresolved refers lost => exact (reads.not_lost refers lost).elim
      | malformed reads' wrong => rwa [reads.unique reads']
  · have step : entryParameter document entry = .error (.unresolved reference) := by
      rw [entryParameter, refused]; rfl
    rw [step, Except.error.injEq]
    constructor
    · rintro rfl; exact .unresolved refers lost
    · intro flawed
      cases flawed with
      | unresolved refers' =>
        rw [refers, Option.some.injEq, Value.string.injEq] at refers'
        rw [refers']
      | malformed reads => exact (reads.not_lost refers lost).elim

/-! ## Readings one after the other -/

/-- The fault of a reading that fails. -/
def fault? {ε α : Type} : Except ε α → Option ε
  | .error fault => some fault
  | .ok _ => none

theorem fault?_eq_some {ε α : Type} {reading : Except ε α} {fault : ε} :
    fault? reading = some fault ↔ reading = .error fault := by
  cases reading <;> simp [fault?]

/-- What is done with the result of a reading adds no fault. -/
theorem fault?_bind_ok {ε α β : Type} (reading : Except ε α) (use : α → β) :
    fault? (reading >>= fun a => .ok (use a)) = fault? reading := by
  cases reading <;> rfl

/-- Readings in a row fail with the first fault among them. -/
theorem fault?_mapM {ε α β : Type} (read : α → Except ε β) (xs : List α) :
    fault? (xs.mapM read) = xs.findSome? fun x => fault? (read x) := by
  induction xs with
  | nil => rfl
  | cons x xs ih =>
    rw [List.mapM_cons, List.findSome?_cons, ← ih]
    cases read x with
    | error fault => rfl
    | ok b => exact fault?_bind_ok (xs.mapM read) (b :: ·)

theorem findSome?_flatMap {α β γ : Type} (xs : List α) (f : α → List β) (g : β → Option γ) :
    (xs.flatMap f).findSome? g = xs.findSome? fun x => (f x).findSome? g := by
  induction xs with
  | nil => rfl
  | cons x xs ih =>
    rw [List.flatMap_cons, List.findSome?_append, List.findSome?_cons, ih]
    cases (f x).findSome? g <;> rfl

/-! ## The entries of a document -/

/-- The fault that is reported for an entry. -/
def Occurrence.fault? (document : Value) (o : Occurrence) : Option Fault :=
  (Api.fault? (entryParameter document o.entry)).map fun cause => ⟨o.method, o.path, cause⟩

theorem fault?_operation (document : Value) (members : List (String × Value)) :
    fault? (operation document members) =
      (parameterEntries members).findSome? fun entry => fault? (entryParameter document entry) := by
  rw [← fault?_mapM]
  exact fault?_bind_ok _ _

theorem fault?_pathItem (document : Value) (path : String) (item : Value) :
    fault? (pathItem document path item) =
      (declaredOperations item).findSome? fun (method, members) =>
        (parameterEntries members).findSome? fun entry =>
          Occurrence.fault? document ⟨path, method, entry⟩ := by
  rw [pathItem]
  refine (fault?_bind_ok _ _).trans ?_
  rw [fault?_mapM]
  congr 1
  funext ⟨method, members⟩
  -- the first fault of an operation, with verb and path added
  have wrapped : (fault? (operation document members)).map (fun cause => Fault.mk method path cause) =
      (parameterEntries members).findSome? fun entry =>
        Occurrence.fault? document ⟨path, method, entry⟩ := by
    rw [fault?_operation, List.map_findSome?]; rfl
  dsimp only
  rw [← wrapped]
  cases operation document members <;> rfl

theorem fault?_specification (document : Value) :
    fault? (specification document) = (occurrences document).findSome? (Occurrence.fault? document) := by
  rw [specification]
  refine (fault?_bind_ok _ _).trans ?_
  rw [fault?_mapM, occurrences_eq, findSome?_flatMap]
  congr 1
  funext ⟨path, item⟩
  rw [findSome?_flatMap]
  refine (fault?_bind_ok (pathItem document path item) (path, ·)).trans ?_
  rw [fault?_pathItem]
  congr 1
  funext ⟨method, members⟩
  rw [List.findSome?_map]
  rfl

theorem Occurrence.fault?_eq_some {document : Value} {o : Occurrence} {fault : Fault} :
    o.fault? document = some fault ↔
      fault.method = o.method ∧ fault.path = o.path ∧ Flawed document o.entry fault.cause := by
  simp only [Occurrence.fault?, Option.map_eq_some_iff, Api.fault?_eq_some, entryParameter_eq_error_iff]
  constructor
  · rintro ⟨cause, flawed, rfl⟩; exact ⟨rfl, rfl, flawed⟩
  · rintro ⟨method, path, flawed⟩; exact ⟨fault.cause, flawed, by rw [← method, ← path]⟩

theorem Occurrence.fault?_eq_none {document : Value} {o : Occurrence} :
    o.fault? document = none ↔ ∀ cause, ¬ Flawed document o.entry cause := by
  simp only [Option.eq_none_iff_forall_ne_some, ne_eq, Occurrence.fault?_eq_some]
  constructor
  · intro none cause flawed; exact none ⟨o.method, o.path, cause⟩ ⟨rfl, rfl, flawed⟩
  · rintro sound fault ⟨-, -, flawed⟩; exact sound fault.cause flawed

theorem mem_declaredPaths {document : Value} {path : String} {item : Value} :
    (path, item) ∈ declaredPaths document ↔
      ∃ paths, document.get? "paths" = some (.object paths) ∧ (path, item) ∈ paths ∧
        isExtension path = false := by
  rw [declaredPaths, List.mem_filter]
  cases paths? : (document.get? "paths").bind Value.object? with
  | none =>
    simp only [Option.getD_none, List.not_mem_nil, false_and, false_iff, not_exists]
    rintro paths ⟨object, -⟩
    rw [bind_object?_eq_some.2 object] at paths?
    cases paths?
  | some paths =>
    have object := bind_object?_eq_some.1 paths?
    simp [object]

theorem mem_declaredOperations {item : Value} {method : Method} {members : List (String × Value)} :
    (method, members) ∈ declaredOperations item ↔ item.get? method.name = some (.object members) := by
  simp only [declaredOperations, List.mem_filterMap, Option.map_eq_some_iff, bind_object?_eq_some,
    Prod.mk.injEq]
  constructor
  · rintro ⟨_, -, _, declared, rfl, rfl⟩; exact declared
  · intro declared; exact ⟨method, Method.mem_all method, members, declared, rfl, rfl⟩

theorem mem_parameterEntries {members : List (String × Value)} {entry : Value} :
    entry ∈ parameterEntries members ↔
      ∃ entries, find? "parameters" members = some (.array entries) ∧ entry ∈ entries := by
  rw [parameterEntries]
  cases find? "parameters" members with
  | none => simp
  | some value => cases value <;> simp [Value.array?]

theorem mem_occurrences_of_declared {document item entry : Value} {path : String} {method : Method}
    {members : List (String × Value)} (onPath : (path, item) ∈ declaredPaths document)
    (declared : (method, members) ∈ declaredOperations item) (listed : entry ∈ parameterEntries members) :
    ⟨path, method, entry⟩ ∈ occurrences document := by
  simp only [occurrences_eq, List.mem_flatMap, List.mem_map]
  exact ⟨_, onPath, _, declared, entry, listed, rfl⟩

/-- An entry of a document stands in the list of parameters of an object under a verb of a path. -/
theorem mem_occurrences {document : Value} {o : Occurrence} :
    o ∈ occurrences document ↔ ∃ paths item members entries,
      document.get? "paths" = some (.object paths) ∧ (o.path, item) ∈ paths ∧
      isExtension o.path = false ∧ item.get? o.method.name = some (.object members) ∧
      find? "parameters" members = some (.array entries) ∧ o.entry ∈ entries := by
  simp only [occurrences_eq, List.mem_flatMap, List.mem_map]
  constructor
  · rintro ⟨⟨path, item⟩, onPath, ⟨method, members⟩, declared, entry, listed, rfl⟩
    obtain ⟨paths, object, mem, counts⟩ := mem_declaredPaths.1 onPath
    obtain ⟨entries, array, mem'⟩ := mem_parameterEntries.1 listed
    exact ⟨paths, item, members, entries, object, mem, counts, mem_declaredOperations.1 declared,
      array, mem'⟩
  · rintro ⟨paths, item, members, entries, object, mem, counts, declared, array, mem'⟩
    exact ⟨(o.path, item), mem_declaredPaths.2 ⟨paths, object, mem, counts⟩, (o.method, members),
      mem_declaredOperations.2 declared, o.entry, mem_parameterEntries.2 ⟨entries, array, mem'⟩, rfl⟩

/-! ## The first flawed entry -/

/-- The reading of a document fails exactly if an operation of it lists a flawed entry. It reports
the first one, with its verb and path before what is said of the entry itself. -/
theorem specification_error_iff (document : Value) :
    ((∃ fault, specification document = .error fault) ↔
      ∃ paths path item method members entries entry cause,
        document.get? "paths" = some (.object paths) ∧ (path, item) ∈ paths ∧
        isExtension path = false ∧ item.get? (Method.name method) = some (.object members) ∧
        find? "parameters" members = some (.array entries) ∧ entry ∈ entries ∧
        Flawed document entry cause) ∧
    ∀ fault,
      (specification document = .error fault ↔
        ∃ before o after, occurrences document = before ++ o :: after ∧
          (∀ earlier ∈ before, ∀ cause, ¬ Flawed document earlier.entry cause) ∧
          fault.method = o.method ∧ fault.path = o.path ∧ Flawed document o.entry fault.cause) ∧
      (Error.specification fault).message =
        "OpenAPI error: " ++ (fault.method.name ++ " " ++ fault.path ++ ": "
          ++ "OpenAPI error: " ++ fault.cause.message) := by
  refine ⟨?_, fun fault => ⟨?_, rfl⟩⟩
  · simp only [← fault?_eq_some, fault?_specification, ← Option.isSome_iff_exists,
      List.findSome?_isSome_iff]
    constructor
    · rintro ⟨o, mem, flawed⟩
      obtain ⟨fault, reported⟩ := Option.isSome_iff_exists.1 flawed
      obtain ⟨-, -, flawed⟩ := Occurrence.fault?_eq_some.1 reported
      obtain ⟨paths, item, members, entries, object, onPath, counts, declared, array, listed⟩ :=
        mem_occurrences.1 mem
      exact ⟨paths, o.path, item, o.method, members, entries, o.entry, fault.cause, object, onPath,
        counts, declared, array, listed, flawed⟩
    · rintro ⟨paths, path, item, method, members, entries, entry, cause, object, onPath, counts,
        declared, array, listed, flawed⟩
      have reported : Occurrence.fault? document ⟨path, method, entry⟩ = some ⟨method, path, cause⟩ :=
        Occurrence.fault?_eq_some.2 ⟨rfl, rfl, flawed⟩
      exact ⟨⟨path, method, entry⟩, mem_occurrences.2 ⟨paths, item, members, entries, object, onPath,
        counts, declared, array, listed⟩, Option.isSome_iff_exists.2 ⟨_, reported⟩⟩
  · rw [← fault?_eq_some, fault?_specification, List.findSome?_eq_some_iff]
    constructor
    · rintro ⟨before, o, after, split, reported, earlier⟩
      exact ⟨before, o, after, split, fun b hb => Occurrence.fault?_eq_none.1 (earlier b hb),
        Occurrence.fault?_eq_some.1 reported⟩
    · rintro ⟨before, o, after, split, earlier, reported⟩
      exact ⟨before, o, after, split, Occurrence.fault?_eq_some.2 reported,
        fun b hb => Occurrence.fault?_eq_none.2 (earlier b hb)⟩

end SwaggerRoutes.Api
