/-
What a document declares is what its class registers. The main statement is that the class of a document
has one statement for each declaration, in their order, after the one that declares the root of all
routes.
-/
import SwaggerRoutes.Proofs.Api.FirstFault
import SwaggerRoutes.Proofs.Java.Faithful
import SwaggerRoutes.Proofs.Json.Distinct
import Mathlib.Data.List.Forall2
import Mathlib.Data.List.Nodup

namespace SwaggerRoutes.Route

open SwaggerRoutes.Api SwaggerRoutes.Json

/-! ## Registration -/

/-- The statement registers a declaration: its first fragment has verb and path as arguments, its
last one the operation id. -/
structure Registers (d : Declaration) (s : Statement) : Prop where
  opens : ∃ opening rest, s.fragments = opening :: rest ∧
    opening.args = [.literal d.method.name, .str d.path]
  closes : ∃ front closing, s.fragments = front ++ [closing] ∧ closing.args = [.str d.id]

/-! ## Readings that succeed -/

theorem bind_eq_ok {ε α β : Type} {reading : Except ε α} {use : α → Except ε β} {b : β}
    (h : (reading >>= use) = .ok b) : ∃ a, reading = .ok a ∧ use a = .ok b := by
  cases reading with
  | error e => cases h
  | ok a => exact ⟨a, rfl, h⟩

/-- Readings in a row give one result each, in order. -/
theorem forall₂_of_mapM_eq_ok {ε α β : Type} {read : α → Except ε β} :
    ∀ {xs : List α} {ys : List β}, xs.mapM read = .ok ys → List.Forall₂ (fun x y => read x = .ok y) xs ys
  | [], ys, h => by cases h; exact .nil
  | x :: xs, ys, h => by
    rw [List.mapM_cons] at h
    obtain ⟨y, hy, h⟩ := bind_eq_ok h
    obtain ⟨rest, hrest, h⟩ := bind_eq_ok h
    cases h
    exact .cons hy (forall₂_of_mapM_eq_ok hrest)

theorem id_of_operation {document : Value} {members : List (String × Value)} {o : Operation}
    (h : operation document members = .ok o) : o.id = (stringField? "operationId" members).getD "" := by
  obtain ⟨parameters, -, h⟩ := bind_eq_ok h
  cases h
  rfl

/-- The operations of a path are those declared, each with what its object says. -/
theorem forall₂_of_pathItem {document : Value} {path : String} {item : Value} {read : PathItem}
    (h : pathItem document path item = .ok read) :
    List.Forall₂ (fun declared found => found.1 = declared.1 ∧ operation document declared.2 = .ok found.2)
      (declaredOperations item) read.operations := by
  obtain ⟨operations, each, h⟩ := bind_eq_ok h
  cases h
  refine (forall₂_of_mapM_eq_ok each).imp ?_
  rintro ⟨method, members⟩ ⟨method', o⟩ one
  dsimp only at one
  cases read : operation document members with
  | error cause => rw [read] at one; cases one
  | ok found => rw [read] at one; cases one; exact ⟨rfl, rfl⟩

/-- The paths of a specification are those declared, each with what its object says. -/
theorem forall₂_of_specification {document : Value} {spec : Specification}
    (h : specification document = .ok spec) :
    List.Forall₂ (fun declared found =>
        found.1 = declared.1 ∧ pathItem document declared.1 declared.2 = .ok found.2)
      (declaredPaths document) spec.paths := by
  obtain ⟨paths, each, h⟩ := bind_eq_ok h
  cases h
  refine (forall₂_of_mapM_eq_ok each).imp ?_
  rintro ⟨path, item⟩ ⟨path', found⟩ one
  obtain ⟨read, hread, one⟩ := bind_eq_ok one
  cases one
  exact ⟨rfl, hread⟩

/-! ## Endpoints -/

/-- The endpoint has the verb, the path and the operation id of a declaration. -/
structure Serves (d : Declaration) (e : Endpoint) : Prop where
  method : e.method = d.method
  path : e.path = d.path
  processor : e.processor = d.id

/-- The endpoints of a path, one for each declaration of it. -/
theorem forall₂_serves_item {document : Value} {path : String} {item : Value} {read : PathItem}
    (h : pathItem document path item = .ok read) :
    List.Forall₂ Serves (Declaration.ofItem path item)
      (read.operations.map fun (method, o) => endpoint Naming.operationId path method o) := by
  rw [Declaration.ofItem_eq, List.forall₂_map_left_iff, List.forall₂_map_right_iff]
  refine (forall₂_of_pathItem h).imp ?_
  rintro ⟨method, members⟩ ⟨method', o⟩ ⟨same, found⟩
  refine ⟨same, rfl, ?_⟩
  rw [Declaration.id_eq]
  exact id_of_operation found

/-- The endpoints of a specification, one for each declaration of its document. -/
theorem forall₂_serves {document : Value} {spec : Specification} (h : specification document = .ok spec) :
    List.Forall₂ Serves (Declaration.ofDocument document) (Java.endpoints Naming.operationId spec) := by
  rw [Declaration.ofDocument_eq]
  unfold Java.endpoints
  refine List.rel_flatMap (forall₂_of_specification h) ?_
  rintro ⟨path, item⟩ ⟨path', read⟩ ⟨same, found⟩
  cases same
  exact forall₂_serves_item found

theorem Serves.registers {d : Declaration} {e : Endpoint} (serves : Serves d e) :
    Registers d e.statement := by
  refine ⟨⟨e.opening, e.invocations.map Invocation.fragment ++ [e.closing], rfl, ?_⟩,
    ⟨e.opening :: e.invocations.map Invocation.fragment, e.closing, rfl, ?_⟩⟩
  · rw [← serves.method, ← serves.path]; rfl
  · rw [← serves.processor]; rfl

theorem operationCount_eq (naming : Naming) (spec : Specification) :
    spec.operationCount = (Java.endpoints naming spec).length := by
  unfold Specification.operationCount Java.endpoints
  rw [List.length_flatMap, List.sum_eq_foldl]
  simp only [List.length_map]

/-! ## No declaration twice -/

theorem map_key_ofItem_nodup (path : String) (item : Value) :
    ((Declaration.ofItem path item).map Declaration.key).Nodup := by
  unfold Declaration.ofItem
  rw [List.map_filterMap]
  refine Method.nodup_all.filterMap fun method method' key h h' => ?_
  -- either verb is the first component of the key
  have verb : ∀ m, key ∈ (Declaration.ofMethod? path item m).map Declaration.key → m = key.1 := by
    intro m hm
    obtain ⟨d, hd, rfl⟩ := Option.map_eq_some_iff.1 hm
    unfold Declaration.ofMethod? at hd
    split at hd
    · cases hd; rfl
    · cases hd
  rw [verb method h, verb method' h']

theorem path_of_mem_ofItem {path : String} {item : Value} {d : Declaration}
    (h : d ∈ Declaration.ofItem path item) : d.path = path := by
  rw [Declaration.ofItem_eq] at h
  obtain ⟨_, -, rfl⟩ := List.mem_map.1 h
  rfl

theorem map_fst_declaredPaths_nodup {document : Value} (distinct : document.Distinct) :
    ((declaredPaths document).map Prod.fst).Nodup := by
  unfold declaredPaths
  cases paths? : (document.get? "paths").bind Value.object? with
  | none => simp
  | some paths =>
    have names := (Value.distinct_object.1 (distinct.get? (bind_object?_eq_some.1 paths?))).1
    exact names.sublist (List.filter_sublist.map Prod.fst)

/-- A document whose objects hold no name twice declares no verb twice for one path. -/
theorem map_key_ofDocument_nodup {document : Value} (distinct : document.Distinct) :
    ((Declaration.ofDocument document).map Declaration.key).Nodup := by
  rw [Declaration.ofDocument_eq, List.map_flatMap, List.nodup_flatMap]
  refine ⟨fun path _ => map_key_ofItem_nodup path.1 path.2, ?_⟩
  refine (List.pairwise_map.1 (map_fst_declaredPaths_nodup distinct)).imp ?_
  rintro ⟨path, item⟩ ⟨path', item'⟩ other key h h'
  obtain ⟨d, hd, rfl⟩ := List.mem_map.1 h
  obtain ⟨d', hd', same⟩ := List.mem_map.1 h'
  have paths : d'.path = d.path := congrArg Prod.snd same
  rw [path_of_mem_ofItem hd, path_of_mem_ofItem hd'] at paths
  exact other paths.symm

/-! ## One statement for each declaration -/

/-- The class of a document has a statement for each operation that the document declares, in order,
and before them the one that declares the root of all routes. In a document whose objects hold no
name twice, as is every document that is read, no verb is declared twice for one path. -/
theorem assemble_registers {document : Value} {spec : Specification}
    (loads : specification document = .ok spec) :
    (∃ statements, (assemble Naming.operationId spec).statements = bootstrap :: statements ∧
      List.Forall₂ Registers (Declaration.ofDocument document) statements) ∧
    (assemble Naming.operationId spec).statements.length = 1 + (Declaration.ofDocument document).length ∧
    spec.operationCount = (Declaration.ofDocument document).length ∧
    (document.Distinct → ((Declaration.ofDocument document).map fun d => (d.method, d.path)).Nodup) ∧
    ∀ text, Document.read? text = some document → document.Distinct := by
  have serves := forall₂_serves loads
  have count : (Java.endpoints Naming.operationId spec).length =
      (Declaration.ofDocument document).length := serves.length_eq.symm
  refine ⟨⟨_, Java.assemble_statements _ spec, ?_⟩, ?_, ?_, map_key_ofDocument_nodup,
    fun _ => Document.distinct_of_read?⟩
  · rw [List.forall₂_map_right_iff]
    exact serves.imp fun _ _ => Serves.registers
  · rw [Java.assemble_statements, List.length_cons, List.length_map, count, Nat.add_comm]
  · rw [operationCount_eq Naming.operationId, count]

/-- A document in which verbs are out of order, and which holds an extension, a name that is no verb,
a verb without an object and an operation id that is no string. -/
def mixedDocument : Value := .object
  [("paths", .object
    [("x-note", .object [("get", .object [])]),
     ("/pets", .object
       [("post", .object [("operationId", .string "add")]), ("trace", .object []),
        ("put", .null), ("get", .object [("operationId", .string "list")])]),
     ("/health", .object [("head", .object [("operationId", .bool true)])])])]

/-- What is read of it. -/
def mixedSpecification : Specification where
  paths :=
    [("/pets", ⟨[(.get, { id := "list" }), (.post, { id := "add" })]⟩), ("/health", ⟨[(.head, {})]⟩)]

theorem assemble_registers_mixed :
    specification mixedDocument = .ok mixedSpecification ∧ mixedDocument.Distinct ∧
      (∃ statements, (assemble Naming.operationId mixedSpecification).statements =
          bootstrap :: statements ∧
        List.Forall₂ Registers (Declaration.ofDocument mixedDocument) statements) ∧
      (assemble Naming.operationId mixedSpecification).statements.length = 1 + 3 ∧
      mixedSpecification.operationCount = 3 ∧
      [(Method.get, "/pets"), (Method.post, "/pets"), (Method.head, "/health")].Nodup := by
  have loads : specification mixedDocument = .ok mixedSpecification := by with_unfolding_all rfl
  have distinct : mixedDocument.Distinct := by
    simp [mixedDocument, Value.Distinct, Value.DistinctMembers]
  have declared : ((Declaration.ofDocument mixedDocument).map fun d => (d.method, d.path)) =
      [(.get, "/pets"), (.post, "/pets"), (.head, "/health")] := by decide +kernel
  have three : (Declaration.ofDocument mixedDocument).length = 3 := by
    rw [← List.length_map, declared]; rfl
  obtain ⟨statements, length, count, nodup, -⟩ := assemble_registers loads
  rw [three] at length count
  exact ⟨loads, distinct, statements, length, count, declared ▸ nodup distinct⟩

end SwaggerRoutes.Route
