/-
What the statement of an operation keeps of it. The content of an operation reads empty texts as
absent, joins the media types, and takes a body for a parameter about whose writing nothing is said.
The main statement is that the statement keeps the content and nothing else: two operations, each at
a path and with a verb, have the same statement exactly if path, verb and content are the same.
-/
import SwaggerRoutes.Proofs.Route.Invocation
import Mathlib.Data.List.Basic
import Mathlib.Tactic.SplitIfs

namespace SwaggerRoutes.Route

open SwaggerRoutes.Api SwaggerRoutes.Text

/-! ## Contents -/

/-- A text, with an empty one read as absent. -/
def present (text : Option String) : Option String := text.filter (· ≠ "")

theorem present_empty : present (some "") = none := by decide

theorem present_of_ne {text : String} (h : text ≠ "") : present (some text) = some text := by
  rw [present, Option.filter_some, if_pos (by simpa using h)]

theorem present_eq_some {text? : Option String} {text : String} :
    present text? = some text ↔ text? = some text ∧ text ≠ "" := by
  simp [present]

/-- What is kept of a parameter. -/
@[ext] structure ParameterContent where
  name : String
  location : Location
  required : Option Bool
  description : Option String
  dataType : Option String
  collectionFormat : Option String
  allowableValues : List String
  defaultValue : Option String
  itemsType : Option String
deriving DecidableEq, Repr

/-- What is kept of an operation. -/
@[ext] structure OperationContent where
  id : String
  description : Option String
  consumes : String
  produces : String
  parameters : List ParameterContent
deriving DecidableEq, Repr

/-- How a parameter is written; nothing is said about the body. -/
def writing : Kind → Serialization
  | .serializable s => s
  | .body _ => {}

/-- The type of the items, which only counts for an array. -/
def itemsType (s : Serialization) : Option String :=
  present (if s.dataType = some arrayType then s.items.bind (·.dataType) else none)

def parameterContent (p : Parameter) : ParameterContent where
  name := p.name
  location := p.location
  required := p.required
  description := present p.description
  dataType := present (writing p.kind).dataType
  collectionFormat := present (writing p.kind).collectionFormat
  allowableValues := (writing p.kind).allowableValues
  defaultValue := (writing p.kind).defaultValue
  itemsType := itemsType (writing p.kind)

def operationContent (o : Operation) : OperationContent where
  id := o.id
  description := present o.description
  consumes := joinStrings "," o.consumes
  produces := joinStrings "," o.produces
  parameters := o.parameters.map parameterContent

/-! ## Clauses of a content -/

/-- A clause with one string, or none. -/
def stringClause (method : String) (text : Option String) : Clause :=
  ⟨method, text.map fun text => [.str text]⟩

/-- A clause with any number of strings; none makes no invocation. -/
def stringsClause (method : String) (values : List String) : Clause :=
  ⟨method, if values = [] then none else some (values.map .str)⟩

namespace ParameterContent

/-- The clauses for how a parameter is written. -/
def writingClauses (c : ParameterContent) : List Clause :=
  [stringClause "dataType" c.dataType,
   stringsClause "allowableValues" c.allowableValues,
   ⟨"collectionFormat", c.collectionFormat.map fun name => [.enumConstant .collectionFormat name]⟩,
   ⟨"defaultValue", c.defaultValue.map fun text => [.literal text]⟩,
   stringClause "arrayType" c.itemsType]

/-- The clauses between the opening and the end of a parameter's block. -/
def clauses (c : ParameterContent) : List Clause :=
  [stringClause "name" (present (some c.name)),
   ⟨"type", some [.enumConstant .restParamType c.location.name]⟩]
  ++ c.writingClauses ++
  [⟨"required", c.required.map fun flag => [.literal (if flag then "true" else "false")]⟩,
   stringClause "description" c.description,
   ⟨"endParam", some []⟩]

/-- The block of a parameter. -/
def block (c : ParameterContent) : List Invocation := ⟨"param", []⟩ :: invocations c.clauses

end ParameterContent

namespace OperationContent

/-- The clauses before the parameters. -/
def clauses (c : OperationContent) : List Clause :=
  [stringClause "id" (present (some c.id)),
   stringClause "description" c.description,
   stringClause "consumes" (present (some c.consumes)),
   stringClause "produces" (present (some c.produces))]

/-- The invocations between the opening and the closing of the statement. -/
def invocations (c : OperationContent) : List Invocation :=
  Route.invocations c.clauses ++ c.parameters.flatMap ParameterContent.block

end OperationContent

/-- The endpoint of an operation. -/
def endpoint (naming : Naming) (path : String) (method : Method) (o : Operation) : Endpoint where
  method := method
  path := path
  invocations := (operationContent o).invocations
  processor := naming o

/-! ## The statement of an operation -/

/-- The fragments of a clause. -/
def Clause.fragments (c : Clause) : List Fragment := c.invocation?.toList.map Invocation.fragment

theorem map_fragment_invocations (clauses : List Clause) :
    (invocations clauses).map Invocation.fragment = clauses.flatMap Clause.fragments := by
  induction clauses with
  | nil => rfl
  | cons c clauses ih => rw [invocations_cons, List.map_append, ih, List.flatMap_cons]; rfl

theorem fragments_some (method : String) (args : List Argument) :
    (Clause.mk method (some args)).fragments = [Invocation.fragment ⟨method, args⟩] := rfl

theorem unary_eq (method : String) (arg : Argument) :
    Call.unary method arg = Invocation.fragment ⟨method, [arg]⟩ := by
  have slot_eq : String.ofList (slots [arg]) = slot := String.ofList_toList
  rw [Invocation.fragment, slot_eq]; rfl

theorem stringFragments_eq (method : String) (text : Option String) :
    Call.stringFragments method text = (stringClause method (present text)).fragments := by
  cases text with
  | none => rfl
  | some text =>
    by_cases h : text = ""
    · rw [h, Call.stringFragments, if_pos rfl, present_empty]; rfl
    · rw [Call.stringFragments, if_neg h, present_of_ne h, unary_eq]; rfl

theorem fragments_string (method : String) (text : Option String) :
    (Call.string method text).fragments = (stringClause method (present text)).fragments :=
  stringFragments_eq method text

theorem fragments_joined (method : String) (values : List String) :
    (Call.joined method values).fragments =
      (stringClause method (present (some (joinStrings "," values)))).fragments :=
  stringFragments_eq method (some (joinStrings "," values))

theorem fragments_constant (method : String) (type : HostType) (name : Option String) :
    (Call.constant method type name).fragments =
      (Clause.mk method ((present name).map fun name => [.enumConstant type name])).fragments := by
  cases name with
  | none => rfl
  | some name =>
    by_cases h : name = ""
    · rw [h, Call.fragments, if_pos rfl, present_empty]; rfl
    · rw [Call.fragments, if_neg h, present_of_ne h, unary_eq]; rfl

theorem fragments_raw (method : String) (text : Option String) :
    (Call.raw method text).fragments =
      (Clause.mk method (text.map fun text => [.literal text])).fragments := by
  cases text with
  | none => rfl
  | some text => rw [Call.fragments, unary_eq]; rfl

theorem fragments_flag (method : String) (value : Option Bool) :
    (Call.flag method value).fragments =
      (Clause.mk method (value.map fun flag => [.literal (if flag then "true" else "false")])).fragments := by
  cases value with
  | none => rfl
  | some value => rw [Call.fragments, unary_eq]; rfl

theorem fragments_each (method : String) (values : List String) :
    (Call.each method values).fragments = (stringsClause method values).fragments := by
  cases values with
  | nil => rfl
  | cons value values =>
    have comma : ",".toList = [','] := by decide
    simp only [Call.fragments, stringsClause, reduceCtorEq, if_false, fragments_some,
      Invocation.fragment, slots, joinStrings, comma, List.map_map]
    rfl

theorem flatMap_fragments_kindCalls (p : Parameter) :
    (kindCalls p.kind).flatMap Call.fragments =
      (parameterContent p).writingClauses.flatMap Clause.fragments := by
  -- a body makes no calls, as does a kind that says nothing
  have body : ∀ k, (kindCalls k).flatMap Call.fragments =
      (serializationCalls (writing k)).flatMap Call.fragments := by rintro (s | schema) <;> rfl
  rw [body, serializationCalls, ParameterContent.writingClauses]
  simp only [List.flatMap_cons, List.flatMap_nil, fragments_string, fragments_each,
    fragments_constant, fragments_raw]
  rfl

theorem present_name (location : Location) : present (some location.name) = some location.name := by
  cases location <;> decide

theorem flatMap_fragments_parameterCalls (p : Parameter) :
    (parameterCalls p).flatMap Call.fragments = (parameterContent p).block.map Invocation.fragment := by
  have opens : (Call.plain "\n.param()").fragments = [Invocation.fragment ⟨"param", []⟩] := by decide
  have ends : (Call.plain "\n.endParam()").fragments = (Clause.mk "endParam" (some [])).fragments := by
    decide
  rw [ParameterContent.block, List.map_cons, map_fragment_invocations, parameterCalls,
    ParameterContent.clauses]
  simp only [List.flatMap_append, flatMap_fragments_kindCalls, List.flatMap_cons, List.flatMap_nil,
    fragments_string, fragments_constant, fragments_flag, present_name, opens, ends]
  rfl

theorem operationStatement_eq (naming : Naming) (path : String) (method : Method) (o : Operation) :
    operationStatement naming path method o = (endpoint naming path method o).statement := by
  have blocks : (o.parameters.flatMap parameterCalls).flatMap Call.fragments =
      ((operationContent o).parameters.flatMap ParameterContent.block).map Invocation.fragment := by
    rw [List.flatMap_assoc, List.map_flatMap, operationContent, List.flatMap_map]
    exact List.flatMap_congr fun p _ => flatMap_fragments_parameterCalls p
  rw [operationStatement, Statement.ofCalls, operationCalls, Endpoint.statement, endpoint,
    OperationContent.invocations, List.map_append, map_fragment_invocations, OperationContent.clauses]
  simp only [List.flatMap_append, List.flatMap_cons, List.flatMap_nil, fragments_string,
    fragments_joined, blocks]
  rfl

/-! ## The content of a statement -/

theorem present_some_injective {text text' : String} (same : present (some text) = present (some text')) :
    text = text' := by
  by_cases h : text = "" <;> by_cases h' : text' = ""
  · rw [h, h']
  · rw [h, present_empty, present_of_ne h'] at same; cases same
  · rw [h', present_empty, present_of_ne h] at same; cases same
  · rw [present_of_ne h, present_of_ne h'] at same; exact Option.some.inj same

theorem Clause.mk_map_inj {α : Type} {method : String} {write : α → List Argument}
    (inj : Function.Injective write) {value value' : Option α}
    (same : Clause.mk method (value.map write) = Clause.mk method (value'.map write)) : value = value' :=
  Option.map_injective inj (Clause.mk.inj same).2

theorem stringClause_inj {method : String} {text text' : Option String}
    (same : stringClause method text = stringClause method text') : text = text' :=
  Clause.mk_map_inj (fun _ _ h => Argument.str.inj (List.cons.inj h).1) same

theorem stringsClause_inj {method : String} {values values' : List String}
    (same : stringsClause method values = stringsClause method values') : values = values' := by
  have args := (Clause.mk.inj same).2
  split_ifs at args with h h'
  · rw [h, h']
  · exact List.map_injective_iff.2 (fun _ _ h => Argument.str.inj h) (Option.some.inj args)

theorem flag_injective :
    Function.Injective fun flag : Bool => [Argument.literal (if flag then "true" else "false")] := by
  rintro (_ | _) (_ | _) same <;> first | rfl | exact absurd same (by decide)

theorem ParameterContent.clauses_injective : Function.Injective ParameterContent.clauses := by
  intro c c' same
  simp only [clauses, writingClauses, List.cons_append, List.nil_append, List.cons.injEq, and_true]
    at same
  obtain ⟨name, type, dataType, allowed, format, default, items, required, description⟩ := same
  have location : c.location = c'.location := by
    have constants := (List.cons.inj (Option.some.inj (Clause.mk.inj type).2)).1
    have names := congrArg Location.ofName? (Argument.enumConstant.inj constants).2
    rwa [Location.ofName?_name, Location.ofName?_name, Option.some.injEq] at names
  exact ParameterContent.ext (present_some_injective (stringClause_inj name)) location
    (Clause.mk_map_inj flag_injective required) (stringClause_inj description)
    (stringClause_inj dataType)
    (Clause.mk_map_inj (fun _ _ h => (Argument.enumConstant.inj (List.cons.inj h).1).2) format)
    (stringsClause_inj allowed)
    (Clause.mk_map_inj (fun _ _ h => Argument.literal.inj (List.cons.inj h).1) default)
    (stringClause_inj items)

theorem ParameterContent.map_method_clauses (c : ParameterContent) :
    c.clauses.map Clause.method = ["name", "type", "dataType", "allowableValues", "collectionFormat",
      "defaultValue", "arrayType", "required", "description", "endParam"] := rfl

/-- The blocks of parameters are told apart: each begins with a method that is not within a block. -/
theorem block_separated : Separated ParameterContent.block (fun _ => True) (· = [])
    (fun _ rest => ∀ method ∈ firstMethod? rest, method = "param") where
  notEnd c _ rest := by simp [ParameterContent.block]
  followed a b _ _ rest := by simp [ParameterContent.block, firstMethod?]
  inj a b _ _ rest rest' next next' same := by
    -- the methods of a block differ from the one that opens the next block
    have outside : ∀ is, (∀ method ∈ firstMethod? is, method = "param") →
        ∀ method ∈ a.clauses.map Clause.method, firstMethod? is ≠ some method := by
      intro is begins method hm first
      rw [begins method first, a.map_method_clauses] at hm
      exact absurd hm (by decide)
    obtain ⟨clauses, rests⟩ := invocations_append_inj
      (a.map_method_clauses.trans b.map_method_clauses.symm) (by rw [a.map_method_clauses]; decide)
      (outside rest next) (outside rest' next') (List.cons.inj same).2
    exact ⟨ParameterContent.clauses_injective clauses, rests⟩

theorem OperationContent.clauses_injective {c c' : OperationContent} (same : c.clauses = c'.clauses)
    (parameters : c.parameters = c'.parameters) : c = c' := by
  simp only [clauses, List.cons.injEq, and_true] at same
  obtain ⟨id, description, consumes, produces⟩ := same
  exact OperationContent.ext (present_some_injective (stringClause_inj id))
    (stringClause_inj description) (present_some_injective (stringClause_inj consumes))
    (present_some_injective (stringClause_inj produces)) parameters

theorem OperationContent.map_method_clauses (c : OperationContent) :
    c.clauses.map Clause.method = ["id", "description", "consumes", "produces"] := rfl

theorem OperationContent.invocations_injective : Function.Injective OperationContent.invocations := by
  intro c c' same
  have outside : ∀ ps : List ParameterContent, ∀ method ∈ c.clauses.map Clause.method,
      firstMethod? (ps.flatMap ParameterContent.block) ≠ some method := by
    rintro (_ | ⟨p, ps⟩) method hm first
    · cases first
    · rw [← Option.some.inj first, c.map_method_clauses] at hm
      exact absurd hm (by decide)
  obtain ⟨clauses, blocks⟩ := invocations_append_inj
    (c.map_method_clauses.trans c'.map_method_clauses.symm) (by rw [c.map_method_clauses]; decide)
    (outside c.parameters) (outside c'.parameters) same
  rw [← List.append_nil (c.parameters.flatMap _), ← List.append_nil (c'.parameters.flatMap _)] at blocks
  obtain ⟨parameters, -⟩ := block_separated.flatMap_append_inj (fun _ _ => trivial)
    (fun _ _ => trivial) (by simp [firstMethod?]) (by simp [firstMethod?]) rfl rfl blocks
  exact OperationContent.clauses_injective clauses parameters

/-- The statement of an operation keeps its path, its verb and its content, and nothing else. -/
theorem operationStatement_eq_iff (path path' : String) (method method' : Method) (o o' : Operation) :
    operationStatement Naming.operationId path method o =
        operationStatement Naming.operationId path' method' o' ↔
      path = path' ∧ method = method' ∧ operationContent o = operationContent o' := by
  rw [operationStatement_eq, operationStatement_eq]
  constructor
  · intro same
    have parts := Endpoint.statement_injective same
    exact ⟨congrArg Endpoint.path parts, congrArg Endpoint.method parts,
      OperationContent.invocations_injective (congrArg Endpoint.invocations parts)⟩
  · rintro ⟨rfl, rfl, content⟩
    have ids : o.id = o'.id := congrArg OperationContent.id content
    simp only [endpoint, content, Naming.operationId, ids]

end SwaggerRoutes.Route
