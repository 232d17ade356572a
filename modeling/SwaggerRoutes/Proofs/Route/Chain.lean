/-
The chain of calls that a statement makes, read back from its templates. A template is cut at its points
and at the parentheses behind them, and what is found there is the method of an invocation, since methods
are words and slots hold neither points nor parentheses. The main statement is that the names read back for
an operation are those of the fields that it gives, in a fixed order. They depend on which texts are empty,
and on which data types are arrays, and on nothing else that the texts hold.
-/
import SwaggerRoutes.Proofs.Java.Statement

namespace SwaggerRoutes.Route

open SwaggerRoutes.Api SwaggerRoutes.Text SwaggerRoutes.Java

/-! ## The calls for an operation -/

/-- The text is there and not empty. -/
def HasText (text : Option String) : Prop := text ≠ none ∧ text ≠ some ""

instance (text : Option String) : Decidable (HasText text) := by unfold HasText; infer_instance

/-- The method, if it is called. -/
def calledIf (condition : Prop) [Decidable condition] (method : String) : List String :=
  if condition then [method] else []

/-- The methods called for how a parameter is written. There are none for a body. -/
def writingMethods : Kind → List String
  | .serializable s =>
    calledIf (HasText s.dataType) "dataType" ++
    calledIf (s.allowableValues ≠ []) "allowableValues" ++
    calledIf (HasText s.collectionFormat) "collectionFormat" ++
    calledIf (s.defaultValue ≠ none) "defaultValue" ++
    calledIf (s.dataType = some "array" ∧ HasText (s.items.bind (·.dataType))) "arrayType"
  | .body _ => []

def parameterMethods (p : Parameter) : List String :=
  ["param"] ++ calledIf (p.name ≠ "") "name" ++ ["type"] ++ writingMethods p.kind ++
    calledIf (p.required ≠ none) "required" ++ calledIf (HasText p.description) "description" ++ ["endParam"]

/-- The methods called in the statement of an operation. -/
def operationMethods (o : Operation) : List String :=
  calledIf (o.id ≠ "") "id" ++ calledIf (HasText o.description) "description" ++
    calledIf (joinStrings "," o.consumes ≠ "") "consumes" ++
    calledIf (joinStrings "," o.produces ≠ "") "produces" ++
    o.parameters.flatMap parameterMethods ++ ["route", "process"]

/-! ## Names in a template -/

theorem not_isBlank_of_isLetter {c : Char} (letter : isLetter c = true) : isBlank c = false := by
  have number := toNat_of_isLetter letter
  simp only [isBlank, Bool.or_eq_false_iff, Bool.and_eq_false_iff, decide_eq_false_iff_not,
    beq_eq_false_iff_ne]
  omega

theorem trim_of_not_isBlank {text : List Char} (solid : ∀ c ∈ text, isBlank c = false) : trim text = text := by
  have kept : ∀ text : List Char, (∀ c ∈ text, isBlank c = false) → text.dropWhile isBlank = text := by
    intro text solid
    cases text with
    | nil => rfl
    | cons c rest => rw [List.dropWhile_cons_of_neg (by simp [solid c List.mem_cons_self])]
  rw [trim, kept text solid, kept _ (by simpa using solid), List.reverse_reverse]

theorem notMem_slots {c : Char} (noBrace : c ∉ slot.toList) (noComma : c ≠ ',') (args : List Argument) :
    c ∉ slots args := by
  cases args with
  | nil => exact List.not_mem_nil
  | cons arg args =>
    rw [slots, List.map_cons, joined_cons_eq]
    simp [noBrace, noComma]

/-- Of an invocation the method is read back, whatever its arguments are. -/
theorem methodNames_fragment {method : String} (word : IsWord method) (nonempty : method ≠ "")
    (args : List Argument) : (Invocation.fragment ⟨method, args⟩).methodNames = [method] := by
  have point : '.' ∉ method.toList ++ '(' :: (slots args ++ ")".toList) := by
    simp only [List.mem_append, List.mem_cons, not_or]
    exact ⟨word.notMem (by decide), by decide, notMem_slots (by decide) (by decide) args, by decide⟩
  have cut : pieces '.' (Invocation.fragment ⟨method, args⟩).template.toList =
      [['\n'], method.toList ++ '(' :: (slots args ++ ")".toList)] := by
    have text : (Invocation.fragment ⟨method, args⟩).template.toList =
        ['\n'] ++ '.' :: (method.toList ++ '(' :: (slots args ++ ")".toList)) := by
      have opens : "\n.".toList = ['\n', '.'] := by decide
      have paren : "(".toList = ['('] := by decide
      simp only [Invocation.fragment, String.toList_append, String.toList_ofList, opens, paren,
        List.append_assoc, List.cons_append, List.nil_append]
    rw [text, pieces_append_sep (by decide), pieces_of_notMem point]
  have name : (method.toList ++ '(' :: (slots args ++ ")".toList)).takeWhile (· != '(') = method.toList := by
    rw [List.takeWhile_append_of_pos, List.takeWhile_cons_of_neg (by decide), List.append_nil]
    intro c hc
    have other : c ≠ '(' := by rintro rfl; exact word.notMem (by decide) hc
    simpa using other
  obtain ⟨c, rest, letters⟩ := List.exists_cons_of_ne_nil (l := method.toList)
    fun empty => nonempty (String.toList_injective empty)
  have letter : isLetter c = true := word c (letters ▸ List.mem_cons_self)
  unfold Fragment.methodNames
  simp only [cut, List.drop_succ_cons, List.drop_zero, List.map_cons, List.map_nil, name,
    trim_of_not_isBlank fun c hc => not_isBlank_of_isLetter (word c hc)]
  rw [List.filter_cons_of_pos (by rw [letters]; exact letter), List.filter_nil, List.map_cons,
    String.ofList_toList, List.map_nil]

/-! ## Names in a statement -/

theorem methodNames_invocations {is : List Invocation}
    (words : ∀ i ∈ is, IsWord i.method ∧ i.method ≠ "") :
    (is.map Invocation.fragment).flatMap Fragment.methodNames = is.map Invocation.method := by
  rw [List.flatMap_map, ← List.flatMap_pure_eq_map]
  exact List.flatMap_congr fun i hi => methodNames_fragment (words i hi).1 (words i hi).2 i.args

/-- Neither verb and path nor the processor bring a name. -/
theorem methodNames_endpoint {e : Endpoint} (words : ∀ i ∈ e.invocations, IsWord i.method ∧ i.method ≠ "") :
    e.statement.methodNames = e.invocations.map Invocation.method ++ ["route", "process"] := by
  have opening : e.opening.methodNames = [] := by
    show Fragment.methodNames ⟨"rest." ++ slot ++ "(" ++ slot ++ ")", []⟩ = []
    decide
  have closing : e.closing.methodNames = ["route", "process"] := by
    show Fragment.methodNames ⟨Endpoint.beforeProcessor ++ slot ++ ")", []⟩ = _
    decide
  rw [Statement.methodNames, Endpoint.statement, List.flatMap_append, List.flatMap_cons, opening,
    methodNames_invocations words, List.flatMap_cons, closing]
  rfl

/-! ## The invocations of an operation -/

theorem calledIf_congr {p q : Prop} [Decidable p] [Decidable q] (same : p ↔ q) (method : String) :
    calledIf p method = calledIf q method := by
  simp only [calledIf, same]

theorem hasText_iff {text : Option String} : HasText text ↔ (present text).isSome = true := by
  cases text with
  | none => simp [HasText, present]
  | some text => simp [HasText, present]

theorem map_method_invocations (clauses : List Clause) :
    (invocations clauses).map Invocation.method =
      clauses.flatMap fun c => c.invocation?.toList.map Invocation.method := by
  induction clauses with
  | nil => rfl
  | cons c clauses ih => rw [invocations_cons, List.map_append, ih, List.flatMap_cons]

/-- A clause makes its invocation exactly if there is a value to write. -/
theorem called_of_value {α : Type} {value : Option α} {condition : Prop} [Decidable condition]
    (made : condition ↔ value.isSome = true) (method : String) (write : α → List Argument) :
    (Clause.mk method (value.map write)).invocation?.toList.map Invocation.method =
      calledIf condition method := by
  cases value with
  | none => rw [calledIf, if_neg (by simpa using made)]; rfl
  | some x => rw [calledIf, if_pos (by simpa using made)]; rfl

theorem called_of_text {text : Option String} {condition : Prop} [Decidable condition]
    (made : condition ↔ text.isSome = true) (method : String) :
    (stringClause method text).invocation?.toList.map Invocation.method = calledIf condition method :=
  called_of_value made method _

theorem called_of_texts (method : String) (values : List String) :
    (stringsClause method values).invocation?.toList.map Invocation.method =
      calledIf (values ≠ []) method := by
  by_cases none : values = []
  · rw [stringsClause, if_pos none, calledIf, if_neg (by simpa using none)]; rfl
  · rw [stringsClause, if_neg none, calledIf, if_pos none]; rfl

theorem isSome_itemsType {s : Serialization} :
    s.dataType = some "array" ∧ HasText (s.items.bind (·.dataType)) ↔ (itemsType s).isSome = true := by
  rw [itemsType]
  by_cases array : s.dataType = some arrayType
  · rw [if_pos array, ← hasText_iff]
    exact and_iff_right array
  · rw [if_neg array]
    exact iff_of_false (fun both => array both.1) (by simp [present])

theorem map_method_writingClauses (p : Parameter) :
    (invocations (parameterContent p).writingClauses).map Invocation.method = writingMethods p.kind := by
  rw [map_method_invocations]
  cases kind : p.kind with
  | body schema =>
    simp only [ParameterContent.writingClauses, parameterContent, kind, writing]
    rfl
  | serializable s =>
    simp only [ParameterContent.writingClauses, parameterContent, kind, writing, List.flatMap_cons,
      List.flatMap_nil, List.append_nil, writingMethods, List.append_assoc]
    rw [called_of_text hasText_iff, called_of_texts, called_of_value hasText_iff,
      called_of_value Option.isSome_iff_ne_none.symm, called_of_text isSome_itemsType]

theorem called_of_nonempty (text method : String) :
    (stringClause method (present (some text))).invocation?.toList.map Invocation.method =
      calledIf (text ≠ "") method :=
  called_of_text (by rw [← hasText_iff]; simp [HasText]) method

theorem map_method_block (p : Parameter) :
    (parameterContent p).block.map Invocation.method = parameterMethods p := by
  have writing := map_method_writingClauses p
  have description : (stringClause "description" (parameterContent p).description).invocation?.toList.map
      Invocation.method = calledIf (HasText p.description) "description" := called_of_text hasText_iff _
  have always (method : String) (args : List Argument) :
      (Clause.mk method (some args)).invocation?.toList.map Invocation.method = [method] := rfl
  rw [map_method_invocations] at writing
  rw [ParameterContent.block, List.map_cons, map_method_invocations, ParameterContent.clauses]
  simp only [List.flatMap_append, List.flatMap_cons, List.flatMap_nil, List.append_nil, writing, description,
    called_of_nonempty, called_of_value Option.isSome_iff_ne_none.symm, always]
  simp only [parameterMethods, List.append_assoc]
  rfl

theorem map_method_operationContent (o : Operation) :
    (operationContent o).invocations.map Invocation.method ++ ["route", "process"] = operationMethods o := by
  have description : (stringClause "description" (operationContent o).description).invocation?.toList.map
      Invocation.method = calledIf (HasText o.description) "description" := called_of_text hasText_iff _
  have blocks : ((operationContent o).parameters.flatMap ParameterContent.block).map Invocation.method =
      o.parameters.flatMap parameterMethods := by
    rw [List.map_flatMap, operationContent, List.flatMap_map]
    exact List.flatMap_congr fun p _ => map_method_block p
  rw [OperationContent.invocations, List.map_append, blocks, map_method_invocations, OperationContent.clauses]
  simp only [List.flatMap_cons, List.flatMap_nil, List.append_nil, description, called_of_nonempty,
    operationMethods, List.append_assoc]
  rfl

theorem word_of_mem_invocations {o : Operation} {i : Invocation} (h : i ∈ (operationContent o).invocations) :
    IsWord i.method ∧ i.method ≠ "" := by
  have regular : Regular (fun _ => True) i :=
    regular_of_mem_invocations (fun _ _ => trivial) (fun _ _ _ _ => trivial) h
  have known := regular.known
  have nonempty : ∀ method ∈ methods, method ≠ "" := by decide
  exact ⟨isWord_of_mem_methods known, nonempty _ known⟩

/-! ## Other texts -/

/-- A rewriting of texts that neither empties one nor fills an empty one, and that tells the data type of
arrays from all others. -/
structure KeepsShape (rewrite : String → String) : Prop where
  empty : ∀ text, rewrite text = "" ↔ text = ""
  array : ∀ text, rewrite text = "array" ↔ text = "array"

/-- The kind of a parameter with all texts rewritten. -/
def rewriteKind (rewrite : String → String) : Kind → Kind
  | .serializable s => .serializable {
      dataType := s.dataType.map rewrite
      defaultValue := s.defaultValue.map rewrite
      allowableValues := s.allowableValues.map rewrite
      collectionFormat := s.collectionFormat.map rewrite
      items := s.items.map fun items => ⟨items.dataType.map rewrite⟩ }
  | .body schema => .body schema

def rewriteParameter (rewrite : String → String) (p : Parameter) : Parameter :=
  { p with
    name := rewrite p.name
    description := p.description.map rewrite
    kind := rewriteKind rewrite p.kind }

/-- The operation with all texts rewritten. -/
def rewriteOperation (rewrite : String → String) (o : Operation) : Operation where
  id := rewrite o.id
  description := o.description.map rewrite
  consumes := o.consumes.map rewrite
  produces := o.produces.map rewrite
  parameters := o.parameters.map (rewriteParameter rewrite)

section Rewriting

variable {rewrite : String → String}

theorem hasText_map (keeps : KeepsShape rewrite) (text : Option String) :
    HasText (text.map rewrite) ↔ HasText text := by
  cases text with
  | none => exact .rfl
  | some text => simp [HasText, keeps.empty]

/-- Texts joined with commas are empty if there are none, or if there is one and it is empty. -/
theorem joinStrings_eq_empty_iff (texts : List String) :
    joinStrings "," texts = "" ↔ texts = [] ∨ texts = [""] := by
  rw [← String.toList_inj, joinStrings, String.toList_ofList]
  rcases texts with _ | ⟨text, _ | ⟨next, others⟩⟩
  · simp [joined]
  · simp [joined]
  · simp [joined]

theorem joinStrings_map_eq_empty_iff (keeps : KeepsShape rewrite) (texts : List String) :
    joinStrings "," (texts.map rewrite) = "" ↔ joinStrings "," texts = "" := by
  rw [joinStrings_eq_empty_iff, joinStrings_eq_empty_iff]
  rcases texts with _ | ⟨text, _ | ⟨next, others⟩⟩
  · simp
  · simp [keeps.empty]
  · simp

theorem writingMethods_rewriteKind (keeps : KeepsShape rewrite) (kind : Kind) :
    writingMethods (rewriteKind rewrite kind) = writingMethods kind := by
  cases kind with
  | body schema => rfl
  | serializable s =>
    have array : s.dataType.map rewrite = some "array" ↔ s.dataType = some "array" := by
      simp [Option.map_eq_some_iff, keeps.array]
    have held : (s.items.map fun items => (⟨items.dataType.map rewrite⟩ : Items)).bind (·.dataType) =
        (s.items.bind (·.dataType)).map rewrite := by cases s.items <;> rfl
    simp only [rewriteKind, writingMethods, hasText_map keeps, array, held, ne_eq, List.map_eq_nil_iff,
      Option.map_eq_none_iff]

theorem parameterMethods_rewriteParameter (keeps : KeepsShape rewrite) (p : Parameter) :
    parameterMethods (rewriteParameter rewrite p) = parameterMethods p := by
  show ["param"] ++ calledIf (rewrite p.name ≠ "") "name" ++ ["type"] ++
    writingMethods (rewriteKind rewrite p.kind) ++ calledIf (p.required ≠ none) "required" ++
    calledIf (HasText (p.description.map rewrite)) "description" ++ ["endParam"] = _
  rw [calledIf_congr (keeps.empty p.name).not, calledIf_congr (hasText_map keeps p.description),
    writingMethods_rewriteKind keeps]
  rfl

theorem operationMethods_rewriteOperation (keeps : KeepsShape rewrite) (o : Operation) :
    operationMethods (rewriteOperation rewrite o) = operationMethods o := by
  show calledIf (rewrite o.id ≠ "") "id" ++ calledIf (HasText (o.description.map rewrite)) "description" ++
    calledIf (joinStrings "," (o.consumes.map rewrite) ≠ "") "consumes" ++
    calledIf (joinStrings "," (o.produces.map rewrite) ≠ "") "produces" ++
    (o.parameters.map (rewriteParameter rewrite)).flatMap parameterMethods ++ ["route", "process"] = _
  rw [calledIf_congr (keeps.empty o.id).not, calledIf_congr (hasText_map keeps o.description),
    calledIf_congr (joinStrings_map_eq_empty_iff keeps o.consumes).not,
    calledIf_congr (joinStrings_map_eq_empty_iff keeps o.produces).not, List.flatMap_map]
  simp only [parameterMethods_rewriteParameter keeps]
  rfl

end Rewriting

/-! ## The whole -/

theorem methodNames_eq (naming : Naming) (path : String) (method : Method) (o : Operation) :
    (operationStatement naming path method o).methodNames = operationMethods o := by
  rw [operationStatement_eq, methodNames_endpoint fun i hi => word_of_mem_invocations hi]
  exact map_method_operationContent o

/-- The names read back from the statement of an operation are those of the fields that it gives, in their
order. Other texts in these fields, another path and another processor neither add nor remove nor alter a
name. -/
theorem methodNames_operationStatement (naming : Naming) (path : String) (method : Method) (o : Operation) :
    (operationStatement naming path method o).methodNames = operationMethods o ∧
    ∀ rewrite : String → String, KeepsShape rewrite → ∀ (naming' : Naming) (path' : String) (method' : Method),
      (operationStatement naming' path' method' (rewriteOperation rewrite o)).methodNames =
        (operationStatement naming path method o).methodNames := by
  refine ⟨methodNames_eq naming path method o, fun rewrite keeps naming' path' method' => ?_⟩
  rw [methodNames_eq, methodNames_eq, operationMethods_rewriteOperation keeps]

/-- The text with calls put after it, unless it is empty or names the data type of arrays. -/
def withCalls (text : String) : String :=
  if text = "" ∨ text = "array" then text else text ++ ").more(\n.other()"

theorem keepsShape_withCalls : KeepsShape withCalls := by
  have length (text : String) : 16 ≤ (text ++ ").more(\n.other()").length := by
    rw [String.length_append]
    exact Nat.le_add_left _ _
  have ne (text : String) {short : String} (few : short.length < 16) : text ++ ").more(\n.other()" ≠ short := by
    rintro rfl
    exact absurd (length text) (Nat.not_le_of_lt few)
  constructor <;> intro text <;> unfold withCalls <;> split
  next plain => exact .rfl
  next other => exact iff_of_false (ne text (by decide)) fun empty => other (.inl empty)
  next plain => exact .rfl
  next other => exact iff_of_false (ne text (by decide)) fun array => other (.inr array)

/-- An operation with a list of tags, whose description is empty. -/
def tagListing : Operation where
  id := "list"
  description := some ""
  parameters := [{
    name := "tags", location := .query, required := none, description := some "Which ones"
    kind := .serializable {
      dataType := some "array", defaultValue := some "", items := some ⟨some "string"⟩ } }]

theorem methodNames_operationStatement_withCalls :
    KeepsShape withCalls ∧
    operationMethods tagListing = ["id", "param", "name", "type", "dataType", "defaultValue", "arrayType",
      "description", "endParam", "route", "process"] ∧
    (operationStatement (.affixed ".a(" "\n.b()") "/.c()" .put (rewriteOperation withCalls tagListing)).methodNames =
      (operationStatement .operationId "/tags" .get tagListing).methodNames :=
  ⟨keepsShape_withCalls, by decide,
    (methodNames_operationStatement .operationId "/tags" .get tagListing).2 _ keepsShape_withCalls _ _ _⟩

end SwaggerRoutes.Route
