/-
The forms of the invocations on an endpoint. A method either takes string arguments only, or it
takes one argument that is inserted as it is, always written in the same way. The texts inserted as
they are come from the default values and collection formats of the parameters, apart from the truth
values and the locations.
-/
import SwaggerRoutes.Proofs.Route.Content

namespace SwaggerRoutes.Route

open SwaggerRoutes.Api

/-! ## Forms -/

/-- The methods that are invoked on an endpoint. -/
def methods : List String :=
  ["id", "description", "consumes", "produces", "param", "name", "type", "dataType",
   "allowableValues", "collectionFormat", "defaultValue", "arrayType", "required", "endParam"]

/-- How a method writes an argument that is inserted as it is; none if it takes strings. -/
def rawArgument? (method : String) : Option (String → Argument) :=
  if method = "defaultValue" ∨ method = "required" then some .literal
  else if method = "type" then some (.enumConstant .restParamType)
  else if method = "collectionFormat" then some (.enumConstant .collectionFormat)
  else none

theorem rawArgument?_cases {method : String} {write : String → Argument}
    (writes : rawArgument? method = some write) :
    write = .literal ∨ ∃ type, write = .enumConstant type := by
  unfold rawArgument? at writes
  split_ifs at writes
  · exact .inl (Option.some.inj writes).symm
  · exact .inr ⟨_, (Option.some.inj writes).symm⟩
  · exact .inr ⟨_, (Option.some.inj writes).symm⟩

/-- An invocation with strings, or with an allowed text inserted as it is. -/
inductive Regular (Allowed : String → Prop) : Invocation → Prop
  | strings {method : String} (known : method ∈ methods) (plain : rawArgument? method = none)
      (texts : List String) : Regular Allowed ⟨method, texts.map .str⟩
  | raw {method : String} {write : String → Argument} {text : String} (known : method ∈ methods)
      (writes : rawArgument? method = some write) (allowed : Allowed text) :
      Regular Allowed ⟨method, [write text]⟩

variable {Allowed : String → Prop}

theorem Regular.known {i : Invocation} (regular : Regular Allowed i) : i.method ∈ methods := by
  cases regular <;> assumption

/-- The clause makes a regular invocation if it makes any. -/
def Clause.Regular (Allowed : String → Prop) (c : Clause) : Prop :=
  ∀ args ∈ c.args, Route.Regular Allowed ⟨c.method, args⟩

theorem regular_stringClause {method : String} (known : method ∈ methods)
    (plain : rawArgument? method = none) (text : Option String) :
    (stringClause method text).Regular Allowed := by
  intro args hargs
  obtain ⟨text, -, rfl⟩ := Option.map_eq_some_iff.1 hargs
  exact .strings known plain [text]

theorem regular_stringsClause {method : String} (known : method ∈ methods)
    (plain : rawArgument? method = none) (values : List String) :
    (stringsClause method values).Regular Allowed := by
  intro args hargs
  simp only [stringsClause, Option.mem_def] at hargs
  split_ifs at hargs
  obtain rfl := Option.some.inj hargs
  exact .strings known plain values

theorem regular_rawClause {α : Type} {method : String} {write : String → Argument}
    (known : method ∈ methods) (writes : rawArgument? method = some write) {value : Option α}
    {text : α → String} (allowed : ∀ a ∈ value, Allowed (text a)) :
    (Clause.mk method (value.map fun a => [write (text a)])).Regular Allowed := by
  intro args hargs
  obtain ⟨a, ha, rfl⟩ := Option.map_eq_some_iff.1 hargs
  exact .raw known writes (allowed a ha)

/-! ## The invocations of a content -/

/-- The texts of a parameter that are inserted as they are. -/
def rawTexts (p : Parameter) : List String :=
  (writing p.kind).defaultValue.toList ++ (writing p.kind).collectionFormat.toList

/-- The texts of all parameters that are inserted as they are. -/
def specificationRawTexts (spec : Specification) : List String :=
  spec.paths.flatMap fun (_, item) =>
    item.operations.flatMap fun (_, o) => o.parameters.flatMap rawTexts

/-- The texts inserted as they are that no document chooses. -/
def fixedTexts : List String := ["true", "false"] ++ Location.all.map Location.name

theorem mem_of_mem_present {text : String} {value : Option String} (h : text ∈ present value) :
    text ∈ value := (Option.filter_eq_some_iff.1 h).1

theorem regular_of_mem_clauses {o : Operation} {c : Clause} (h : c ∈ (operationContent o).clauses) :
    c.Regular Allowed := by
  simp only [OperationContent.clauses, List.mem_cons, List.not_mem_nil, or_false] at h
  rcases h with rfl | rfl | rfl | rfl <;> exact regular_stringClause (by decide) rfl _

theorem regular_of_mem_parameter_clauses (fixed : ∀ text ∈ fixedTexts, Allowed text) {p : Parameter}
    (raw : ∀ text ∈ rawTexts p, Allowed text) {c : Clause} (h : c ∈ (parameterContent p).clauses) :
    c.Regular Allowed := by
  simp only [ParameterContent.clauses, ParameterContent.writingClauses, List.cons_append,
    List.nil_append, List.mem_cons, List.not_mem_nil, or_false] at h
  rcases h with rfl | rfl | rfl | rfl | rfl | rfl | rfl | rfl | rfl | rfl
  case inr.inl =>
    rintro _ ⟨⟩
    refine .raw (show "type" ∈ methods by decide) rfl (fixed _ ?_)
    show p.location.name ∈ fixedTexts
    cases p.location <;> decide
  case inr.inr.inr.inl =>
    exact regular_stringsClause (by decide) rfl _
  case inr.inr.inr.inr.inl =>
    refine regular_rawClause (by decide) rfl fun text h => raw text ?_
    simp only [rawTexts, List.mem_append, Option.mem_toList]
    exact .inr (mem_of_mem_present h)
  case inr.inr.inr.inr.inr.inl =>
    refine regular_rawClause (by decide) rfl fun text h => raw text ?_
    simp only [rawTexts, List.mem_append, Option.mem_toList]
    exact .inl h
  case inr.inr.inr.inr.inr.inr.inr.inl =>
    exact regular_rawClause (by decide) rfl fun flag _ => fixed _ (by cases flag <;> decide)
  case inr.inr.inr.inr.inr.inr.inr.inr.inr =>
    rintro _ ⟨⟩
    exact .strings (by decide) rfl []
  all_goals exact regular_stringClause (by decide) rfl _

/-- Where an invocation of a content comes from. -/
theorem OperationContent.mem_invocations_cases {c : OperationContent} {i : Invocation}
    (h : i ∈ c.invocations) : ⟨i.method, some i.args⟩ ∈ c.clauses ∨ i = ⟨"param", []⟩ ∨
      ∃ p ∈ c.parameters, ⟨i.method, some i.args⟩ ∈ p.clauses := by
  rcases List.mem_append.1 h with h | h
  · exact .inl (exists_of_mem_invocations h)
  · obtain ⟨p, hp, hi⟩ := List.mem_flatMap.1 h
    rcases List.mem_cons.1 hi with hi | hi
    · exact .inr (.inl hi)
    · exact .inr (.inr ⟨p, hp, exists_of_mem_invocations hi⟩)

/-- The invocations of a content are regular if the texts inserted as they are are allowed. -/
theorem regular_of_mem_invocations (fixed : ∀ text ∈ fixedTexts, Allowed text) {o : Operation}
    (raw : ∀ p ∈ o.parameters, ∀ text ∈ rawTexts p, Allowed text) {i : Invocation}
    (h : i ∈ (operationContent o).invocations) : Regular Allowed i := by
  rcases OperationContent.mem_invocations_cases h with made | rfl | ⟨c, hc, made⟩
  · exact regular_of_mem_clauses made i.args rfl
  · exact .strings (by decide) rfl []
  · obtain ⟨p, hp, rfl⟩ := List.mem_map.1 hc
    exact regular_of_mem_parameter_clauses fixed (raw p hp) made i.args rfl

/-- A block ends with an invocation of its own. -/
theorem block_eq_append (c : ParameterContent) :
    ∃ front, c.block = front ++ [⟨"endParam", []⟩] := by
  refine ⟨⟨"param", []⟩ :: invocations c.clauses.dropLast, ?_⟩
  have last : c.clauses = c.clauses.dropLast ++ [⟨"endParam", some []⟩] := rfl
  rw [ParameterContent.block, last, invocations, List.filterMap_append, ← last]
  rfl

/-- The last invocation of a content takes strings. -/
theorem rawArgument?_last (o : Operation) :
    ∀ i ∈ (operationContent o).invocations.getLast?, rawArgument? i.method = none := by
  intro i last
  rcases List.eq_nil_or_concat (operationContent o).parameters with empty | ⟨ps, p, nonempty⟩
  · rw [OperationContent.invocations, empty, List.flatMap_nil, List.append_nil] at last
    have made := exists_of_mem_invocations (List.mem_of_getLast? last)
    have known : i.method ∈ (operationContent o).clauses.map Clause.method :=
      List.mem_map_of_mem made
    rw [OperationContent.map_method_clauses] at known
    have plain : ∀ method ∈ ["id", "description", "consumes", "produces"],
        rawArgument? method = none := by
      simp [rawArgument?]
    exact plain _ known
  · obtain ⟨front, block⟩ := block_eq_append p
    rw [OperationContent.invocations, nonempty, List.concat_eq_append, List.flatMap_append,
      List.flatMap_singleton, block, ← List.append_assoc, ← List.append_assoc,
      List.getLast?_concat] at last
    obtain rfl := Option.some.inj last
    rfl

end SwaggerRoutes.Route
