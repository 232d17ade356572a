/-
What the source text of a statement looks like outside its string literals. The skeleton of a text
has one mark in the place of each literal. The main statement is that two operations with the same
outline have statements with the same skeleton: the texts of a document stay within their literals,
whatever characters they are made of.
-/
import SwaggerRoutes.Proofs.Java.Statement

namespace SwaggerRoutes.Java

open SwaggerRoutes.Text SwaggerRoutes.Api SwaggerRoutes.Route

/-! ## Skeletons -/

/-- What is left of a text outside its string literals: single characters, and a mark for each
literal. -/
inductive Token
  | char (c : Char)
  | literal
deriving DecidableEq, Repr

/-- Where a scan stands: outside of literals, in one, or after a backslash in one. -/
inductive Place
  | code | literal | escape
deriving DecidableEq, Repr

/-- The tokens of a text from a place on. A literal ends at the next quote that no backslash takes. -/
def scan : Place → List Char → List Token
  | _, [] => []
  | .code, c :: rest => if c = '"' then .literal :: scan .literal rest else .char c :: scan .code rest
  | .literal, c :: rest =>
    if c = '\\' then scan .escape rest else if c = '"' then scan .code rest else scan .literal rest
  | .escape, _ :: rest => scan .literal rest

def skeleton (text : List Char) : List Token := scan .code text

theorem skeleton_append {text : List Char} (h : '"' ∉ text) (rest : List Char) :
    skeleton (text ++ rest) = text.map Token.char ++ skeleton rest := by
  induction text with
  | nil => rfl
  | cons c text ih =>
    simp only [List.mem_cons, not_or] at h
    have step : skeleton (c :: (text ++ rest)) = .char c :: skeleton (text ++ rest) :=
      if_neg (Ne.symm h.1)
    rw [List.cons_append, step, ih h.2, List.map_cons, List.cons_append]

/-- Text without quotes and backslashes leads out of no literal. -/
theorem scan_literal_append {text : List Char} (h : ∀ c ∈ text, isDelimiter c = false)
    (rest : List Char) : scan .literal (text ++ rest) = scan .literal rest := by
  induction text with
  | nil => rfl
  | cons c text ih =>
    have plain := h c List.mem_cons_self
    simp only [isDelimiter, Bool.or_eq_false_iff, decide_eq_false_iff_not] at plain
    obtain ⟨⟨quote, backslash⟩, -⟩ := plain
    rw [List.cons_append, scan, if_neg backslash, if_neg quote]
    exact ih fun d hd => h d (List.mem_cons_of_mem _ hd)

/-- The escape of a character leads out of no literal. -/
theorem scan_literal_escape (c : Char) (rest : List Char) :
    scan .literal (escape c ++ rest) = scan .literal rest := by
  rcases escape_cases c with ⟨d, tail, e, -, plain⟩ | ⟨e, plain⟩
  -- the backslash takes the next character, which may be a quote
  · have step : scan .literal ('\\' :: d :: (tail ++ rest)) = scan .literal (tail ++ rest) := rfl
    rw [e, List.cons_append, List.cons_append, step, scan_literal_append plain]
  · rw [e]
    exact scan_literal_append (by simpa using plain) rest

/-- The literal of a text is one token. -/
theorem skeleton_literalChars (text rest : List Char) :
    skeleton (literalChars text ++ rest) = .literal :: skeleton rest := by
  have inside : scan .literal (text.flatMap escape ++ '"' :: rest) = skeleton rest := by
    induction text with
    | nil => rfl
    | cons c text ih => rw [List.flatMap_cons, List.append_assoc, scan_literal_escape, ih]
  rw [literalChars, List.cons_append, List.cons_append, List.append_assoc]
  exact congrArg (Token.literal :: ·) inside

example : skeleton "f(\"a\\\"b\", c)".toList =
    [.char 'f', .char '(', .literal, .char ',', .char ' ', .char 'c', .char ')'] := by decide

/-! ## Tokens of a statement -/

/-- No quote stands in the text of an argument that is no literal. -/
def QuoteFree : Argument → Prop
  | .str _ => True
  | arg => '"' ∉ (argument arg).toList

theorem quoteFree_of_regular {i : Invocation} (regular : Regular (fun text => '"' ∉ text.toList) i) :
    ∀ arg ∈ i.args, QuoteFree arg := by
  cases regular with
  | strings known plain texts =>
    intro arg harg
    obtain ⟨text, -, rfl⟩ := List.mem_map.1 harg
    trivial
  | raw known writes allowed =>
    intro arg harg
    obtain rfl := List.mem_singleton.1 harg
    have free := notMem_argument_raw writes (by decide) (by decide) allowed
    rcases rawArgument?_cases writes with rfl | ⟨type, rfl⟩ <;> exact free

/-- The tokens of an argument. -/
def argumentTokens : Argument → List Token
  | .str _ => [.literal]
  | arg => (argumentText arg).map Token.char

/-- Lists of tokens with commas between them. -/
def commaTokens : List (List Token) → List Token
  | [] => []
  | first :: others => first ++ others.flatMap (.char ',' :: ·)

def invocationTokens (i : Invocation) : List Token :=
  ('\n' :: continuationIndent.toList ++ '.' :: i.method.toList ++ ['(']).map Token.char ++
    commaTokens (i.args.map argumentTokens) ++ [.char ')']

theorem skeleton_raw {text : List Char} (h : '"' ∉ text) (rest : List Char) :
    skeleton (indentLines text ++ rest) = (indentLines text).map Token.char ++ skeleton rest := by
  -- the indentation that is inserted brings no quote
  refine skeleton_append (fun mem => ?_) rest
  rcases mem_of_mem_replaceChar mem with mem | mem
  · exact h mem
  · exact absurd mem (by decide)

theorem skeleton_argumentText {arg : Argument} (h : QuoteFree arg) (rest : List Char) :
    skeleton (argumentText arg ++ rest) = argumentTokens arg ++ skeleton rest := by
  cases arg with
  | str text => rw [argumentText_str, skeleton_literalChars]; rfl
  | _ => exact skeleton_raw h rest

theorem skeleton_further_arguments {args : List Argument} (h : ∀ arg ∈ args, QuoteFree arg)
    (rest : List Char) : skeleton ((args.map argumentText).flatMap ([','] ++ ·) ++ rest) =
      (args.map argumentTokens).flatMap (.char ',' :: ·) ++ skeleton rest := by
  induction args with
  | nil => rfl
  | cons arg args ih =>
    rw [List.forall_mem_cons] at h
    rw [List.map_cons, List.map_cons, List.flatMap_cons, List.flatMap_cons, List.append_assoc,
      List.append_assoc, List.append_assoc, skeleton_append (by decide), skeleton_argumentText h.1,
      ih h.2]
    rfl

theorem skeleton_arguments {args : List Argument} (h : ∀ arg ∈ args, QuoteFree arg)
    (rest : List Char) : skeleton (joined [','] (args.map argumentText) ++ rest) =
      commaTokens (args.map argumentTokens) ++ skeleton rest := by
  cases args with
  | nil => rfl
  | cons arg args =>
    rw [List.forall_mem_cons] at h
    rw [List.map_cons, List.map_cons, joined_cons_eq, List.append_assoc, skeleton_argumentText h.1,
      skeleton_further_arguments h.2, commaTokens, List.append_assoc]

theorem skeleton_invocationText {i : Invocation} (word : IsWord i.method)
    (h : ∀ arg ∈ i.args, QuoteFree arg) (rest : List Char) :
    skeleton (invocationText i ++ rest) = invocationTokens i ++ skeleton rest := by
  have start : '"' ∉ '\n' :: continuationIndent.toList ++ '.' :: i.method.toList ++ ['('] := by
    simp only [List.mem_append, List.mem_cons, not_or]
    exact ⟨⟨⟨by decide, by decide⟩, by decide, word.notMem (by decide)⟩, by decide, by decide⟩
  have parts : invocationText i ++ rest =
      ('\n' :: continuationIndent.toList ++ '.' :: i.method.toList ++ ['(']) ++
        (joined [','] (i.args.map argumentText) ++ ([')'] ++ rest)) := by
    simp only [invocationText, List.append_assoc, List.cons_append, List.nil_append]
  rw [parts, skeleton_append start, skeleton_arguments h, skeleton_append (by decide),
    invocationTokens]
  simp only [List.append_assoc, List.map_cons, List.map_nil]

theorem skeleton_invocations {is : List Invocation} (words : ∀ i ∈ is, IsWord i.method)
    (h : ∀ i ∈ is, ∀ arg ∈ i.args, QuoteFree arg) (rest : List Char) :
    skeleton (is.flatMap invocationText ++ rest) = is.flatMap invocationTokens ++ skeleton rest := by
  induction is with
  | nil => rfl
  | cons i is ih =>
    rw [List.forall_mem_cons] at words h
    rw [List.flatMap_cons, List.append_assoc, skeleton_invocationText words.1 h.1, ih words.2 h.2,
      List.flatMap_cons, List.append_assoc]

/-- The tokens of the statement of an endpoint. Neither path nor processor is part of them. -/
def endpointTokens (method : Method) (tokens : List Token) : List Token :=
  (statementIndent.toList ++ (endpointOpening method).toList).map Token.char ++
    (.literal :: .char ')' :: tokens) ++
    Endpoint.beforeProcessor.toList.map Token.char ++ [.literal, .char ')']

theorem skeleton_endpoint {e : Endpoint} (words : ∀ i ∈ e.invocations, IsWord i.method)
    (h : ∀ i ∈ e.invocations, ∀ arg ∈ i.args, QuoteFree arg) :
    skeleton (statement e.statement).toList =
      endpointTokens e.method (e.invocations.flatMap invocationTokens) := by
  have start : '"' ∉ statementIndent.toList ++ (endpointOpening e.method).toList := by
    cases e.method <;> decide
  have paren : ∀ rest, skeleton (')' :: rest) = .char ')' :: skeleton rest := fun _ => rfl
  have none : skeleton [] = [] := rfl
  rw [toList_statement_endpoint words]
  simp only [List.append_assoc]
  rw [← List.append_assoc statementIndent.toList, skeleton_append start, skeleton_literalChars,
    List.singleton_append, paren, skeleton_invocations words h, skeleton_append (by decide),
    skeleton_literalChars, paren, none, endpointTokens]
  simp only [List.append_assoc, List.cons_append]

/-! ## Outlines -/

/-- What may be told of a parameter from outside of literals. -/
structure ParameterOutline where
  location : Location
  isBody : Bool
  required : Option Bool
  defaultValue : Option String
  collectionFormat : Option String
  allowableValues : Nat
  hasName : Bool
  hasDataType : Bool
  hasDescription : Bool
  hasItemsType : Bool
deriving DecidableEq, Repr

/-- What may be told of an operation from outside of literals. -/
structure Outline where
  hasId : Bool
  hasDescription : Bool
  hasConsumes : Bool
  hasProduces : Bool
  parameters : List ParameterOutline
deriving DecidableEq, Repr

def isBody : Kind → Bool
  | .serializable _ => false
  | .body _ => true

def parameterOutline (p : Parameter) : ParameterOutline where
  location := p.location
  isBody := isBody p.kind
  required := p.required
  defaultValue := (writing p.kind).defaultValue
  collectionFormat := (writing p.kind).collectionFormat
  allowableValues := (writing p.kind).allowableValues.length
  hasName := p.name ≠ ""
  hasDataType := (present (writing p.kind).dataType).isSome
  hasDescription := (present p.description).isSome
  hasItemsType := (itemsType (writing p.kind)).isSome

def outline (o : Operation) : Outline where
  hasId := o.id ≠ ""
  hasDescription := (present o.description).isSome
  hasConsumes := joinStrings "," o.consumes ≠ ""
  hasProduces := joinStrings "," o.produces ≠ ""
  parameters := o.parameters.map parameterOutline

/-! ## Tokens follow from the outline -/

/-- The tokens of a clause; none if it is left out. -/
def clauseTokens (c : Clause) : List Token := c.invocation?.toList.flatMap invocationTokens

theorem invocationTokens_clauses (clauses : List Clause) :
    (invocations clauses).flatMap invocationTokens = clauses.flatMap clauseTokens := by
  induction clauses with
  | nil => rfl
  | cons c clauses ih =>
    rw [invocations_cons, List.flatMap_append, ih, List.flatMap_cons, clauseTokens]

/-- Of a string clause the tokens only say whether it is there. -/
theorem clauseTokens_stringClause {text text' : Option String} (method : String)
    (same : text.isSome = text'.isSome) :
    clauseTokens (stringClause method text) = clauseTokens (stringClause method text') := by
  cases text <;> cases text' <;> first | rfl | cases same

theorem map_argumentTokens_str (values : List String) :
    (values.map Argument.str).map argumentTokens = List.replicate values.length [.literal] := by
  rw [List.map_map, ← List.map_const']
  rfl

/-- Of a clause with strings the tokens only say how many they are. -/
theorem clauseTokens_stringsClause {values values' : List String} (method : String)
    (same : values.length = values'.length) :
    clauseTokens (stringsClause method values) = clauseTokens (stringsClause method values') := by
  by_cases h : values = []
  · subst h
    rw [List.length_eq_zero_iff.1 same.symm]
  · have h' : values' ≠ [] := by
      rintro rfl
      exact h (List.length_eq_zero_iff.1 same)
    rw [stringsClause, stringsClause, if_neg h, if_neg h']
    show invocationTokens ⟨method, _⟩ ++ [] = invocationTokens ⟨method, _⟩ ++ []
    rw [invocationTokens, invocationTokens, map_argumentTokens_str, map_argumentTokens_str, same]

theorem isSome_present_some (text : String) : (present (some text)).isSome = decide (text ≠ "") := by
  by_cases h : text = ""
  · rw [h]; decide
  · rw [present_of_ne h]; simpa using h

theorem isSome_present_eq {text text' : String} (same : decide (text ≠ "") = decide (text' ≠ "")) :
    (present (some text)).isSome = (present (some text')).isSome := by
  rw [isSome_present_some, isSome_present_some, same]

/-- The tokens of a parameter follow from its outline. -/
theorem blockTokens_eq {p p' : Parameter} (same : parameterOutline p = parameterOutline p') :
    (parameterContent p).block.flatMap invocationTokens =
      (parameterContent p').block.flatMap invocationTokens := by
  obtain ⟨location, -, required, default, format, count, name, dataType, description, items⟩ :=
    ParameterOutline.mk.inj same
  rw [ParameterContent.block, ParameterContent.block, List.flatMap_cons, List.flatMap_cons,
    invocationTokens_clauses, invocationTokens_clauses]
  simp only [ParameterContent.clauses, ParameterContent.writingClauses, parameterContent,
    List.cons_append, List.nil_append, List.flatMap_cons, List.flatMap_nil]
  rw [clauseTokens_stringClause "name" (isSome_present_eq name), location,
    clauseTokens_stringClause "dataType" dataType, clauseTokens_stringsClause "allowableValues" count, format,
    default, clauseTokens_stringClause "arrayType" items, required,
    clauseTokens_stringClause "description" description]

theorem blocksTokens_eq {ps ps' : List Parameter}
    (same : ps.map parameterOutline = ps'.map parameterOutline) :
    (ps.flatMap fun p => (parameterContent p).block.flatMap invocationTokens) =
      ps'.flatMap fun p => (parameterContent p).block.flatMap invocationTokens := by
  induction ps generalizing ps' with
  | nil => rw [List.map_eq_nil_iff.1 same.symm]
  | cons p ps ih =>
    cases ps' with
    | nil => cases same
    | cons p' ps' =>
      obtain ⟨head, tail⟩ := List.cons.inj same
      rw [List.flatMap_cons, List.flatMap_cons, blockTokens_eq head, ih tail]

/-- The tokens of an operation follow from its outline. -/
theorem contentTokens_eq {o o' : Operation} (same : outline o = outline o') :
    (operationContent o).invocations.flatMap invocationTokens =
      (operationContent o').invocations.flatMap invocationTokens := by
  obtain ⟨id, description, consumes, produces, parameters⟩ := Outline.mk.inj same
  rw [OperationContent.invocations, OperationContent.invocations, List.flatMap_append,
    List.flatMap_append, invocationTokens_clauses, invocationTokens_clauses]
  simp only [OperationContent.clauses, operationContent, List.flatMap_cons, List.flatMap_nil,
    List.flatMap_assoc, List.flatMap_map]
  rw [clauseTokens_stringClause "id" (isSome_present_eq id),
    clauseTokens_stringClause "description" description,
    clauseTokens_stringClause "consumes" (isSome_present_eq consumes),
    clauseTokens_stringClause "produces" (isSome_present_eq produces), blocksTokens_eq parameters]

/-! ## Statements with the same outline -/

theorem skeleton_operationStatement (naming : Naming) (path : String) (method : Method) {o : Operation}
    (quoteFree : ∀ p ∈ o.parameters, ∀ text ∈ rawTexts p, '"' ∉ text.toList) :
    skeleton (statement (operationStatement naming path method o)).toList =
      endpointTokens method ((operationContent o).invocations.flatMap invocationTokens) := by
  have regular : ∀ i ∈ (operationContent o).invocations, Regular (fun text => '"' ∉ text.toList) i :=
    fun i hi => regular_of_mem_invocations (by decide) quoteFree hi
  rw [operationStatement_eq]
  exact skeleton_endpoint (fun i hi => isWord_of_mem_methods (regular i hi).known)
    fun i hi => quoteFree_of_regular (regular i hi)

/-- Statements with the same verb and the same outline look the same outside of their literals, as
long as no text that is inserted as it is holds a quote. Paths, names of processors and the other
texts stay within literals. -/
theorem skeleton_eq_of_outline_eq (naming naming' : Naming) (path path' : String) (method : Method)
    {o o' : Operation} (same : outline o = outline o')
    (quoteFree : ∀ p ∈ o.parameters, ∀ text ∈ rawTexts p, '"' ∉ text.toList)
    (quoteFree' : ∀ p ∈ o'.parameters, ∀ text ∈ rawTexts p, '"' ∉ text.toList) :
    skeleton (statement (operationStatement naming path method o)).toList =
      skeleton (statement (operationStatement naming' path' method o')).toList := by
  rw [skeleton_operationStatement naming path method quoteFree,
    skeleton_operationStatement naming' path' method quoteFree', contentTokens_eq same]

theorem skeleton_eq_of_hostile_texts :
    skeleton (statement (operationStatement .operationId "/pets" .get
      { id := "list"
        parameters := [{
          name := "kind", location := .query, required := some true, description := some "Which"
          kind := .serializable {
            allowableValues := ["cat", "dog"], defaultValue := some "cat" } }] })).toList =
    skeleton (statement (operationStatement (.affixed "\\\"" "\n") "\"/\\" .get
      { id := "\"); exit(1); //"
        parameters := [{
          name := "\\\"\\", location := .query, required := some true, description := some "\n\x7b\x7d\""
          kind := .serializable {
            allowableValues := ["\",\"", ""], defaultValue := some "cat" } }] })).toList :=
  skeleton_eq_of_outline_eq _ _ _ _ _ (by decide) (by decide) (by decide)

end SwaggerRoutes.Java
