/-
The source of a class loses nothing of its routes. Every part of the source shows where it ends: a
package name at its semicolon, an import at its line, a class name at the blank after it, a string
literal at its quote, an invocation at its parenthesis or, if an argument is inserted as it is, at
the end of its line, and a statement at its semicolon. The main statement is that two classes with
the same source are in the same package and hold the same route definitions.
-/
import SwaggerRoutes.Config.Basic
import SwaggerRoutes.Proofs.Java.Statement

namespace SwaggerRoutes.Java

open SwaggerRoutes.Text SwaggerRoutes.Api SwaggerRoutes.Route

/-! ## Framed texts -/

theorem head?_append_of_head? {text : List Char} {c : Char} (h : text.head? = some c)
    (rest : List Char) : (text ++ rest).head? = some c := by
  rw [List.head?_append, h]; rfl

/-- A text between two fixed ones is determined by the whole, if what comes after begins with a
character that is not in the text. -/
theorem framed_inj {before after text text' : String} {c : Char} {rest rest' : List Char}
    (cut : after.toList.head? = some c) (h : c ∉ text.toList) (h' : c ∉ text'.toList)
    (same : (before ++ text ++ after).toList ++ rest = (before ++ text' ++ after).toList ++ rest') :
    text = text' ∧ rest = rest' := by
  obtain ⟨tail, parts⟩ := List.head?_eq_some_iff.1 cut
  simp only [String.toList_append, List.append_assoc, parts, List.cons_append] at same
  obtain ⟨texts, tails⟩ := append_sep_inj h h' (List.append_cancel_left same)
  exact ⟨String.toList_injective texts, List.append_cancel_left tails⟩

/-! ## Arguments -/

theorem literal_separated : Separated (fun text : String => ',' :: literalChars text.toList)
    (fun _ => True) (fun rest => rest.head? = some ')') (fun _ _ => True) where
  notEnd text _ rest := by simp
  followed _ _ _ _ _ := trivial
  inj text text' _ _ rest rest' _ _ same := by
    obtain ⟨texts, rests⟩ := literalChars_append_inj (List.cons.inj same).2
    exact ⟨String.toList_injective texts, rests⟩

theorem joined_strings (text : String) (texts : List String) :
    joined [','] (((text :: texts).map Argument.str).map argumentText) =
      literalChars text.toList ++ texts.flatMap fun text => ',' :: literalChars text.toList := by
  rw [List.map_cons, List.map_cons, joined_cons_eq, argumentText_str, List.flatMap_map,
    List.flatMap_map]
  simp only [argumentText_str, List.singleton_append]

/-- A list of string arguments ends at the parenthesis. -/
theorem strings_append_inj {texts texts' : List String} {rest rest' : List Char}
    (same : joined [','] ((texts.map Argument.str).map argumentText) ++ ')' :: rest =
      joined [','] ((texts'.map Argument.str).map argumentText) ++ ')' :: rest') :
    texts = texts' ∧ rest = rest' := by
  cases texts with
  | nil =>
    cases texts' with
    | nil => exact ⟨rfl, (List.cons.inj same).2⟩
    | cons text' texts' =>
      rw [joined_strings] at same
      exact absurd (List.cons.inj same).1 (by decide)
  | cons text texts =>
    cases texts' with
    | nil =>
      rw [joined_strings] at same
      exact absurd (List.cons.inj same).1 (by decide)
    | cons text' texts' =>
      rw [joined_strings, joined_strings, List.append_assoc, List.append_assoc] at same
      obtain ⟨heads, tails⟩ := literalChars_append_inj same
      obtain ⟨rfl, ends⟩ := literal_separated.flatMap_append_inj (fun _ _ => trivial)
        (fun _ _ => trivial) (fun _ _ => trivial) (fun _ _ => trivial) rfl rfl tails
      rw [String.toList_injective heads]
      exact ⟨rfl, (List.cons.inj ends).2⟩

theorem argument_raw_injective {method : String} {write : String → Argument}
    (writes : rawArgument? method = some write) {text text' : String}
    (same : (argument (write text)).toList = (argument (write text')).toList) : text = text' := by
  rcases rawArgument?_cases writes with rfl | ⟨type, rfl⟩
  · exact String.toList_injective same
  · have parts : ∀ text, (argument (.enumConstant type text)).toList =
        (type.simpleName ++ ".").toList ++ text.toList := fun text => String.toList_append
    rw [parts, parts] at same
    exact String.toList_injective (List.append_cancel_left same)

/-- A text on one line. -/
def OneLine (text : String) : Prop := '\n' ∉ text.toList

/-- An argument inserted as it is ends with its line. -/
theorem raw_append_inj {method : String} {write : String → Argument} {text text' : String}
    {rest rest' : List Char} (writes : rawArgument? method = some write) (line : OneLine text)
    (line' : OneLine text') (same : argumentText (write text) ++ ')' :: '\n' :: rest =
      argumentText (write text') ++ ')' :: '\n' :: rest') : text = text' ∧ rest = rest' := by
  have plain : ∀ {text}, OneLine text → '\n' ∉ (argument (write text)).toList :=
    fun line => notMem_argument_raw writes (by decide) (by decide) line
  have whole : ∀ {text}, OneLine text → '\n' ∉ (argument (write text)).toList ++ [')'] := by
    intro text line
    rw [List.mem_append, not_or]
    exact ⟨plain line, by decide⟩
  rw [argumentText, argumentText, indentLines_of_notMem (plain line),
    indentLines_of_notMem (plain line'), List.append_cons (argument (write text)).toList,
    List.append_cons (argument (write text')).toList] at same
  obtain ⟨texts, rests⟩ := append_sep_inj (whole line) (whole line') same
  exact ⟨argument_raw_injective writes (List.append_cancel_right texts), rests⟩

/-! ## Invocations -/

/-- Invocations are told apart; one with an argument inserted as it is must end its line. -/
theorem invocation_separated : Separated invocationText (Regular OneLine)
    (fun rest => rest.head? = some '.')
    (fun i rest => rawArgument? i.method = none ∨ rest.head? = some '\n') where
  notEnd i _ rest := by simp [invocationText]
  followed a b _ _ rest := .inr (by simp [invocationText])
  inj a b regular regular' rest rest' follow follow' same := by
    have parts : ∀ (i : Invocation) (rest : List Char), invocationText i ++ rest =
        ('\n' :: continuationIndent.toList ++ ['.']) ++ (i.method.toList ++
          '(' :: (joined [','] (i.args.map argumentText) ++ ')' :: rest)) := by
      intro i rest
      simp only [invocationText, List.append_assoc, List.cons_append, List.nil_append]
    rw [parts, parts] at same
    obtain ⟨names, args⟩ := append_sep_inj
      ((isWord_of_mem_methods regular.known).notMem (by decide))
      ((isWord_of_mem_methods regular'.known).notMem (by decide)) (List.append_cancel_left same)
    -- the method says in which of the two forms its arguments are written
    obtain ⟨method, as⟩ := a
    obtain ⟨method', bs⟩ := b
    obtain rfl : method = method' := String.toList_injective names
    cases regular with
    | strings known plain texts =>
      cases regular' with
      | strings known' plain' texts' =>
        obtain ⟨rfl, rests⟩ := strings_append_inj args
        exact ⟨rfl, rests⟩
      | raw known' writes allowed => rw [plain] at writes; cases writes
    | raw known writes allowed =>
      cases regular' with
      | strings known' plain' texts' => rw [writes] at plain'; cases plain'
      | raw known' writes' allowed' =>
        obtain rfl := Option.some.inj (writes.symm.trans writes')
        have feed : ∀ {rest : List Char}, rawArgument? method = none ∨ rest.head? = some '\n' →
            ∃ tail, rest = '\n' :: tail := by
          rintro rest (plain | head)
          · rw [writes] at plain; cases plain
          · exact List.head?_eq_some_iff.1 head
        obtain ⟨tail, rfl⟩ := feed follow
        obtain ⟨tail', rfl⟩ := feed follow'
        obtain ⟨rfl, rfl⟩ := raw_append_inj writes allowed allowed' args
        exact ⟨rfl, rfl⟩

/-! ## Endpoints -/

/-- The last line of `configure`, with that of the class. -/
def classEnd : String := "    \x7d\n\x7d\n"

/-- The invocations of an endpoint can be told from the source. -/
structure Legible (e : Endpoint) : Prop where
  regular : ∀ i ∈ e.invocations, Regular OneLine i
  last : ∀ i ∈ e.invocations.getLast?, rawArgument? i.method = none

theorem toList_statementLine {e : Endpoint} (legible : Legible e) (rest : List Char) :
    (statementLine e.statement).toList ++ rest =
      statementIndent.toList ++ ((endpointOpening e.method).toList ++ (literalChars e.path.toList ++
        ')' :: (e.invocations.flatMap invocationText ++ (Endpoint.beforeProcessor.toList ++
          (literalChars e.processor.toList ++ ')' :: (";\n".toList ++ rest)))))) := by
  have words : ∀ i ∈ e.invocations, IsWord i.method :=
    fun i hi => isWord_of_mem_methods (legible.regular i hi).known
  rw [statementLine, String.toList_append, toList_statement_endpoint words]
  simp only [List.append_assoc, List.cons_append, List.nil_append]

theorem endpoint_separated : Separated (fun e : Endpoint => (statementLine e.statement).toList) Legible
    (· = classEnd.toList) (fun _ _ => True) where
  notEnd e legible rest ends := by
    -- the end of the class is indented less than a statement
    have blank : statementIndent.toList[4]? = classEnd.toList[4]? := by
      rw [← ends, toList_statementLine legible, List.getElem?_append_left (by decide)]
    exact absurd blank (by decide)
  followed _ _ _ _ _ := trivial
  inj e e' legible legible' rest rest' _ _ same := by
    simp only [toList_statementLine legible, toList_statementLine legible'] at same
    obtain ⟨names, afterVerb⟩ := framed_inj (c := '(') (by decide)
      ((isWord_method e.method).notMem (by decide)) ((isWord_method e'.method).notMem (by decide))
      (List.append_cancel_left same)
    obtain ⟨paths, afterPath⟩ := literalChars_append_inj afterVerb
    have point : ∀ rest : List Char, (Endpoint.beforeProcessor.toList ++ rest).head? = some '.' :=
      head?_append_of_head? (by decide)
    obtain ⟨invocations, afterLast⟩ := invocation_separated.flatMap_append_inj legible.regular
      legible'.regular (fun i hi => .inl (legible.last i hi)) (fun i hi => .inl (legible'.last i hi))
      (point _) (point _) (List.cons.inj afterPath).2
    obtain ⟨processors, afterProcessor⟩ := literalChars_append_inj (List.append_cancel_left afterLast)
    exact ⟨Endpoint.ext (method_name_injective names) (String.toList_injective paths) invocations
      (String.toList_injective processors),
      List.append_cancel_left (List.cons.inj afterProcessor).2⟩

/-! ## Packages, imports and the class -/

theorem isPackage_of_validate {config : Config} (valid : config.validate = .ok ()) :
    Config.isPackage config.package = true :=
  (Config.validate_eq_ok_iff.1 valid).2.2

/-- A part of a package name holds letters, digits, underscores and dollar signs, at least one. -/
theorem chars_of_isPackagePart {part : List Char} (h : Config.isPackagePart part = true) :
    part ≠ [] ∧ ∀ c ∈ part, (Config.isIdentifierStart c || isDigit c) = true := by
  cases part with
  | nil => cases h
  | cons first others =>
    simp only [Config.isPackagePart, Bool.and_eq_true, List.all_eq_true] at h
    refine ⟨by simp, fun c hc => ?_⟩
    rcases List.mem_cons.1 hc with rfl | hc
    · rw [h.1, Bool.true_or]
    · exact h.2 c hc

/-- What belongs to no part of a package name is not in the name, apart from the dots. -/
theorem notMem_package_of {package : String} (valid : Config.isPackage package = true) {c : Char}
    (other : (Config.isIdentifierStart c || isDigit c) = false) (point : c ≠ '.') :
    c ∉ package.toList := by
  intro mem
  simp only [Config.isPackage, Bool.or_eq_true, decide_eq_true_eq, List.all_eq_true] at valid
  rcases valid with empty | parts
  · rw [empty] at mem; cases mem
  · obtain ⟨piece, hp, hc⟩ : ∃ piece ∈ pieces '.' package.toList, c ∈ piece :=
      exists_mem_pieces mem point
    rw [(chars_of_isPackagePart (parts piece hp)).2 c hc] at other
    cases other

theorem notMem_package {package : String} (valid : Config.isPackage package = true) :
    ';' ∉ package.toList :=
  notMem_package_of valid (by decide) (by decide)

/-- The lines of the package are told apart, also from none, if an import follows. -/
theorem packageLines_append_inj {package package' : String} {rest rest' : List Char}
    (h : ';' ∉ package.toList) (h' : ';' ∉ package'.toList) (next : rest.head? = some 'i')
    (next' : rest'.head? = some 'i')
    (same : (packageLines package).toList ++ rest = (packageLines package').toList ++ rest') :
    package = package' ∧ rest = rest' := by
  have opens : ∀ {package : String}, package ≠ "" → ∀ rest : List Char,
      ((packageLines package).toList ++ rest).head? = some 'p' := by
    intro package given rest
    rw [packageLines, if_neg given, String.toList_append, String.toList_append, List.append_assoc,
      List.append_assoc]
    exact head?_append_of_head? (by decide) _
  by_cases empty : package = "" <;> by_cases empty' : package' = ""
  · subst empty empty'
    exact ⟨rfl, same⟩
  -- with one of the packages empty, an import stands against the line of the other package
  · subst empty
    have heads := congrArg List.head? same
    rw [opens empty'] at heads
    rw [show (packageLines "").toList ++ rest = rest from rfl, next] at heads
    exact absurd heads (by decide)
  · subst empty'
    have heads := congrArg List.head? same
    rw [opens empty] at heads
    rw [show (packageLines "").toList ++ rest' = rest' from rfl, next'] at heads
    exact absurd heads (by decide)
  · rw [packageLines, packageLines, if_neg empty, if_neg empty'] at same
    exact framed_inj (c := ';') (by decide) h h' same

theorem importLine_separated : Separated (fun name => (importLine name).toList)
    (fun name => ';' ∉ name.toList) (fun rest => rest.head? = some '\n') (fun _ _ => True) where
  notEnd name _ rest := by
    have head : "import ".toList.head? = some 'i' := by decide
    rw [importLine, String.toList_append, String.toList_append, List.append_assoc, List.append_assoc,
      head?_append_of_head? head]
    rintro ⟨⟩
  followed _ _ _ _ _ := trivial
  inj name name' h h' rest rest' _ _ same := framed_inj (c := ';') (by decide) h h' same

/-- The name of a type has no punctuation but points. -/
theorem notMem_qualifiedName (type : HostType) {c : Char} (other : isLetter c = false) (point : c ≠ '.') :
    c ∉ type.qualifiedName.toList := by
  have package : type.package.toList.all (fun c => isLetter c || c == '.') = true := by cases type <;> decide
  have dot : ".".toList = ['.'] := by decide
  simp only [HostType.qualifiedName, String.toList_append, dot, List.mem_append, List.mem_singleton, not_or]
  refine ⟨⟨fun mem => ?_, point⟩, (isWord_simpleName type).notMem other⟩
  have allowed := List.all_eq_true.1 package c mem
  rw [other, Bool.false_or, beq_iff_eq] at allowed
  exact point allowed

theorem notMem_imports (artifact : Artifact) : ∀ name ∈ imports artifact, ';' ∉ name.toList := by
  intro name h
  obtain ⟨type, -, rfl⟩ := List.mem_map.1 h
  exact notMem_qualifiedName type (by decide) (by decide)

/-- There is always an import, that of the class which is extended. -/
theorem head?_importLines (artifact : Artifact) (rest : List Char) :
    (((imports artifact).flatMap fun name => (importLine name).toList) ++ rest).head? = some 'i' := by
  let others := HostType.all.tail.filter fun type => type == .routeBuilder || refersTo artifact type
  have list : imports artifact =
      HostType.routeBuilder.qualifiedName :: others.map HostType.qualifiedName := rfl
  rw [list, List.flatMap_cons, List.append_assoc]
  exact head?_append_of_head? (by decide) _

/-- The line that opens `configure`, after an empty one. -/
def configureLine : String := "\n    public void configure() \x7b\n"

theorem toList_source (package : String) (artifact : Artifact) :
    (source package artifact).toList = (packageLines package).toList ++
      (((imports artifact).flatMap fun name => (importLine name).toList) ++
        ("\n".toList ++ ((classLine artifact.className).toList ++ (configureLine.toList ++
          ((artifact.statements.flatMap fun s => (statementLine s).toList) ++ classEnd.toList))))) := by
  have parts : source package artifact = packageLines package
      ++ String.join ((imports artifact).map importLine) ++ "\n" ++ classLine artifact.className
      ++ configureLine ++ String.join (artifact.statements.map statementLine) ++ classEnd := rfl
  rw [parts]
  simp only [String.toList_append, String.toList_join, List.flatMap_map, List.append_assoc]

/-- What no identifier may hold is in no class name. -/
theorem notMem_className_of {c : Char} (other : isIdentifierPart c = false) (title : String) :
    c ∉ (className title).toList := by
  rw [className, String.toList_ofList, identifierText]
  intro mem
  rw [(List.mem_filter.1 mem).2] at other
  cases other

theorem notMem_className (title : String) : ' ' ∉ (className title).toList :=
  notMem_className_of (by decide +kernel) title

/-! ## The source of a specification -/

/-- The endpoints of a specification, in its order. -/
def endpoints (naming : Naming) (spec : Specification) : List Endpoint :=
  spec.paths.flatMap fun (path, item) =>
    item.operations.map fun (method, o) => endpoint naming path method o

theorem assemble_statements (naming : Naming) (spec : Specification) :
    (assemble naming spec).statements = bootstrap :: (endpoints naming spec).map Endpoint.statement := by
  rw [assemble, endpoints, List.map_flatMap]
  refine congrArg (bootstrap :: ·) (List.flatMap_congr ?_)
  rintro ⟨path, item⟩ -
  show pathStatements naming path item =
    (item.operations.map fun (method, o) => endpoint naming path method o).map Endpoint.statement
  rw [pathStatements, List.map_map]
  exact List.map_congr_left fun (method, o) _ => operationStatement_eq naming path method o

theorem legible_of_mem_endpoints {naming : Naming} {spec : Specification}
    (raw : ∀ text ∈ specificationRawTexts spec, OneLine text) :
    ∀ e ∈ endpoints naming spec, Legible e := by
  intro e he
  obtain ⟨⟨path, item⟩, hpath, he⟩ := List.mem_flatMap.1 he
  obtain ⟨⟨method, o⟩, ho, rfl⟩ := List.mem_map.1 he
  have rawHere : ∀ p ∈ o.parameters, ∀ text ∈ rawTexts p, OneLine text := fun p hp text ht =>
    raw text (List.mem_flatMap.2 ⟨_, hpath, List.mem_flatMap.2 ⟨_, ho,
      List.mem_flatMap.2 ⟨p, hp, ht⟩⟩⟩)
  have fixed : ∀ text ∈ fixedTexts, OneLine text := by unfold OneLine; decide
  exact ⟨fun i hi => regular_of_mem_invocations fixed rawHere hi, rawArgument?_last o⟩

/-- Two specifications with the same source, in packages that pass the check, have the same package
and the same route definitions, if no text that is inserted as it is holds a line feed. -/
theorem source_assemble_inj {config config' : Config} (valid : config.validate = .ok ())
    (valid' : config'.validate = .ok ()) {naming naming' : Naming} {spec spec' : Specification}
    (raw : ∀ text ∈ specificationRawTexts spec, '\n' ∉ text.toList)
    (raw' : ∀ text ∈ specificationRawTexts spec', '\n' ∉ text.toList)
    (same : source config.package (assemble naming spec) =
      source config'.package (assemble naming' spec')) :
    config.package = config'.package ∧ assemble naming spec = assemble naming' spec' := by
  have texts := congrArg String.toList same
  rw [toList_source, toList_source] at texts
  obtain ⟨packages, afterPackage⟩ := packageLines_append_inj
    (notMem_package (isPackage_of_validate valid)) (notMem_package (isPackage_of_validate valid'))
    (head?_importLines _ _) (head?_importLines _ _) texts
  obtain ⟨-, afterImports⟩ := importLine_separated.flatMap_append_inj (notMem_imports _)
    (notMem_imports _) (fun _ _ => trivial) (fun _ _ => trivial) rfl rfl afterPackage
  obtain ⟨names, afterName⟩ := framed_inj (c := ' ') (by decide) (notMem_className spec.title)
    (notMem_className spec'.title) (List.append_cancel_left afterImports)
  have body := List.append_cancel_left afterName
  rw [assemble_statements, assemble_statements, List.flatMap_cons, List.flatMap_cons,
    List.append_assoc, List.append_assoc, List.flatMap_map, List.flatMap_map] at body
  obtain ⟨same', -⟩ := endpoint_separated.flatMap_append_inj (legible_of_mem_endpoints raw)
    (legible_of_mem_endpoints raw') (fun _ _ => trivial) (fun _ _ => trivial) rfl rfl
    (List.append_cancel_left body)
  have statements : (assemble naming spec).statements = (assemble naming' spec').statements := by
    rw [assemble_statements, assemble_statements, same']
  exact ⟨packages, by rw [Artifact.mk.injEq]; exact ⟨names, statements⟩⟩

theorem source_assemble_inj_joined :
    (Config.package {} = Config.package { schemaPath := "api.json" }) ∧
      assemble .operationId
          { title := "A!"
            paths := [("/pets", ⟨[(.get, { id := "list", description := some ""
                                           consumes := ["a/b", "a/c"] })]⟩)] } =
        assemble (.affixed "" "")
          { title := "A"
            paths := [("/pets", ⟨[]⟩),
              ("/pets", ⟨[(.get, { id := "list", consumes := ["a/b,a/c"] })]⟩)] } :=
  source_assemble_inj (by decide) (by decide) (by decide) (by decide) (by decide +kernel)

end SwaggerRoutes.Java
