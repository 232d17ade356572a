/-
How the statement of an endpoint looks in the source: verb and path on its first line, each
invocation on a line of its own, and the processor behind the last one. Indentation only touches
what stands between the arguments and the arguments that are inserted as they are, since string
literals hold no line feed.
-/
import SwaggerRoutes.Java.Source
import SwaggerRoutes.Proofs.Java.Literal
import SwaggerRoutes.Proofs.Route.Form

namespace SwaggerRoutes.Java

open SwaggerRoutes.Text SwaggerRoutes.Api SwaggerRoutes.Route

/-! ## Words -/

/-- A text of letters only. -/
def IsWord (text : String) : Prop := ∀ c ∈ text.toList, isLetter c = true

instance (text : String) : Decidable (IsWord text) := List.decidableBAll _ _

theorem IsWord.notMem {text : String} (word : IsWord text) {c : Char} (other : isLetter c = false) :
    c ∉ text.toList := by
  intro mem
  rw [word c mem] at other
  cases other

theorem isWord_of_mem_methods {method : String} (known : method ∈ methods) : IsWord method := by
  have all : ∀ method ∈ methods, IsWord method := by decide
  exact all method known

theorem isWord_method (method : Method) : IsWord method.name := by cases method <;> decide

/-! ## Lines -/

theorem indentLines_append (first second : List Char) :
    indentLines (first ++ second) = indentLines first ++ indentLines second :=
  replaceChar_append _ _ _ _

theorem indentLines_of_notMem {text : List Char} (h : '\n' ∉ text) : indentLines text = text :=
  replaceChar_of_notMem _ h

theorem indentLines_flatMap {α : Type} (xs : List α) (f : α → List Char) :
    indentLines (xs.flatMap f) = xs.flatMap fun x => indentLines (f x) := List.flatMap_assoc

theorem indentLines_joined_comma (texts : List (List Char)) :
    indentLines (joined [','] texts) = joined [','] (texts.map indentLines) := by
  cases texts with
  | nil => rfl
  | cons text texts =>
    rw [List.map_cons, joined_cons_eq, joined_cons_eq, indentLines_append, indentLines_flatMap,
      List.flatMap_map]
    congr 2

/-- The text of a statement is that of its fragments, one after the other. -/
theorem toList_statement (s : Statement) :
    (statement s).toList = statementIndent.toList ++
      s.fragments.flatMap fun f => indentLines (fill argument f.template.toList f.args) := by
  rw [statement, String.toList_append, String.toList_ofList, Statement.toList_render,
    indentLines_flatMap]
  simp only [Fragment.toList_render]

/-! ## Invocations -/

/-- The text of an argument within a statement. -/
def argumentText (arg : Argument) : List Char := indentLines (argument arg).toList

theorem argumentText_str (text : String) : argumentText (.str text) = literalChars text.toList := by
  rw [argumentText, argument, toList_literal, indentLines_of_notMem (notMem_literalChars _)]

theorem isWord_simpleName (type : HostType) : IsWord type.simpleName := by cases type <;> decide

/-- The text of an argument that is inserted as it is has no punctuation but points and what the
text itself brings. -/
theorem notMem_argument_raw {method : String} {write : String → Argument} {text : String} {c : Char}
    (writes : rawArgument? method = some write) (other : isLetter c = false) (point : c ≠ '.')
    (h : c ∉ text.toList) : c ∉ (argument (write text)).toList := by
  rcases rawArgument?_cases writes with rfl | ⟨type, rfl⟩
  · exact h
  · have parts : (argument (.enumConstant type text)).toList =
        type.simpleName.toList ++ ['.'] ++ text.toList := by
      rw [argument, String.toList_append, String.toList_append]; rfl
    simp only [parts, List.mem_append, List.mem_singleton, not_or]
    exact ⟨⟨(isWord_simpleName type).notMem other, point⟩, h⟩

/-- The text of an invocation within a statement. -/
def invocationText (i : Invocation) : List Char :=
  '\n' :: continuationIndent.toList ++ '.' :: i.method.toList ++
    '(' :: joined [','] (i.args.map argumentText) ++ [')']

theorem indentLines_fragment {i : Invocation} (word : IsWord i.method) :
    indentLines (fill argument i.fragment.template.toList i.fragment.args) = invocationText i := by
  have brace : '\x7b' ∉ "\n.".toList ++ i.method.toList ++ "(".toList := by
    simp only [List.mem_append, not_or]
    exact ⟨⟨by decide, word.notMem (by decide)⟩, by decide⟩
  have opens : indentLines "\n.".toList = '\n' :: continuationIndent.toList ++ ['.'] := by decide
  have paren : indentLines "(".toList = ['('] := by decide
  have close : fill argument ")".toList [] = [')'] := by decide
  have close' : indentLines [')'] = [')'] := by decide
  have parts : i.fragment.template.toList =
      "\n.".toList ++ i.method.toList ++ "(".toList ++ (slots i.args ++ ")".toList) := by
    simp only [Invocation.fragment, String.toList_append, String.toList_ofList, List.append_assoc]
  have args : i.fragment.args = i.args := rfl
  rw [parts, args, fill_append argument brace, fill_slots, close, invocationText]
  simp only [indentLines_append, opens, paren, close', indentLines_joined_comma, List.map_map,
    indentLines_of_notMem (word.notMem (c := '\n') (by decide)), List.append_assoc, List.cons_append,
    List.nil_append]
  rfl

/-! ## Endpoints -/

/-- What stands before the path in the statement of an endpoint. -/
def endpointOpening (method : Method) : String := "rest." ++ method.name ++ "("

theorem indentLines_opening (e : Endpoint) :
    indentLines (fill argument e.opening.template.toList e.opening.args) =
      (endpointOpening e.method).toList ++ literalChars e.path.toList ++ [')'] := by
  have parts : e.opening.template.toList =
      "rest.".toList ++ (slot.toList ++ ("(".toList ++ (slot.toList ++ ")".toList))) := by
    simp only [Endpoint.opening, String.toList_append, List.append_assoc]
  have args : e.opening.args = [.literal e.method.name, .str e.path] := rfl
  have verb : (argument (.literal e.method.name)).toList = e.method.name.toList := rfl
  have path : (argument (.str e.path)).toList = literalChars e.path.toList := toList_literal e.path
  have close : fill argument ")".toList [] = [')'] := by decide
  rw [parts, args, fill_append argument (by decide), fill_slot, fill_append argument (by decide),
    fill_slot, verb, path, close, indentLines_of_notMem]
  · simp only [endpointOpening, String.toList_append, List.append_assoc]
  · simp only [List.mem_append, not_or]
    exact ⟨by decide, (isWord_method e.method).notMem (by decide), by decide, notMem_literalChars _,
      by decide⟩

theorem indentLines_closing (e : Endpoint) :
    indentLines (fill argument e.closing.template.toList e.closing.args) =
      Endpoint.beforeProcessor.toList ++ literalChars e.processor.toList ++ [')'] := by
  have parts : e.closing.template.toList =
      Endpoint.beforeProcessor.toList ++ (slot.toList ++ ")".toList) := by
    rw [Endpoint.closing, String.toList_append, String.toList_append, List.append_assoc]
  have args : e.closing.args = [.str e.processor] := rfl
  have processor : (argument (.str e.processor)).toList = literalChars e.processor.toList :=
    toList_literal e.processor
  have close : fill argument ")".toList [] = [')'] := by decide
  rw [parts, args, fill_append argument (by decide), fill_slot, processor, close,
    indentLines_of_notMem, List.append_assoc]
  simp only [List.mem_append, not_or]
  exact ⟨by decide, notMem_literalChars _, by decide⟩

/-- The text of an endpoint: its opening, its invocations and its closing. -/
theorem toList_statement_endpoint {e : Endpoint} (words : ∀ i ∈ e.invocations, IsWord i.method) :
    (statement e.statement).toList =
      statementIndent.toList ++ (endpointOpening e.method).toList ++ literalChars e.path.toList ++ [')'] ++
        e.invocations.flatMap invocationText ++
        Endpoint.beforeProcessor.toList ++ literalChars e.processor.toList ++ [')'] := by
  have lines : (e.invocations.map Invocation.fragment).flatMap
      (fun f => indentLines (fill argument f.template.toList f.args)) =
        e.invocations.flatMap invocationText := by
    rw [List.flatMap_map]
    exact List.flatMap_congr fun i hi => indentLines_fragment (words i hi)
  rw [toList_statement, Endpoint.statement, List.flatMap_append, List.flatMap_cons, List.flatMap_cons,
    List.flatMap_nil, lines, indentLines_opening, indentLines_closing]
  simp only [List.append_assoc, List.append_nil]

end SwaggerRoutes.Java
