/-
Indentation of the further lines of a statement. The text of a statement is indented when its slots are filled,
line feed by line feed. The main statement is that this is the same as indenting the templates first and then
filling them, with only those arguments indented that are inserted as they are: indenting neither makes a slot
nor breaks one, and a string literal stays as it is.
-/
import SwaggerRoutes.Proofs.Java.Statement
import SwaggerRoutes.Proofs.Route.Substitution

namespace SwaggerRoutes.Java

open SwaggerRoutes.Text SwaggerRoutes.Route

/-! ## Widened texts -/

theorem toList_continuationIndent : continuationIndent.toList = List.replicate 12 ' ' := by decide

/-- The text with twelve blanks after each line feed. -/
def widened (text : String) : String :=
  String.ofList (text.toList.flatMap fun c => if c = '\n' then '\n' :: List.replicate 12 ' ' else [c])

theorem toList_widened (text : String) : (widened text).toList = indentLines text.toList := by
  rw [widened, String.toList_ofList, indentLines, replaceChar, toList_continuationIndent]

theorem widened_of_notMem {text : String} (noFeed : '\n' ∉ text.toList) : widened text = text := by
  rw [← String.toList_inj, toList_widened, indentLines_of_notMem noFeed]

/-- The text of an argument, widened if it is inserted as it is or names a constant. -/
def widenedArgument : Argument → String
  | .literal text => widened (argument (.literal text))
  | .str text => argument (.str text)
  | .enumConstant type constant => widened (argument (.enumConstant type constant))
  | .type type => argument (.type type)

theorem widened_literal (text : String) : widened (literal text) = literal text :=
  widened_of_notMem (by rw [toList_literal]; exact notMem_literalChars _)

theorem toList_widenedArgument (arg : Argument) : (widenedArgument arg).toList = indentLines (argument arg).toList := by
  rw [← toList_widened]
  cases arg with
  | literal text => rfl
  | str text => exact congrArg String.toList (widened_literal text).symm
  | enumConstant type constant => rfl
  | type type =>
    exact congrArg String.toList (widened_of_notMem ((isWord_simpleName type).notMem (by decide))).symm

/-! ## Slots in widened templates -/

/-- Widening keeps what a text begins with. -/
theorem head?_indentLines (text : List Char) : (indentLines text).head? = text.head? := by
  cases text with
  | nil => rfl
  | cons c rest =>
    rw [indentLines, replaceChar, List.flatMap_cons]
    split
    next feed => rw [feed]; rfl
    · rfl

/-- The indentation holds no brace, so a slot is found after it only. -/
theorem slot_isInfix_indentation_iff (text : List Char) :
    slot.toList <:+: '\n' :: continuationIndent.toList ++ text ↔ slot.toList <:+: text := by
  rw [toList_continuationIndent]
  simp [List.replicate, slot_isInfix_cons_iff]

/-- Widening neither makes a slot nor breaks one. -/
theorem slot_isInfix_indentLines_iff (text : List Char) :
    slot.toList <:+: indentLines text ↔ slot.toList <:+: text := by
  induction text with
  | nil => rfl
  | cons c rest ih =>
    rw [slot_isInfix_cons_iff, ← ih, indentLines, replaceChar, List.flatMap_cons]
    split
    -- a line feed parts the braces around it, and so does its indentation
    next feed =>
      rw [slot_isInfix_indentation_iff, feed]
      simp [indentLines, replaceChar]
    · rw [List.singleton_append, slot_isInfix_cons_iff]
      exact or_congr_left (and_congr_right fun _ => by rw [← head?_indentLines rest]; rfl)

theorem indentLines_slot : indentLines slot.toList = slot.toList := by decide

theorem indentLines_joined_slot (pieces : List (List Char)) :
    indentLines (joined slot.toList pieces) = joined slot.toList (pieces.map indentLines) := by
  cases pieces with
  | nil => rfl
  | cons piece pieces =>
    rw [List.map_cons, joined_cons_eq, joined_cons_eq, indentLines_append, indentLines_flatMap, List.flatMap_map]
    simp only [indentLines_append, indentLines_slot]

/-- The pieces of a widened template are the widened pieces of the template. -/
theorem between_indentLines (template : List Char) :
    between (indentLines template) = (between template).map indentLines := by
  have cut := isCut_between template
  refine (IsCut.eq_between ⟨?_, ?_, ?_⟩).symm
  · simpa using cut.nonempty
  · rw [← indentLines_joined_slot, cut.joined]
  · intro widenedPiece mem
    obtain ⟨piece, hp, rfl⟩ := List.mem_map.1 mem
    rw [slot_isInfix_indentLines_iff]
    exact cut.slotFree piece hp

/-! ## Filled templates -/

theorem indentLines_threaded (pieces texts : List (List Char)) :
    indentLines (threaded pieces texts) = threaded (pieces.map indentLines) (texts.map indentLines) := by
  induction pieces generalizing texts with
  | nil => rfl
  | cons piece pieces ih =>
    by_cases last : pieces = []
    · rw [last]
      simp [threaded]
    -- a slot for which there is no text stays a slot
    · have last' : pieces.map indentLines ≠ [] := by simpa using last
      rw [List.map_cons, threaded_cons last, threaded_cons last', indentLines_append, indentLines_append, ih]
      cases texts with
      | nil => rw [List.map_nil, List.head?_nil, Option.getD_none, indentLines_slot]; rfl
      | cons text texts => rfl

/-- Widening what a fragment is filled to is filling the widened fragment. -/
theorem indentLines_render (fragment : Fragment) :
    indentLines (fragment.render argument).toList =
      (Fragment.render widenedArgument ⟨widened fragment.template, fragment.args⟩).toList := by
  have slots : slotCount (widened fragment.template).toList = slotCount fragment.template.toList := by
    have count := length_between (indentLines fragment.template.toList)
    rw [between_indentLines, List.length_map, length_between] at count
    rw [toList_widened]
    omega
  have filling : Fragment.filling ⟨widened fragment.template, fragment.args⟩ = fragment.filling := by
    rw [Fragment.filling, Fragment.filling, slots]
  have texts : (fragment.filling.map fun arg => (argument arg).toList).map indentLines =
      fragment.filling.map fun arg => (widenedArgument arg).toList := by
    rw [List.map_map]
    exact List.map_congr_left fun arg _ => (toList_widenedArgument arg).symm
  rw [Fragment.toList_render_eq_threaded, Fragment.toList_render_eq_threaded, indentLines_threaded, texts, filling,
    toList_widened, between_indentLines]

/-- A statement is what its widened fragments are filled to, one after the other, with only those arguments widened
that are inserted as they are or name a constant. The slots of a widened template are those of the template, with
the widened pieces between them, and string literals are kept as they are. -/
theorem statement_eq_widened (s : Statement) :
    statement s = String.ofList (List.replicate 8 ' ') ++
      String.join (s.fragments.map fun fragment =>
        Fragment.render widenedArgument ⟨widened fragment.template, fragment.args⟩) ∧
    (∀ template : String, between (widened template).toList =
      (between template.toList).map fun piece => (widened (String.ofList piece)).toList) ∧
    ∀ text : String, widened (literal text) = literal text := by
  refine ⟨?_, fun template => ?_, widened_literal⟩
  · have indent : statementIndent.toList = List.replicate 8 ' ' := by decide
    rw [← String.toList_inj, statement, String.toList_append, String.toList_append, indent, String.toList_ofList,
      String.toList_ofList, Statement.toList_render, indentLines_flatMap, String.toList_join, List.flatMap_map]
    simp only [indentLines_render]
  · rw [toList_widened, between_indentLines]
    simp only [toList_widened, String.toList_ofList]

end SwaggerRoutes.Java
