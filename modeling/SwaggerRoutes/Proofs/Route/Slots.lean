/-
The slots of a template. The scan for slots cuts a template into characters that stay and slots;
this row is the layout of the template. Filling asks for the rendering of as many arguments as the
layout has slots, the first ones in order and each once, and puts the renderings in the places of the
slots; in a statement whose fragments have as many arguments as slots these are all its arguments.
-/
import SwaggerRoutes.Proofs.Route.Filling
import Mathlib.Data.List.Basic

namespace SwaggerRoutes.Route

open SwaggerRoutes.Text

/-! ## Layouts -/

/-- A template as the scan for slots sees it: `none` for a slot, any other character as it is. -/
def layout : (template : List Char) → List (Option Char)
  | [] => []
  | '\x7b' :: '\x7d' :: rest => none :: layout rest
  | c :: rest => some c :: layout rest

/-- A layout with texts in the places of its slots. A slot beyond the last text stays. -/
def inserted : (row : List (Option Char)) → (texts : List (List Char)) → List Char
  | [], _ => []
  | some c :: row, texts => c :: inserted row texts
  | none :: row, [] => slot.toList ++ inserted row []
  | none :: row, text :: texts => text ++ inserted row texts

theorem count_none_layout (template : List Char) : (layout template).count none = slotCount template := by
  fun_induction layout template with
  | case1 => rfl
  | case2 rest ih => rw [List.count_cons_self, ih, slotCount]
  | case3 c rest other ih => rw [List.count_cons_of_ne (by simp), ih, slotCount.eq_3 _ _ other]

/-! ## Filling a layout -/

section Filling

variable {m : Type → Type} [Monad m] (write : Argument → m String)

/-- Filling, with the slots already found. -/
def writeM : (row : List (Option Char)) → List Argument → m (List Char)
  | [], _ => pure []
  | some c :: row, args => do
    return c :: (← writeM row args)
  | none :: row, [] => do
    return slot.toList ++ (← writeM row [])
  | none :: row, arg :: args => do
    let text ← write arg
    return text.toList ++ (← writeM row args)

theorem fillM_eq_writeM (template : List Char) (args : List Argument) :
    fillM write template args = writeM write (layout template) args := by
  fun_induction layout template generalizing args with
  | case1 => rfl
  | case2 rest ih =>
    cases args with
    | nil => simp only [fillM, writeM, ih, toList_slot, List.cons_append, List.nil_append]
    | cons arg args => simp only [fillM, writeM, ih]
  | case3 c rest other ih =>
    rw [writeM, ← ih, fillM.eq_4]
    · exact fun tail _ brace tails => other tail brace tails
    · exact fun tail _ _ _ brace tails => other tail brace tails

variable [LawfulMonad m]

/-- Filling renders as many arguments as there are slots, the first ones in order and each once, and
puts what it gets in the places of the slots. -/
theorem writeM_eq (row : List (Option Char)) (args : List Argument) :
    writeM write row args =
      (fun texts => inserted row (texts.map String.toList)) <$>
        (args.take (row.count none)).mapM write := by
  fun_induction writeM write row args with
  | case1 => simp [inserted]
  | case2 c row args ih => simp [inserted, ih]
  | case3 row ih => simp [inserted, ih]
  | case4 row arg args ih => simp [inserted, ih]

/-- Layouts one after the other are filled one after the other, each with its own arguments. -/
theorem writeM_append {row : List (Option Char)} {args : List Argument}
    (enough : row.count none = args.length) (others : List (Option Char)) (more : List Argument) :
    writeM write (row ++ others) (args ++ more) = do
      let first ← writeM write row args
      let second ← writeM write others more
      return first ++ second := by
  fun_induction writeM write row args with
  | case1 args =>
    obtain rfl : args = [] := List.length_eq_zero_iff.1 enough.symm
    simp
  | case2 c row args ih =>
    rw [List.count_cons_of_ne (by simp)] at enough
    simp only [writeM, ih enough, List.cons_append, bind_assoc, pure_bind]
  | case3 row => simp at enough
  | case4 row arg args ih =>
    rw [List.count_cons_self, List.length_cons, Nat.add_right_cancel_iff] at enough
    simp only [writeM, ih enough, List.cons_append, bind_assoc, pure_bind, List.append_assoc]

/-! ## Filling a statement -/

/-- The layouts of the templates of a statement, one after the other. -/
def Statement.layout (statement : Statement) : List (Option Char) :=
  statement.fragments.flatMap fun fragment => Route.layout fragment.template.toList

theorem Fragment.count_none_layout {fragment : Fragment} (matched : fragment.Matched) :
    (layout fragment.template.toList).count none = fragment.args.length := by
  rw [Route.count_none_layout, matched]

/-- A statement whose fragments are all matched has as many arguments as slots. -/
theorem Statement.count_none_layout {statement : Statement}
    (matched : ∀ fragment ∈ statement.fragments, fragment.Matched) :
    statement.layout.count none = statement.arguments.length := by
  rw [Statement.layout, Statement.arguments, List.count_flatMap, List.length_flatMap]
  exact congrArg List.sum (List.map_congr_left fun f hf => Fragment.count_none_layout (matched f hf))

/-- A statement whose fragments are all matched is the filling of its layout. -/
theorem Statement.renderM_eq_writeM {statement : Statement}
    (matched : ∀ fragment ∈ statement.fragments, fragment.Matched) :
    statement.renderM write = String.ofList <$> writeM write statement.layout statement.arguments := by
  obtain ⟨fragments⟩ := statement
  induction fragments with
  | nil => simp [renderM, Statement.layout, arguments, writeM]
  | cons fragment fragments ih =>
    rw [List.forall_mem_cons] at matched
    have rest := ih matched.2
    have both := writeM_append write (Fragment.count_none_layout matched.1)
      (Statement.layout ⟨fragments⟩) (arguments ⟨fragments⟩)
    have rows : Statement.layout ⟨fragment :: fragments⟩ =
        Route.layout fragment.template.toList ++ Statement.layout ⟨fragments⟩ := rfl
    have args : arguments ⟨fragment :: fragments⟩ = fragment.args ++ arguments ⟨fragments⟩ := rfl
    simp only [renderM] at rest ⊢
    rw [rows, args, both]
    simp only [map_eq_pure_bind, bind_assoc, pure_bind, List.mapM_cons, Fragment.renderM,
      fillM_eq_writeM] at rest ⊢
    congr 1
    funext first
    have joined := congrArg (fun texts => texts >>= fun text => pure (String.ofList first ++ text)) rest
    simpa only [bind_assoc, pure_bind, String.join_cons, String.ofList_append] using joined

/-- The text of a statement whose fragments are all matched: each argument is rendered once and in
order, and its rendering stands in the place of its slot. -/
theorem Statement.renderM_eq {statement : Statement}
    (matched : ∀ fragment ∈ statement.fragments, fragment.Matched) :
    statement.renderM write =
      (fun texts => String.ofList (inserted statement.layout (texts.map String.toList))) <$>
        statement.arguments.mapM write := by
  rw [Statement.renderM_eq_writeM write matched, writeM_eq, Statement.count_none_layout matched,
    List.take_length, Functor.map_map]

end Filling

/-! ## What fills the slots -/

namespace Fragment

/-- The arguments that fill the slots of a fragment: the first ones, as many as there are slots. -/
def filling (fragment : Fragment) : List Argument := fragment.args.take (slotCount fragment.template.toList)

/-- The renderings of the arguments that fill slots stand in their places. -/
theorem toList_render_eq_inserted (write : Argument → String) (fragment : Fragment) :
    (fragment.render write).toList =
      inserted (Route.layout fragment.template.toList) (fragment.filling.map fun arg => (write arg).toList) := by
  have all : fragment.filling.mapM (m := Id) write = fragment.filling.map write :=
    List.mapM_pure (m := Id) (f := write)
  have text : fragment.render write = String.ofList (writeM (m := Id) write
      (Route.layout fragment.template.toList) fragment.args) := by
    rw [← fillM_eq_writeM]; rfl
  rw [text, String.toList_ofList, writeM_eq, Route.count_none_layout, ← filling, all]
  exact congrArg (inserted _) List.map_map

theorem filling_eq_args {fragment : Fragment} (matched : fragment.Matched) : fragment.filling = fragment.args := by
  rw [filling, matched, List.take_length]

end Fragment

/-- The arguments that fill the slots of a statement, in order. -/
def Statement.filling (statement : Statement) : List Argument := statement.fragments.flatMap Fragment.filling

theorem Statement.filling_eq_arguments {statement : Statement}
    (matched : ∀ fragment ∈ statement.fragments, fragment.Matched) : statement.filling = statement.arguments :=
  List.flatMap_congr fun fragment mem => Fragment.filling_eq_args (matched fragment mem)

/-- The text of a statement is its text for a rendering of arguments without effects. -/
theorem Statement.render_eq_renderM (write : Argument → String) (statement : Statement) :
    statement.render write = statement.renderM (m := Id) write :=
  (congrArg String.join
    (List.mapM_pure (m := Id) (l := statement.fragments) (f := Fragment.render write))).symm

end SwaggerRoutes.Route
