/-
Substitution of arguments for slots. The slots cut a template into pieces, and a template can be cut into
texts without a slot in one way only. The main statement is that filling is by position and in one pass: the
first arguments, as many as there are slots, are rendered in order and each once, whatever effects rendering
has; the renderings stand between the pieces, and slots inside them are not looked at. The fragments of a
statement are filled one after the other by the same rendering.
-/
import SwaggerRoutes.Proofs.Route.Matching

namespace SwaggerRoutes.Route

open SwaggerRoutes.Text

/-! ## Cutting a template -/

/-- The texts between the slots of a template, with what stands before the first and after the last. -/
def between : (template : List Char) → List (List Char)
  | [] => [[]]
  | '\x7b' :: '\x7d' :: rest => [] :: between rest
  | c :: rest => (between rest).modifyHead (c :: ·)

/-- The pieces make up the template when slots are put between neighbours, and none of them holds a slot. -/
structure IsCut (template : List Char) (pieces : List (List Char)) : Prop where
  nonempty : pieces ≠ []
  joined : joined slot.toList pieces = template
  slotFree : ∀ piece ∈ pieces, ¬ slot.toList <:+: piece

theorem slot_isPrefix_cons_iff {c : Char} {rest : List Char} :
    slot.toList <+: c :: rest ↔ c = '\x7b' ∧ rest.head? = some '\x7d' := by
  rw [toList_slot, List.cons_prefix_cons, eq_comm]
  cases rest with
  | nil => simp
  | cons d rest => simp [List.cons_prefix_cons, eq_comm]

theorem slot_isInfix_cons_iff {c : Char} {rest : List Char} :
    slot.toList <:+: c :: rest ↔ c = '\x7b' ∧ rest.head? = some '\x7d' ∨ slot.toList <:+: rest := by
  rw [List.infix_cons_iff, slot_isPrefix_cons_iff]

theorem between_slot (rest : List Char) : between (slot.toList ++ rest) = [] :: between rest := by
  rw [toList_slot]; rfl

theorem between_cons {c : Char} {rest : List Char} (apart : ¬ (c = '\x7b' ∧ rest.head? = some '\x7d')) :
    between (c :: rest) = (between rest).modifyHead (c :: ·) :=
  between.eq_3 c rest fun _ brace tails => apart ⟨brace, by rw [tails]; rfl⟩

/-- A text without a slot is its only piece. -/
theorem between_of_slotFree {text : List Char} (free : ¬ slot.toList <:+: text) : between text = [text] := by
  induction text with
  | nil => rfl
  | cons c rest ih =>
    rw [slot_isInfix_cons_iff, not_or] at free
    rw [between_cons free.1, ih free.2, List.modifyHead_cons]

/-- The piece before the first slot. -/
theorem between_append_slot {first : List Char} (free : ¬ slot.toList <:+: first) (rest : List Char) :
    between (first ++ (slot.toList ++ rest)) = first :: between rest := by
  induction first with
  | nil => exact between_slot rest
  | cons c tail ih =>
    rw [slot_isInfix_cons_iff, not_or] at free
    -- a brace at the end of the piece stands before an opening one
    have apart : ¬ (c = '\x7b' ∧ (tail ++ (slot.toList ++ rest)).head? = some '\x7d') := by
      rintro ⟨rfl, close⟩
      cases tail with
      | nil =>
        rw [toList_slot] at close
        cases close
      | cons d tail => exact free.1 ⟨rfl, close⟩
    rw [List.cons_append, between_cons apart, ih free.2, List.modifyHead_cons]

/-- A template has no other cut. -/
theorem IsCut.eq_between {template : List Char} {pieces : List (List Char)} (cut : IsCut template pieces) :
    pieces = between template := by
  obtain ⟨nonempty, rfl, free⟩ := cut
  induction pieces with
  | nil => exact absurd rfl nonempty
  | cons piece others ih =>
    rw [List.forall_mem_cons] at free
    cases others with
    | nil => exact (between_of_slotFree free.1).symm
    | cons next others =>
      rw [joined_cons (by simp), List.append_assoc, between_append_slot free.1, ← ih (by simp) free.2]

theorem length_between (template : List Char) : (between template).length = slotCount template + 1 := by
  fun_induction between template with
  | case1 => rfl
  | case2 rest ih => rw [List.length_cons, ih, slotCount]
  | case3 c rest other ih => rw [List.length_modifyHead, ih, slotCount.eq_3 _ _ other]

theorem between_ne_nil (template : List Char) : between template ≠ [] := by
  intro empty
  have count := length_between template
  rw [empty] at count
  cases count

theorem isCut_between (template : List Char) : IsCut template (between template) := by
  fun_induction between template with
  | case1 => exact ⟨by simp, rfl, by decide⟩
  | case2 rest ih =>
    refine ⟨by simp, ?_, List.forall_mem_cons.2 ⟨by decide, ih.slotFree⟩⟩
    rw [joined_cons (between_ne_nil rest), ih.joined]
    rfl
  | case3 c rest other ih =>
    refine ⟨?_, ?_, ?_⟩
    · simpa using between_ne_nil rest
    · rw [joined_modifyHead (between_ne_nil rest), ih.joined]
    · obtain ⟨first, others, cut⟩ := List.exists_cons_of_ne_nil (between_ne_nil rest)
      have free := ih.slotFree
      have whole := ih.joined
      rw [cut] at free whole ⊢
      rw [List.forall_mem_cons] at free
      rw [List.modifyHead_cons, List.forall_mem_cons, slot_isInfix_cons_iff, not_or]
      refine ⟨⟨?_, free.1⟩, free.2⟩
      -- a brace that closes a slot in the piece closes one in the template
      rintro ⟨rfl, close⟩
      obtain ⟨tail, rfl⟩ := List.head?_eq_some_iff.1 close
      rw [joined_cons_eq, List.cons_append] at whole
      exact other _ rfl whole.symm

theorem isCut_iff {template : List Char} {pieces : List (List Char)} :
    IsCut template pieces ↔ pieces = between template := by
  constructor
  · exact IsCut.eq_between
  · rintro rfl
    exact isCut_between template

/-! ## Texts between the pieces -/

/-- The pieces with the texts between neighbours, by position; a slot where the texts have run out. -/
def threaded (pieces texts : List (List Char)) : List Char :=
  match pieces with
  | [] => []
  | first :: others =>
    first ++ (others.mapIdx fun i piece => texts[i]?.getD slot.toList ++ piece).flatten

theorem threaded_cons {pieces : List (List Char)} (nonempty : pieces ≠ []) (piece : List Char)
    (texts : List (List Char)) :
    threaded (piece :: pieces) texts = piece ++ texts.head?.getD slot.toList ++ threaded pieces texts.tail := by
  obtain ⟨first, others, rfl⟩ := List.exists_cons_of_ne_nil nonempty
  simp only [threaded, List.mapIdx_cons, List.flatten_cons, List.head?_eq_getElem?, List.getElem?_tail,
    List.append_assoc]

theorem threaded_modifyHead {pieces : List (List Char)} (nonempty : pieces ≠ []) (c : Char)
    (texts : List (List Char)) :
    threaded (pieces.modifyHead (c :: ·)) texts = c :: threaded pieces texts := by
  obtain ⟨first, others, rfl⟩ := List.exists_cons_of_ne_nil nonempty
  rfl

/-- Texts in the places of slots stand between the pieces. -/
theorem inserted_layout (template : List Char) (texts : List (List Char)) :
    inserted (layout template) texts = threaded (between template) texts := by
  fun_induction between template generalizing texts with
  | case1 => rfl
  | case2 rest ih =>
    rw [layout, threaded_cons (between_ne_nil rest), ← ih, List.nil_append]
    cases texts <;> rfl
  | case3 c rest other ih =>
    rw [layout.eq_3 _ _ other, threaded_modifyHead (between_ne_nil rest), ← ih, inserted]

theorem Fragment.filling_eq_take_min (fragment : Fragment) : fragment.filling =
    fragment.args.take (min (slotCount fragment.template.toList) fragment.args.length) := by
  rw [Fragment.filling, List.take_eq_take_min]

/-- The text of a fragment, by its pieces. -/
theorem Fragment.toList_render_eq_threaded (write : Argument → String) (fragment : Fragment) :
    (fragment.render write).toList =
      threaded (between fragment.template.toList) (fragment.filling.map fun arg => (write arg).toList) := by
  rw [Fragment.toList_render_eq_inserted, inserted_layout]

/-! ## Renderings with effects -/

section Effects

variable {m : Type → Type} [Monad m] (write : Argument → m String)

/-- The rendering that also keeps a list of the arguments it has been asked for. -/
def noted (arg : Argument) : StateT (List Argument) m String := do
  modify (· ++ [arg])
  write arg

variable [LawfulMonad m]

theorem run_mapM_noted (args asked : List Argument) :
    (args.mapM (noted write)).run asked = (fun texts => (texts, asked ++ args)) <$> args.mapM write := by
  induction args generalizing asked with
  | nil => simp
  | cons arg args ih => simp [noted, ih, List.append_assoc]

/-- Filling renders the arguments that fill slots, and puts what it gets between the pieces. -/
theorem Fragment.renderM_eq_map (fragment : Fragment) : fragment.renderM write =
    (fun texts => String.ofList (threaded (between fragment.template.toList) (texts.map String.toList))) <$>
      fragment.filling.mapM write := by
  rw [Fragment.renderM, fillM_eq_writeM, writeM_eq, Route.count_none_layout, ← Fragment.filling,
    ← map_eq_pure_bind, Functor.map_map]
  simp only [inserted_layout]

theorem Fragment.run_renderM_noted (fragment : Fragment) (asked : List Argument) :
    (fragment.renderM (noted write)).run asked =
      (fun text => (text, asked ++ fragment.filling)) <$> fragment.renderM write := by
  rw [Fragment.renderM_eq_map, Fragment.renderM_eq_map, StateT.run_map, run_mapM_noted, Functor.map_map,
    Functor.map_map]

theorem Statement.renderM_singleton (fragment : Fragment) :
    Statement.renderM write ⟨[fragment]⟩ = fragment.renderM write := by
  simp [Statement.renderM]

/-- Fragments are rendered one after the other. -/
theorem Statement.renderM_append (front back : List Fragment) :
    Statement.renderM write ⟨front ++ back⟩ = do
      let first ← Statement.renderM write ⟨front⟩
      let second ← Statement.renderM write ⟨back⟩
      return first ++ second := by
  simp [Statement.renderM]

theorem Statement.run_renderM_noted (statement : Statement) (asked : List Argument) :
    (statement.renderM (noted write)).run asked =
      (fun text => (text, asked ++ statement.filling)) <$> statement.renderM write := by
  obtain ⟨fragments⟩ := statement
  induction fragments generalizing asked with
  | nil => simp [Statement.renderM, Statement.filling]
  | cons fragment fragments ih =>
    have cut : fragment :: fragments = [fragment] ++ fragments := rfl
    have args : Statement.filling ⟨[fragment] ++ fragments⟩ = fragment.filling ++ Statement.filling ⟨fragments⟩ := rfl
    rw [cut, Statement.renderM_append, Statement.renderM_append, Statement.renderM_singleton,
      Statement.renderM_singleton, args]
    simp [Fragment.run_renderM_noted, ih, List.append_assoc]

end Effects

/-! ## The whole -/

/-- Filling is by position and in one pass. The slots of a template cut it into pieces, in the only way there is;
the first arguments of a fragment, as many as it has slots, are rendered in order and each once; and the
renderings stand between the pieces, where nothing looks into them. In a statement the fragments are filled one
after the other, so the parts of a statement are filled like the statement. -/
theorem renderM_positional {m : Type → Type} [Monad m] [LawfulMonad m] (write : Argument → m String) :
    (∀ (template : List Char) (pieces : List (List Char)), IsCut template pieces ↔ pieces = between template) ∧
    (∀ fragment : Fragment,
      (between fragment.template.toList).length = slotCount fragment.template.toList + 1 ∧
      fragment.filling = fragment.args.take (min (slotCount fragment.template.toList) fragment.args.length) ∧
      fragment.renderM write = (do
        let texts ← fragment.filling.mapM write
        return String.ofList (threaded (between fragment.template.toList) (texts.map String.toList))) ∧
      ∀ asked, (fragment.renderM (noted write)).run asked = do
        let text ← fragment.renderM write
        return (text, asked ++ fragment.filling)) ∧
    (∀ fragment : Fragment, Statement.renderM write ⟨[fragment]⟩ = fragment.renderM write) ∧
    ∀ front back : List Fragment,
      Statement.renderM write ⟨front ++ back⟩ = (do
        let first ← Statement.renderM write ⟨front⟩
        let second ← Statement.renderM write ⟨back⟩
        return first ++ second) ∧
      ∀ asked, (Statement.renderM (noted write) ⟨front ++ back⟩).run asked = do
        let text ← Statement.renderM write ⟨front ++ back⟩
        return (text, asked ++ (Statement.filling ⟨front⟩ ++ Statement.filling ⟨back⟩)) := by
  refine ⟨fun template pieces => isCut_iff, fun fragment => ⟨length_between _, fragment.filling_eq_take_min, ?_,
    fun asked => ?_⟩, Statement.renderM_singleton write, fun front back => ⟨Statement.renderM_append write front back,
    fun asked => ?_⟩⟩
  · rw [Fragment.renderM_eq_map, map_eq_pure_bind]
  · rw [Fragment.run_renderM_noted, map_eq_pure_bind]
  · have parts : Statement.filling ⟨front ++ back⟩ = Statement.filling ⟨front⟩ ++ Statement.filling ⟨back⟩ :=
      List.flatMap_append
    rw [Statement.run_renderM_noted, map_eq_pure_bind, parts]

/-- A rendering that counts how often it is asked, and shows the count as a row of braces. -/
def counting (_ : Argument) : StateM Nat String :=
  modifyGet fun count => (String.ofList (List.replicate count '\x7b' ++ ['\x7d']), count + 1)

/-- A fragment with an argument for the first of its two slots only. -/
def shortOfArguments : Fragment := ⟨"\x7b\x7b\x7d\x7d\x7b\x7d\x7b", [.literal "a"]⟩

/-- A fragment with an argument too many. -/
def shortOfSlots : Fragment := ⟨"\x7d\x7b\x7d", [.str "b", .type .restDefinition]⟩

theorem renderM_positional_counting :
    (Statement.renderM counting ⟨[shortOfArguments] ++ [shortOfSlots]⟩).run 1 =
        ("\x7b\x7b\x7d\x7d\x7b\x7d\x7b\x7d\x7b\x7b\x7d", 3) ∧
      ((Statement.renderM (noted counting) ⟨[shortOfArguments] ++ [shortOfSlots]⟩).run []).run 1 =
        (("\x7b\x7b\x7d\x7d\x7b\x7d\x7b\x7d\x7b\x7b\x7d", [.literal "a", .str "b"]), 3) := by
  obtain ⟨-, fragments, single, append⟩ := renderM_positional counting
  obtain ⟨text, asked⟩ := append [shortOfArguments] [shortOfSlots]
  rw [asked, text, single, single, (fragments shortOfArguments).2.2.1, (fragments shortOfSlots).2.2.1]
  exact ⟨rfl, rfl⟩

end SwaggerRoutes.Route
