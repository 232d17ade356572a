/-
Filling a template when the rendering of arguments has no effects. Text without an opening brace
stays as it is, and slots with commas between take as many arguments as there are slots.
-/
import SwaggerRoutes.Proofs.Text.Pieces
import SwaggerRoutes.Route.Statement

namespace SwaggerRoutes.Route

open SwaggerRoutes.Text

/-- The template with each slot replaced by the rendering of the next argument. -/
def fill (write : Argument → String) (template : List Char) (args : List Argument) : List Char :=
  fillM (m := Id) write template args

variable (write : Argument → String)

theorem fill_slot (rest : List Char) (arg : Argument) (args : List Argument) :
    fill write (slot.toList ++ rest) (arg :: args) = (write arg).toList ++ fill write rest args := by
  rw [toList_slot]; rfl

theorem fill_cons_of_ne {c : Char} (h : c ≠ '\x7b') (rest : List Char) (args : List Argument) :
    fill write (c :: rest) args = c :: fill write rest args := by
  unfold fill
  rw [fillM.eq_4]
  · rfl
  · intro _ _ hc; exact absurd hc h
  · intro _ _ _ _ hc; exact absurd hc h

/-- Text before the first slot stays as it is. -/
theorem fill_append {text : List Char} (h : '\x7b' ∉ text) (rest : List Char) (args : List Argument) :
    fill write (text ++ rest) args = text ++ fill write rest args := by
  induction text with
  | nil => rfl
  | cons c tail ih =>
    simp only [List.mem_cons, not_or] at h
    rw [List.cons_append, fill_cons_of_ne write (Ne.symm h.1), ih h.2, List.cons_append]

/-- Slots with commas between them, one for each argument. -/
def slots (args : List Argument) : List Char := joined [','] (args.map fun _ => slot.toList)

theorem fill_slots (args : List Argument) (rest : List Char) :
    fill write (slots args ++ rest) args =
      joined [','] (args.map fun arg => (write arg).toList) ++ fill write rest [] := by
  cases args with
  | nil => rfl
  | cons arg args =>
    rw [slots, List.map_cons, List.map_cons, joined_cons_eq, joined_cons_eq, List.append_assoc,
      fill_slot, List.append_assoc]
    congr 1
    induction args with
    | nil => rfl
    | cons next args ih =>
      rw [List.map_cons, List.flatMap_cons, List.append_assoc, List.append_assoc,
        fill_append write (by decide), fill_slot, ih]
      simp

theorem Fragment.toList_render (fragment : Fragment) :
    (fragment.render write).toList = fill write fragment.template.toList fragment.args :=
  String.toList_ofList

theorem Statement.toList_render (statement : Statement) :
    (statement.render write).toList =
      statement.fragments.flatMap fun fragment => (fragment.render write).toList := by
  rw [Statement.render, String.toList_join, List.flatMap_map]

end SwaggerRoutes.Route
