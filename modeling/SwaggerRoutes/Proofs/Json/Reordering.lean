/-
Values that differ only in the order of members, at any depth. If no object in them has two members of
one name, all that is looked up in one of them is found in the other, up to order again: members, items
and what a pointer names.
-/
import SwaggerRoutes.Json.Pointer
import SwaggerRoutes.Proofs.Json.Members

namespace SwaggerRoutes.Json

/-! ## The order of members -/

/-- The values are equal up to the order of the members of objects in them: the members of an object are
first replaced by others that are equal up to order, and then put in another order. -/
inductive Reordered : Value → Value → Prop
  | same (value : Value) : Reordered value value
  | array {items items' : List Value} (each : List.Forall₂ Reordered items items') :
      Reordered (.array items) (.array items')
  | object {members replaced members' : List (String × Value)}
      (each : List.Forall₂ (SameKey Reordered) members replaced) (perm : replaced.Perm members') :
      Reordered (.object members) (.object members')

/-- Neither an array nor an object. -/
def Value.IsScalar : Value → Prop
  | .array _ => False
  | .object _ => False
  | _ => True

theorem Reordered.eq_of_isScalar {value value' : Value} (h : Reordered value value')
    (scalar : value.IsScalar) : value = value' := by
  cases h with
  | same => rfl
  | array => exact scalar.elim
  | object => exact scalar.elim

/-- Values that are equal up to the order of members, of which no object has a name twice. -/
structure Shuffled (value value' : Value) : Prop where
  distinct : value.Distinct
  reordered : Reordered value value'

namespace Shuffled

variable {value value' : Value}

/-! ## What is looked up -/

theorem string? (h : Shuffled value value') : value.string? = value'.string? := by
  cases h.reordered <;> rfl

theorem bool? (h : Shuffled value value') : value.bool? = value'.bool? := by
  cases h.reordered <;> rfl

theorem array? (h : Shuffled value value') :
    Option.Rel (List.Forall₂ Shuffled) value.array? value'.array? := by
  obtain ⟨distinct, reordered⟩ := h
  cases reordered with
  | same =>
    cases value with
    | array items =>
      exact .some (List.forall₂_same.2 fun item hitem =>
        ⟨Value.distinct_array.1 distinct item hitem, .same item⟩)
    | _ => exact .none
  | array each =>
    have both := (List.forall₂_and_left _ _).2 ⟨Value.distinct_array.1 distinct, each⟩
    exact .some (both.imp fun _ _ h => ⟨h.1, h.2⟩)
  | object => exact .none

theorem object? (h : Shuffled value value') :
    Option.Rel (fun members members' => Shuffled (.object members) (.object members'))
      value.object? value'.object? := by
  obtain ⟨distinct, reordered⟩ := h
  cases reordered with
  | same =>
    cases value with
    | object members => exact .some ⟨distinct, .same _⟩
    | _ => exact .none
  | array => exact .none
  | object each perm => exact .some ⟨distinct, .object each perm⟩

/-- The members of two objects pair up, possibly after those of one are put in another order. -/
theorem exists_perm {members members' : List (String × Value)}
    (h : Shuffled (.object members) (.object members')) :
    ∃ replaced, List.Forall₂ (SameKey Shuffled) members replaced ∧ replaced.Perm members' := by
  obtain ⟨distinct, reordered⟩ := h
  have parts := (Value.distinct_object.1 distinct).2
  cases reordered with
  | same =>
    exact ⟨members, List.forall₂_same.2 fun (key, part) hm => .row key ⟨parts _ hm, .same _⟩, .refl _⟩
  | object each perm =>
    have both := (List.forall₂_and_left _ _).2 ⟨parts, each⟩
    refine ⟨_, both.imp ?_, perm⟩
    rintro _ _ ⟨part, ⟨key, reordered⟩⟩
    exact .row key ⟨part, reordered⟩

theorem find? {members members' : List (String × Value)}
    (h : Shuffled (.object members) (.object members')) (name : String) :
    Option.Rel Shuffled (Json.find? name members) (Json.find? name members') := by
  obtain ⟨replaced, each, perm⟩ := h.exists_perm
  have nodup := (Value.distinct_object.1 h.distinct).1
  rw [map_fst_eq_of_sameKey each] at nodup
  rw [← find?_perm nodup perm]
  exact rel_find? each name

theorem get? (h : Shuffled value value') (name : String) :
    Option.Rel Shuffled (value.get? name) (value'.get? name) := by
  have members := h.object?
  cases value <;> cases h.reordered <;>
    first | exact .none | exact (Option.rel_some_some.1 members).find? name

/-- The members of two objects pair up if their names are in the same order. -/
theorem forall₂_of_order {members members' : List (String × Value)}
    (h : Shuffled (.object members) (.object members'))
    (order : members.map Prod.fst = members'.map Prod.fst) :
    List.Forall₂ (SameKey Shuffled) members members' := by
  obtain ⟨replaced, each, perm⟩ := h.exists_perm
  have names := map_fst_eq_of_sameKey each
  have nodup := (Value.distinct_object.1 h.distinct).1
  rw [← eq_of_perm_of_map_fst_eq (names ▸ nodup) perm (names.symm.trans order)]
  exact each

/-! ## Pointers -/

theorem item? {items items' : List Value} (each : List.Forall₂ Shuffled items items') (step : String) :
    Option.Rel Shuffled ((Value.array items).step? step) ((Value.array items').step? step) := by
  simp only [Value.step?]
  cases index? step with
  | none => exact .none
  | some i => exact rel_getElem? each i

theorem step? (h : Shuffled value value') (step : String) :
    Option.Rel Shuffled (value.step? step) (value'.step? step) := by
  have items := h.array?
  have members := h.get? step
  cases value <;> cases h.reordered <;> first
    | exact .none
    | exact members
    | exact item? (Option.rel_some_some.1 items) step

theorem pointer? (h : Shuffled value value') (pointer : List Char) :
    Option.Rel Shuffled (value.pointer? pointer) (value'.pointer? pointer) := by
  unfold Value.pointer?
  cases steps? pointer with
  | none => exact .none
  | some steps => exact rel_foldlM (fun _ _ step related => related.step? step) steps h

end Shuffled

end SwaggerRoutes.Json
