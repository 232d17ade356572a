/-
Members of two objects side by side. Rows pair up if they stand under the same key and their values are
related; what is found under a name is then related too, and so is what one relates further by steps
that may lead nowhere. Of members with distinct names only the values count, not the order.
-/
import SwaggerRoutes.Proofs.Json.Distinct
import Mathlib.Data.List.Forall2
import Mathlib.Data.List.Nodup

namespace SwaggerRoutes.Json

/-! ## Steps that may lead nowhere -/

section Steps

variable {α β γ δ : Type} {R : α → β → Prop} {S : γ → δ → Prop}

theorem rel_imp {T : α → β → Prop} {x : Option α} {y : Option β} (h : Option.Rel R x y)
    (weaker : ∀ a b, R a b → T a b) : Option.Rel T x y := by
  cases h with
  | none => exact .none
  | some related => exact .some (weaker _ _ related)

theorem rel_bind {x : Option α} {y : Option β} {f : α → Option γ} {g : β → Option δ}
    (h : Option.Rel R x y) (next : ∀ a b, R a b → Option.Rel S (f a) (g b)) :
    Option.Rel S (x.bind f) (y.bind g) := by
  cases h with
  | none => exact .none
  | some related => exact next _ _ related

theorem rel_map {x : Option α} {y : Option β} {f : α → γ} {g : β → δ} (h : Option.Rel R x y)
    (next : ∀ a b, R a b → S (f a) (g b)) : Option.Rel S (x.map f) (y.map g) := by
  cases h with
  | none => exact .none
  | some related => exact .some (next _ _ related)

/-- Related values of which the same is read. -/
theorem bind_eq_of_rel {x : Option α} {y : Option β} {f : α → Option γ} {g : β → Option γ}
    (h : Option.Rel R x y) (next : ∀ a b, R a b → f a = g b) : x.bind f = y.bind g := by
  cases h with
  | none => rfl
  | some related => exact next _ _ related

theorem map_eq_of_rel {x : Option α} {y : Option β} {f : α → γ} {g : β → γ} (h : Option.Rel R x y)
    (next : ∀ a b, R a b → f a = g b) : x.map f = y.map g := by
  cases h with
  | none => rfl
  | some related => exact congrArg some (next _ _ related)

/-- Lists that are there or taken as empty. -/
theorem rel_getD_nil {x : Option (List α)} {y : Option (List β)}
    (h : Option.Rel (List.Forall₂ R) x y) : List.Forall₂ R (x.getD []) (y.getD []) := by
  cases h with
  | none => exact .nil
  | some each => exact each

/-- Steps taken on both sides, one after the other. -/
theorem rel_foldlM {f : α → γ → Option α} {g : β → γ → Option β}
    (step : ∀ a b x, R a b → Option.Rel R (f a x) (g b x)) (xs : List γ) :
    ∀ {a : α} {b : β}, R a b → Option.Rel R (xs.foldlM f a) (xs.foldlM g b) := by
  induction xs with
  | nil => exact .some
  | cons x xs ih =>
    intro a b related
    simp only [List.foldlM_cons]
    exact rel_bind (step a b x related) fun _ _ => ih

theorem rel_getElem? {xs : List α} {ys : List β} (h : List.Forall₂ R xs ys) (i : Nat) :
    Option.Rel R xs[i]? ys[i]? := by
  induction h generalizing i with
  | nil => exact .none
  | cons related _ ih =>
    cases i with
    | zero => exact .some related
    | succ i => simpa using ih i

end Steps

/-! ## Lists with related items -/

section Items

variable {α β γ : Type} {R : α → β → Prop} {xs : List α} {ys : List β}

theorem forall₂_mem (h : List.Forall₂ R xs ys) : List.Forall₂ (fun a b => a ∈ xs ∧ R a b) xs ys :=
  (List.forall₂_and_left _ _).2 ⟨fun _ mem => mem, h⟩

theorem map_eq_of_forall₂ {f : α → γ} {g : β → γ} (h : List.Forall₂ R xs ys)
    (same : ∀ a b, R a b → f a = g b) : xs.map f = ys.map g := by
  induction h with
  | nil => rfl
  | cons related _ ih => rw [List.map_cons, List.map_cons, same _ _ related, ih]

theorem flatMap_eq_of_forall₂ {f : α → List γ} {g : β → List γ} (h : List.Forall₂ R xs ys)
    (same : ∀ a b, R a b → f a = g b) : xs.flatMap f = ys.flatMap g := by
  rw [List.flatMap_def, List.flatMap_def, map_eq_of_forall₂ h same]

theorem filterMap_eq_of_forall₂ {f : α → Option γ} {g : β → Option γ} (h : List.Forall₂ R xs ys)
    (same : ∀ a b, R a b → f a = g b) : xs.filterMap f = ys.filterMap g := by
  induction h with
  | nil => rfl
  | cons related _ ih => rw [List.filterMap_cons, List.filterMap_cons, same _ _ related, ih]

/-- If a related item takes the place of another, the items pair up. -/
theorem forall₂_set {R : α → α → Prop} {xs : List α} {i : Nat} {x y : α} (at_i : xs[i]? = some x)
    (related : R x y) (others : ∀ x ∈ xs, R x x) : List.Forall₂ R xs (xs.set i y) := by
  induction xs generalizing i with
  | nil => cases at_i
  | cons first rest ih =>
    rw [List.forall_mem_cons] at others
    cases i with
    | zero =>
      cases at_i
      exact .cons related (List.forall₂_same.2 others.2)
    | succ i => exact .cons others.1 (ih at_i others.2)

end Items

/-! ## Rows under the same key -/

/-- Two rows have the same key, and their values are related. -/
inductive SameKey {κ α β : Type} (R : α → β → Prop) : κ × α → κ × β → Prop
  | row (key : κ) {a : α} {b : β} (related : R a b) : SameKey R (key, a) (key, b)

section Rows

variable {κ α β : Type} {R : α → β → Prop}

theorem map_fst_eq_of_sameKey {rows : List (κ × α)} {rows' : List (κ × β)}
    (h : List.Forall₂ (SameKey R) rows rows') : rows.map Prod.fst = rows'.map Prod.fst :=
  map_eq_of_forall₂ h fun _ _ ⟨_, _⟩ => rfl

theorem eq_of_sameKey {rows rows' : List (κ × α)} {R : α → α → Prop}
    (h : List.Forall₂ (SameKey R) rows rows') (eq : ∀ a b, R a b → a = b) : rows = rows' := by
  rw [← List.forall₂_eq_eq_eq]
  refine h.imp ?_
  rintro _ _ ⟨key, related⟩
  rw [eq _ _ related]

/-- Rows with distinct keys, in one order or another, are the same if their keys are in the same
order. -/
theorem eq_of_perm_of_map_fst_eq {rows rows' : List (κ × α)} (nodup : (rows.map Prod.fst).Nodup)
    (perm : rows.Perm rows') (order : rows.map Prod.fst = rows'.map Prod.fst) : rows = rows' := by
  induction rows generalizing rows' with
  | nil => exact perm.nil_eq
  | cons row rows ih =>
    cases rows' with
    | nil => exact absurd perm.symm.nil_eq (by simp)
    | cons row' rows' =>
      rw [List.map_cons, List.map_cons, List.cons.injEq] at order
      rw [List.map_cons, List.nodup_cons] at nodup
      -- a row elsewhere would have the key of the first one
      have first : row = row' := by
        rcases List.mem_cons.1 (perm.subset List.mem_cons_self) with same | elsewhere
        · exact same
        · exact absurd (order.2 ▸ List.mem_map_of_mem elsewhere) nodup.1
      subst first
      rw [ih nodup.2 perm.cons_inv order.2]

end Rows

/-! ## What is found under a name -/

theorem find?_eq_some_iff_mem {name : String} {value : Value} {members : List (String × Value)}
    (nodup : (members.map Prod.fst).Nodup) :
    find? name members = some value ↔ (name, value) ∈ members := by
  refine ⟨mem_of_find?, fun mem => ?_⟩
  fun_induction find? name members with
  | case1 => cases mem
  | case2 value' rest =>
    rw [List.map_cons, List.nodup_cons] at nodup
    rcases List.mem_cons.1 mem with same | elsewhere
    · rw [(Prod.mk.inj same).2]
    · exact absurd (List.mem_map_of_mem elsewhere) nodup.1
  | case3 key value' rest other ih =>
    rw [List.map_cons, List.nodup_cons] at nodup
    rcases List.mem_cons.1 mem with same | elsewhere
    · exact absurd (Prod.mk.inj same).1.symm other
    · exact ih nodup.2 elsewhere

theorem find?_perm {members members' : List (String × Value)} (nodup : (members.map Prod.fst).Nodup)
    (perm : members.Perm members') (name : String) : find? name members = find? name members' := by
  have nodup' := (perm.map Prod.fst).nodup_iff.1 nodup
  ext value
  rw [find?_eq_some_iff_mem nodup, find?_eq_some_iff_mem nodup', perm.mem_iff]

/-- One more member, wherever it is put in, does not change what is found under another name. -/
theorem find?_insert_of_ne {name other : String} (h : other ≠ name) (value : Value)
    (before after : List (String × Value)) :
    find? other (before ++ (name, value) :: after) = find? other (before ++ after) := by
  induction before with
  | nil => rw [List.nil_append, find?, if_neg h.symm, List.nil_append]
  | cons member before ih => rw [List.cons_append, find?, ih, List.cons_append, find?]

/-- Leaving out members by their names does not change what is found under another name. -/
theorem find?_filter {keep : String → Bool} {name : String} (kept : keep name = true)
    (members : List (String × Value)) :
    find? name (members.filter fun member => keep member.1) = find? name members := by
  fun_induction find? name members <;> grind [find?]

theorem filter_put {keep : String → Bool} {name : String} (kept : keep name = true) (value : Value)
    (members : List (String × Value)) :
    (put name value members).filter (fun member => keep member.1) =
      put name value (members.filter fun member => keep member.1) := by
  fun_induction put name value members <;> grind [put]

theorem rel_find? {R : Value → Value → Prop} {members members' : List (String × Value)}
    (h : List.Forall₂ (SameKey R) members members') (name : String) :
    Option.Rel R (find? name members) (find? name members') := by
  induction h with
  | nil => exact .none
  | cons same _ ih =>
    obtain ⟨key, related⟩ := same
    rw [find?, find?]
    split
    · exact .some related
    · exact ih

/-- If a related value takes the place of one that is found, the members pair up. -/
theorem forall₂_put {R : Value → Value → Prop} {name : String} {value value' : Value}
    {members : List (String × Value)} (found : find? name members = some value) (related : R value value')
    (others : ∀ key part, (key, part) ∈ members → R part part) :
    List.Forall₂ (SameKey R) members (put name value' members) := by
  fun_induction find? name members with
  | case1 => cases found
  | case2 _ rest =>
    cases found
    rw [put, if_pos rfl]
    refine .cons (.row name related) (List.forall₂_same.2 fun member mem => ?_)
    obtain ⟨key, part⟩ := member
    exact .row key (others key part (List.mem_cons_of_mem _ mem))
  | case3 key part rest other ih =>
    rw [put, if_neg other]
    exact .cons (.row key (others key part List.mem_cons_self))
      (ih found fun key part mem => others key part (List.mem_cons_of_mem _ mem))

end SwaggerRoutes.Json
