/-
No document that is read holds an object with one name twice, in either format: a repeated name
keeps its first place and takes the last value. The parts of such a document are of the same kind.
-/
import SwaggerRoutes.Document
import Mathlib.Tactic.SplitIfs

namespace SwaggerRoutes.Json

/-! ## Parts of a value -/

theorem Value.distinctItems_iff {items : List Value} :
    Value.DistinctItems items ↔ ∀ item ∈ items, item.Distinct := by
  induction items with
  | nil => simp [Value.DistinctItems]
  | cons item items ih => simp [Value.DistinctItems, ih]

theorem Value.distinctMembers_iff {members : List (String × Value)} :
    Value.DistinctMembers members ↔ ∀ member ∈ members, member.2.Distinct := by
  induction members with
  | nil => simp [Value.DistinctMembers]
  | cons member members ih => simp [Value.DistinctMembers, ih]

theorem Value.distinct_array {items : List Value} :
    (Value.array items).Distinct ↔ ∀ item ∈ items, item.Distinct := by
  rw [Value.Distinct, Value.distinctItems_iff]

theorem Value.distinct_object {members : List (String × Value)} :
    (Value.object members).Distinct ↔
      (members.map Prod.fst).Nodup ∧ ∀ member ∈ members, member.2.Distinct := by
  rw [Value.Distinct, Value.distinctMembers_iff]

theorem mem_of_find? {name : String} {value : Value} {members : List (String × Value)}
    (h : find? name members = some value) : (name, value) ∈ members := by
  fun_induction find? name members with
  | case1 => cases h
  | case2 => cases h; exact List.mem_cons_self
  | case3 _ _ _ _ ih => exact List.mem_cons_of_mem _ (ih h)

theorem Value.Distinct.get? {value part : Value} {name : String} (distinct : value.Distinct)
    (h : value.get? name = some part) : part.Distinct := by
  cases value with
  | object members => exact (Value.distinct_object.1 distinct).2 _ (mem_of_find? h)
  | _ => cases h

/-! ## Members with repeated names -/

theorem distinct_put {members : List (String × Value)} (distinct : (Value.object members).Distinct)
    {name : String} {value : Value} (h : value.Distinct) :
    (Value.object (put name value members)).Distinct := by
  rw [Value.distinct_object] at distinct ⊢
  refine ⟨?_, fun member hm => ?_⟩
  · rw [map_fst_put]
    split
    · exact distinct.1
    · next fresh =>
      rw [List.nodup_append]
      refine ⟨distinct.1, by simp, fun a ha b hb => ?_⟩
      rintro rfl
      exact fresh (List.mem_singleton.1 hb ▸ ha)
  · have old := distinct.2
    fun_induction put name value members with
    | case1 => rw [List.mem_singleton.1 hm]; exact h
    | case2 =>
      rcases List.mem_cons.1 hm with rfl | hm
      · exact h
      · exact old _ (List.mem_cons_of_mem _ hm)
    | case3 key _ _ _ ih =>
      rcases List.mem_cons.1 hm with rfl | hm
      · exact old _ List.mem_cons_self
      · have tail := (List.nodup_cons.1 distinct.1).2
        have below := fun m hm => old m (List.mem_cons_of_mem _ hm)
        exact ih ⟨tail, below⟩ hm below

theorem distinct_collect {members : List (String × Value)} (h : ∀ member ∈ members, member.2.Distinct) :
    (Value.object (collect members)).Distinct := by
  -- what was collected so far is distinct
  have step : ∀ (rest done : List (String × Value)), (∀ member ∈ rest, member.2.Distinct) →
      (Value.object done).Distinct →
      (Value.object (rest.foldl (fun done m => put m.1 m.2 done) done)).Distinct := by
    intro rest
    induction rest with
    | nil => intro done _ distinct; exact distinct
    | cons member rest ih =>
      intro done hrest distinct
      rw [List.forall_mem_cons] at hrest
      exact ih _ hrest.2 (distinct_put distinct hrest.1)
  exact step members [] h (Value.distinct_object.2 (by simp))

/-! ## Reading JSON -/

section Container

variable {α : Type} {entry : List Char → Option (α × List Char)} {IsEntry : α → Prop}

theorem forall_mem_entries (h : ∀ text x rest, entry text = some (x, rest) → IsEntry x) (close : Char) :
    ∀ (steps : Nat) (text : List Char) (xs : List α) (rest : List Char),
      entries entry close steps text = some (xs, rest) → ∀ x ∈ xs, IsEntry x
  | 0, _, _, _, read => by cases read
  | steps + 1, text, xs, rest, read => by
    unfold entries at read
    split at read
    · cases read
    next x afterEntry first =>
      split at read
      · split at read
        · cases read; simpa using h _ _ _ first
        · split at read
          · obtain ⟨⟨others, after⟩, further, same⟩ := Option.map_eq_some_iff.1 read
            cases same
            rw [List.forall_mem_cons]
            exact ⟨h _ _ _ first, forall_mem_entries h close steps _ _ _ further⟩
          · cases read
      · cases read

theorem forall_mem_container (h : ∀ text x rest, entry text = some (x, rest) → IsEntry x) {close : Char}
    {text rest : List Char} {xs : List α} (read : container entry close text = some (xs, rest)) :
    ∀ x ∈ xs, IsEntry x := by
  unfold container at read
  split at read
  · cases read
  · split at read
    · cases read; simp
    · exact forall_mem_entries h close _ _ _ _ read

end Container

theorem distinct_member {value : List Char → Option (Value × List Char)}
    (h : ∀ text v rest, value text = some (v, rest) → v.Distinct) {text rest : List Char}
    {m : String × Value} (read : member value text = some (m, rest)) : m.2.Distinct := by
  unfold member at read
  split at read
  · split at read
    · cases read
    · split at read
      · obtain ⟨⟨v, after⟩, inner, same⟩ := Option.map_eq_some_iff.1 read
        cases same
        exact h _ _ _ inner
      · cases read
  · cases read

theorem distinct_scalar? {text rest : List Char} {value : Value}
    (read : scalar? text = some (value, rest)) : value.Distinct := by
  unfold scalar? at read
  split at read
  · obtain ⟨_, -, same⟩ := Option.map_eq_some_iff.1 read
    cases same; exact trivial
  · cases read; exact trivial
  · cases read; exact trivial
  · cases read; exact trivial
  · obtain ⟨_, -, same⟩ := Option.map_eq_some_iff.1 read
    cases same; exact trivial

theorem distinct_value? : ∀ (depth : Nat) (text : List Char) (value : Value) (rest : List Char),
    value? depth text = some (value, rest) → value.Distinct
  | 0, _, _, _, read => distinct_scalar? read
  | depth + 1, text, value, rest, read => by
    unfold value? at read
    split at read
    · obtain ⟨⟨items, after⟩, inner, same⟩ := Option.map_eq_some_iff.1 read
      cases same
      exact Value.distinct_array.2 (forall_mem_container (distinct_value? depth) inner)
    · obtain ⟨⟨members, after⟩, inner, same⟩ := Option.map_eq_some_iff.1 read
      cases same
      exact distinct_collect
        (forall_mem_container (fun _ _ _ => distinct_member (distinct_value? depth)) inner)
    · exact distinct_scalar? read

theorem distinct_read? {text : String} {value : Value} (read : read? text = some value) :
    value.Distinct := by
  unfold read? at read
  split at read
  next v rest inner =>
    split at read
    · cases read; exact distinct_value? _ _ _ _ inner
    · cases read
  · cases read

end SwaggerRoutes.Json

namespace SwaggerRoutes.Yaml

open SwaggerRoutes.Json (Value)

/-! ## Reading YAML -/

theorem distinct_meaning_value? {text : String} {m : Meaning} {value : Value}
    (read : m.value? text = some value) : value.Distinct := by
  cases m <;> cases read <;> exact trivial

theorem distinct_scalarValue? {tag : Option String} {isPlain : Bool} {text : String} {value : Value}
    (read : scalarValue? tag isPlain text = some value) : value.Distinct := by
  unfold scalarValue? at read
  split at read
  · split at read
    · exact distinct_meaning_value? read
    · cases read; exact trivial
  · split_ifs at read
    · obtain ⟨_, -, same⟩ := Option.map_eq_some_iff.1 read
      cases same; exact trivial
    · obtain ⟨m, -, inner⟩ := Option.bind_eq_some_iff.1 read
      exact distinct_meaning_value? inner
    · obtain ⟨m, -, inner⟩ := Option.bind_eq_some_iff.1 read
      exact distinct_meaning_value? inner
    · cases read; exact trivial
    · cases read; exact trivial

theorem forall_mem_each? {α β : Type} {f : α → Nat → Option (β × Nat)} {IsResult : β → Prop}
    (h : ∀ x left y rest, f x left = some (y, rest) → IsResult y) :
    ∀ (xs : List α) (left : Nat) (ys : List β) (rest : Nat),
      each? f xs left = some (ys, rest) → ∀ y ∈ ys, IsResult y
  | [], _, _, _, read => by cases read; simp
  | x :: xs, left, ys, rest, read => by
    unfold each? at read
    split at read
    · cases read
    next y left' first =>
      obtain ⟨⟨others, after⟩, further, same⟩ := Option.map_eq_some_iff.1 read
      cases same
      rw [List.forall_mem_cons]
      exact ⟨h _ _ _ _ first, forall_mem_each? h xs _ _ _ further⟩

theorem distinct_member? {anchors : Anchors} {value? : Node → Nat → Option (Value × Nat)}
    (h : ∀ node left value rest, value? node left = some (value, rest) → value.Distinct)
    {entry : Node × Node} {left rest : Nat} {m : String × Value}
    (read : member? anchors value? entry left = some (m, rest)) : m.2.Distinct := by
  unfold member? at read
  split at read
  · cases read
  · obtain ⟨⟨v, after⟩, inner, same⟩ := Option.map_eq_some_iff.1 read
    cases same
    exact h _ _ _ _ inner

theorem distinct_scalar_map {tag : Option String} {isPlain : Bool} {text : String} {value : Value}
    {left rest : Nat}
    (read : (scalarValue? tag isPlain text).map (fun value => (value, left)) = some (value, rest)) :
    value.Distinct := by
  obtain ⟨v, inner, same⟩ := Option.map_eq_some_iff.1 read
  cases same
  exact distinct_scalarValue? inner

theorem distinct_value? (anchors : Anchors) :
    ∀ (depth : Nat) (node : Node) (left : Nat) (value : Value) (rest : Nat),
      value? anchors depth node left = some (value, rest) → value.Distinct
  | 0, _, _, _, _, read => by
    unfold value? at read
    split at read
    · exact distinct_scalar_map read
    · cases read
  | depth + 1, node, left, value, rest, read => by
    unfold value? at read
    split at read
    · exact distinct_scalar_map read
    · split_ifs at read
      obtain ⟨⟨items, after⟩, inner, same⟩ := Option.map_eq_some_iff.1 read
      cases same
      exact Json.Value.distinct_array.2 (forall_mem_each? (distinct_value? anchors depth) _ _ _ _ inner)
    · split_ifs at read
      obtain ⟨⟨members, after⟩, inner, same⟩ := Option.map_eq_some_iff.1 read
      cases same
      exact Json.distinct_collect
        (forall_mem_each? (fun _ _ _ _ => distinct_member? (distinct_value? anchors depth)) _ _ _ _ inner)
    · cases read

theorem distinct_readDocument? {text : String} {value : Value}
    (read : readDocument? text = some value) : value.Distinct := by
  unfold readDocument? at read
  split at read
  · cases read
  · cases read; exact trivial
  · obtain ⟨⟨v, left⟩, inner, same⟩ := Option.map_eq_some_iff.1 read
    cases same
    exact distinct_value? _ _ _ _ _ _ inner

end SwaggerRoutes.Yaml

namespace SwaggerRoutes.Document

/-- A document that is read holds no object with one name twice. -/
theorem distinct_of_read? {text : String} {document : Json.Value} (h : read? text = some document) :
    document.Distinct := by
  unfold read? at h
  split at h
  next value json => cases h; exact Json.distinct_read? json
  · exact Yaml.distinct_readDocument? h

end SwaggerRoutes.Document
