/-
Places inside a value: the steps that lead to a part, and the value with another part there. A pointer
that is followed in a value before and after a part of it is replaced runs one of three courses: it turns
off aside, where nothing changed; it ends above or at the place; or it passes the place and goes on in the
part. The main statement is that there is no fourth.
-/
import SwaggerRoutes.Json.Pointer
import Mathlib.Data.List.Forall2

namespace SwaggerRoutes.Json

open SwaggerRoutes.Text

/-! ## Places -/

/-- A step into a value: to the first member with a name, or to the item at an index. -/
inductive Step
  | member (name : String)
  | item (index : Nat)
deriving DecidableEq, Repr

/-- A step of a pointer that leads where a step does, if it leads anywhere. -/
def Step.Written (text : String) : Step → Prop
  | .member name => text = name
  | .item i => index? text = some i

namespace Value

/-- The part of a value to which a step leads. -/
def part? : Value → Step → Option Value
  | .object members, .member name => find? name members
  | .array items, .item i => items[i]?
  | _, _ => none

/-- The part of a value at a place. -/
def at? (value : Value) : List Step → Option Value
  | [] => some value
  | step :: rest => (value.part? step).bind (·.at? rest)

/-- The value with another part after a step. -/
def withPart : Value → Step → Value → Value
  | .object members, .member name, part => .object (put name part members)
  | .array items, .item i, part => .array (items.set i part)
  | value, _, _ => value

/-- The value with another part at a place; the same value if there is no such place. -/
def replaced (value : Value) (place : List Step) (new : Value) : Value :=
  match place with
  | [] => new
  | step :: rest =>
    match value.part? step with
    | none => value
    | some part => value.withPart step (part.replaced rest new)

end Value

/-! ## One step -/

section Step

variable {value part : Value} {step : Step} {text : String}

/-- A part has a name in an object, or an index in an array. -/
theorem Value.part?_cases (h : value.part? step = some part) :
    (∃ members name, value = .object members ∧ step = .member name ∧ find? name members = some part) ∨
      ∃ items i, value = .array items ∧ step = .item i ∧ items[i]? = some part := by
  cases value with
  | object members =>
    cases step with
    | member name => exact .inl ⟨members, name, rfl, rfl, h⟩
    | item i => cases h
  | array items =>
    cases step with
    | member name => cases h
    | item i => exact .inr ⟨items, i, rfl, rfl, h⟩
  | _ => cases h

/-- What stands at a place below a member. -/
theorem Value.at?_member {name : String} {rest : List Step} {old : Value}
    (h : value.at? (.member name :: rest) = some old) :
    ∃ members part, value = .object members ∧ find? name members = some part ∧ part.at? rest = some old := by
  obtain ⟨part, found, below⟩ := Option.bind_eq_some_iff.1 h
  obtain ⟨members, _, rfl, ⟨⟩, found⟩ | ⟨_, _, _, ⟨⟩, _⟩ := part?_cases found
  exact ⟨members, part, rfl, found, below⟩

theorem Value.replaced_member {members : List (String × Value)} {name : String}
    (found : find? name members = some part) (rest : List Step) (new : Value) :
    (Value.object members).replaced (.member name :: rest) new =
      .object (put name (part.replaced rest new) members) := by
  have found : (Value.object members).part? (.member name) = some part := found
  rw [Value.replaced, found]
  rfl

theorem Value.at?_item {i : Nat} {rest : List Step} {old : Value}
    (h : value.at? (.item i :: rest) = some old) :
    ∃ items part, value = .array items ∧ items[i]? = some part ∧ part.at? rest = some old := by
  obtain ⟨part, found, below⟩ := Option.bind_eq_some_iff.1 h
  obtain ⟨_, _, _, ⟨⟩, _⟩ | ⟨items, _, rfl, ⟨⟩, found⟩ := part?_cases found
  exact ⟨items, part, rfl, found, below⟩

theorem Value.replaced_item {items : List Value} {i : Nat} (found : items[i]? = some part)
    (rest : List Step) (new : Value) :
    (Value.array items).replaced (.item i :: rest) new = .array (items.set i (part.replaced rest new)) := by
  have found : (Value.array items).part? (.item i) = some part := found
  rw [Value.replaced, found]
  rfl

theorem Value.part?_withPart (h : value.part? step = some part) (new : Value) :
    (value.withPart step new).part? step = some new := by
  obtain ⟨members, name, rfl, rfl, -⟩ | ⟨items, i, rfl, rfl, found⟩ := part?_cases h
  · exact find?_put_self name new members
  · obtain ⟨inside, -⟩ := List.getElem?_eq_some_iff.1 found
    exact List.getElem?_set_self inside

theorem Value.step?_of_written (h : value.part? step = some part) (written : step.Written text) :
    value.step? text = some part := by
  obtain ⟨members, name, rfl, rfl, found⟩ | ⟨items, i, rfl, rfl, found⟩ := part?_cases h
  · obtain rfl : text = name := written
    exact found
  · have index : index? text = some i := written
    rw [Value.step?, index, Option.bind_some, found]

/-- A step to another part finds what it found before. -/
theorem Value.step?_withPart_of_not_written (h : value.part? step = some part) (new : Value)
    (other : ¬ step.Written text) : (value.withPart step new).step? text = value.step? text := by
  obtain ⟨members, name, rfl, rfl, -⟩ | ⟨items, i, rfl, rfl, -⟩ := part?_cases h
  · exact find?_put_of_ne other new members
  · simp only [Value.withPart, Value.step?]
    cases index : index? text with
    | none => rfl
    | some j =>
      have elsewhere : i ≠ j := fun same => other (same ▸ index)
      exact List.getElem?_set_ne elsewhere

end Step

/-! ## Courses -/

/-- Following steps from one part to the next. -/
def Value.follow? (value : Value) (steps : List String) : Option Value := steps.foldlM Value.step? value

theorem Value.follow?_cons (value : Value) (text : String) (steps : List String) :
    value.follow? (text :: steps) = (value.step? text).bind (·.follow? steps) := rfl

/-- How steps that are followed in a value run when the part at a place is replaced. -/
inductive Course (value : Value) (place : List Step) (old new : Value) (steps : List String) : Prop
  /-- They lead to where nothing has changed. -/
  | aside (same : (value.replaced place new).follow? steps = value.follow? steps)
  /-- They end on the way to the place, or at it. -/
  | above (taken rest : List Step) (part : Value) (split : place = taken ++ rest)
      (written : List.Forall₂ (fun text step => step.Written text) steps taken)
      (holds : part.at? rest = some old) (before : value.follow? steps = some part)
      (after : (value.replaced place new).follow? steps = some (part.replaced rest new))
  /-- They lead past the place. -/
  | below (taken : List String) (next : String) (further : List String)
      (split : steps = taken ++ next :: further)
      (written : List.Forall₂ (fun text step => step.Written text) taken place)
      (before : value.follow? steps = old.follow? (next :: further))
      (after : (value.replaced place new).follow? steps = new.follow? (next :: further))

/-- Steps take one of the three courses, wherever they lead. -/
theorem course {value old : Value} {place : List Step} (h : value.at? place = some old) (new : Value)
    (steps : List String) : Course value place old new steps := by
  induction place generalizing value steps with
  | nil =>
    cases h
    cases steps with
    | nil => exact .above [] [] old rfl .nil rfl rfl rfl
    | cons next further => exact .below [] next further rfl .nil rfl rfl
  | cons step rest ih =>
    obtain ⟨part, hpart, hold⟩ := Option.bind_eq_some_iff.1 h
    have replaced : value.replaced (step :: rest) new = value.withPart step (part.replaced rest new) := by
      rw [Value.replaced, hpart]
    cases steps with
    | nil => exact .above [] (step :: rest) value rfl .nil h rfl rfl
    | cons text steps =>
      by_cases written : step.Written text
      · -- both runs go on in the part, as they do there
        have before : value.follow? (text :: steps) = part.follow? steps := by
          rw [Value.follow?_cons, Value.step?_of_written hpart written, Option.bind_some]
        have after : (value.replaced (step :: rest) new).follow? (text :: steps) =
            (part.replaced rest new).follow? steps := by
          rw [replaced, Value.follow?_cons,
            Value.step?_of_written (Value.part?_withPart hpart _) written, Option.bind_some]
        cases ih hold steps with
        | aside same => exact .aside (by rw [before, after, same])
        | above taken left final split written' holds before' after' =>
          exact .above (step :: taken) left final (by rw [split]; rfl) (.cons written written') holds
            (before.trans before') (after.trans after')
        | below taken next further split written' before' after' =>
          exact .below (text :: taken) next further (by rw [split]; rfl) (.cons written written')
            (before.trans before') (after.trans after')
      · refine .aside ?_
        rw [replaced, Value.follow?_cons, Value.step?_withPart_of_not_written hpart _ written]
        rfl

/-! ## Pointers -/

theorem Value.pointer?_eq_some_iff {value part : Value} {pointer : List Char} :
    value.pointer? pointer = some part ↔ ∃ steps, steps? pointer = some steps ∧ value.follow? steps = some part :=
  Option.bind_eq_some_iff

/-- A text without the new character was not changed. -/
theorem eq_of_replacePair_eq {a b new : Char} {text text' : List Char} (h : replacePair a b new text = text')
    (fresh : new ∉ text') : text = text' := by
  subst h
  fun_induction replacePair a b new text with
  | case1 => exact absurd List.mem_cons_self fresh
  | case2 c d rest _ ih =>
    rw [List.mem_cons, not_or] at fresh
    rw [← ih fresh.2]
  | case3 => rfl

/-- A name without tildes and slashes is written by a step in one way only. -/
theorem eq_of_decodeStep_eq {text : List Char} {name : String} (h : decodeStep text = name)
    (tilde : '~' ∉ name.toList) (slash : '/' ∉ name.toList) : text = name.toList := by
  have decoded : replacePair '~' '0' '~' (replacePair '~' '1' '/' text) = name.toList := by
    rw [← h, decodeStep, String.toList_ofList]
  exact eq_of_replacePair_eq (eq_of_replacePair_eq decoded tilde) slash

/-- A single step to such a name is written by one pointer only. -/
theorem eq_of_steps?_eq_singleton {pointer : List Char} {name : String} (h : steps? pointer = some [name])
    (tilde : '~' ∉ name.toList) (slash : '/' ∉ name.toList) : pointer = '/' :: name.toList := by
  unfold steps? at h
  split at h
  · cases h
  next text =>
    obtain ⟨piece, single, decoded⟩ := List.map_eq_singleton_iff.1 (Option.some.inj h)
    have whole := joined_pieces '/' text
    rw [single] at whole
    rw [← whole, joined, eq_of_decodeStep_eq decoded tilde slash]
  · cases h

end SwaggerRoutes.Json
