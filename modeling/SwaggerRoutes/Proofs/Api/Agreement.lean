/-
Two readings side by side. They agree if both fail with the same fault, or if both succeed with related
results; readings in a row agree if they do so one by one. What is read of two documents agrees if their
paths pair up, if the verbs of two paths do, and if the entries of two operations agree.
-/
import SwaggerRoutes.Api.Loading
import SwaggerRoutes.Proofs.Json.Members

namespace SwaggerRoutes.Api

open SwaggerRoutes.Json

/-! ## Readings that agree -/

/-- Both readings fail with the same fault, or both succeed with related results. -/
inductive Agree {ε α β : Type} (R : α → β → Prop) : Except ε α → Except ε β → Prop
  | fault (e : ε) : Agree R (.error e) (.error e)
  | result {a : α} {b : β} (related : R a b) : Agree R (.ok a) (.ok b)

namespace Agree

variable {ε α β γ δ : Type} {R : α → β → Prop} {S : γ → δ → Prop}

theorem bind {x : Except ε α} {y : Except ε β} {f : α → Except ε γ} {g : β → Except ε δ}
    (h : Agree R x y) (next : ∀ a b, R a b → Agree S (f a) (g b)) : Agree S (x >>= f) (y >>= g) := by
  cases h with
  | fault e => exact .fault e
  | result related => exact next _ _ related

theorem imp {x : Except ε α} {y : Except ε β} {T : α → β → Prop} (h : Agree R x y)
    (weaker : ∀ a b, R a b → T a b) : Agree T x y := by
  cases h with
  | fault e => exact .fault e
  | result related => exact .result (weaker _ _ related)

theorem mapM {f : α → Except ε γ} {g : β → Except ε δ} {xs : List α} {ys : List β}
    (h : List.Forall₂ (fun x y => Agree S (f x) (g y)) xs ys) :
    Agree (List.Forall₂ S) (xs.mapM f) (ys.mapM g) := by
  induction h with
  | nil => exact .result .nil
  | cons first _ ih =>
    rw [List.mapM_cons, List.mapM_cons]
    exact first.bind fun _ _ one => ih.bind fun _ _ others => .result (.cons one others)

theorem of_eq {x y : Except ε α} (h : x = y) : Agree Eq x y := by
  subst h
  cases x with
  | error e => exact .fault e
  | ok a => exact .result rfl

theorem error_iff {x : Except ε α} {y : Except ε β} (h : Agree R x y) (e : ε) :
    x = .error e ↔ y = .error e := by
  cases h with
  | fault e' => simp only [Except.error.injEq]
  | result related => constructor <;> exact nofun

theorem exists_of_ok {x : Except ε α} {y : Except ε β} (h : Agree R x y) {a : α} (ok : x = .ok a) :
    ∃ b, y = .ok b ∧ R a b := by
  cases h with
  | fault e => cases ok
  | result related => cases ok; exact ⟨_, rfl, related⟩

end Agree

/-! ## What is read, up to a relation of parameters -/

/-- Two operations with the same fields, whose parameters are related one by one. -/
structure Operation.Like (R : Parameter → Parameter → Prop) (o o' : Operation) : Prop where
  id : o.id = o'.id
  description : o.description = o'.description
  consumes : o.consumes = o'.consumes
  produces : o.produces = o'.produces
  parameters : List.Forall₂ R o.parameters o'.parameters

/-- The same verbs in the same order, with operations alike. -/
def PathItem.Like (R : Parameter → Parameter → Prop) (item item' : PathItem) : Prop :=
  List.Forall₂ (SameKey (Operation.Like R)) item.operations item'.operations

/-- The same title, and the same paths in the same order, alike one by one. -/
structure Specification.Like (R : Parameter → Parameter → Prop) (spec spec' : Specification) : Prop where
  title : spec.title = spec'.title
  paths : List.Forall₂ (SameKey (PathItem.Like R)) spec.paths spec'.paths

theorem Operation.Like.eq {o o' : Operation} (h : o.Like Eq o') : o = o' := by
  obtain ⟨id, description, consumes, produces, parameters⟩ := o
  obtain ⟨rfl, rfl, rfl, rfl, parameters⟩ := h
  rw [List.forall₂_eq_eq_eq] at parameters
  subst parameters
  rfl

theorem PathItem.Like.eq {item item' : PathItem} (h : item.Like Eq item') : item = item' := by
  cases item
  exact congrArg PathItem.mk (eq_of_sameKey h fun _ _ => Operation.Like.eq)

theorem Specification.Like.eq {spec spec' : Specification} (h : spec.Like Eq spec') : spec = spec' := by
  cases spec
  cases spec'
  exact congrArg₂ Specification.mk h.title (eq_of_sameKey h.paths fun _ _ => PathItem.Like.eq)

/-! ## Documents that are read alike -/

section Documents

variable {document document' : Value} {R : Parameter → Parameter → Prop}

/-- Of the members of both objects the same fields are read, and the entries of their parameters agree
one by one. -/
structure MembersAgree (document document' : Value) (R : Parameter → Parameter → Prop)
    (members members' : List (String × Value)) : Prop where
  id : stringField? "operationId" members = stringField? "operationId" members'
  description : stringField? "description" members = stringField? "description" members'
  consumes : stringList "consumes" members = stringList "consumes" members'
  produces : stringList "produces" members = stringList "produces" members'
  entries : List.Forall₂
    (fun entry entry' => Agree R (entryParameter document entry) (entryParameter document' entry'))
    (parameterEntries members) (parameterEntries members')

/-- The same verbs have objects, and these agree. -/
def ItemsAgree (document document' : Value) (R : Parameter → Parameter → Prop) (item item' : Value) : Prop :=
  ∀ method : Method, Option.Rel (MembersAgree document document' R)
    ((item.get? method.name).bind Value.object?) ((item'.get? method.name).bind Value.object?)

theorem agree_operation {members members' : List (String × Value)}
    (h : MembersAgree document document' R members members') :
    Agree (Operation.Like R) (operation document members) (operation document' members') := by
  refine (Agree.mapM h.entries).bind fun parameters parameters' related => .result ?_
  exact ⟨congrArg (·.getD "") h.id, h.description, h.consumes, h.produces, related⟩

theorem sameKey_declaredOperations {item item' : Value} (h : ItemsAgree document document' R item item') :
    List.Forall₂ (SameKey (MembersAgree document document' R)) (declaredOperations item)
      (declaredOperations item') := by
  refine List.rel_filterMap (R := Eq) ?_ (List.forall₂_same.2 fun _ _ => rfl)
  rintro method _ rfl
  exact rel_map (h method) fun _ _ related => .row method related

theorem agree_pathItem {item item' : Value} (path : String)
    (h : ItemsAgree document document' R item item') :
    Agree (PathItem.Like R) (pathItem document path item) (pathItem document' path item') := by
  refine (Agree.mapM ((sameKey_declaredOperations h).imp ?_)).bind fun _ _ related => .result related
  rintro _ _ ⟨method, related⟩
  have agree := agree_operation related
  dsimp only
  generalize operation document _ = reading, operation document' _ = reading' at agree ⊢
  cases agree with
  | fault cause => exact .fault _
  | result like => exact .result (.row method like)

/-- The specifications of two documents agree if their paths do. -/
theorem agree_specification (title : title? document = title? document')
    (paths : List.Forall₂ (SameKey (ItemsAgree document document' R)) (declaredPaths document)
      (declaredPaths document')) :
    Agree (Specification.Like R) (specification document) (specification document') := by
  refine (Agree.mapM (paths.imp ?_)).bind fun _ _ related => .result ⟨congrArg (·.getD "") title, related⟩
  rintro _ _ ⟨path, items⟩
  exact (agree_pathItem path items).bind fun _ _ like => .result (.row path like)

end Documents

end SwaggerRoutes.Api
