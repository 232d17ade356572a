/-
The statement of an endpoint as data: verb, path, the invocations on the lines that follow, and the
processor. An invocation is a method with its arguments, and a clause is an invocation that may be
left out. A list of clauses is determined by the invocations that it makes, as long as the methods
in it differ from each other and from what comes next.
-/
import SwaggerRoutes.Proofs.Route.Filling
import SwaggerRoutes.Route.Assembly

namespace SwaggerRoutes.Route

open SwaggerRoutes.Api SwaggerRoutes.Text

/-! ## Invocations -/

/-- A call of a method on a line of its own. -/
structure Invocation where
  method : String
  args : List Argument
deriving DecidableEq, Repr

/-- The fragment of an invocation: one slot for each argument. -/
def Invocation.fragment (i : Invocation) : Fragment :=
  ⟨"\n." ++ i.method ++ "(" ++ String.ofList (slots i.args) ++ ")", i.args⟩

theorem Invocation.fragment_injective : Function.Injective Invocation.fragment := by
  rintro ⟨method, args⟩ ⟨method', args'⟩ same
  simp only [fragment, Fragment.mk.injEq] at same
  obtain ⟨template, rfl⟩ := same
  have chars := congrArg String.toList template
  simp only [String.toList_append, List.append_assoc, List.append_cancel_left_eq,
    List.append_cancel_right_eq] at chars
  rw [String.toList_injective chars]

/-! ## Endpoints -/

theorem method_name_injective : Function.Injective Method.name := fun _ _ => Method.name_inj

/-- The parts of the statement that registers one endpoint. -/
@[ext] structure Endpoint where
  method : Method
  path : String
  invocations : List Invocation
  processor : String
deriving DecidableEq, Repr

namespace Endpoint

/-- The fragment that opens the statement of an endpoint. -/
def opening (e : Endpoint) : Fragment :=
  ⟨"rest." ++ slot ++ "(" ++ slot ++ ")", [.literal e.method.name, .str e.path]⟩

/-- What stands before the processor. -/
def beforeProcessor : String := ".route().process("

/-- The fragment that closes the statement of an endpoint, on the line of the one before it. -/
def closing (e : Endpoint) : Fragment := ⟨beforeProcessor ++ slot ++ ")", [.str e.processor]⟩

def statement (e : Endpoint) : Statement :=
  ⟨e.opening :: e.invocations.map Invocation.fragment ++ [e.closing]⟩

theorem opening_inj {e e' : Endpoint} (same : e.opening = e'.opening) :
    e.method = e'.method ∧ e.path = e'.path := by
  obtain ⟨verb, rest⟩ := List.cons.inj (Fragment.mk.inj same).2
  exact ⟨method_name_injective (Argument.literal.inj verb), Argument.str.inj (List.cons.inj rest).1⟩

theorem closing_inj {e e' : Endpoint} (same : e.closing = e'.closing) : e.processor = e'.processor :=
  Argument.str.inj (List.cons.inj (Fragment.mk.inj same).2).1

theorem statement_injective : Function.Injective statement := by
  intro e e' same
  obtain ⟨opens, rest⟩ := List.cons.inj (congrArg Statement.fragments same)
  obtain ⟨fragments, closes⟩ := List.append_inj' rest (by simp)
  obtain ⟨method, path⟩ := opening_inj opens
  exact Endpoint.ext method path ((List.map_inj_right Invocation.fragment_injective).1 fragments)
    (closing_inj (List.cons.inj closes).1)

end Endpoint

/-! ## Clauses -/

/-- An invocation that may be left out: its arguments are `none` then. -/
structure Clause where
  method : String
  args : Option (List Argument)
deriving DecidableEq, Repr

def Clause.invocation? (c : Clause) : Option Invocation := c.args.map fun args => ⟨c.method, args⟩

/-- The invocations that a list of clauses makes. -/
def invocations (clauses : List Clause) : List Invocation := clauses.filterMap Clause.invocation?

theorem invocations_cons (c : Clause) (clauses : List Clause) :
    invocations (c :: clauses) = c.invocation?.toList ++ invocations clauses := by
  cases h : c.invocation? <;> simp [invocations, h]

/-- An invocation is made by a clause of its method. -/
theorem exists_of_mem_invocations {clauses : List Clause} {i : Invocation} (h : i ∈ invocations clauses) :
    ⟨i.method, some i.args⟩ ∈ clauses := by
  obtain ⟨⟨method, args⟩, hc, e⟩ := List.mem_filterMap.1 h
  obtain ⟨as, rfl, rfl⟩ := Option.map_eq_some_iff.1 e
  exact hc

/-- The method of the first invocation. -/
def firstMethod? (is : List Invocation) : Option String := is.head?.map Invocation.method

/-- What follows clauses of other methods can begin with a method only if it did before. -/
theorem firstMethod?_append_ne {method : String} {clauses : List Clause} {rest : List Invocation}
    (h : method ∉ clauses.map Clause.method) (next : firstMethod? rest ≠ some method) :
    firstMethod? (invocations clauses ++ rest) ≠ some method := by
  cases e : invocations clauses with
  | nil => exact next
  | cons i is =>
    have made : ⟨i.method, some i.args⟩ ∈ clauses :=
      exists_of_mem_invocations (e ▸ List.mem_cons_self)
    rintro first
    obtain rfl : i.method = method := Option.some.inj first
    exact h (List.mem_map_of_mem made)

theorem invocation?_append_inj {method : String} {args args' : Option (List Argument)}
    {rest rest' : List Invocation} (next : firstMethod? rest ≠ some method)
    (next' : firstMethod? rest' ≠ some method)
    (same : (Clause.mk method args).invocation?.toList ++ rest =
      (Clause.mk method args').invocation?.toList ++ rest') : args = args' ∧ rest = rest' := by
  cases args with
  | none =>
    cases args' with
    | none => exact ⟨rfl, same⟩
    | some as' => exact absurd (congrArg firstMethod? same) next
  | some as =>
    cases args' with
    | none => exact absurd (congrArg firstMethod? same.symm) next'
    | some as' =>
      obtain ⟨heads, rests⟩ := List.cons.inj same
      exact ⟨congrArg some (Invocation.mk.inj heads).2, rests⟩

/-- Clauses of the same methods, all different, that make the same invocations are the same. -/
theorem invocations_append_inj {clauses clauses' : List Clause} {rest rest' : List Invocation}
    (methods : clauses.map Clause.method = clauses'.map Clause.method)
    (nodup : (clauses.map Clause.method).Nodup)
    (next : ∀ method ∈ clauses.map Clause.method, firstMethod? rest ≠ some method)
    (next' : ∀ method ∈ clauses.map Clause.method, firstMethod? rest' ≠ some method)
    (same : invocations clauses ++ rest = invocations clauses' ++ rest') :
    clauses = clauses' ∧ rest = rest' := by
  induction clauses generalizing clauses' with
  | nil =>
    rw [List.map_nil, eq_comm, List.map_eq_nil_iff] at methods
    subst methods
    exact ⟨rfl, same⟩
  | cons c clauses ih =>
    cases clauses' with
    | nil => simp at methods
    | cons c' clauses' =>
      obtain ⟨method, args⟩ := c
      obtain ⟨method', args'⟩ := c'
      obtain ⟨rfl, others⟩ := List.cons.inj methods
      rw [List.map_cons, List.forall_mem_cons] at next next'
      rw [List.map_cons, List.nodup_cons] at nodup
      rw [invocations_cons, invocations_cons, List.append_assoc, List.append_assoc] at same
      -- neither can the rest of the clauses, or what follows, begin with this method
      obtain ⟨rfl, tails⟩ := invocation?_append_inj (firstMethod?_append_ne nodup.1 next.1)
        (firstMethod?_append_ne (others ▸ nodup.1) next'.1) same
      obtain ⟨rfl, rests⟩ := ih others nodup.2 next.2 next'.2 tails
      exact ⟨rfl, rests⟩

end SwaggerRoutes.Route
