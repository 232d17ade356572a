/-
JSON documents as values. Numbers are whole numbers or 64-bit floating-point numbers, and objects
keep the order of their members. A document that was read holds no object with one name twice; the
predicate `Value.Distinct` says so.
-/
import SwaggerRoutes.Decimal.Binary64

namespace SwaggerRoutes.Json

inductive Number
  | int (n : Int)
  | double (x : Binary64)
deriving DecidableEq, Repr

inductive Value
  | null
  | bool (b : Bool)
  | number (n : Number)
  | string (text : String)
  | array (items : List Value)
  | object (members : List (String × Value))
deriving Repr

instance : Inhabited Value := ⟨.null⟩

/-! ## Members -/

/-- The value of the first member with a name. -/
def find? (name : String) : List (String × Value) → Option Value
  | [] => none
  | (key, value) :: rest => if key = name then some value else find? name rest

/-- The members with one more: a name that is there already keeps its place and takes the new
value, a new one comes last. -/
def put (name : String) (value : Value) : List (String × Value) → List (String × Value)
  | [] => [(name, value)]
  | (key, old) :: rest =>
    if key = name then (name, value) :: rest else (key, old) :: put name value rest

theorem find?_put_self (name : String) (value : Value) (members : List (String × Value)) :
    find? name (put name value members) = some value := by
  fun_induction put name value members <;> simp_all [find?]

theorem find?_put_of_ne {name other : String} (h : other ≠ name) (value : Value)
    (members : List (String × Value)) :
    find? other (put name value members) = find? other members := by
  fun_induction put name value members <;> grind [find?]

/-- A member can be found exactly under the names that are there. -/
theorem find?_isSome_iff (name : String) (members : List (String × Value)) :
    (find? name members).isSome = true ↔ name ∈ members.map Prod.fst := by
  fun_induction find? name members <;> grind

/-- A repeated name keeps the names and their order; a new one is added at the end. -/
theorem map_fst_put (name : String) (value : Value) (members : List (String × Value)) :
    (put name value members).map Prod.fst =
      if name ∈ members.map Prod.fst then members.map Prod.fst
      else members.map Prod.fst ++ [name] := by
  fun_induction put name value members <;> grind

namespace Value

/-- The member of an object; any other value has none. -/
def get? (name : String) : Value → Option Value
  | .object members => find? name members
  | _ => none

def string? : Value → Option String
  | .string text => some text
  | _ => none

def bool? : Value → Option Bool
  | .bool b => some b
  | _ => none

def array? : Value → Option (List Value)
  | .array items => some items
  | _ => none

def object? : Value → Option (List (String × Value))
  | .object members => some members
  | _ => none

def isNull : Value → Bool
  | .null => true
  | _ => false

/-! ## Distinct names -/

mutual

/-- No object in the value holds one name twice. -/
def Distinct : Value → Prop
  | .array items => DistinctItems items
  | .object members => (members.map Prod.fst).Nodup ∧ DistinctMembers members
  | _ => True
termination_by structural value => value

def DistinctItems : List Value → Prop
  | [] => True
  | value :: rest => value.Distinct ∧ DistinctItems rest
termination_by structural values => values

def DistinctMembers : List (String × Value) → Prop
  | [] => True
  | (_, value) :: rest => value.Distinct ∧ DistinctMembers rest
termination_by structural members => members

end

end Value

end SwaggerRoutes.Json
