/-
Reading records, lists and alternatives out of JSON values. A record may be written as an object,
whose other members are ignored, or as the array of all its fields in order.
-/
import SwaggerRoutes.Json.Value

namespace SwaggerRoutes.Json.Value

/-- The fields of a record, in the order of their names; `none` within for a member that is not
there. -/
def fields? (names : List String) : Value → Option (List (Option Value))
  | .object members => some (names.map fun name => find? name members)
  | .array items => if items.length = names.length then some (items.map some) else none
  | _ => none

/-- A list whose items are all readable. -/
def listOf? (item? : Value → Option α) : Value → Option (List α)
  | .array items => items.mapM item?
  | _ => none

/-- An optional field: absent and `null` both mean `none`. -/
def optionOf? (item? : Value → Option α) : Option Value → Option (Option α)
  | none => some none
  | some .null => some none
  | some value => (item? value).map some

/-- The name of an alternative without content: a string, or an object whose only member has that
name and the value `null`. -/
def alternative? : Value → Option String
  | .string name => some name
  | .object [(name, .null)] => some name
  | _ => none

/-- An optional string as a value. -/
def ofString? : Option String → Value
  | none => .null
  | some text => .string text

/-- An optional truth value as a value. -/
def ofBool? : Option Bool → Value
  | none => .null
  | some b => .bool b

/-- A list of strings as a value. -/
def ofStrings (texts : List String) : Value := .array (texts.map .string)

/-- A pair as an array of two. -/
def ofPair (first second : Value) : Value := .array [first, second]

end SwaggerRoutes.Json.Value
