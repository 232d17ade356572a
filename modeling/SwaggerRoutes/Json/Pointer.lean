/-
Looking up a place inside a JSON document by a pointer: an empty text, which names the whole
document, or steps that each begin with a slash. In a step `~1` stands for a slash and `~0` for a
tilde.
-/
import SwaggerRoutes.Json.Value
import SwaggerRoutes.Text.Blank
import SwaggerRoutes.Text.Pieces

namespace SwaggerRoutes.Json

open SwaggerRoutes.Text

/-- The name or index that a step writes. -/
def decodeStep (step : List Char) : String :=
  String.ofList (replacePair '~' '0' '~' (replacePair '~' '1' '/' step))

/-- The index that a step writes: decimal digits without a leading zero. -/
def index? (step : String) : Option Nat :=
  let digits := step.toList
  if digits.isEmpty || !digits.all isDigit || (digits.length > 1 && digits.head? = some '0') then
    none
  else some (digits.foldl (fun n c => 10 * n + (c.toNat - 48)) 0)

/-- The part of a value that one step names. -/
def Value.step? (value : Value) (step : String) : Option Value :=
  match value with
  | .object members => find? step members
  | .array items => (index? step).bind (items[·]?)
  | _ => none

/-- The steps of a pointer. -/
def steps? : List Char → Option (List String)
  | [] => some []
  | '/' :: text => some ((pieces '/' text).map decodeStep)
  | _ => none

/-- The part of a document that a pointer names. -/
def Value.pointer? (document : Value) (pointer : List Char) : Option Value :=
  (steps? pointer).bind fun steps => steps.foldlM Value.step? document

end SwaggerRoutes.Json
