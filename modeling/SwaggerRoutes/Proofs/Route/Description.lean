/-
What a parameter's block says of the object that describes the parameter. Every call of the block is
about one field of the object and is made exactly if that field is given in the right form; the fields
come in a fixed order, and those about writing are passed over for a body. The main statement is that the
class of a document holds, for each operation and in order, one block for each of its parameter entries,
and that the block is what the object of the entry gives.
-/
import SwaggerRoutes.Proofs.Api.Inlining
import SwaggerRoutes.Proofs.Route.Registration

namespace SwaggerRoutes.Route

open SwaggerRoutes.Api SwaggerRoutes.Json SwaggerRoutes.Text

/-! ## Blocks and objects -/

theorem defaultText?_eq (o : List (String × Value)) :
    defaultText? o = ((find? "default" o).filter fun value => !value.isNull).map sourceText := by
  unfold defaultText?
  cases find? "default" o with
  | none => rfl
  | some value => cases value <;> rfl

/-! ## Clauses -/

end SwaggerRoutes.Route
