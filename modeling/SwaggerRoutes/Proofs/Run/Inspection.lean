/-
What the inspection of a document prints. The JSON of a class of routes nests eight levels, so its
indented form is read back as JSON; and every argument, fragment and statement is read back from its
JSON. The main statement is that the printed text, without its last line feed, gives back the class
whose inspection it is, so that no two classes are printed alike.
-/
import SwaggerRoutes.CommandLine.Run
import SwaggerRoutes.Proofs.Json.Reread
import SwaggerRoutes.Proofs.Run.Session

namespace SwaggerRoutes

open SwaggerRoutes.Json SwaggerRoutes.Session

namespace Route

/-! ## Reading routes out of their JSON -/

/-- A list is read back if each item is. -/
theorem listOf?_map {α : Type} {ofJson? : Value → Option α} {toJson : α → Value}
    (back : ∀ x, ofJson? (toJson x) = some x) (xs : List α) :
    Value.listOf? ofJson? (.array (xs.map toJson)) = some xs := by
  show (xs.map toJson).mapM ofJson? = some xs
  induction xs with
  | nil => rfl
  | cons x xs ih => rw [List.map_cons, List.mapM_cons, back, ih]; rfl

theorem HostType.ofJson?_string (type : HostType) :
    HostType.ofJson? (.string type.simpleName) = some type := HostType.ofName?_simpleName type

/-- Kind and content of an alternative are found again. -/
theorem fields?_tagged (kind : String) (content : Value) :
    (tagged kind content).fields? ["kind", "value"] = some [some (.string kind), some content] := by
  simp [tagged, Value.fields?, find?]

theorem enumConstant?_object (type : HostType) (constant : String) :
    enumConstant? (.object [("ty", .string type.simpleName), ("constant", .string constant)]) =
      some (.enumConstant type constant) := by
  simp [enumConstant?, Value.fields?, find?, HostType.ofJson?_string, Value.string?]

theorem Argument.ofJson?_toJson (arg : Argument) : Argument.ofJson? arg.toJson = some arg := by
  cases arg with
  | literal text => simp [toJson, ofJson?, fields?_tagged, Value.alternative?, Value.string?]
  | str text => simp [toJson, ofJson?, fields?_tagged, Value.alternative?, Value.string?]
  | enumConstant type constant =>
    simp [toJson, ofJson?, fields?_tagged, Value.alternative?, enumConstant?_object]
  | type type => simp [toJson, ofJson?, fields?_tagged, Value.alternative?, HostType.ofJson?_string]

theorem Fragment.ofJson?_toJson (fragment : Fragment) :
    Fragment.ofJson? fragment.toJson = some fragment := by
  simp [toJson, ofJson?, Value.fields?, find?, Value.string?, listOf?_map Argument.ofJson?_toJson]

theorem Statement.ofJson?_toJson (statement : Statement) :
    Statement.ofJson? statement.toJson = some statement := by
  simp [toJson, ofJson?, Value.fields?, find?, listOf?_map Fragment.ofJson?_toJson]

theorem Artifact.ofJson?_toJson (artifact : Artifact) : Artifact.ofJson? artifact.toJson = some artifact := by
  simp [toJson, ofJson?, Value.fields?, find?, Value.string?, listOf?_map Statement.ofJson?_toJson]

/-! ## How deep the JSON of routes nests -/

theorem Argument.legible_toJson (depth : Nat) (arg : Argument) : arg.toJson.Legible (depth + 2) := by
  cases arg <;> simp [toJson, tagged, Value.Legible]

theorem Fragment.legible_toJson (depth : Nat) (fragment : Fragment) :
    fragment.toJson.Legible (depth + 4) := by
  simp [toJson, Value.Legible, Argument.legible_toJson]

theorem Statement.legible_toJson (depth : Nat) (statement : Statement) :
    statement.toJson.Legible (depth + 6) := by
  simp [toJson, Value.Legible, Fragment.legible_toJson]

theorem Artifact.legible_toJson (depth : Nat) (artifact : Artifact) :
    artifact.toJson.Legible (depth + 8) := by
  simp [toJson, Value.Legible, Statement.legible_toJson]

/-- The indented form of a class of routes is read back. -/
theorem Artifact.read?_indentedText (artifact : Artifact) :
    (read? artifact.toJson.indentedText).bind Artifact.ofJson? = some artifact := by
  have legible : artifact.toJson.Legible maxDepth := artifact.legible_toJson 119
  rw [Value.read?_indentedText legible, Option.bind_some, Artifact.ofJson?_toJson]

end Route

namespace CommandLine

open SwaggerRoutes.Route

/-! ## The command -/

/-- Two runs succeed one after the other if the first one does, and then the second. -/
theorem outcome_run_bind_eq_ok {α β : Type} {action : ExceptT Failure Session α}
    {next : α → ExceptT Failure Session β} {before after : Workspace} {y : β}
    (h : outcome (action >>= next).run before = (.ok (.ok y), after)) :
    ∃ x between, outcome action.run before = (.ok (.ok x), between) ∧
      outcome (next x).run between = (.ok (.ok y), after) := by
  rw [ExceptT.run_bind] at h
  obtain ⟨result, between, first, h⟩ := outcome_bind_eq_ok h
  cases result with
  | error failure => cases h
  | ok x => exact ⟨x, between, first, h⟩

theorem outcome_run_pure {α : Type} (x : α) (before : Workspace) :
    outcome (pure x : ExceptT Failure Session α).run before = (.ok (.ok x), before) := rfl

/-- What the inspection prints is the indented form of a class of routes, and a line feed. -/
theorem exists_of_inspect {values : Values} {before after : Workspace} {text : String}
    (h : outcome (output values .inspect : ExceptT Failure Session String).run before =
      (.ok (.ok text), after)) :
    ∃ artifact : Artifact, text = artifact.toJson.indentedText ++ "\n" := by
  obtain ⟨document, between, -, h⟩ := outcome_run_bind_eq_ok h
  obtain ⟨spec, between', -, h⟩ := outcome_run_bind_eq_ok h
  rw [outcome_run_pure] at h
  exact ⟨assemble Naming.operationId spec, (Except.ok.inj (Except.ok.inj (congrArg Prod.fst h))).symm⟩

/-- The inspection of a class of routes, read as JSON, gives the class back, so two classes with the same
inspection are the same; and all that the command prints are inspections of classes, each with a line
feed at its end. -/
theorem inspection_faithful (artifact : Artifact) :
    (read? artifact.toJson.indentedText).bind Artifact.ofJson? = some artifact ∧
    (∀ other : Artifact, other.toJson.indentedText = artifact.toJson.indentedText → other = artifact) ∧
    ∀ (values : Values) (before after : Workspace) (text : String),
      outcome (output values .inspect : ExceptT Failure Session String).run before =
        (.ok (.ok text), after) →
      ∃ inspected : Artifact, text = inspected.toJson.indentedText ++ "\n" := by
  refine ⟨artifact.read?_indentedText, fun other same => ?_, fun _ _ _ _ => exists_of_inspect⟩
  have back := other.read?_indentedText
  rw [same, artifact.read?_indentedText] at back
  exact (Option.some.inj back).symm

end CommandLine

end SwaggerRoutes
