/-
Where the settings of a run come from, and what a run that fails leaves behind. Each setting is the value
of its option, else that of the file that the options name, else a default; a run then ends as the
library's operation on these settings does. The main statement is this for the arguments of every run,
with the order of the options without effect, and that a run which does not succeed prints nothing and
keeps every file.
-/
import SwaggerRoutes.Proofs.CommandLine.Options
import SwaggerRoutes.Proofs.Run.Settings

namespace SwaggerRoutes.CommandLine

open SwaggerRoutes.Files SwaggerRoutes.Session

/-! ## Layers -/

/-- The settings of a run: for each of them an option counts first, then the file, then a default. -/
def layered (values : Values) (file : Config.Partial) : Config where
  schemaPath := ((valueOf? values .schemaPath).or file.schemaPath).getD "petstore.json"
  outputDir := ((valueOf? values .outputDir).or file.outputDir).getD
    "target/generated-sources/swagger-routes"
  package := ((valueOf? values .package).or file.package).getD "com.example.helloworld"

/-- The settings of the file that the options name; none at all if they name no file. -/
inductive FileGives (values : Values) (tree : Tree) : Config.Partial → Prop
  | noFile (absent : valueOf? values .config = none) : FileGives values tree {}
  | file {path : String} {settings : Config.Partial} (named : valueOf? values .config = some path)
      (holds : HoldsSettings tree ⟨path⟩ settings) : FileGives values tree settings

theorem flagSettings_orElse (values : Values) (file : Config.Partial) :
    (flagSettings values).orElse (file.orElse {}) = layered values file := by
  simp only [flagSettings, Config.Partial.orElse, layered, Option.getD_or]

/-! ## Runs that report their failures -/

variable {α β : Type} {values : Values} {file : Config.Partial} {before : Workspace}

theorem outcome_run_bind (action : ExceptT Failure Session α) (next : α → ExceptT Failure Session β)
    (before : Workspace) :
    outcome (action >>= next).run before =
      match outcome action.run before with
      | (.ok (.ok x), between) => outcome (next x).run between
      | (.ok (.error failure), between) => (.ok (.error failure), between)
      | (.error error, between) => (.error error, between) := by
  rw [ExceptT.run_bind, outcome_bind]
  rcases outcome action.run before with ⟨_ | _ | _, _⟩ <;> rfl

theorem outcome_tryCatch (action : Session α) (handle : Error → Session α) (before : Workspace) :
    outcome (tryCatchThe Error action handle) before =
      match outcome action before with
      | (.ok x, after) => (.ok x, after)
      | (.error error, after) => outcome (handle error) after := by
  show outcome (ExceptT.tryCatch action handle) before = _
  unfold outcome ExceptT.tryCatch
  rw [ExceptT.run_mk, StateT.run_bind, show StateT.run action before = action.run.run before from rfl]
  rcases action.run.run before with ⟨_ | _, _⟩ <;> rfl

/-- A failure is caught with what was done before it. -/
theorem outcome_run_attempt (context : String) (action : Session α) (before : Workspace) :
    outcome (attempt context action).run before =
      match outcome action before with
      | (.ok x, after) => (.ok (.ok x), after)
      | (.error cause, after) => (.ok (.error { context, cause }), after) := by
  unfold attempt
  rw [ExceptT.run_mk, outcome_tryCatch, outcome_bind]
  rcases outcome action before with ⟨_ | _, _⟩ <;> rfl

/-! ## The settings of a run -/

theorem outcome_checked (config : Config) (before : Workspace) :
    outcome (do attempt "Invalid configuration" (check config); return config :
        ExceptT Failure Session Config).run before =
      match config.validate with
      | .ok () => (.ok (.ok config), before)
      | .error fault => (.ok (.error ⟨"Invalid configuration", .config fault⟩), before) := by
  rw [outcome_run_bind, outcome_run_attempt, outcome_check]
  rcases config.validate with _ | _ <;> rfl

/-- The settings of a run are layered, and then checked. -/
theorem outcome_resolve (gives : FileGives values before.tree file) :
    outcome (resolve values : ExceptT Failure Session Config).run before =
      match (layered values file).validate with
      | .ok () => (.ok (.ok (layered values file)), before)
      | .error fault => (.ok (.error ⟨"Invalid configuration", .config fault⟩), before) := by
  unfold resolve
  rw [← flagSettings_orElse]
  cases gives with
  | noFile absent =>
    rw [absent]
    exact outcome_checked _ before
  | file named holds =>
    rw [named]
    dsimp only
    rw [outcome_run_bind, outcome_run_attempt, outcome_loadConfig holds]
    exact outcome_checked _ before

theorem outcome_resolve_of_not (lacks : ∀ file, ¬ FileGives values before.tree file) :
    ∃ failure, outcome (resolve values : ExceptT Failure Session Config).run before =
      (.ok (.error failure), before) := by
  unfold resolve
  cases named : valueOf? values .config with
  | none => exact absurd (.noFile named) (lacks {})
  | some path =>
    obtain ⟨error, failed⟩ := outcome_loadConfig_of_not fun settings holds => lacks settings (.file named holds)
    dsimp only
    rw [outcome_run_bind, outcome_run_attempt, failed]
    exact ⟨_, rfl⟩

/-! ## The end of a run -/

/-- A run ends as an operation of the library does: it prints what the result says, or reports the failure
on the other channel; and it leaves what the operation leaves. -/
structure EndsAs (arguments : List String) (before : Workspace) (operation : Session α)
    (printed : α → String) : Prop where
  success : ∀ x after, outcome operation before = (.ok x, after) →
    outcome (run arguments) before = (.ok { exitCode := 0, stdout := printed x }, after)
  failure : ∀ error after, outcome operation before = (.error error, after) →
    ∃ stderr, outcome (run arguments) before = (.ok { exitCode := 1, stderr }, after)

/-- The outcome of a run of a command, by what the command prints. -/
theorem outcome_run {arguments : List String} {command : Command}
    (request : Request.parse? arguments = some (.run command values)) (before : Workspace) :
    outcome (run arguments) before =
      match outcome (output values command : ExceptT Failure Session String).run before with
      | (.ok (.ok stdout), after) => (.ok { exitCode := 0, stdout }, after)
      | (.ok (.error failure), after) => (.ok { exitCode := 1, stderr := failure.report }, after)
      | (.error error, after) => (.error error, after) := by
  unfold run
  rw [request]
  dsimp only
  rw [outcome_bind]
  rcases outcome (output values command : ExceptT Failure Session String).run before with ⟨_ | _ | _, _⟩ <;> rfl

section Layers

variable {arguments : List String} {command : Command} {operation : Config → Session α}
  {context : Config → String} {printed : α → String}

/-- A command that resolves its settings and then works on them ends as the work on layered settings does,
which for settings that are refused is to refuse them. -/
theorem endsAs_of_output (request : Request.parse? arguments = some (.run command values))
    (gives : FileGives values before.tree file)
    (output_eq : (output values command : ExceptT Failure Session String) = do
      let config ← resolve values
      let x ← attempt (context config) (operation config)
      return printed x)
    (refuses : ∀ config fault, config.validate = .error fault →
      outcome (operation config) before = (.error (.config fault), before)) :
    EndsAs arguments before (operation (layered values file)) printed := by
  have whole : outcome (output values command : ExceptT Failure Session String).run before =
      match (layered values file).validate with
      | .ok () => outcome (do
          let x ← attempt (context (layered values file)) (operation (layered values file))
          return printed x : ExceptT Failure Session String).run before
      | .error fault => (.ok (.error ⟨"Invalid configuration", .config fault⟩), before) := by
    rw [output_eq, outcome_run_bind, outcome_resolve gives]
    rcases (layered values file).validate with _ | _ <;> rfl
  constructor
  · intro x after done
    rw [outcome_run request, whole]
    cases valid : (layered values file).validate with
    | error fault => rw [refuses _ fault valid] at done; cases done
    | ok =>
      dsimp only
      rw [outcome_run_bind, outcome_run_attempt, done]
      rfl
  · intro error after failed
    rw [outcome_run request, whole]
    cases valid : (layered values file).validate with
    | error fault =>
      rw [refuses _ fault valid] at failed
      cases failed
      exact ⟨_, rfl⟩
    | ok =>
      dsimp only
      rw [outcome_run_bind, outcome_run_attempt, failed]
      exact ⟨_, rfl⟩

theorem endsAs_generate (request : Request.parse? arguments = some (.run .generate values))
    (gives : FileGives values before.tree file) :
    EndsAs arguments before (generate (layered values file))
      fun path => "Successfully generated route builder: " ++ path.text ++ "\n" :=
  endsAs_of_output request gives rfl fun _ _ invalid => outcome_generate_of_invalid invalid before

theorem endsAs_render (request : Request.parse? arguments = some (.run .render values))
    (gives : FileGives values before.tree file) : EndsAs arguments before (render (layered values file)) id :=
  endsAs_of_output request gives (by simp only [output, id_eq, bind_pure]; rfl) fun _ _ invalid =>
    outcome_render_of_invalid invalid before

/-- An inspection has no settings; it ends as reading the specification does. -/
theorem endsAs_inspect (request : Request.parse? arguments = some (.run .inspect values)) :
    EndsAs arguments before (loadDocument ((valueOf? values .schemaPath).getD "") >>= readSpecification)
      fun spec => (Route.assemble Route.Naming.operationId spec).toJson.indentedText ++ "\n" := by
  constructor
  · intro spec after done
    obtain ⟨document, between, loaded, read⟩ := outcome_bind_eq_ok done
    rw [outcome_run request]
    unfold output
    rw [outcome_run_bind, outcome_run_attempt, loaded]
    dsimp only
    rw [outcome_run_bind, outcome_run_attempt, read]
    rfl
  · intro error after failed
    rw [outcome_bind] at failed
    rw [outcome_run request]
    unfold output
    rw [outcome_run_bind, outcome_run_attempt]
    rcases loaded : outcome (loadDocument ((valueOf? values .schemaPath).getD "")) before with
      ⟨error | document, between⟩
    · rw [loaded] at failed
      cases failed
      exact ⟨_, rfl⟩
    · rw [loaded] at failed
      dsimp only at failed ⊢
      rw [outcome_run_bind, outcome_run_attempt, failed]
      exact ⟨_, rfl⟩

/-- Without the file that the options name there are no settings, and nothing is done. -/
theorem outcome_run_of_not (request : Request.parse? arguments = some (.run command values))
    (resolves : command ≠ .inspect) (lacks : ∀ file, ¬ FileGives values before.tree file) :
    ∃ stderr, outcome (run arguments) before = (.ok { exitCode := 1, stderr }, before) := by
  obtain ⟨failure, failed⟩ := outcome_resolve_of_not lacks
  refine ⟨failure.report, ?_⟩
  rw [outcome_run request]
  cases command with
  | inspect => exact absurd rfl resolves
  | generate => unfold output; rw [outcome_run_bind, failed]
  | render => unfold output; rw [outcome_run_bind, failed]

/-! ## Order -/

theorem output_congr {values' : Values} (same : ∀ flag, valueOf? values flag = valueOf? values' flag)
    (command : Command) :
    (output values command : ExceptT Failure Session String) = output values' command := by
  unfold output resolve flagSettings
  simp only [same]

/-- Options in another order make the same run. -/
theorem run_perm {options others : List Given} {ending ending' : List String}
    (accepted : Accepted command options) (perm : options.Perm others) (isEnding : IsEnding ending)
    (isEnding' : IsEnding ending') (before : Workspace) :
    outcome (run (written command others ending')) before =
      outcome (run (written command options ending)) before := by
  have request := parse?_eq_run_iff.2 ⟨options, ending, accepted, isEnding, rfl, rfl⟩
  have request' := parse?_eq_run_iff.2 ⟨others, ending', accepted.perm perm, isEnding', rfl, rfl⟩
  rw [outcome_run request, outcome_run request', output_congr (valueOf?_perm accepted perm)]

/-! ## Failure -/

/-- A run that does not succeed prints nothing and keeps every file. -/
def Quiet (before : Tree) (o : Outcome) (after : Tree) : Prop :=
  o.exitCode ≠ 0 → o.stdout = "" ∧ ∀ place content,
    after.entry? place = some (.file content) ↔ before.entry? place = some (.file content)

theorem quiet_of_silent {o : Outcome} {tree : Tree} (silent : o.stdout = "") : Quiet tree o tree :=
  fun _ => ⟨silent, fun _ _ => .rfl⟩

theorem EndsAs.quiet {operation : Session α} (ends : EndsAs arguments before operation printed)
    (keeps : ∀ error after, outcome operation before = (.error error, after) → ∀ place content,
      after.tree.entry? place = some (.file content) ↔ before.tree.entry? place = some (.file content)) :
    ∃ o after, outcome (run arguments) before = (.ok o, after) ∧ Quiet before.tree o after.tree := by
  rcases result : outcome operation before with ⟨error | x, after⟩
  · obtain ⟨stderr, ended⟩ := ends.failure error after result
    exact ⟨_, after, ended, fun _ => ⟨rfl, keeps error after result⟩⟩
  · exact ⟨_, after, ends.success x after result, fun failed => absurd rfl failed⟩

theorem keeps_of_onlyReports {operation : Session α} (only : OnlyReports operation) {error : Error}
    {after : Workspace} (failed : outcome operation before = (.error error, after)) (place : Place)
    (content : ByteArray) :
    after.tree.entry? place = some (.file content) ↔ before.tree.entry? place = some (.file content) := by
  have kept := only.tree before
  rw [failed] at kept
  rw [show after.tree = before.tree from kept]

theorem keeps_of_generate {config : Config} {error : Error} {after : Workspace}
    (failed : outcome (generate config) before = (.error error, after)) (place : Place) (content : ByteArray) :
    after.tree.entry? place = some (.file content) ↔ before.tree.entry? place = some (.file content) := by
  rcases outcome_generate_cases failed with ⟨-, ⟨-, -, -, kept⟩ | ⟨artifact, loaded, -, written⟩⟩
  · rw [kept]
  · exact written.grown.file_iff place content

theorem run_quiet (arguments : List String) (before : Workspace) :
    ∃ o after, outcome (run arguments) before = (.ok o, after) ∧ Quiet before.tree o after.tree := by
  cases request : Request.parse? arguments with
  | none => exact ⟨_, before, by unfold run; rw [request]; rfl, quiet_of_silent rfl⟩
  | some asked =>
    cases asked with
    | help => exact ⟨_, before, by unfold run; rw [request]; rfl, fun failed => absurd rfl failed⟩
    | version => exact ⟨_, before, by unfold run; rw [request]; rfl, fun failed => absurd rfl failed⟩
    | run command values =>
      by_cases inspects : command = .inspect
      · subst inspects
        refine (endsAs_inspect request).quiet fun _ _ failed => keeps_of_onlyReports ?_ failed
        exact .bind (onlyReports_loadDocument _) onlyReports_readSpecification
      by_cases gives : ∃ file, FileGives values before.tree file
      · obtain ⟨file, gives⟩ := gives
        cases command with
        | inspect => exact absurd rfl inspects
        | generate => exact (endsAs_generate request gives).quiet fun _ _ failed => keeps_of_generate failed
        | render =>
          refine (endsAs_render request gives).quiet fun _ _ failed => keeps_of_onlyReports ?_ failed
          exact .bind (onlyReports_loadArtifact _) fun _ => .pure _
      · obtain ⟨stderr, ended⟩ := outcome_run_of_not request inspects (not_exists.1 gives)
        exact ⟨_, before, ended, quiet_of_silent rfl⟩

end Layers

/-! ## The whole run -/

/-- The arguments of a run are those of a command with options that it accepts. A run of `generate` or
`render` ends as the library's operation on the layered settings does, and fails without the file that its
options name; in whichever order they come. Every run ends, and one that does not succeed prints nothing
and keeps every file. -/
theorem run_layered (before : Workspace) :
    (∀ arguments command values, Request.parse? arguments = some (.run command values) ↔
      ∃ options ending, Accepted command options ∧ IsEnding ending ∧
        arguments = written command options ending ∧ values = valuesOf options) ∧
    (∀ arguments values file, Request.parse? arguments = some (.run .generate values) →
      FileGives values before.tree file →
      EndsAs arguments before (generate (layered values file))
        fun path => "Successfully generated route builder: " ++ path.text ++ "\n") ∧
    (∀ arguments values file, Request.parse? arguments = some (.run .render values) →
      FileGives values before.tree file → EndsAs arguments before (render (layered values file)) id) ∧
    (∀ arguments command values, Request.parse? arguments = some (.run command values) →
      command ≠ .inspect → (∀ file, ¬ FileGives values before.tree file) →
      ∃ stderr, outcome (run arguments) before = (.ok { exitCode := 1, stderr }, before)) ∧
    (∀ command options others ending ending', Accepted command options → options.Perm others →
      IsEnding ending → IsEnding ending' →
      outcome (run (written command others ending')) before =
        outcome (run (written command options ending)) before) ∧
    ∀ arguments, ∃ o after, outcome (run arguments) before = (.ok o, after) ∧
      Quiet before.tree o after.tree :=
  ⟨fun _ _ _ => parse?_eq_run_iff, fun _ _ _ => endsAs_generate, fun _ _ _ => endsAs_render,
    fun _ _ _ => outcome_run_of_not,
    fun _ _ _ _ _ accepted perm isEnding isEnding' => run_perm accepted perm isEnding isEnding' before,
    fun arguments => run_quiet arguments before⟩

/-- A document in a file and one on the web, and a file with two of the settings. -/
def configured : Workspace where
  tree := { entries := [(["pets.json"], .file "\x7b\"info\":\x7b\"title\":\"Pets\"\x7d\x7d".toUTF8),
    (["c.toml"], .file "output_dir = 'out'\npackage = 'org.pets'\n".toUTF8)] }
  web := petsWeb

def givenOptions : List Given :=
  [⟨.package, "", true⟩, ⟨.config, "c.toml", false⟩, ⟨.schemaPath, "pets.json", false⟩]

theorem accepted_givenOptions : Accepted .generate givenOptions where
  proper given h := by
    have listed : given = ⟨.package, "", true⟩ ∨ given = ⟨.config, "c.toml", false⟩ ∨
        given = ⟨.schemaPath, "pets.json", false⟩ := by simpa [givenOptions] using h
    rcases listed with rfl | rfl | rfl <;> exact ⟨by decide, by decide, by decide⟩
  distinct := by decide
  complete := by decide

/-- The package of the option counts, also when it is empty, and the directory of the file; the options
may come in another order; a document may come from the web; and a file that is not there ends the run. -/
theorem run_layered_configured :
    (outcome (run ["generate", "--package=", "--config", "c.toml", "--schema-path", "pets.json"])
        configured).1 =
      .ok { exitCode := 0, stdout := "Successfully generated route builder: out/Pets.java\n" } ∧
    outcome (run ["generate", "--config", "c.toml", "--package=", "--schema-path", "pets.json", "--"])
        configured =
      outcome (run ["generate", "--package=", "--config", "c.toml", "--schema-path", "pets.json"])
        configured ∧
    (outcome (run ["generate", "--output-dir=out", "--package", "org", "--schema-path", petsAddress])
        configured).1 =
      .ok { exitCode := 0, stdout := "Successfully generated route builder: out/org/Pets.java\n" } ∧
    ∃ stderr, outcome (run ["render", "--config=d.toml"]) configured =
      (.ok { exitCode := 1, stderr }, configured) := by
  obtain ⟨accepts, generates, -, refuses, reorders, -⟩ := run_layered configured
  have arguments : written .generate givenOptions [] =
      ["generate", "--package=", "--config", "c.toml", "--schema-path", "pets.json"] := by decide
  refine ⟨?_, ?_, ?_, ?_⟩
  · have request := (accepts _ .generate _).2 ⟨givenOptions, [], accepted_givenOptions, .inl rfl, rfl, rfl⟩
    have holds : HoldsSettings configured.tree ⟨"c.toml"⟩
        { outputDir := some "out", package := some "org.pets" } :=
      ⟨.toml, "output_dir = 'out'\npackage = 'org.pets'\n", by decide +kernel, by decide +kernel,
        by decide +kernel⟩
    have settings : layered (valuesOf givenOptions) { outputDir := some "out", package := some "org.pets" } =
        { schemaPath := "pets.json", outputDir := "out", package := "" } := by decide
    have done : (outcome (generate { schemaPath := "pets.json", outputDir := "out", package := "" })
        configured).1 = .ok ⟨"out/Pets.java"⟩ := by decide +kernel
    have ends := generates _ _ _ request (.file (by decide) holds)
    rw [settings, arguments] at ends
    rw [ends.success _ _ (outcome_eq_of_fst done)]
    rfl
  · have reordered : written .generate [⟨.config, "c.toml", false⟩, ⟨.package, "", true⟩,
        ⟨.schemaPath, "pets.json", false⟩] ["--"] =
        ["generate", "--config", "c.toml", "--package=", "--schema-path", "pets.json", "--"] := by decide
    rw [← arguments, ← reordered]
    exact reorders _ _ _ _ _ accepted_givenOptions (.swap _ _ _) (.inl rfl) (.inr rfl)
  · have request : Request.parse? ["generate", "--output-dir=out", "--package", "org", "--schema-path",
        petsAddress] = some (.run .generate
          [(.outputDir, "out"), (.package, "org"), (.schemaPath, petsAddress)]) := by decide +kernel
    have done : (outcome (generate fromWeb) configured).1 = .ok ⟨"out/org/Pets.java"⟩ := by decide +kernel
    have ends := generates _ _ _ request (.noFile (by decide))
    rw [(ends.success _ _ (outcome_eq_of_fst done))]
    rfl
  · have request : Request.parse? ["render", "--config=d.toml"] =
        some (.run .render [(.config, "d.toml")]) := by decide +kernel
    have missing : configured.tree.readText ⟨"d.toml"⟩ = .error .notFound := by decide +kernel
    refine refuses _ _ _ request (by decide) fun file gives => ?_
    cases gives with
    | noFile absent => cases absent
    | file named holds =>
      cases named
      obtain ⟨format, text, -, read, -⟩ := holds
      rw [missing] at read
      cases read

end SwaggerRoutes.CommandLine
