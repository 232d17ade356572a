/-
What a run does to files. A run that succeeds has rendered the same source as a run without output
would, and sets one file to it. A run that fails leaves every file as it was; if there is no source to
write, it leaves the whole tree as it was.
-/
import SwaggerRoutes.Proofs.Run.Generation

namespace SwaggerRoutes

open SwaggerRoutes.Files SwaggerRoutes.Route SwaggerRoutes.Session

variable {config : Config} {before after : Workspace}

/-- The path of a class below the output directory, one name after the other. -/
theorem target_eq_foldl_join {artifact : Artifact} {loaded : Workspace}
    (load : outcome (loadArtifact config) before = (.ok artifact, loaded)) :
    config.target artifact = (Java.placeNames config.package artifact).foldl Path.join ⟨config.outputDir⟩ := by
  obtain ⟨valid, spec, rfl⟩ := assembled_of_loadArtifact load
  have package := Java.isPackage_of_validate valid
  unfold Config.target
  rw [Java.relativePath_eq package, Path.foldl_join (Java.placeNames_ne_nil _ _)
    (Java.isName_of_mem_placeNames package _ spec)]

/-! ## Success -/

/-- Generating a class refines rendering it: it fails when rendering does, with the same error; and
when it succeeds, the file of the path that it returns holds what is rendered, and every other file is
as it was. -/
theorem generate_refines_render (config : Config) (before : Workspace) :
    (∀ error rendered, outcome (render config) before = (.error error, rendered) →
      ∃ after, outcome (generate config) before = (.error error, after)) ∧
    ∀ path after, outcome (generate config) before = (.ok path, after) →
      ∃ artifact loaded text rendered place,
        outcome (loadArtifact config) before = (.ok artifact, loaded) ∧
        outcome (render config) before = (.ok text, rendered) ∧
        path = (Java.packageParts config.package ++ [artifact.className ++ ".java"]).foldl Path.join
          ⟨config.outputDir⟩ ∧
        after.tree.locate path = .ok place ∧
        after.tree.entry? place = some (.file text.toUTF8) ∧
        after.tree.readText path = .ok text ∧
        ∀ other ≠ place, ∀ content, after.tree.entry? other = some (.file content) ↔
          before.tree.entry? other = some (.file content) := by
  constructor
  · intro error rendered failed
    rw [outcome_render] at failed
    split at failed
    · cases failed
    next load =>
      cases failed
      exact ⟨rendered, outcome_bind_of_error load _⟩
  · intro path after done
    rcases outcome_generate_cases done with ⟨-, ⟨error, failed, -, -⟩ | ⟨artifact, loaded, load, written⟩⟩
    · cases failed
    obtain ⟨rfl, between, steps, above, name, grown, isTarget, put⟩ := written.exists_isTarget
    have inside : above ++ [name] ≠ [] := by simp
    refine ⟨artifact, loaded, Java.source config.package artifact, loaded, above ++ [name], load, ?_,
      target_eq_foldl_join load, ?_, ?_, ?_, fun other different content => ?_⟩
    · rw [outcome_render, load]
    · rw [put, isTarget.locate_put]
    · rw [put, Tree.entry?_put_self between inside]
    · rw [put, isTarget.readText_put]
    · rw [put, Tree.entry?_put_of_ne between different]
      exact grown.file_iff other content

/-- A document that stands where the class is written. -/
def ownSchema : Workspace where
  tree := { entries := [(["out"], .directory), (["out", "Pets.java"], .file
    "\x7b\"info\":\x7b\"title\":\"Pets\"\x7d\x7d".toUTF8)] }

def ontoSchema : Config := { schemaPath := "out/Pets.java", outputDir := "out", package := "" }

/-- A document in a file is read, and then replaced by the source; and one from the web is fetched into a tree
that was empty. -/
theorem generate_refines_render_onto_schema :
    ((outcome (generate ontoSchema) ownSchema).1 = .ok ⟨"out/Pets.java"⟩ ∧
      ∃ text rendered, outcome (render ontoSchema) ownSchema = (.ok text, rendered) ∧
        (outcome (generate ontoSchema) ownSchema).2.tree.readText ⟨"out/Pets.java"⟩ = .ok text) ∧
    (outcome (generate fromWeb) { web := petsWeb }).1 = .ok ⟨"out/org/Pets.java"⟩ ∧
      ∃ text rendered, outcome (render fromWeb) { web := petsWeb } = (.ok text, rendered) ∧
        (outcome (generate fromWeb) { web := petsWeb }).2.tree.readText ⟨"out/org/Pets.java"⟩ = .ok text := by
  have done : (outcome (generate ontoSchema) ownSchema).1 = .ok ⟨"out/Pets.java"⟩ := by decide +kernel
  have done' : (outcome (generate fromWeb) { web := petsWeb }).1 = .ok ⟨"out/org/Pets.java"⟩ := by
    decide +kernel
  refine ⟨⟨done, ?_⟩, done', ?_⟩
  · obtain ⟨artifact, loaded, text, rendered, place, -, render, -, -, -, read, -⟩ :=
      (generate_refines_render ontoSchema ownSchema).2 _ _ (outcome_eq_of_fst done)
    exact ⟨text, rendered, render, read⟩
  · obtain ⟨artifact, loaded, text, rendered, place, -, render, -, -, -, read, -⟩ :=
      (generate_refines_render fromWeb { web := petsWeb }).2 _ _ (outcome_eq_of_fst done')
    exact ⟨text, rendered, render, read⟩

/-! ## Failure -/

/-- A failure never changes a file. Settings that are refused fail on every host, which is asked for
nothing; a failure without a source leaves the tree as it was; and one with a source is that of making
directories or of writing, after which some directories may have been added. -/
theorem generate_failure_keeps_files (config : Config) :
    (∀ fault, config.validate = .error fault →
      ∀ (n : Type → Type) [Monad n] [LawfulMonad n] [Host (ExceptT Error n)],
        (generate config : ExceptT Error n Path) = throw (.config fault)) ∧
    ∀ before error after, outcome (generate config) before = (.error error, after) →
      (∀ place content, after.tree.entry? place = some (.file content) ↔
        before.tree.entry? place = some (.file content)) ∧
      (∀ place, before.tree.entry? place = some .directory → after.tree.entry? place = some .directory) ∧
      (∀ cause rendered, outcome (render config) before = (.error cause, rendered) →
        error = cause ∧ after.tree = before.tree) ∧
      ∀ text rendered, outcome (render config) before = (.ok text, rendered) →
        ∃ artifact fault, outcome (loadArtifact config) before = (.ok artifact, rendered) ∧
          error = .files fault ∧
          (before.tree.makeParents (config.target artifact) = (.error fault, after.tree) ∨
            before.tree.makeParents (config.target artifact) = (.ok (), after.tree) ∧
              after.tree.writeText (config.target artifact) text = .error fault) := by
  refine ⟨fun fault invalid n _ _ _ => generate_of_invalid invalid, fun before error after failed => ?_⟩
  rcases outcome_generate_cases failed with ⟨-, ⟨error, same, load, kept⟩ | ⟨artifact, loaded, load, written⟩⟩
  · -- nothing is rendered either
    cases same
    have render : outcome (render config) before = (.error error, after) := by rw [outcome_render, load]
    rw [kept, render]
    refine ⟨fun _ _ => .rfl, fun _ => id, fun cause rendered same => ?_, fun text rendered same => ?_⟩
    · cases same; exact ⟨rfl, rfl⟩
    · cases same
  · have render : outcome (render config) before = (.ok (Java.source config.package artifact), loaded) := by
      rw [outcome_render, load]
    rw [render]
    refine ⟨written.grown.file_iff, fun _ => written.grown.directory, fun cause rendered same => ?_,
      fun text rendered same => ?_⟩
    · cases same
    · cases same
      cases written with
      | noDirectory failed => exact ⟨artifact, _, load, rfl, .inl failed⟩
      | noFile made failed => exact ⟨artifact, _, load, rfl, .inr ⟨made, failed⟩⟩

/-- A class whose name holds a character that no file name may hold. -/
def nulTitled : Workspace where
  tree := { entries := [(["spec.json"], .file "\x7b\"info\":\x7b\"title\":\"\\u0000\"\x7d\x7d".toUTF8)] }

def intoPackage : Config := { schemaPath := "spec.json", outputDir := "out", package := "org" }

/-- A file where the directories for a class would stand. -/
def blocked : Workspace where
  tree := { entries := [(["out"], .file "".toUTF8)] }
  web := petsWeb

def missing : Config := { fromWeb with schemaPath := "https://petstore.swagger.io/v2/swagger.json" }

/-- The directories for its package are made before the write fails, and the document stays. A document from the
web is of no use where the directories cannot be made; and where the web has none, the tree stays as it is. -/
theorem generate_failure_keeps_files_nul :
    ((outcome (generate intoPackage) nulTitled).1 = .error (.files .nulInName) ∧
      (outcome (generate intoPackage) nulTitled).2.tree.isDirectory ["out", "org"] = true ∧
      ∀ content,
        Tree.entry? (outcome (generate intoPackage) nulTitled).2.tree ["spec.json"] = some (.file content) ↔
          nulTitled.tree.entry? ["spec.json"] = some (.file content)) ∧
    ((outcome (generate fromWeb) blocked).1 = .error (.files .notDirectory) ∧
      ∀ content, Tree.entry? (outcome (generate fromWeb) blocked).2.tree ["out"] = some (.file content) ↔
        blocked.tree.entry? ["out"] = some (.file content)) ∧
    (outcome (generate missing) blocked).1 = .error (.refused missing.schemaPath ⟨404, "Not Found"⟩) ∧
      (outcome (generate missing) blocked).2.tree = blocked.tree := by
  have failed : (outcome (generate intoPackage) nulTitled).1 = .error (.files .nulInName) := by
    decide +kernel
  have failed' : (outcome (generate fromWeb) blocked).1 = .error (.files .notDirectory) := by decide +kernel
  have refused : (outcome (generate missing) blocked).1 =
      .error (.refused missing.schemaPath ⟨404, "Not Found"⟩) := by decide +kernel
  have unrendered : (outcome (render missing) blocked).1 =
      .error (.refused missing.schemaPath ⟨404, "Not Found"⟩) := by decide +kernel
  refine ⟨⟨failed, by decide +kernel, ?_⟩, ⟨failed', ?_⟩, refused, ?_⟩
  · obtain ⟨files, -⟩ := (generate_failure_keeps_files intoPackage).2 nulTitled _ _ (outcome_eq_of_fst failed)
    exact files ["spec.json"]
  · obtain ⟨files, -⟩ := (generate_failure_keeps_files fromWeb).2 blocked _ _ (outcome_eq_of_fst failed')
    exact files ["out"]
  · obtain ⟨-, -, same, -⟩ := (generate_failure_keeps_files missing).2 blocked _ _ (outcome_eq_of_fst refused)
    exact (same _ _ (outcome_eq_of_fst unrendered)).2

end SwaggerRoutes
