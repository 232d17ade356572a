/-
Generating once more. After a run that wrote a class somewhere else than onto its document, the document
reads as before, be it from a file or from the web, the directories are there, and the file holds the source
already: a second run returns the same path and leaves the tree as it is.
-/
import SwaggerRoutes.Proofs.Files.Again
import SwaggerRoutes.Proofs.Run.Generation

namespace SwaggerRoutes

open SwaggerRoutes.Api SwaggerRoutes.Files SwaggerRoutes.Route SwaggerRoutes.Session

variable {config : Config} {before after : Workspace}

/-! ## The artifact -/

theorem readsOnly_readDocument (location : String) (unreadable : Error) (text : String) :
    ReadsOnly location (readDocument location unreadable text) := by
  unfold readDocument
  split
  · exact .throw unreadable
  next document _ => exact .bind (.note _) (.note _) fun _ => .pure document

theorem readsOnly_loadDocument (location : String) : ReadsOnly location (loadDocument location) := by
  intro before before' same
  rw [outcome_loadDocument, outcome_loadDocument, same]
  cases (found location before).text location with
  | ok text => exact readsOnly_readDocument _ _ text before before' same
  | error error => rfl

theorem readsOnly_readSpecification (location : String) (document : Json.Value) :
    ReadsOnly location (readSpecification document) := by
  refine .bind (.forM _) (.forM _) fun _ => ?_
  split
  next spec _ => exact .pure spec
  · exact .throw _

theorem readsOnly_check (location : String) (config : Config) : ReadsOnly location (check config) := by
  unfold check
  split
  · exact .pure ()
  · exact .throw _

/-- What stands at the location of the document determines the artifact. -/
theorem readsOnly_loadArtifact (config : Config) : ReadsOnly config.schemaPath (loadArtifact config) := by
  refine .bind (onlyReports_check config) (readsOnly_check _ config) fun _ => ?_
  refine .bind (onlyReports_loadDocument _) (readsOnly_loadDocument _) fun document => ?_
  refine .bind (onlyReports_readSpecification document) (readsOnly_readSpecification _ document) fun spec => ?_
  exact .bind (.note _) (.note _) fun _ => .bind (.forM _) (.forM _) fun _ => .pure _

/-- An artifact that does not come from the web is loaded from a readable text. -/
theorem exists_readText_of_loadArtifact {artifact : Artifact} {loaded : Workspace}
    (load : outcome (loadArtifact config) before = (.ok artifact, loaded))
    (noAddress : before.web.isAddress config.schemaPath = false) :
    ∃ text, before.tree.readText ⟨config.schemaPath⟩ = .ok text := by
  obtain ⟨_, between, checked, load⟩ := outcome_bind_eq_ok load
  obtain ⟨log, kept⟩ := onlyReports_check config before
  rw [checked] at kept
  cases kept
  obtain ⟨document, _, read, -⟩ := outcome_bind_eq_ok load
  rw [outcome_loadDocument] at read
  cases readable : before.tree.readText ⟨config.schemaPath⟩ with
  | ok text => exact ⟨text, rfl⟩
  | error fault =>
    simp only [found, noAddress, Bool.false_eq_true, if_false, readable, Found.text] at read
    cases read

/-- From another workspace where the same stands at the location of the document, the same artifact is loaded. -/
theorem outcome_loadArtifact_again {artifact : Artifact} {loaded here : Workspace}
    (load : outcome (loadArtifact config) before = (.ok artifact, loaded))
    (same : found config.schemaPath here = found config.schemaPath before) :
    ∃ log, outcome (loadArtifact config) here = (.ok artifact, { here with log }) := by
  have result := readsOnly_loadArtifact config before here same
  obtain ⟨log, kept⟩ := onlyReports_loadArtifact config here
  rw [load] at result
  exact ⟨log, Prod.ext result kept⟩

/-! ## The run -/

/-- What was made and written for a text is made and written again to no effect. -/
theorem Written.again {target path : Path} {text : String} {before after : Tree}
    (written : Written target text before (.ok path) after) :
    after.makeParents target = (.ok (), after) ∧ after.writeText target text = .ok after := by
  cases written with
  | file made written =>
    obtain ⟨steps, above, name, isTarget, rfl⟩ := Tree.exists_isTarget_of_writeText written
    exact ⟨isTarget.makeParents_again made _, isTarget.writeText_again _⟩

/-- A text that is written leaves what stands at a location as it was: a reply from the web, or the text of
another file. -/
theorem Written.found_eq {target path : Path} {text : String} {location : String} {tree : Tree}
    (written : Written target text before.tree (.ok path) tree)
    (readable : before.web.isAddress location = false → ∃ text, before.tree.readText ⟨location⟩ = .ok text)
    (apart : before.web.isAddress location = false → tree.locate path ≠ tree.locate ⟨location⟩)
    (log : List LogRecord) : found location ⟨tree, before.web, log⟩ = found location before := by
  unfold found
  cases address : before.web.isAddress location with
  | true => rfl
  | false =>
    -- the file was readable before directories were made, and is not the one that was put
    obtain ⟨rfl, between, steps, above, name, grown, isTarget, put⟩ := written.exists_isTarget
    obtain ⟨text, readable⟩ := readable address
    have apart := apart address
    rw [put, isTarget.locate_put] at apart
    have kept : tree.readText ⟨location⟩ = before.tree.readText ⟨location⟩ := by
      rw [put, isTarget.readText_of_ne _ (grown.readText readable) apart.symm, readable]
    exact congrArg Found.file kept

/-- A text is written to no effect where it stands already, in directories that are there. -/
theorem outcome_writeBelow_again {directory relative : Path} {text : String} (here : Workspace)
    (made : here.tree.makeParents (directory.join relative.text) = (.ok (), here.tree))
    (written : here.tree.writeText (directory.join relative.text) text = .ok here.tree) :
    ∃ log, outcome (writeBelow directory relative text) here =
      (.ok (directory.join relative.text), { here with log }) := by
  unfold writeBelow
  dsimp only
  rw [outcome_bind, outcome_makeParents, made]
  dsimp only
  rw [outcome_bind, outcome_writeText, written]
  exact ⟨_, rfl⟩

/-- After a run that succeeded, and whose path leads to another file than the document's if the document is in a
file, a second run succeeds with the same path and leaves the tree as it is, in a web that answers as it did. -/
theorem generate_again {path : Path} (done : outcome (generate config) before = (.ok path, after))
    (apart : after.web.isAddress config.schemaPath = false →
      after.tree.locate path ≠ after.tree.locate ⟨config.schemaPath⟩) (log : List LogRecord) :
    ∃ log', outcome (generate config) { after with log } = (.ok path, { after with log := log' }) := by
  rcases outcome_generate_cases done with ⟨web, ⟨error, failed, -, -⟩ | ⟨artifact, loaded, load, written⟩⟩
  · cases failed
  obtain ⟨tree, web', log₀⟩ := after
  cases web
  -- the document is as it was, so the same source is written to the same path
  have same := written.found_eq (exists_readText_of_loadArtifact load) apart log
  obtain ⟨log₁, load'⟩ := outcome_loadArtifact_again load same
  obtain ⟨made, wrote⟩ := written.again
  obtain ⟨log₂, again⟩ := outcome_writeBelow_again ⟨tree, before.web, log₁⟩ made wrote
  obtain ⟨rfl, -⟩ := written.exists_isTarget
  refine ⟨log₂, ?_⟩
  unfold generate
  rw [outcome_bind, load']
  exact again

/-- A document in the working directory, and no directory for the class yet. -/
def beside : Workspace where
  tree := {
    entries := [(["home"], .directory), (["home", "pets.json"], .file
      "\x7b\"info\":\x7b\"title\":\"Pets\"\x7d\x7d".toUTF8)]
    workingDirectory := ["home"] }
  web := petsWeb

def throughBuild : Config := { schemaPath := "pets.json", outputDir := "./build/../src", package := "org" }

/-- The first run makes three directories, of which the class stands below two; the second run makes none. So it
is with a document from the web. -/
theorem generate_again_throughBuild :
    ((outcome (generate throughBuild) beside).1 = .ok ⟨"./build/../src/org/Pets.java"⟩ ∧
      (outcome (generate throughBuild) beside).2.tree.isDirectory ["home", "build"] = true ∧
      ∃ log, outcome (generate throughBuild) { (outcome (generate throughBuild) beside).2 with log := [] } =
        (.ok ⟨"./build/../src/org/Pets.java"⟩, { (outcome (generate throughBuild) beside).2 with log })) ∧
    (outcome (generate fromWeb) beside).1 = .ok ⟨"out/org/Pets.java"⟩ ∧
      ∃ log, outcome (generate fromWeb) { (outcome (generate fromWeb) beside).2 with log := [] } =
        (.ok ⟨"out/org/Pets.java"⟩, { (outcome (generate fromWeb) beside).2 with log }) := by
  have done : (outcome (generate throughBuild) beside).1 = .ok ⟨"./build/../src/org/Pets.java"⟩ := by
    decide +kernel
  have done' : (outcome (generate fromWeb) beside).1 = .ok ⟨"out/org/Pets.java"⟩ := by decide +kernel
  refine ⟨⟨done, by decide +kernel, ?_⟩, done', ?_⟩
  · exact generate_again (outcome_eq_of_fst done) (fun _ => by decide +kernel) []
  · refine generate_again (outcome_eq_of_fst done') (fun noAddress => ?_) []
    rw [(outcome_generate_cases (outcome_eq_of_fst done')).1] at noAddress
    exact absurd noAddress (by decide +kernel)

end SwaggerRoutes
