/-
A run that generates a class. Everything up to the artifact only reads, from a file or from the web, and
reports; what follows makes the directories for the file of the class and writes it, and can fail at
either of the two.
-/
import SwaggerRoutes.Proofs.Java.Place
import SwaggerRoutes.Proofs.Files.Change
import SwaggerRoutes.Proofs.Run.Session

namespace SwaggerRoutes

open SwaggerRoutes.Api SwaggerRoutes.Files SwaggerRoutes.Route SwaggerRoutes.Session

variable {config : Config} {before after : Workspace}

/-! ## The settings -/

/-- Settings that are refused end a run before it does anything else, on every host. -/
theorem loadArtifact_of_invalid {n : Type → Type} [Monad n] [LawfulMonad n] [Host (ExceptT Error n)]
    {fault : Config.Fault} (invalid : config.validate = .error fault) :
    (loadArtifact config : ExceptT Error n Artifact) = throw (.config fault) := by
  have refused : (check config : ExceptT Error n Unit) = throw (.config fault) := by
    unfold check
    rw [invalid]
  unfold loadArtifact
  rw [refused]
  apply ExceptT.ext
  simp

theorem generate_of_invalid {n : Type → Type} [Monad n] [LawfulMonad n] [Host (ExceptT Error n)]
    {fault : Config.Fault} (invalid : config.validate = .error fault) :
    (generate config : ExceptT Error n Path) = throw (.config fault) := by
  unfold generate
  rw [loadArtifact_of_invalid invalid]
  apply ExceptT.ext
  simp

/-! ## The document -/

/-- The text of what stands at a location, or why there is none. -/
def Session.Found.text (location : String) : Found → Except Error String
  | .web (.ok reply) => replyText location reply
  | .web (.error fault) => .error (.remote fault)
  | .file (.ok text) => .ok text
  | .file (.error fault) => .error (.files fault)

/-- The failure of a text that stands at a location and is no document. -/
def Session.Found.unreadable (location : String) : Found → Error
  | .web _ => .unreadableReply location
  | .file _ => .unreadable location

/-- Loading takes the text of what stands at the location, and reads it as a document. -/
theorem outcome_loadDocument (location : String) (before : Workspace) :
    outcome (loadDocument location) before =
      match (found location before).text location with
      | .ok text => outcome (readDocument location ((found location before).unreadable location) text) before
      | .error error => (.error error, before) := by
  unfold loadDocument found
  rw [outcome_bind, outcome_isAddress]
  cases before.web.isAddress location with
  | true =>
    show outcome (loadAddress location) before = _
    unfold loadAddress
    rw [outcome_bind, outcome_fetch]
    cases before.web.get location with
    | error fault => rfl
    | ok reply =>
      dsimp only
      rw [outcome_bind, outcome_ofExcept]
      -- a reply that is no success ends the session before its text is read
      show _ = match replyText location reply with
        | .ok text => outcome (readDocument location (.unreadableReply location) text) before
        | .error error => (.error error, before)
      cases replyText location reply <;> rfl
  | false =>
    show outcome (loadFile ⟨location⟩) before = _
    unfold loadFile
    rw [outcome_bind, outcome_readText]
    cases before.tree.readText ⟨location⟩ <;> rfl

theorem onlyReports_readDocument (location : String) (unreadable : Error) (text : String) :
    OnlyReports (readDocument location unreadable text) := by
  unfold readDocument
  split
  · exact .throw unreadable
  next document _ => exact .bind (.note _) fun _ => .pure document

theorem onlyReports_loadDocument (location : String) : OnlyReports (loadDocument location) := by
  intro before
  rw [outcome_loadDocument]
  cases (found location before).text location with
  | ok text => exact onlyReports_readDocument _ _ text before
  | error error => exact ⟨before.log, rfl⟩

/-! ## The artifact -/

theorem onlyReports_readSpecification (document : Json.Value) : OnlyReports (readSpecification document) := by
  refine .bind (.forM _) fun _ => ?_
  split
  next spec _ => exact .pure spec
  · exact .throw _

theorem onlyReports_check (config : Config) : OnlyReports (check config) := by
  unfold check
  split
  · exact .pure ()
  · exact .throw _

theorem onlyReports_loadArtifact (config : Config) : OnlyReports (loadArtifact config) := by
  refine .bind (onlyReports_check config) fun _ => .bind (onlyReports_loadDocument _) fun document => ?_
  refine .bind (onlyReports_readSpecification document) fun spec => ?_
  exact .bind (.note _) fun _ => .bind (.forM _) fun _ => .pure _

/-- An artifact is assembled from a specification, under settings that pass their check. -/
theorem assembled_of_loadArtifact {artifact : Artifact}
    (h : outcome (loadArtifact config) before = (.ok artifact, after)) :
    config.validate = .ok () ∧ ∃ spec, artifact = assemble Naming.operationId spec := by
  obtain ⟨_, _, checked, h⟩ := outcome_bind_eq_ok h
  obtain ⟨document, _, -, h⟩ := outcome_bind_eq_ok h
  obtain ⟨spec, _, -, h⟩ := outcome_bind_eq_ok h
  obtain ⟨_, _, -, h⟩ := outcome_bind_eq_ok h
  obtain ⟨_, _, -, h⟩ := outcome_bind_eq_ok h
  cases h
  refine ⟨?_, spec, rfl⟩
  unfold check at checked
  split at checked
  next valid => exact valid
  · cases checked

/-! ## The source -/

theorem outcome_render (config : Config) (before : Workspace) :
    outcome (render config) before =
      match outcome (loadArtifact config) before with
      | (.ok artifact, after) => (.ok (Java.source config.package artifact), after)
      | (.error error, after) => (.error error, after) := by
  unfold render
  rw [outcome_bind]
  rcases outcome (loadArtifact config) before with ⟨_ | _, _⟩ <;> rfl

/-! ## The file -/

/-- What comes of writing a text to the file of a path: the result, and the tree that is left. -/
inductive Written (target : Path) (text : String) (before : Tree) : Except Error Path → Tree → Prop
  | noDirectory {fault : Files.Fault} {after : Tree} (failed : before.makeParents target = (.error fault, after)) :
    Written target text before (.error (.files fault)) after
  | noFile {fault : Files.Fault} {between : Tree} (made : before.makeParents target = (.ok (), between))
    (failed : between.writeText target text = .error fault) :
    Written target text before (.error (.files fault)) between
  | file {between after : Tree} (made : before.makeParents target = (.ok (), between))
    (written : between.writeText target text = .ok after) :
    Written target text before (.ok target) after

theorem written_of_writeBelow {directory relative : Path} {text : String} {result : Except Error Path}
    (h : outcome (writeBelow directory relative text) before = (result, after)) :
    after.web = before.web ∧
      Written (directory.join relative.text) text before.tree result after.tree := by
  unfold writeBelow at h
  dsimp only at h
  rw [outcome_bind, outcome_makeParents] at h
  rcases made : before.tree.makeParents (directory.join relative.text) with ⟨fault | _, between⟩
  · rw [made] at h
    cases h
    exact ⟨rfl, .noDirectory made⟩
  · rw [made] at h
    dsimp only at h
    rw [outcome_bind, outcome_writeText] at h
    dsimp only at h
    rcases wrote : between.writeText (directory.join relative.text) text with fault | tree
    · rw [wrote] at h
      cases h
      exact ⟨rfl, .noFile made wrote⟩
    · rw [wrote] at h
      cases h
      exact ⟨rfl, .file made wrote⟩

namespace Written

variable {target path : Path} {text : String} {error : Error} {before after : Tree}
  {result : Except Error Path}

/-- A failure leaves directories at most. -/
theorem grown (written : Written target text before (.error error) after) : Tree.Grown before after := by
  have made := Tree.grown_makeParents before target
  cases written with
  | noDirectory failed => rw [failed] at made; exact made
  | noFile between failed => rw [between] at made; exact made

/-- Success sets one file, in the tree with the directories that were made. -/
theorem exists_isTarget (written : Written target text before (.ok path) after) :
    path = target ∧ ∃ between steps above name, Tree.Grown before between ∧
      Tree.IsTarget between target steps above name ∧
      after = between.put (above ++ [name]) (.file text.toUTF8) := by
  have grown := Tree.grown_makeParents before target
  cases written with
  | file made written =>
    rw [made] at grown
    obtain ⟨steps, above, name, isTarget, rfl⟩ := Tree.exists_isTarget_of_writeText written
    exact ⟨rfl, _, steps, above, name, grown, isTarget, rfl⟩

end Written

/-! ## The run -/

/-- The path of the class that settings ask for. -/
def Config.target (config : Config) (artifact : Artifact) : Path :=
  (⟨config.outputDir⟩ : Path).join (Java.relativePath config.package artifact).text

/-- A run leaves the web as it was. It fails without an artifact, in the tree that it found, or comes to
write its source. -/
theorem outcome_generate_cases {result : Except Error Path}
    (h : outcome (generate config) before = (result, after)) :
    after.web = before.web ∧
      ((∃ error, result = .error error ∧ outcome (loadArtifact config) before = (.error error, after) ∧
          after.tree = before.tree) ∨
        ∃ artifact loaded, outcome (loadArtifact config) before = (.ok artifact, loaded) ∧
          Written (config.target artifact) (Java.source config.package artifact) before.tree result
            after.tree) := by
  obtain ⟨log, kept⟩ := onlyReports_loadArtifact config before
  unfold generate at h
  rw [outcome_bind] at h
  rcases load : outcome (loadArtifact config) before with ⟨error | artifact, loaded⟩
  · rw [load] at h kept
    cases h
    cases kept
    exact ⟨rfl, .inl ⟨error, rfl, rfl, rfl⟩⟩
  · rw [load] at h kept
    cases kept
    obtain ⟨web, written⟩ := written_of_writeBelow h
    exact ⟨web, .inr ⟨artifact, _, rfl, written⟩⟩

/-! ## A web -/

/-- The address at which a web has a document. -/
def petsAddress : String := "http://localhost:8080/swagger.yaml"

/-- A web with one document; it has nothing at other addresses. -/
def petsWeb : Web where
  isAddress := Url.isRemote
  get address :=
    if address = petsAddress then
      .ok { status := ⟨200, "OK"⟩, text := .ok "\x7b\"info\":\x7b\"title\":\"Pets\"\x7d\x7d" }
    else .ok { status := ⟨404, "Not Found"⟩, text := .ok "" }

def fromWeb : Config := { schemaPath := petsAddress, outputDir := "out", package := "org" }

end SwaggerRoutes
