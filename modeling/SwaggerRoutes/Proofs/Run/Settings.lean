/-
Settings in files, as a run meets them. A path gives settings if its extension stands for a format, its
file can be read, and the text holds settings in that format; otherwise loading fails. Either way the
workspace is as it was. Settings that are refused end a run where it stands.
-/
import SwaggerRoutes.Proofs.Run.Generation

namespace SwaggerRoutes

open SwaggerRoutes.Files SwaggerRoutes.Session

variable {tree : Tree} {path : Path} {settings : Config.Partial}

/-- The file of a path holds settings, in the format of its extension. -/
def HoldsSettings (tree : Tree) (path : Path) (settings : Config.Partial) : Prop :=
  ∃ format text, Config.Format.ofPath? path = some format ∧ tree.readText path = .ok text ∧
    Config.read? format text = some settings

/-! ## Loading -/

theorem outcome_loadSettings {before : Workspace} (holds : HoldsSettings before.tree path settings) :
    outcome (loadSettings path) before = (.ok settings, before) := by
  obtain ⟨format, text, extension, readable, read⟩ := holds
  unfold loadSettings
  rw [extension]
  dsimp only
  rw [outcome_bind, outcome_readText, readable]
  dsimp only
  rw [read]
  rfl

/-- A file without settings is refused, and nothing is done. -/
theorem outcome_loadSettings_of_not {before : Workspace}
    (lacks : ∀ settings, ¬ HoldsSettings before.tree path settings) :
    ∃ error, outcome (loadSettings path) before = (.error error, before) := by
  unfold loadSettings
  cases extension : Config.Format.ofPath? path with
  | none => exact ⟨_, rfl⟩
  | some format =>
    dsimp only
    rw [outcome_bind, outcome_readText]
    cases readable : before.tree.readText path with
    | error fault => exact ⟨_, rfl⟩
    | ok text =>
      dsimp only
      cases read : Config.read? format text with
      | some settings => exact absurd ⟨format, text, extension, readable, read⟩ (lacks settings)
      | none => cases format <;> exact ⟨_, rfl⟩

theorem outcome_loadConfig {before : Workspace} (holds : HoldsSettings before.tree path settings) :
    outcome (loadConfig path) before = (.ok (settings.orElse {}), before) := by
  unfold loadConfig
  rw [outcome_bind, outcome_loadSettings holds]
  rfl

theorem outcome_loadConfig_of_not {before : Workspace}
    (lacks : ∀ settings, ¬ HoldsSettings before.tree path settings) :
    ∃ error, outcome (loadConfig path) before = (.error error, before) := by
  obtain ⟨error, failed⟩ := outcome_loadSettings_of_not lacks
  exact ⟨error, outcome_bind_of_error failed _⟩

/-! ## Refusal -/

variable {config : Config} {fault : Config.Fault} {before : Workspace}

theorem outcome_check (config : Config) (before : Workspace) :
    outcome (check config) before =
      match config.validate with
      | .ok () => (.ok (), before)
      | .error fault => (.error (.config fault), before) := by
  unfold check
  rcases config.validate with _ | _ <;> rfl

theorem outcome_generate_of_invalid (invalid : config.validate = .error fault) (before : Workspace) :
    outcome (generate config) before = (.error (.config fault), before) := by
  rw [generate_of_invalid invalid]
  rfl

theorem outcome_render_of_invalid (invalid : config.validate = .error fault) (before : Workspace) :
    outcome (render config) before = (.error (.config fault), before) := by
  rw [outcome_render, loadArtifact_of_invalid invalid]
  rfl

end SwaggerRoutes
