/-
Settings that are saved to a file and loaded from it. The text of settings is read back as all of them, in
both formats and whatever strings they hold. The main statement is that settings are saved wherever the
extension is supported and a file can be written, and that loading the same path gives them back.
-/
import SwaggerRoutes.Proofs.Run.Settings
import SwaggerRoutes.Proofs.Toml.Reread
import SwaggerRoutes.Proofs.Yaml.Reread
import Mathlib.Data.List.Nodup

namespace SwaggerRoutes

open SwaggerRoutes.Files SwaggerRoutes.Session

namespace Config

/-! ## All settings -/

/-- Settings of which none is missing. -/
def whole (config : Config) : Partial where
  schemaPath := some config.schemaPath
  outputDir := some config.outputDir
  package := some config.package

theorem orElse_whole (config others : Config) : config.whole.orElse others = config := rfl

/-- The names of some settings with their values. -/
def rows (config : Config) (keys : List Key) : List (String × String) :=
  keys.map fun key => (key.name, config.get key)

theorem name_injective : Function.Injective Key.name := by
  intro key other same
  have found := congrArg Key.ofName? same
  rw [Key.ofName?_name, Key.ofName?_name] at found
  exact Option.some.inj found

/-! ## YAML -/

theorem plainKey (key : Key) : Yaml.Scan.PlainKey key.name := by
  cases key <;> exact ⟨by decide, List.all_eq_true.1 (by decide), by decide⟩

theorem toYaml_eq (config : Config) :
    config.toYaml = String.ofList (Yaml.stringEntries (config.rows Key.all)) := by
  rw [toYaml, Yaml.stringEntries, rows, List.flatMap_map]

/-- The entries of settings that were not given before give them. -/
theorem ofEntries?_rows (config : Config) {keys : List Key} (distinct : keys.Nodup) {settings : Partial}
    (fresh : ∀ key ∈ keys, settings.get key = none) (anchors : Yaml.Anchors) (left : Nat) :
    ofEntries? anchors ((config.rows keys).map Yaml.Node.rowNodes) left settings =
      some (keys.foldl (fun settings key => settings.set (config.get key) key) settings) := by
  induction keys generalizing settings with
  | nil => rfl
  | cons key keys ih =>
    rw [List.nodup_cons] at distinct
    rw [List.forall_mem_cons] at fresh
    have still : ∀ other ∈ keys, (settings.set (config.get key) key).get other = none := by
      intro other mem
      have differ : other ≠ key := fun same => distinct.1 (same ▸ mem)
      rw [Partial.get_set_of_ne differ, fresh.2 other mem]
    have name : ∀ left, Yaml.scalarText? anchors (.scalar none true key.name) left = some (key.name, left) :=
      fun _ => rfl
    have value : ∀ isPlain left, Yaml.scalarText? anchors (.scalar none isPlain (config.get key)) left =
        some (config.get key, left) := fun _ _ => rfl
    rw [List.foldl_cons, ← ih distinct.2 still]
    simp [rows, Yaml.Node.rowNodes, Yaml.Node.valueNode, ofEntries?, name, value, Key.ofName?_name, fresh.1]

theorem ofYaml?_toYaml (config : Config) : ofYaml? config.toYaml = some config.whole := by
  have keys : ∀ row ∈ config.rows Key.all, Yaml.Scan.PlainKey row.1 :=
    List.forall_mem_map.2 fun key _ => plainKey key
  have fresh : ∀ key ∈ Key.all, Partial.get {} key = none := by decide
  have settings (anchors : Yaml.Anchors) (left : Nat) :
      ofEntries? anchors ((config.rows Key.all).map Yaml.Node.rowNodes) left {} = some config.whole :=
    config.ofEntries?_rows (by decide) fresh anchors left
  have read : Yaml.Node.read? (String.ofList (Yaml.stringEntries (config.rows Key.all))) =
      some (some (.mapping none ((config.rows Key.all).map Yaml.Node.rowNodes))) :=
    Yaml.Node.read?_stringEntries keys
  rw [ofYaml?, toYaml_eq, read]
  simp only [Option.bind_eq_bind, Option.bind_some, Yaml.Node.bare, settings]

/-! ## TOML -/

theorem bareKey (key : Key) : Toml.BareKey key.name := by
  cases key <;> exact ⟨by decide, List.all_eq_true.1 (by decide)⟩

theorem toToml_eq (config : Config) :
    config.toToml = String.ofList (Toml.stringLines (config.rows Key.all)) := by
  rw [toToml, Toml.stringLines, rows, List.flatMap_map]

theorem find?_rows (config : Config) {keys : List Key} {key : Key} (mem : key ∈ keys) :
    Toml.find? key.name (Toml.stringItems (config.rows keys)) = some (.string (config.get key)) := by
  induction keys with
  | nil => cases mem
  | cons other keys ih =>
    show (if other.name = key.name then _ else Toml.find? key.name (Toml.stringItems (config.rows keys))) = _
    split_ifs with same
    · rw [name_injective same]
    · exact ih ((List.mem_cons.1 mem).resolve_left fun own => same (own ▸ rfl))

theorem ofToml?_toToml (config : Config) : ofToml? config.toToml = some config.whole := by
  have keys : ∀ row ∈ config.rows Key.all, Toml.BareKey row.1 :=
    List.forall_mem_map.2 fun key _ => bareKey key
  have distinct : ((config.rows Key.all).map Prod.fst).Nodup := by
    rw [rows, List.map_map]
    exact List.Nodup.map name_injective (by decide)
  have found (key : Key) :
      tomlString? (Toml.stringItems (config.rows Key.all)) key = some (some (config.get key)) := by
    rw [tomlString?, config.find?_rows (show key ∈ Key.all by cases key <;> decide)]
  rw [ofToml?, toToml_eq, Toml.read?_stringLines keys distinct]
  simp only [Option.bind_eq_bind, Option.bind_some, found]
  rfl

/-- Settings that are written in a format are read back in it, all of them. -/
theorem read?_write (config : Config) (format : Format) :
    read? format (config.write format) = some config.whole := by
  cases format with
  | yaml => exact ofYaml?_toYaml config
  | toml => exact ofToml?_toToml config

end Config

/-! ## Files -/

variable {path : Path} {before after : Workspace}

theorem outcome_saveConfig {format : Config.Format} (extension : Config.Format.ofPath? path = some format)
    (config : Config) (before : Workspace) :
    outcome (saveConfig config path) before =
      match before.tree.writeText path (config.write format) with
      | .ok tree => (.ok (), { before with tree })
      | .error fault => (.error (.files fault), before) := by
  unfold saveConfig
  rw [extension]
  exact outcome_writeText path (config.write format) before

/-- After a save that succeeds, the file holds all the settings. -/
theorem holdsSettings_of_saveConfig {config : Config}
    (saved : outcome (saveConfig config path) before = (.ok (), after)) :
    HoldsSettings after.tree path config.whole := by
  cases extension : Config.Format.ofPath? path with
  | none =>
    unfold saveConfig at saved
    rw [extension] at saved
    cases saved
  | some format =>
    rw [outcome_saveConfig extension] at saved
    split at saved
    next tree written =>
      cases saved
      obtain ⟨steps, above, name, target, rfl⟩ := Tree.exists_isTarget_of_writeText written
      exact ⟨format, config.write format, extension, target.readText_put _, config.read?_write format⟩
    next fault failed => cases saved

theorem exists_ofPath?_iff :
    (∃ format, Config.Format.ofPath? path = some format) ↔
      path.extension? = some "yaml" ∨ path.extension? = some "yml" ∨ path.extension? = some "toml" := by
  unfold Config.Format.ofPath?
  cases path.extension? with
  | none => simp
  | some extension =>
    simp only [Bool.or_eq_true, decide_eq_true_eq, Option.some.injEq]
    split_ifs with yaml toml
    · simpa [← or_assoc] using Or.inl yaml
    · simp [toml]
    · simpa [toml] using yaml

/-- Settings are saved exactly where the extension stands for a format and a file can be written. -/
theorem exists_saveConfig_iff (config : Config) :
    (∃ after, outcome (saveConfig config path) before = (.ok (), after)) ↔
      (∃ format, Config.Format.ofPath? path = some format) ∧ ∃ place, before.tree.target path = .ok place := by
  cases extension : Config.Format.ofPath? path with
  | none =>
    have refused : outcome (saveConfig config path) before =
        (.error (.config (.unsupportedFile path.text)), before) := by
      unfold saveConfig
      rw [extension]
      rfl
    simp [refused]
  | some format =>
    rw [outcome_saveConfig extension]
    unfold Tree.writeText Tree.writeFile
    cases before.tree.target path <;> simp

/-- Settings are saved wherever the extension is supported and a file can be written, and what is loaded from
there are the settings that were saved. -/
theorem loadConfig_saveConfig (config : Config) (path : Path) (before : Workspace) :
    ((∃ after, outcome (saveConfig config path) before = (.ok (), after)) ↔
      (path.extension? = some "yaml" ∨ path.extension? = some "yml" ∨ path.extension? = some "toml") ∧
        ∃ place, before.tree.target path = .ok place) ∧
    ∀ after, outcome (saveConfig config path) before = (.ok (), after) →
      outcome (loadConfig path) after = (.ok config, after) := by
  refine ⟨?_, fun after saved => ?_⟩
  · rw [exists_saveConfig_iff, exists_ofPath?_iff]
  · rw [outcome_loadConfig (holdsSettings_of_saveConfig saved), Config.orElse_whole]

/-- Settings that are hard to keep: a word that reads as nothing, a control character before further lines, and
lines with indicators and an empty line at their end. -/
def Config.awkward : Config where
  schemaPath := "null"
  outputDir := " a\x07\n\tb \n"
  package := "x: 'y' #z\n  \"\n\n"

/-- Both formats keep them, and a file with another extension is not written. -/
theorem loadConfig_saveConfig_awkward :
    (∃ after, outcome (saveConfig .awkward ⟨"camelgen.yml"⟩) {} = (.ok (), after) ∧
        outcome (loadConfig ⟨"camelgen.yml"⟩) after = (.ok .awkward, after)) ∧
      (∃ after, outcome (saveConfig .awkward ⟨"camelgen.toml"⟩) {} = (.ok (), after) ∧
        outcome (loadConfig ⟨"camelgen.toml"⟩) after = (.ok .awkward, after)) ∧
      ¬ ∃ after, outcome (saveConfig .awkward ⟨"camelgen.json"⟩) {} = (.ok (), after) := by
  refine ⟨?_, ?_, ?_⟩
  · obtain ⟨saves, loads⟩ := loadConfig_saveConfig .awkward ⟨"camelgen.yml"⟩ {}
    obtain ⟨after, saved⟩ := saves.2 ⟨by decide, ["camelgen.yml"], by decide +kernel⟩
    exact ⟨after, saved, loads after saved⟩
  · obtain ⟨saves, loads⟩ := loadConfig_saveConfig .awkward ⟨"camelgen.toml"⟩ {}
    obtain ⟨after, saved⟩ := saves.2 ⟨by decide, ["camelgen.toml"], by decide +kernel⟩
    exact ⟨after, saved, loads after saved⟩
  · intro saved
    have supported := ((loadConfig_saveConfig .awkward ⟨"camelgen.json"⟩ {}).1.1 saved).1
    revert supported
    decide

end SwaggerRoutes
