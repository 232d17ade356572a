/-
Where a generated class stands. The path of its file and the declarations in its source agree: the
directories spell the package, and the file is named like the class. Since no component of the path
leads anywhere but down, a run writes nothing outside the output directory.
-/
import SwaggerRoutes.Proofs.Files.Below
import SwaggerRoutes.Proofs.Java.Lines
import SwaggerRoutes.Proofs.Run.Generation

namespace SwaggerRoutes

open SwaggerRoutes.Text SwaggerRoutes.Files SwaggerRoutes.Api SwaggerRoutes.Route SwaggerRoutes.Session

/-! ## The path and the declarations -/

namespace Java

/-- The path of a class goes down through names that agree with the declarations in its source. -/
structure Placed (package : String) (artifact : Artifact) : Prop where
  relative : (relativePath package artifact).isAbsolute = false
  length : (relativePath package artifact).components.length = (packageParts package).length + 1
  isName : ∀ component ∈ (relativePath package artifact).components,
    component ≠ [] ∧ '/' ∉ component ∧ component ≠ ['.'] ∧ component ≠ ['.', '.']
  directories : joined ['.'] ((relativePath package artifact).components.take (packageParts package).length) =
    package.toList
  file : (relativePath package artifact).components.getLast? = some (artifact.className ++ ".java").toList
  packageLine : package ≠ "" →
    (lines (source package artifact)).head? = some ("package " ++ package ++ ";")
  noPackageLine : package = "" →
    ∀ line ∈ lines (source package artifact), ¬ "package ".toList <+: line.toList
  classLine : ∀ line, line ∈ lines (source package artifact) ∧
      "public final class ".toList <+: line.toList ↔
    line = "public final class " ++ artifact.className ++ " extends RouteBuilder \x7b"

theorem placed_assemble {package : String} (valid : Config.isPackage package = true) (naming : Naming)
    (spec : Specification) : Placed package (assemble naming spec) := by
  have isName := isName_of_mem_placeNames valid naming spec
  have components := components_relativePath valid naming spec
  have noFeed : '\n' ∉ package.toList := notMem_package_of valid (by decide) (by decide)
  have noFeed' : '\n' ∉ (assemble naming spec).className.toList := notMem_className_of (by decide +kernel) _
  exact {
    relative := by
      rw [relativePath_eq valid]
      simpa [Path.isAbsolute] using Path.head?_ofNames_ne isName
    length := by rw [components]; simp [placeNames]
    isName := by
      intro component h
      rw [components] at h
      obtain ⟨name, hn, rfl⟩ := List.mem_map.1 h
      have given := isName name hn
      refine ⟨given.toList_ne_nil, given.noSlash, fun same => ?_, fun above => ?_⟩
      · exact given.notSame (String.toList_injective same)
      · exact given.notAbove (String.toList_injective above)
    directories := by
      rw [components, placeNames, List.map_append, List.take_left' (by simp), joined_packageParts]
    file := by rw [components]; simp [placeNames]
    packageLine := fun given => head?_lines_source noFeed noFeed' given
    noPackageLine := by
      intro empty line mem begins
      rcases line_eq_of_mem noFeed noFeed' mem (by decide) begins with ⟨given, -⟩ | rfl
      · exact given empty
      · exact not_isPrefix_classHead _ begins
    classLine := by
      intro line
      constructor
      · rintro ⟨mem, begins⟩
        rcases line_eq_of_mem noFeed noFeed' mem (by decide) begins with ⟨-, rfl⟩ | same
        · exact absurd begins (not_isPrefix_packageHead package)
        · exact same
      · rintro rfl
        exact ⟨classHead_mem_lines noFeed noFeed', isPrefix_classHead _⟩ }

end Java

/-! ## The output directory -/

theorem outputDir_ne_of_validate {config : Config} (valid : config.validate = .ok ()) :
    config.outputDir ≠ "" := by
  intro empty
  have given := (Config.validate_eq_ok_iff.1 valid).2.1
  rw [empty] at given
  exact absurd given (by decide)

/-- For settings that pass their check, the path of every class goes down through names that agree with
its declarations; so each file that a run writes stands below the output directory. -/
theorem generated_below_output {config : Config} (valid : config.validate = .ok ()) :
    (∀ naming spec, Java.Placed config.package (assemble naming spec)) ∧
      ∀ before after result, outcome (generate config) before = (result, after) →
        ∀ place content, after.tree.entry? place = some (.file content) →
          before.tree.entry? place = some (.file content) ∨
            ∃ base below, after.tree.locate ⟨config.outputDir⟩ = .ok base ∧
              after.tree.isDirectory base = true ∧ below ≠ [] ∧ place = base ++ below := by
  have package := Java.isPackage_of_validate valid
  refine ⟨Java.placed_assemble package, fun before after result run place content file => ?_⟩
  rcases outcome_generate_cases run with ⟨-, ⟨error, -, -, kept⟩ | ⟨artifact, loaded, load, written⟩⟩
  · rw [kept] at file
    exact .inl file
  cases result with
  | error error => exact .inl ((written.grown.file_iff place content).1 file)
  | ok path =>
    obtain ⟨-, between, steps, above, name, grown, isTarget, put⟩ := written.exists_isTarget
    rw [put] at file ⊢
    by_cases same : place = above ++ [name]
    · obtain ⟨-, spec, rfl⟩ := assembled_of_loadArtifact load
      unfold Config.target at isTarget
      rw [Java.relativePath_eq package] at isTarget
      obtain ⟨base, locate, directory, down⟩ := isTarget.below (outputDir_ne_of_validate valid)
        (Java.placeNames_ne_nil _ _) (Java.isName_of_mem_placeNames package _ spec) _
      exact .inr ⟨base, _, locate, directory, Java.placeNames_ne_nil _ _, same.trans down⟩
    · rw [Tree.entry?_put_of_ne between same] at file
      exact .inl ((grown.file_iff place content).1 file)

/-- A document whose title is a path that leads up. -/
def escaping : Workspace where
  tree := { entries := [(["spec.json"], .file
    "\x7b\"info\":\x7b\"title\":\"../../etc/passwd\"\x7d\x7d".toUTF8)] }

def belowOut : Config := { schemaPath := "spec.json", outputDir := "out", package := "org.acme" }

theorem generated_below_output_escaping :
    belowOut.validate = .ok () ∧
      (outcome (generate belowOut) escaping).1 = .ok ⟨"out/org/acme/etcpasswd.java"⟩ ∧
      (∀ naming spec, Java.Placed "org.acme" (assemble naming spec)) ∧
      ∀ place content,
        Tree.entry? (outcome (generate belowOut) escaping).2.tree place = some (.file content) →
        escaping.tree.entry? place = some (.file content) ∨
          ∃ base below, (outcome (generate belowOut) escaping).2.tree.locate ⟨"out"⟩ = .ok base ∧
            (outcome (generate belowOut) escaping).2.tree.isDirectory base = true ∧ below ≠ [] ∧
            place = base ++ below := by
  have valid : belowOut.validate = .ok () := by decide +kernel
  have done : (outcome (generate belowOut) escaping).1 = .ok ⟨"out/org/acme/etcpasswd.java"⟩ := by
    decide +kernel
  obtain ⟨placed, below⟩ := generated_below_output valid
  exact ⟨valid, done, placed, below _ _ _ (outcome_eq_of_fst done)⟩

end SwaggerRoutes
