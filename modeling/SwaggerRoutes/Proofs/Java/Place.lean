/-
Where the file of a class stands. Its path has a name for each part of the package and one for the
class; each is the name of an entry, whatever the title of the class was made from.
-/
import SwaggerRoutes.Generate
import SwaggerRoutes.Proofs.Files.Name
import SwaggerRoutes.Proofs.Java.Faithful

namespace SwaggerRoutes.Java

open SwaggerRoutes.Text SwaggerRoutes.Files SwaggerRoutes.Files.Path SwaggerRoutes.Api SwaggerRoutes.Route

/-! ## Names -/

/-- The parts of a package, from the outermost; the default package has none. -/
def packageParts (package : String) : List String :=
  if package = "" then [] else (pieces '.' package.toList).map String.ofList

/-- The names of the directories for a package, and that of the file of a class. -/
def placeNames (package : String) (artifact : Artifact) : List String :=
  packageParts package ++ [artifact.className ++ ".java"]

theorem joined_packageParts (package : String) :
    joined ['.'] ((packageParts package).map String.toList) = package.toList := by
  unfold packageParts
  split
  next empty => rw [empty]; rfl
  · simp [joined_pieces]

theorem isPackagePart_of_mem {package part : String} (valid : Config.isPackage package = true)
    (h : part ∈ packageParts package) : Config.isPackagePart part.toList = true := by
  unfold packageParts at h
  split at h
  · cases h
  next nonempty =>
    obtain ⟨piece, hp, rfl⟩ := List.mem_map.1 h
    simp only [Config.isPackage, Bool.or_eq_true, decide_eq_true_eq, List.all_eq_true] at valid
    rw [String.toList_ofList]
    refine valid.resolve_left (fun empty => ?_) piece hp
    exact nonempty (String.toList_injective empty)

theorem isName_of_isPackagePart {part : String} (h : Config.isPackagePart part.toList = true) :
    IsName part := by
  obtain ⟨nonempty, chars⟩ := chars_of_isPackagePart h
  have outside : ∀ {c}, (Config.isIdentifierStart c || isDigit c) = false → c ∉ part.toList := by
    intro c other mem
    rw [chars c mem] at other
    cases other
  have point : '.' ∉ part.toList := outside (by decide)
  refine ⟨?_, outside (by decide), ?_, ?_⟩
  · rintro rfl; exact nonempty rfl
  · rintro rfl; exact point (by decide)
  · rintro rfl; exact point (by decide)

theorem isName_file (title : String) : IsName (className title ++ ".java") := by
  have text : (className title ++ ".java").toList = (className title).toList ++ ".java".toList :=
    String.toList_append
  have letter : 'j' ∈ (className title ++ ".java").toList := by
    rw [text, List.mem_append]
    exact .inr (by decide)
  have other : ∀ {name : String}, 'j' ∉ name.toList → className title ++ ".java" ≠ name := by
    rintro name missing rfl
    exact missing letter
  refine ⟨other (by decide), ?_, other (by decide), other (by decide)⟩
  rw [text, List.mem_append, not_or]
  exact ⟨notMem_className_of (by decide +kernel) title, by decide⟩

/-- Every name on the way to the file of a class is the name of an entry. -/
theorem isName_of_mem_placeNames {package : String} (valid : Config.isPackage package = true)
    (naming : Naming) (spec : Specification) :
    ∀ name ∈ placeNames package (assemble naming spec), IsName name := by
  intro name h
  rcases List.mem_append.1 h with part | file
  · exact isName_of_isPackagePart (isPackagePart_of_mem valid part)
  · rw [List.mem_singleton.1 file]
    exact isName_file spec.title

theorem placeNames_ne_nil (package : String) (artifact : Artifact) : placeNames package artifact ≠ [] := by
  simp [placeNames]

/-! ## The path -/

/-- No part of a package that passes the check is empty. -/
theorem filter_pieces_eq {package : String} (valid : Config.isPackage package = true) :
    (pieces '.' package.toList).filter (· != []) = (packageParts package).map String.toList := by
  by_cases empty : package = ""
  · rw [empty]; rfl
  · have parts : (packageParts package).map String.toList = pieces '.' package.toList := by
      unfold packageParts
      rw [if_neg empty]
      simp
    rw [parts, List.filter_eq_self]
    intro piece hp
    rw [← parts] at hp
    obtain ⟨part, hpart, rfl⟩ := List.mem_map.1 hp
    simpa using (chars_of_isPackagePart (isPackagePart_of_mem valid hpart)).1

theorem relativePath_eq {package : String} (valid : Config.isPackage package = true) (naming : Naming)
    (spec : Specification) :
    relativePath package (assemble naming spec) = ofNames (placeNames package (assemble naming spec)) := by
  rw [← foldl_join_empty (placeNames_ne_nil _ _) (isName_of_mem_placeNames valid naming spec)]
  unfold relativePath placeNames
  dsimp only
  rw [filter_pieces_eq valid, List.foldl_map, List.foldl_append]
  simp

theorem components_relativePath {package : String} (valid : Config.isPackage package = true)
    (naming : Naming) (spec : Specification) :
    (relativePath package (assemble naming spec)).components =
      (placeNames package (assemble naming spec)).map String.toList := by
  rw [relativePath_eq valid, components_ofNames (placeNames_ne_nil _ _)
    (isName_of_mem_placeNames valid naming spec)]

end SwaggerRoutes.Java
