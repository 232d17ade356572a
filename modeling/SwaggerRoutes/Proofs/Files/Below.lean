/-
Files that are written below a directory. Names that are joined to the path of a directory lead down
from it, so that a file of such a path stands in the directory or further below, wherever the path of
the directory leads.
-/
import SwaggerRoutes.Proofs.Files.Change
import SwaggerRoutes.Proofs.Files.Name

namespace SwaggerRoutes.Files.Tree

variable {tree : Tree} {directory path : Path} {more : String} {place : Place}

/-! ## Accepted paths -/

theorem refused?_eq_none_iff :
    refused? path = none ↔
      '\x00' ∉ path.text.toList ∧ path.text ≠ "" ∧ path.text.utf8ByteSize ≤ maxPathSize := by
  unfold refused?
  simp only [List.contains_iff_mem]
  split_ifs with nul empty size <;> simp_all

/-- The beginning of a path is accepted if the path is, unless it is empty. -/
theorem refused?_of_join (relative : more.toList.head? ≠ some '/') (nonempty : directory.text ≠ "")
    (accepted : refused? (directory.join more) = none) : refused? directory = none := by
  have begins : ∃ rest, (directory.join more).text = directory.text ++ rest := by
    unfold Path.join
    rw [if_neg relative]
    split
    · exact ⟨more, rfl⟩
    · exact ⟨"/" ++ more, String.append_assoc⟩
  obtain ⟨rest, text⟩ := begins
  rw [refused?_eq_none_iff, text, String.toList_append, String.utf8ByteSize_append, List.mem_append,
    not_or] at accepted
  obtain ⟨⟨noNul, -⟩, -, size⟩ := accepted
  exact refused?_eq_none_iff.2 ⟨noNul, nonempty, by omega⟩

/-! ## Directories -/

theorem locate_of_directory (accepted : refused? path = none)
    (walk : tree.walk (tree.start path) path.steps = .ok place)
    (directory : tree.entry? place = some .directory) : tree.locate path = .ok place := by
  unfold locate
  rw [accepted, walk]
  simp [isDirectory_iff.2 directory]

/-- A file that is written under names below a directory stands at these names from the directory. -/
theorem IsTarget.below {names : List String} {steps : List Step} {above : Place} {name : String}
    (target : IsTarget tree (directory.join (Path.ofNames names).text) steps above name)
    (given : directory.text ≠ "") (nonempty : names ≠ []) (isName : ∀ name ∈ names, Path.IsName name)
    (content : ByteArray) :
    ∃ base, (tree.put (above ++ [name]) (.file content)).locate directory = .ok base ∧
      (tree.put (above ++ [name]) (.file content)).isDirectory base = true ∧
      above ++ [name] = base ++ names := by
  have relative := Path.head?_ofNames_ne isName
  have walk := target.walk_put content
  rw [Path.steps_join relative, Path.steps_ofNames nonempty isName, walk_append_eq_ok] at walk
  obtain ⟨base, toBase, down⟩ := walk
  obtain ⟨place, isDirectory⟩ := walk_names down
  refine ⟨base, ?_, isDirectory_iff.2 (isDirectory nonempty), place⟩
  refine locate_of_directory (refused?_of_join relative given target.accepted) ?_ (isDirectory nonempty)
  have start : (tree.put (above ++ [name]) (.file content)).start directory =
      tree.start (directory.join (Path.ofNames names).text) := by
    unfold Tree.start
    rw [Path.isAbsolute_join relative]
    rfl
  rw [start, toBase]

end SwaggerRoutes.Files.Tree
