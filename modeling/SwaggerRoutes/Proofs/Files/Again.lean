/-
Doing once more what was done. Directories that are there are not made again, and a file that holds a text
already is written to no effect: either way the tree stays as it is. A file that is kept reads as before.
-/
import SwaggerRoutes.Proofs.Files.Change

namespace SwaggerRoutes.Files

/-- A path that names more than a directory does not end in a dot. -/
theorem Path.endsInDot_eq_false {path : Path} (noDirectory : path.namesDirectory = false) :
    path.endsInDot = false := by
  unfold namesDirectory at noDirectory
  unfold endsInDot
  cases last : path.components.getLast? with
  | none => rw [List.getLast?_eq_none_iff.1 last]; rfl
  | some component =>
    rw [last] at noDirectory
    obtain ⟨notEmpty, noDot⟩ : component ≠ [] ∧ component ≠ ['.'] := by simpa using noDirectory
    obtain ⟨front, split⟩ := List.getLast?_eq_some_iff.1 last
    rw [split]
    simp [List.filter_append, notEmpty, noDot]

namespace Tree

variable {tree before after : Tree} {place found : Place} {path : Path} {steps : List Step}

/-! ## Making directories -/

theorem leadsToDirectory_of_walk (walk : tree.walk place steps = .ok found)
    (directory : tree.entry? found = some .directory) : tree.leadsToDirectory place steps = true := by
  unfold leadsToDirectory
  rw [walk]
  exact isDirectory_iff.2 directory

/-- Where steps lead already, no directory is made. -/
theorem makeDirectory_ne_ok (walk : tree.walk place steps = .ok found) :
    tree.makeDirectory place steps ≠ .ok after := by
  intro made
  obtain ⟨front, above, name, rfl, between, -, -, fresh, -⟩ := makeDirectory_eq_ok made
  obtain ⟨above', between', onward⟩ := walk_append_eq_ok.1 walk
  obtain rfl : above = above' := Except.ok.inj (between.symm.trans between')
  obtain ⟨-, ⟨up, -⟩ | ⟨_, same, -, there, -⟩⟩ := walk_cons_eq_ok onward
  · cases up
  · cases same
    exact there fresh

theorem ensureDirectory_eq_self (walk : tree.walk place steps = .ok found)
    (directory : tree.entry? found = some .directory) : tree.ensureDirectory place steps = .ok tree := by
  unfold ensureDirectory
  split
  next made => exact absurd made (makeDirectory_ne_ok walk)
  next => rw [leadsToDirectory_of_walk walk directory]; rfl

/-- The directories of steps that lead to one are all there. -/
theorem makeDirectoriesFrom_eq_self (walk : tree.walk place steps = .ok found)
    (directory : tree.entry? found = some .directory) :
    tree.makeDirectoriesFrom place steps.reverse = (.ok (), tree) := by
  cases reversed : steps.reverse with
  | nil => rfl
  | cons last front =>
    obtain rfl : steps = front.reverse ++ [last] := by rw [← steps.reverse_reverse, reversed, List.reverse_cons]
    unfold makeDirectoriesFrom
    dsimp only
    rw [ensureDirectory_eq_self walk directory]

/-- Directories that were made once are not made again, as long as the path starts at the same place and its
steps lead to a directory. -/
theorem makeParents_again (made : before.makeParents path = (.ok (), after))
    (walk : tree.walk (tree.start path) path.steps.dropLast = .ok found)
    (directory : tree.entry? found = some .directory) : tree.makeParents path = (.ok (), tree) := by
  unfold makeParents makeDirectories at made ⊢
  split at made
  · cases made
  next noNul =>
    split at made
    · cases made
    next size =>
      rw [if_neg noNul, if_neg size]
      exact makeDirectoriesFrom_eq_self walk directory

/-! ## Writing -/

/-- Setting an entry twice is setting it once. -/
theorem put_put_self (tree : Tree) (place : Place) (entry : Entry) :
    (tree.put place entry).put place entry = tree.put place entry := by
  unfold put
  rw [update_eq_self (lookup_update_self place entry tree.entries)]

namespace IsTarget

variable {above : Place} {name : String}

theorem target_eq_ok (target : IsTarget tree path steps above name) :
    tree.target path = .ok (above ++ [name]) := by
  have last : path.steps.getLast? = some (.name name) := by rw [target.path_steps, List.getLast?_concat]
  have front : path.steps.dropLast = steps := by rw [target.path_steps, List.dropLast_concat]
  have free : tree.isDirectory (above ++ [name]) = false :=
    Bool.eq_false_iff.2 fun there => target.free (isDirectory_iff.1 there)
  unfold Tree.target
  rw [target.accepted]
  dsimp only
  rw [last]
  dsimp only
  rw [Path.endsInDot_eq_false target.noDirectory, front, target.walk]
  dsimp only
  rw [isDirectory_iff.2 target.directory, target.noDirectory, free, if_neg (Nat.not_lt.2 target.size)]
  rfl

/-- The file is still written there when it stands there. -/
theorem put (target : IsTarget tree path steps above name) (content : ByteArray) :
    IsTarget (tree.put (above ++ [name]) (.file content)) path steps above name where
  accepted := target.accepted
  noDirectory := target.noDirectory
  path_steps := target.path_steps
  walk := (target.retained content).walk target.walk
  directory := (target.retained content).directory above target.directory
  size := target.size
  free := by rw [entry?_put_self tree (by simp)]; simp

/-- A text that was written is written again to no effect. -/
theorem writeText_again (target : IsTarget tree path steps above name) (text : String) :
    (tree.put (above ++ [name]) (.file text.toUTF8)).writeText path text =
      .ok (tree.put (above ++ [name]) (.file text.toUTF8)) := by
  unfold writeText writeFile
  rw [(target.put text.toUTF8).target_eq_ok]
  dsimp only
  rw [put_put_self]

/-- No directory is missing for a file that was written. -/
theorem makeParents_again (target : IsTarget tree path steps above name)
    (made : before.makeParents path = (.ok (), tree)) (content : ByteArray) :
    (tree.put (above ++ [name]) (.file content)).makeParents path =
      (.ok (), tree.put (above ++ [name]) (.file content)) := by
  have target := target.put content
  refine Tree.makeParents_again made ?_ target.directory
  rw [target.path_steps, List.dropLast_concat, target.walk]

end IsTarget

/-! ## Reading -/

/-- A path that reads as a text leads to a file. -/
theorem readText_eq_ok {text : String} (h : tree.readText path = .ok text) :
    ∃ place content, tree.locate path = .ok place ∧ tree.entry? place = some (.file content) ∧
      String.fromUTF8? content = some text := by
  unfold readText at h
  split at h
  · cases h
  next place found =>
    split at h
    next content file =>
      split at h
      next valid => cases h; exact ⟨place, content, found, file, valid⟩
      · cases h
    · cases h
    · cases h

theorem locate_eq_ok_iff : tree.locate path = .ok place ↔ refused? path = none ∧
    tree.walk (tree.start path) path.steps = .ok place ∧
      (path.namesDirectory = true → tree.entry? place = some .directory) := by
  unfold locate
  split
  next refused => simp [refused]
  next accepted =>
    split
    next fault stuck => simp [stuck]
    next found walk =>
      rw [accepted, walk, ← isDirectory_iff]
      constructor
      · intro h
        split_ifs at h with names
        cases h
        exact ⟨rfl, rfl, by simpa using names⟩
      · rintro ⟨-, ⟨⟩, names⟩
        rw [if_neg (by simpa using names)]

/-- What a path leads to, it leads to in a tree that keeps it. -/
theorem Retained.locate (retained : Retained before after) (h : before.locate path = .ok place) :
    after.locate path = .ok place := by
  obtain ⟨accepted, walk, names⟩ := locate_eq_ok_iff.1 h
  refine locate_eq_ok_iff.2 ⟨accepted, ?_, fun name => retained.directory place (names name)⟩
  rw [retained.start]
  exact retained.walk walk

/-- A text is read again from a tree that keeps it, when the file that was read is the same there. -/
theorem Retained.readText {text : String} (retained : Retained before after) (h : before.readText path = .ok text)
    (kept : ∀ place content, after.locate path = .ok place → before.entry? place = some (.file content) →
      after.entry? place = some (.file content)) : after.readText path = .ok text := by
  obtain ⟨place, content, found, file, valid⟩ := readText_eq_ok h
  have found' := retained.locate found
  unfold Tree.readText
  rw [found']
  dsimp only
  rw [kept place content found' file]
  dsimp only
  rw [valid]

theorem Grown.readText {text : String} (grown : Grown before after) (h : before.readText path = .ok text) :
    after.readText path = .ok text :=
  grown.retained.readText h fun place content _ file => (grown.file_iff place content).2 file

/-- A path that does not lead to the file that was written reads as before. -/
theorem IsTarget.readText_of_ne {above : Place} {name text : String} {other : Path}
    (target : IsTarget tree path steps above name) (content : ByteArray) (h : tree.readText other = .ok text)
    (apart : (tree.put (above ++ [name]) (.file content)).locate other ≠ .ok (above ++ [name])) :
    (tree.put (above ++ [name]) (.file content)).readText other = .ok text := by
  refine (target.retained content).readText h fun place old found file => ?_
  rw [entry?_put_of_ne tree (by rintro rfl; exact apart found)]
  exact file

end Tree

end SwaggerRoutes.Files
