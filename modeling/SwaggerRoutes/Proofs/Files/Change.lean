/-
How trees of files change. Making directories adds directories and does nothing else, also when it
fails on its way; writing a file sets one entry, which was no directory. Neither leads a walk that
succeeded anywhere else, so that a file stands where its path leads once it is written.
-/
import SwaggerRoutes.Files.Tree
import Mathlib.Data.List.Basic
import Mathlib.Tactic.SplitIfs

namespace SwaggerRoutes.Files.Tree

/-! ## Entries -/

theorem isDirectory_iff {tree : Tree} {place : Place} :
    tree.isDirectory place = true ↔ tree.entry? place = some .directory := by
  simp [isDirectory]

theorem entry?_put_self (tree : Tree) {place : Place} (h : place ≠ []) (entry : Entry) :
    Tree.entry? (tree.put place entry) place = some entry := by
  unfold entry? put
  rw [if_neg h, lookup_update_self]

theorem entry?_put_of_ne (tree : Tree) {place other : Place} (h : other ≠ place) (entry : Entry) :
    Tree.entry? (tree.put place entry) other = tree.entry? other := by
  unfold entry? put
  rw [lookup_update_of_ne h]

/-! ## Walks -/

variable {tree before after : Tree} {place found : Place}

theorem walk_cons_eq_ok {step : Step} {rest : List Step} (h : tree.walk place (step :: rest) = .ok found) :
    tree.entry? place = some .directory ∧
      (step = .up ∧ tree.walk place.dropLast rest = .ok found ∨
        ∃ name, step = .name name ∧ nameSize name ≤ maxNameSize ∧ tree.entry? (place ++ [name]) ≠ none ∧
          tree.walk (place ++ [name]) rest = .ok found) := by
  unfold walk at h
  split at h
  · cases h
  next directory =>
    refine ⟨isDirectory_iff.1 (by simpa using directory), ?_⟩
    split at h
    next => exact .inl ⟨rfl, h⟩
    next name =>
      split at h
      · cases h
      next size =>
        split at h
        · cases h
        next entry there =>
          exact .inr ⟨name, rfl, by omega, by rw [there]; simp, h⟩

theorem walk_up (rest : List Step) (directory : tree.entry? place = some .directory) :
    tree.walk place (.up :: rest) = tree.walk place.dropLast rest := by
  rw [walk, isDirectory_iff.2 directory]; rfl

theorem walk_name {name : String} (rest : List Step) (directory : tree.entry? place = some .directory)
    (size : nameSize name ≤ maxNameSize) (there : tree.entry? (place ++ [name]) ≠ none) :
    tree.walk place (.name name :: rest) = tree.walk (place ++ [name]) rest := by
  rw [walk, isDirectory_iff.2 directory]
  obtain ⟨entry, there⟩ := Option.ne_none_iff_exists'.1 there
  simp only [Bool.not_true, Bool.false_eq_true, if_false, there]
  rw [if_neg (by omega)]

/-- A walk along two parts goes on where the first one ends. -/
theorem walk_append_eq_ok {first second : List Step} :
    tree.walk place (first ++ second) = .ok found ↔
      ∃ between, tree.walk place first = .ok between ∧ tree.walk between second = .ok found := by
  induction first generalizing place with
  | nil => simp [walk]
  | cons step rest ih =>
    constructor
    · intro h
      obtain ⟨directory, ⟨rfl, onward⟩ | ⟨name, rfl, size, there, onward⟩⟩ := walk_cons_eq_ok h
      · rw [walk_up rest directory]; exact ih.1 onward
      · rw [walk_name rest directory size there]; exact ih.1 onward
    · rintro ⟨between, h, h'⟩
      obtain ⟨directory, ⟨rfl, onward⟩ | ⟨name, rfl, size, there, onward⟩⟩ := walk_cons_eq_ok h
      · rw [List.cons_append, walk_up _ directory]; exact ih.2 ⟨between, onward, h'⟩
      · rw [List.cons_append, walk_name _ directory size there]; exact ih.2 ⟨between, onward, h'⟩

/-- Steps to names only lead down, from a directory if there is any. -/
theorem walk_names {names : List String} (h : tree.walk place (names.map .name) = .ok found) :
    found = place ++ names ∧ (names ≠ [] → tree.entry? place = some .directory) := by
  induction names generalizing place with
  | nil => cases h; simp
  | cons name names ih =>
    obtain ⟨directory, ⟨up, -⟩ | ⟨name', same, -, -, onward⟩⟩ := walk_cons_eq_ok h
    · cases up
    · cases same
      obtain ⟨rfl, -⟩ := ih onward
      exact ⟨by simp, fun _ => directory⟩

/-! ## Trees that keep what another one has -/

/-- What a tree has is there in another one: directories as directories, files as files of any
content. -/
structure Retained (before after : Tree) : Prop where
  workingDirectory : after.workingDirectory = before.workingDirectory
  directory : ∀ place, before.entry? place = some .directory → after.entry? place = some .directory
  there : ∀ place, before.entry? place ≠ none → after.entry? place ≠ none

namespace Retained

theorem start (retained : Retained before after) (path : Path) : after.start path = before.start path := by
  unfold Tree.start
  rw [retained.workingDirectory]

/-- A walk still leads where it led. -/
theorem walk (retained : Retained before after) {steps : List Step}
    (h : before.walk place steps = .ok found) : after.walk place steps = .ok found := by
  induction steps generalizing place with
  | nil => exact h
  | cons step rest ih =>
    obtain ⟨directory, ⟨rfl, onward⟩ | ⟨name, rfl, size, there, onward⟩⟩ := walk_cons_eq_ok h
    · rw [walk_up rest (retained.directory _ directory)]; exact ih onward
    · rw [walk_name rest (retained.directory _ directory) size (retained.there _ there)]
      exact ih onward

end Retained

/-! ## Making directories -/

/-- A tree with directories added, and else the same. -/
structure Grown (before after : Tree) : Prop where
  workingDirectory : after.workingDirectory = before.workingDirectory
  entry : ∀ place, after.entry? place = before.entry? place ∨
    before.entry? place = none ∧ after.entry? place = some .directory

namespace Grown

theorem refl (tree : Tree) : Grown tree tree := ⟨rfl, fun _ => .inl rfl⟩

theorem trans {a b c : Tree} (first : Grown a b) (second : Grown b c) : Grown a c := by
  refine ⟨second.workingDirectory.trans first.workingDirectory, fun place => ?_⟩
  rcases first.entry place with same | ⟨fresh, made⟩
  · rw [← same]; exact second.entry place
  · rcases second.entry place with same | ⟨missing, -⟩
    · exact .inr ⟨fresh, same.trans made⟩
    · rw [missing] at made; cases made

theorem put (fresh : tree.entry? place = none) : Grown tree (tree.put place .directory) := by
  have inside : place ≠ [] := by rintro rfl; cases fresh
  refine ⟨rfl, fun other => ?_⟩
  by_cases h : other = place
  · subst h; exact .inr ⟨fresh, entry?_put_self tree inside .directory⟩
  · exact .inl (entry?_put_of_ne tree h .directory)

/-- The files are the same, with the same content. -/
theorem file_iff (grown : Grown before after) (place : Place) (content : ByteArray) :
    after.entry? place = some (.file content) ↔ before.entry? place = some (.file content) := by
  rcases grown.entry place with same | ⟨fresh, made⟩
  · rw [same]
  · rw [fresh, made]; simp

/-- No directory is gone. -/
theorem directory (grown : Grown before after) {place : Place}
    (h : before.entry? place = some .directory) : after.entry? place = some .directory := by
  rcases grown.entry place with same | ⟨-, made⟩
  · rw [same, h]
  · exact made

theorem retained (grown : Grown before after) : Retained before after := by
  refine ⟨grown.workingDirectory, fun _ => grown.directory, fun place there => ?_⟩
  rcases grown.entry place with same | ⟨fresh, -⟩
  · rwa [same]
  · exact absurd fresh there

end Grown

/-- A directory is made under a fresh name, in a directory to which the steps before the name lead. -/
theorem makeDirectory_eq_ok {steps : List Step} (h : tree.makeDirectory place steps = .ok after) :
    ∃ front above name, steps = front ++ [.name name] ∧ tree.walk place front = .ok above ∧
      tree.entry? above = some .directory ∧ nameSize name ≤ maxNameSize ∧ tree.entry? (above ++ [name]) = none ∧
      after = tree.put (above ++ [name]) .directory := by
  unfold makeDirectory at h
  split at h
  · cases h
  next last isLast =>
    split at h
    · cases h
    next above walk =>
      split at h
      · cases h
      next directory =>
        split at h
        · cases h
        next name =>
          split at h
          · cases h
          next size =>
            split at h
            · cases h
            next fresh =>
              cases h
              exact ⟨steps.dropLast, above, name, (List.dropLast_append_getLast? _ isLast).symm, walk,
                isDirectory_iff.1 (by simpa using directory), by omega, fresh, rfl⟩

theorem grown_of_makeDirectory {steps : List Step} (h : tree.makeDirectory place steps = .ok after) :
    Grown tree after := by
  obtain ⟨_, _, _, -, -, -, -, fresh, rfl⟩ := makeDirectory_eq_ok h
  exact .put fresh

theorem grown_of_ensureDirectory {steps : List Step} (h : tree.ensureDirectory place steps = .ok after) :
    Grown tree after := by
  unfold ensureDirectory at h
  split at h
  next made => cases h; exact grown_of_makeDirectory made
  · split at h
    · cases h; exact .refl tree
    · cases h

/-- Whatever comes of making a directory and those above it, only directories are added. -/
theorem grown_makeDirectoriesFrom (tree : Tree) (place : Place) (steps : List Step) :
    Grown tree (tree.makeDirectoriesFrom place steps).2 := by
  induction steps generalizing tree with
  | nil => exact .refl tree
  | cons last before ih =>
    unfold makeDirectoriesFrom
    dsimp only
    split
    next made => exact grown_of_ensureDirectory made
    · have above := ih tree
      split
      next failed => rw [failed] at above; exact above
      next made =>
        rw [made] at above
        split
        next last => exact above.trans (grown_of_ensureDirectory last)
        · exact above
    · exact .refl tree

theorem grown_makeParents (tree : Tree) (path : Path) : Grown tree (tree.makeParents path).2 := by
  unfold makeParents makeDirectories
  split
  · exact .refl tree
  · split
    · exact .refl tree
    · exact grown_makeDirectoriesFrom tree _ _

/-! ## Writing a file -/

/-- A file of a path is written under a name in a directory, to which the steps before the name
lead. -/
structure IsTarget (tree : Tree) (path : Path) (steps : List Step) (above : Place) (name : String) :
    Prop where
  accepted : refused? path = none
  noDirectory : path.namesDirectory = false
  path_steps : path.steps = steps ++ [.name name]
  walk : tree.walk (tree.start path) steps = .ok above
  directory : tree.entry? above = some .directory
  size : nameSize name ≤ maxNameSize
  free : tree.entry? (above ++ [name]) ≠ some .directory

theorem exists_isTarget {path : Path} (h : tree.target path = .ok place) :
    ∃ steps above name, IsTarget tree path steps above name ∧ place = above ++ [name] := by
  unfold target at h
  split at h
  · cases h
  next accepted =>
    split at h
    next name last =>
      split at h
      · split at h <;> cases h
      · split at h
        · cases h
        next above walk =>
          split_ifs at h with directory names size free
          cases h
          refine ⟨path.steps.dropLast, above, name, ?_, rfl⟩
          exact {
            accepted
            noDirectory := by simpa using names
            path_steps := (List.dropLast_append_getLast? _ last).symm
            walk
            directory := isDirectory_iff.1 (by simpa using directory)
            size := by omega
            free := fun there => free (isDirectory_iff.2 there) }
    · split at h <;> cases h

namespace IsTarget

variable {path : Path} {steps : List Step} {above : Place} {name : String}

theorem retained (target : IsTarget tree path steps above name) (content : ByteArray) :
    Retained tree (tree.put (above ++ [name]) (.file content)) := by
  refine ⟨rfl, fun place h => ?_, fun place h => ?_⟩
  · have other : place ≠ above ++ [name] := by rintro rfl; exact target.free h
    rw [entry?_put_of_ne tree other, h]
  · by_cases same : place = above ++ [name]
    · rw [same, entry?_put_self tree (by simp)]; simp
    · rwa [entry?_put_of_ne tree same]

/-- Once the file is written, the steps of its path lead to it. -/
theorem walk_put (target : IsTarget tree path steps above name) (content : ByteArray) :
    (tree.put (above ++ [name]) (.file content)).walk (tree.start path) path.steps = .ok (above ++ [name]) := by
  have retained := target.retained content
  have file : Tree.entry? (tree.put (above ++ [name]) (.file content)) (above ++ [name]) =
      some (.file content) := entry?_put_self tree (by simp) _
  rw [target.path_steps, walk_append_eq_ok]
  refine ⟨above, retained.walk target.walk, ?_⟩
  rw [walk_name [] (retained.directory _ target.directory) target.size (by rw [file]; simp)]
  rfl

theorem locate_put (target : IsTarget tree path steps above name) (content : ByteArray) :
    (tree.put (above ++ [name]) (.file content)).locate path = .ok (above ++ [name]) := by
  unfold locate
  rw [target.accepted, (target.retained content).start, target.walk_put, target.noDirectory]
  rfl

theorem readText_put (target : IsTarget tree path steps above name) (text : String) :
    (tree.put (above ++ [name]) (.file text.toUTF8)).readText path = .ok text := by
  have valid : String.fromUTF8? text.toUTF8 = some text := by
    unfold String.fromUTF8?
    rw [String.toUTF8_eq_toByteArray, dif_pos text.isValidUTF8]
    rfl
  have inside : above ++ [name] ≠ [] := by simp
  unfold readText
  rw [target.locate_put]
  simp only [ entry?_put_self tree inside, valid]

end IsTarget

theorem exists_isTarget_of_writeText {path : Path} {text : String}
    (h : tree.writeText path text = .ok after) :
    ∃ steps above name, IsTarget tree path steps above name ∧
      after = tree.put (above ++ [name]) (.file text.toUTF8) := by
  unfold writeText writeFile at h
  split at h
  · cases h
  next place found =>
    cases h
    obtain ⟨steps, above, name, target, rfl⟩ := exists_isTarget found
    exact ⟨steps, above, name, target, rfl⟩

end SwaggerRoutes.Files.Tree
