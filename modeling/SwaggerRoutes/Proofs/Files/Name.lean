/-
Paths that are put together from names. A name stands for an entry of a directory: it is not empty,
holds no slash and is neither of the two dots. Names that are joined one after the other are the
components of the path that they make, and its steps go down through them.
-/
import SwaggerRoutes.Files.Path
import SwaggerRoutes.Proofs.Text.Pieces
import Mathlib.Data.List.Basic

namespace SwaggerRoutes.Files.Path

open SwaggerRoutes.Text

/-! ## Names -/

/-- A text that names an entry of a directory. -/
structure IsName (name : String) : Prop where
  nonempty : name ≠ ""
  noSlash : '/' ∉ name.toList
  notSame : name ≠ "."
  notAbove : name ≠ ".."

theorem IsName.toList_ne_nil {name : String} (isName : IsName name) : name.toList ≠ [] :=
  fun empty => isName.nonempty (String.toList_injective empty)

theorem IsName.step? {name : String} (isName : IsName name) : step? name.toList = some (.name name) := by
  have same : name.toList ≠ ['.'] := fun h => isName.notSame (String.toList_injective h)
  have above : name.toList ≠ ['.', '.'] := fun h => isName.notAbove (String.toList_injective h)
  unfold Path.step?
  rw [if_neg (by simp [isName.toList_ne_nil, same]), if_neg above, String.ofList_toList]

theorem IsName.head?_ne {name : String} (isName : IsName name) : name.toList.head? ≠ some '/' :=
  fun head => isName.noSlash (List.mem_of_mem_head? head)

theorem IsName.getLast?_ne {name : String} (isName : IsName name) : name.toList.getLast? ≠ some '/' :=
  fun last => isName.noSlash (List.mem_of_getLast? last)

/-! ## Joining -/

variable {path : Path} {more : String}

theorem join_empty (relative : more.toList.head? ≠ some '/') : (⟨""⟩ : Path).join more = ⟨more⟩ := by
  unfold join
  rw [if_neg relative, if_pos (by decide)]
  simp

/-- After a path that does not end with a slash, one is put between. -/
theorem toList_join (relative : more.toList.head? ≠ some '/') (nonempty : path.text.toList ≠ [])
    (unclosed : path.text.toList.getLast? ≠ some '/') :
    (path.join more).text.toList = path.text.toList ++ '/' :: more.toList := by
  unfold join
  rw [if_neg relative, if_neg (by simp [nonempty, unclosed])]
  simp

/-- A relative path is put after the same text, whatever it is. -/
theorem exists_join_eq (path : Path) :
    ∃ front : String, ∀ {more : String}, more.toList.head? ≠ some '/' → path.join more = ⟨front ++ more⟩ := by
  by_cases closed : path.text.toList.isEmpty || path.text.toList.getLast? = some '/'
  · refine ⟨path.text, fun relative => ?_⟩
    unfold join
    rw [if_neg relative, if_pos closed]
  · refine ⟨path.text ++ "/", fun relative => ?_⟩
    unfold join
    rw [if_neg relative, if_neg closed]

/-- A relative path goes on from where the first one leads. -/
theorem steps_join (relative : more.toList.head? ≠ some '/') :
    (path.join more).steps = path.steps ++ (Path.mk more).steps := by
  by_cases empty : path.text.toList = []
  · obtain rfl : path = ⟨""⟩ := by
      cases path; exact congrArg Path.mk (String.toList_injective empty)
    rw [join_empty relative]
    rfl
  by_cases closed : path.text.toList.getLast? = some '/'
  · obtain ⟨front, parts⟩ := List.getLast?_eq_some_iff.1 closed
    have text : (path.join more).text.toList = front ++ '/' :: more.toList := by
      unfold join
      rw [if_neg relative, if_pos (by simp [closed]), String.toList_append, parts]
      simp
    unfold steps components
    rw [text, parts, pieces_append_cons, pieces_append_cons, List.filterMap_append,
      List.filterMap_append]
    simp [pieces, step?]
  · unfold steps components
    rw [toList_join relative empty closed, pieces_append_cons, List.filterMap_append]

theorem isAbsolute_join (relative : more.toList.head? ≠ some '/') :
    (path.join more).isAbsolute = path.isAbsolute := by
  by_cases empty : path.text.toList = []
  · obtain rfl : path = ⟨""⟩ := by
      cases path; exact congrArg Path.mk (String.toList_injective empty)
    rw [join_empty relative]
    simpa [isAbsolute] using relative
  · obtain ⟨c, rest, text⟩ := List.exists_cons_of_ne_nil empty
    have head : ∃ rest', (path.join more).text.toList = c :: rest' := by
      unfold join
      rw [if_neg relative]
      split <;> simp [text]
    obtain ⟨rest', text'⟩ := head
    unfold isAbsolute
    rw [text, text']
    rfl

/-! ## Joining names -/

/-- The path with one slash between names. -/
def ofNames (names : List String) : Path := ⟨joinStrings "/" names⟩

theorem toList_foldl_join {names : List String} (isName : ∀ name ∈ names, IsName name)
    (nonempty : path.text.toList ≠ []) (unclosed : path.text.toList.getLast? ≠ some '/') :
    (names.foldl join path).text.toList = path.text.toList ++ names.flatMap ('/' :: ·.toList) := by
  induction names generalizing path with
  | nil => simp
  | cons name names ih =>
    rw [List.forall_mem_cons] at isName
    have text : (path.join name).text.toList = path.text.toList ++ '/' :: name.toList :=
      toList_join isName.1.head?_ne nonempty unclosed
    rw [List.foldl_cons, ih isName.2, text]
    · simp
    · rw [text]; simp
    · rw [text, List.getLast?_append_cons, List.getLast?_cons_of_ne_nil isName.1.toList_ne_nil]
      exact isName.1.getLast?_ne

theorem head?_ofNames_ne {names : List String} (isName : ∀ name ∈ names, IsName name) :
    (ofNames names).text.toList.head? ≠ some '/' := by
  have slash : "/".toList = ['/'] := by decide
  unfold ofNames joinStrings
  rw [String.toList_ofList, slash]
  cases names with
  | nil => simp [joined]
  | cons name names =>
    rw [List.forall_mem_cons] at isName
    rw [List.map_cons, joined_cons_eq, List.head?_append_of_ne_nil _ isName.1.toList_ne_nil]
    exact isName.1.head?_ne

/-- Names are joined to a path one after the other, or all at once. -/
theorem foldl_join {names : List String} (nonempty : names ≠ []) (isName : ∀ name ∈ names, IsName name)
    (path : Path) : names.foldl join path = path.join (ofNames names).text := by
  obtain ⟨front, joins⟩ := exists_join_eq path
  obtain ⟨name, names, rfl⟩ := List.exists_cons_of_ne_nil nonempty
  have relative := head?_ofNames_ne isName
  rw [List.forall_mem_cons] at isName
  have text : (path.join name).text.toList = front.toList ++ name.toList := by
    rw [joins isName.1.head?_ne, String.toList_append]
  have texts : ((name :: names).foldl join path).text.toList =
      (path.join (ofNames (name :: names)).text).text.toList := by
    have slash : "/".toList = ['/'] := by decide
    rw [List.foldl_cons, toList_foldl_join isName.2, text, joins relative]
    · unfold ofNames joinStrings
      rw [String.toList_append, String.toList_ofList, slash, List.map_cons, joined_cons_eq,
        List.flatMap_map, List.append_assoc]
      rfl
    · rw [text]; simp [isName.1.toList_ne_nil]
    · rw [text, List.getLast?_append_of_ne_nil _ isName.1.toList_ne_nil]
      exact isName.1.getLast?_ne
  exact congrArg Path.mk (String.toList_injective texts)

theorem foldl_join_empty {names : List String} (nonempty : names ≠ [])
    (isName : ∀ name ∈ names, IsName name) : names.foldl join ⟨""⟩ = ofNames names := by
  rw [foldl_join nonempty isName, join_empty (head?_ofNames_ne isName)]

theorem components_ofNames {names : List String} (nonempty : names ≠ [])
    (isName : ∀ name ∈ names, IsName name) : (ofNames names).components = names.map String.toList := by
  have slash : "/".toList = ['/'] := by decide
  unfold components ofNames joinStrings
  rw [String.toList_ofList, slash, pieces_joined (by simpa using nonempty)]
  intro part hp
  obtain ⟨name, hname, rfl⟩ := List.mem_map.1 hp
  exact (isName name hname).noSlash

theorem steps_ofNames {names : List String} (nonempty : names ≠ [])
    (isName : ∀ name ∈ names, IsName name) : (ofNames names).steps = names.map .name := by
  unfold steps
  rw [components_ofNames nonempty isName, List.filterMap_map, ← List.filterMap_eq_map]
  apply List.filterMap_congr
  intro name h
  exact (isName name h).step?

end SwaggerRoutes.Files.Path
