/-
Lines of TOML that set keys to strings, read back. The main statement is that a document of such lines,
with different keys that need no quotes, holds these keys with these strings and nothing else.
-/
import SwaggerRoutes.Proofs.Toml.Quoted
import SwaggerRoutes.Toml.Table

namespace SwaggerRoutes.Toml

/-! ## Lines -/

/-- A key that needs no quotes. -/
structure BareKey (key : String) : Prop where
  nonempty : key.toList ≠ []
  bare : ∀ c ∈ key.toList, isBareKeyChar c = true

theorem isBareKeyChar_ne {c : Char} (h : isBareKeyChar c = true) :
    c ≠ '"' ∧ c ≠ '\'' ∧ c ≠ ' ' ∧ c ≠ '\t' ∧ c ≠ '#' ∧ c ≠ '\n' ∧ c ≠ '\r' ∧ c ≠ '[' := by
  refine ⟨?_, ?_, ?_, ?_, ?_, ?_, ?_, ?_⟩ <;> rintro rfl <;> exact absurd h (by decide)

theorem skipBlanks_cons {c : Char} (h : isBlank c = false) (rest : List Char) :
    skipBlanks (c :: rest) = c :: rest := by
  simp [skipBlanks, h]

variable {key : String} (bare : BareKey key) (text : String)

include bare in
theorem simpleKey?_append (rest : List Char) :
    simpleKey? (key.toList ++ ' ' :: rest) = some (key, ' ' :: rest) := by
  obtain ⟨nonempty, bare⟩ := bare
  have word : (key.toList ++ ' ' :: rest).takeWhile isBareKeyChar = key.toList := by
    rw [List.takeWhile_append_of_pos bare]
    simp [isBareKeyChar]
  have left : (key.toList ++ ' ' :: rest).dropWhile isBareKeyChar = ' ' :: rest := by
    rw [List.dropWhile_append_of_pos bare]
    simp [isBareKeyChar]
  obtain ⟨c, more, whole⟩ := List.exists_cons_of_ne_nil nonempty
  obtain ⟨quote, apostrophe, -⟩ := isBareKeyChar_ne (bare c (whole ▸ List.mem_cons_self))
  unfold simpleKey?
  split
  next same => rw [whole] at same; cases same; exact absurd rfl quote
  next same => rw [whole] at same; cases same; exact absurd rfl apostrophe
  next => simp [word, left, nonempty]

include bare in
theorem skipBlanks_append (rest : List Char) : skipBlanks (key.toList ++ rest) = key.toList ++ rest := by
  obtain ⟨nonempty, bare⟩ := bare
  obtain ⟨c, more, whole⟩ := List.exists_cons_of_ne_nil nonempty
  obtain ⟨-, -, space, tab, -⟩ := isBareKeyChar_ne (bare c (whole ▸ List.mem_cons_self))
  rw [whole]
  exact skipBlanks_cons (by simp [isBlank, space, tab]) _

include bare in
/-- A key is read up to the equals sign. -/
theorem key?_append (rest : List Char) :
    key? (key.toList ++ ' ' :: '=' :: rest) = some ([key], '=' :: rest) := by
  unfold key? maxDepth keyParts?
  rw [skipBlanks_append bare, simpleKey?_append bare]
  rfl

theorem value?_value (rest : List Char) :
    value? maxDepth (skipBlanks (' ' :: (Written.value text.toList ++ '\n' :: rest))) =
      some (.string text, '\n' :: rest) := by
  have read := string?_value text.toList rest
  obtain ⟨first, more, whole, quoted⟩ : ∃ first more, Written.value text.toList = first :: more ∧
      (first = '"' ∨ first = '\'') := by
    unfold Written.value
    cases Written.form text.toList <;> exact ⟨_, _, rfl, by decide⟩
  rw [whole] at read ⊢
  have simple : value? maxDepth (first :: more ++ '\n' :: rest) = simpleValue? (first :: more ++ '\n' :: rest) := by
    rcases quoted with rfl | rfl <;> rfl
  have skipped : skipBlanks (' ' :: (first :: more ++ '\n' :: rest)) = first :: more ++ '\n' :: rest := by
    rcases quoted with rfl | rfl <;> rfl
  rw [skipped, simple, simpleValue?, read]
  simp

include bare in
theorem skipLines?_append (steps : Nat) (rest : List Char) :
    skipLines? (steps + 1) (key.toList ++ rest) = some (key.toList ++ rest) := by
  have skipped := skipBlanks_append bare rest
  obtain ⟨nonempty, bare⟩ := bare
  obtain ⟨c, more, whole⟩ := List.exists_cons_of_ne_nil nonempty
  obtain ⟨-, -, -, -, comment, feed, ret, -⟩ := isBareKeyChar_ne (bare c (whole ▸ List.mem_cons_self))
  unfold skipLines?
  rw [skipped, whole, List.cons_append]
  split
  next same => cases same; exact absurd rfl comment
  next => rw [lineBreak?_eq_none feed ret]

theorem setKey?_single {root : Entries} (fresh : find? key root = none) (item : Item) :
    setKey? [key] item root = some (put key item root) := by
  simp [setKey?, splitLast, change?, fresh]

include bare in
/-- A line that sets a key is read, and the lines after it. -/
theorem lines?_entry {root : Entries} (fresh : find? key root = none) (steps : Nat) (rest : List Char) :
    lines? (steps + 1) [] root (Written.entry key text ++ rest) =
      lines? steps [] (put key (.string text) root) rest := by
  have whole : Written.entry key text ++ rest =
      key.toList ++ ' ' :: '=' :: (' ' :: (Written.value text.toList ++ '\n' :: rest)) := by
    simp [Written.entry]
  rw [whole, lines?, skipLines?_append bare]
  have name := key?_append bare (' ' :: (Written.value text.toList ++ '\n' :: rest))
  obtain ⟨nonempty, bare⟩ := bare
  obtain ⟨c, more, begins⟩ := List.exists_cons_of_ne_nil nonempty
  obtain ⟨-, -, -, -, -, -, -, bracket⟩ := isBareKeyChar_ne (bare c (begins ▸ List.mem_cons_self))
  simp only [begins, List.cons_append] at name
  simp only [Option.bind_eq_bind, Option.bind_some, begins, List.cons_append]
  split
  next same => cases same
  next same => exact absurd (List.cons.inj same).1 bracket
  next same => exact absurd (List.cons.inj same).1 bracket
  next =>
    simp only [name, Option.bind_some, value?_value, change?, setKey?_single fresh]
    rfl

/-! ## Documents -/

theorem find?_append (name : String) (first second : Entries) :
    find? name (first ++ second) = (find? name first).or (find? name second) := by
  induction first with
  | nil => rfl
  | cons row first ih =>
    rw [List.cons_append, find?, find?, ih]
    split_ifs <;> rfl

theorem put_of_find?_eq_none {name : String} {root : Entries} (fresh : find? name root = none) (item : Item) :
    put name item root = root ++ [(name, item)] := by
  induction root with
  | nil => rfl
  | cons row root ih =>
    rw [find?] at fresh
    split_ifs at fresh with same
    rw [put, if_neg same, ih fresh, List.cons_append]

/-- What lines set that set keys to strings. -/
def stringItems (rows : List (String × String)) : Entries := rows.map fun row => (row.1, .string row.2)

/-- Lines that set different keys to strings. -/
def stringLines (rows : List (String × String)) : List Char :=
  rows.flatMap fun row => Written.entry row.1 row.2

theorem length_le_stringLines (rows : List (String × String)) : rows.length ≤ (stringLines rows).length := by
  induction rows with
  | nil => exact Nat.le_refl 0
  | cons row rows ih =>
    simp only [stringLines, List.flatMap_cons, List.length_append, Written.entry, List.length_cons] at ih ⊢
    omega

theorem lines?_stringLines {rows : List (String × String)} (bare : ∀ row ∈ rows, BareKey row.1)
    (distinct : (rows.map Prod.fst).Nodup) {root : Entries} (fresh : ∀ row ∈ rows, find? row.1 root = none)
    {steps : Nat} (enough : rows.length < steps) :
    lines? steps [] root (stringLines rows) = some (root ++ stringItems rows) := by
  induction rows generalizing root steps with
  | nil =>
    obtain ⟨steps, rfl⟩ := Nat.exists_eq_succ_of_ne_zero (Nat.ne_of_gt enough)
    simp [stringLines, stringItems, lines?, skipLines?, skipBlanks, lineBreak?]
  | cons row rows ih =>
    obtain ⟨steps, rfl⟩ := Nat.exists_eq_succ_of_ne_zero (Nat.ne_of_gt (Nat.zero_lt_of_lt enough))
    rw [List.forall_mem_cons] at bare fresh
    rw [List.map_cons, List.nodup_cons] at distinct
    have still : ∀ other ∈ rows, find? other.1 (put row.1 (.string row.2) root) = none := by
      intro other mem
      have differ : row.1 ≠ other.1 := fun same => distinct.1 (same ▸ List.mem_map_of_mem mem)
      rw [put_of_find?_eq_none fresh.1, find?_append, fresh.2 other mem]
      simp [find?, differ]
    rw [show stringLines (row :: rows) = Written.entry row.1 row.2 ++ stringLines rows from rfl,
      lines?_entry bare.1 row.2 fresh.1, ih bare.2 distinct.2 still (by simpa using enough),
      put_of_find?_eq_none fresh.1]
    simp [stringItems]

theorem toNat_ne_of_isBareKeyChar {c : Char} (h : isBareKeyChar c = true) : c.toNat ≠ 0xFEFF := by
  intro same
  rw [← Char.ofNat_toNat c, same] at h
  exact absurd h (by decide)

/-- Lines that set different keys to strings are read as the keys in order. -/
theorem read?_stringLines {rows : List (String × String)} (bare : ∀ row ∈ rows, BareKey row.1)
    (distinct : (rows.map Prod.fst).Nodup) :
    read? (String.ofList (stringLines rows)) = some (stringItems rows) := by
  have read : lines? ((stringLines rows).length + 1) [] [] (stringLines rows) = some (stringItems rows) :=
    lines?_stringLines bare distinct (fun _ _ => rfl) (Nat.lt_succ_of_le (length_le_stringLines rows))
  unfold read?
  rw [String.toList_ofList]
  cases rows with
  | nil => rfl
  | cons row rows =>
    obtain ⟨nonempty, bare⟩ := bare row List.mem_cons_self
    obtain ⟨c, more, begins⟩ := List.exists_cons_of_ne_nil nonempty
    have noMark := toNat_ne_of_isBareKeyChar (bare c (begins ▸ List.mem_cons_self))
    obtain ⟨left, whole⟩ : ∃ left, stringLines (row :: rows) = c :: left := by
      simp [stringLines, Written.entry, begins]
    rw [whole] at read ⊢
    dsimp only
    rw [if_neg noMark, read]

end SwaggerRoutes.Toml
