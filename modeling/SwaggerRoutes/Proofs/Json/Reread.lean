/-
The indented form of a document is read back. A string literal gives its text back whatever
characters it holds; a list of entries gives the entries back if each can be read whatever follows it;
and so, level by level, a value does that holds no number and no object with one name twice. Numbers
are left out because reading does not keep every one of them.
-/
import SwaggerRoutes.Json.Reader
import SwaggerRoutes.Json.Writer
import Mathlib.Data.List.Nodup

namespace SwaggerRoutes.Json

open SwaggerRoutes.Text

/-! ## Strings -/

theorem hex4?_hexDigits {n : Nat} (h : n < 0x10000) :
    ∃ a b c d, hexDigits lowerHexDigit 4 n = [a, b, c, d] ∧ hex4? a b c d = some n := by
  refine ⟨_, _, _, _, rfl, ?_⟩
  have digits := readHex?_hexDigits hexValue?_lowerHexDigit 4 n [] 0
  rw [List.append_nil, Nat.mod_eq_of_lt h, Nat.mul_zero, Nat.zero_add] at digits
  exact congrArg (Option.map Prod.fst) digits

theorem stringBody_letter {letter c : Char} (stands : unescape? letter = some c) (plain : letter ≠ 'u')
    (rest : List Char) :
    stringBody ('\\' :: letter :: rest) = (stringBody rest).map fun (text, rest) => (c :: text, rest) := by
  rw [stringBody.eq_def]
  simp only [if_neg plain, stands]

/-- The escape of a character is read as the character. -/
theorem stringBody_escape (c : Char) (rest : List Char) :
    stringBody (escape c ++ rest) = (stringBody rest).map fun (text, rest) => (c :: text, rest) := by
  fun_cases escape c
  case case8 quote backslash feed ret tab back form control =>
    obtain ⟨h₁, h₂, h₃, h₄, digits, value⟩ := hex4?_hexDigits (Nat.lt_trans control (by decide))
    have low : ¬ (0xD800 ≤ c.toNat ∧ c.toNat < 0xDC00) := by omega
    have low' : ¬ (0xDC00 ≤ c.toNat ∧ c.toNat < 0xE000) := by omega
    simp only [digits, List.cons_append, List.nil_append, stringBody, value, if_true, if_neg low,
      if_neg low', Char.ofNat_toNat]
  case case9 quote backslash feed ret tab back form control =>
    rw [List.singleton_append, stringBody.eq_5, if_neg (by simp [control, backslash])]
    · exact fun h => quote h
    · exact fun _ _ h => absurd h backslash
  -- the seven escapes by a letter
  all_goals
    subst_vars
    exact stringBody_letter rfl (by decide) rest

/-- The inside of a literal is read up to the quote that ends it. -/
theorem stringBody_escapes (text rest : List Char) :
    stringBody (text.flatMap escape ++ '"' :: rest) = some (text, rest) := by
  induction text with
  | nil => rfl
  | cons c text ih => rw [List.flatMap_cons, List.append_assoc, stringBody_escape, ih]; rfl

theorem quoted_append (text : String) (rest : List Char) :
    quoted text ++ rest = '"' :: (text.toList.flatMap escape ++ '"' :: rest) := by
  simp [quoted]

/-! ## White space -/

theorem skipSpace_of_not {c : Char} (h : isSpace c = false) (rest : List Char) :
    skipSpace (c :: rest) = c :: rest := by
  rw [skipSpace, List.dropWhile_cons_of_neg (by simp [h])]

theorem skipSpace_append {gap : List Char} (blank : ∀ c ∈ gap, isSpace c = true) (rest : List Char) :
    skipSpace (gap ++ rest) = skipSpace rest := by
  rw [skipSpace, List.dropWhile_append_of_pos blank]; rfl

theorem isSpace_of_mem_newLine (depth : Nat) {c : Char} (h : c ∈ Value.newLine depth) : isSpace c = true := by
  rcases List.mem_cons.1 h with rfl | h
  · rfl
  · rw [List.eq_of_mem_replicate h]; rfl

/-! ## Entries -/

/-- What is written for an entry begins with no white space and not like the end of the list, and it
is read as the entry whatever follows. -/
structure ReadsBack {α : Type} (entry : List Char → Option (α × List Char)) (close : Char)
    (write : α → List Char) (x : α) : Prop where
  begins : ∃ c tail, write x = c :: tail ∧ isSpace c = false ∧ c ≠ close
  reads : ∀ rest, entry (write x ++ rest) = some (x, rest)

section Entries

variable {α : Type} {entry : List Char → Option (α × List Char)} {close : Char}
  {write : α → List Char} {gap last : List Char}

theorem ReadsBack.skipSpace {x : α} (h : ReadsBack entry close write x) (rest : List Char) :
    skipSpace (write x ++ rest) = write x ++ rest := by
  obtain ⟨c, tail, head, other, -⟩ := h.begins
  rw [head, List.cons_append, skipSpace_of_not other]

/-- The entries after the first, each behind a comma and a gap. -/
def further (write : α → List Char) (gap : List Char) (xs : List α) : List Char :=
  xs.flatMap fun x => ',' :: (gap ++ write x)

theorem length_le_further (write : α → List Char) (gap : List Char) (xs : List α) :
    xs.length ≤ (further write gap xs).length := by
  induction xs with
  | nil => exact Nat.le_refl _
  | cons x xs ih =>
    have step : further write gap (x :: xs) = ',' :: (gap ++ write x) ++ further write gap xs := rfl
    rw [step, List.length_append, List.length_cons, List.length_cons]
    omega

/-- Entries with commas between them are read up to the closing character. -/
theorem entries_further (blank : ∀ c ∈ gap, isSpace c = true) (blank' : ∀ c ∈ last, isSpace c = true)
    (solid : isSpace close = false) (other : close ≠ ',') {xs : List α} :
    ∀ {x : α} {steps : Nat} (rest : List Char), (∀ y ∈ x :: xs, ReadsBack entry close write y) →
      xs.length < steps →
      entries entry close steps (write x ++ (further write gap xs ++ (last ++ close :: rest))) =
        some (x :: xs, rest) := by
  induction xs with
  | nil =>
    intro x steps rest back enough
    obtain ⟨steps, rfl⟩ := Nat.exists_eq_add_of_lt enough
    have ends : further write gap [] ++ (last ++ close :: rest) = last ++ close :: rest := rfl
    rw [ends, entries, (back x List.mem_cons_self).reads]
    simp only [skipSpace_append blank', skipSpace_of_not solid, if_true]
  | cons next xs ih =>
    intro x steps rest back enough
    obtain ⟨steps, rfl⟩ : ∃ n, steps = n + 1 := ⟨steps - 1, by simp at enough; omega⟩
    rw [List.forall_mem_cons] at back
    have comma : further write gap (next :: xs) ++ (last ++ close :: rest) =
        ',' :: (gap ++ (write next ++ (further write gap xs ++ (last ++ close :: rest)))) := by
      simp [further]
    have tail := ih rest back.2 (Nat.lt_of_succ_lt_succ enough)
    rw [comma, entries, back.1.reads]
    simp only [skipSpace_of_not (show isSpace ',' = false from rfl), if_neg (Ne.symm other), if_true,
      skipSpace_append blank, (back.2 next List.mem_cons_self).skipSpace, tail, Option.map_some]

/-- A container is read back from its entries. -/
theorem container_further (blank : ∀ c ∈ gap, isSpace c = true) (blank' : ∀ c ∈ last, isSpace c = true)
    (solid : isSpace close = false) (other : close ≠ ',') {x : α} {xs : List α}
    (back : ∀ y ∈ x :: xs, ReadsBack entry close write y) (rest : List Char) :
    container entry close (gap ++ (write x ++ (further write gap xs ++ (last ++ close :: rest)))) =
      some (x :: xs, rest) := by
  have first := back x List.mem_cons_self
  obtain ⟨c, tail, head, -, open_⟩ := first.begins
  have steps : xs.length < (tail ++ (further write gap xs ++ (last ++ close :: rest))).length + 1 := by
    have bound := length_le_further write gap xs
    simp only [List.length_append]; omega
  have read := entries_further blank blank' solid other rest back steps
  rw [container, skipSpace_append blank, first.skipSpace]
  rw [head, List.cons_append] at read ⊢
  simp only [if_neg open_, read]

theorem container_empty (solid : isSpace close = false) (rest : List Char) :
    container entry close (close :: rest) = some ([], rest) := by
  rw [container, skipSpace_of_not solid]
  simp only [if_true]

end Entries

/-! ## Members -/

theorem put_of_notMem {name : String} {members : List (String × Value)}
    (fresh : name ∉ members.map Prod.fst) (value : Value) :
    put name value members = members ++ [(name, value)] := by
  fun_induction put name value members with
  | case1 => rfl
  | case2 => simp at fresh
  | case3 key old rest other ih =>
    rw [List.map_cons, List.mem_cons, not_or] at fresh
    rw [ih fresh.2, List.cons_append]

/-- Members with different names are collected as they are. -/
theorem collect_of_nodup {members : List (String × Value)} (nodup : (members.map Prod.fst).Nodup) :
    collect members = members := by
  have step : ∀ (rest done : List (String × Value)), ((done ++ rest).map Prod.fst).Nodup →
      rest.foldl (fun done m => put m.1 m.2 done) done = done ++ rest := by
    intro rest
    induction rest with
    | nil => intro done _; rw [List.append_nil]; rfl
    | cons m rest ih =>
      intro done nodup
      have fresh : m.1 ∉ done.map Prod.fst := by
        intro mem
        rw [List.map_append, List.nodup_append] at nodup
        exact nodup.2.2 _ mem _ List.mem_cons_self rfl
      rw [List.foldl_cons, put_of_notMem fresh, ih]
      · rw [List.append_assoc]; rfl
      · rw [List.append_assoc]; exact nodup
  exact step members [] nodup

/-! ## Values -/

namespace Value

/-- The value nests at most `depth` levels, and it holds no number and no object with one name twice. -/
def Legible : (depth : Nat) → Value → Prop
  | _, .null => True
  | _, .bool _ => True
  | _, .string _ => True
  | depth + 1, .array items => ∀ item ∈ items, item.Legible depth
  | depth + 1, .object members =>
    (members.map Prod.fst).Nodup ∧ ∀ member ∈ members, member.2.Legible depth
  | _, _ => False

/-- What is written for a member. -/
def indentedMember (depth : Nat) (m : String × Value) : List Char :=
  quoted m.1 ++ ':' :: ' ' :: m.2.indented depth

theorem indentedItems_eq (depth : Nat) (items : List Value) :
    indentedItems depth items =
      further (indented (depth + 1)) (newLine (depth + 1)) items ++ (newLine depth ++ [']']) := by
  induction items with
  | nil => rfl
  | cons item items ih => simp [indentedItems, ih, further]

theorem indentedMembers_eq (depth : Nat) (members : List (String × Value)) :
    indentedMembers depth members =
      further (indentedMember (depth + 1)) (newLine (depth + 1)) members
        ++ (newLine depth ++ ['\x7d']) := by
  induction members with
  | nil => rfl
  | cons m members ih => simp [indentedMembers, ih, further, indentedMember]

/-- No value begins with white space or like the end of a container. -/
theorem Legible.begins {depth : Nat} {value : Value} (legible : value.Legible depth) (indent : Nat) :
    ∃ c tail, value.indented indent = c :: tail ∧ isSpace c = false ∧ c ≠ ']' := by
  cases value with
  | null => exact ⟨_, _, rfl, rfl, by decide⟩
  | bool b => cases b <;> exact ⟨_, _, rfl, rfl, by decide⟩
  | number n => cases depth <;> cases legible
  | string text => exact ⟨_, _, rfl, rfl, by decide⟩
  | array items => cases items <;> exact ⟨_, _, rfl, rfl, by decide⟩
  | object members => cases members <;> exact ⟨_, _, rfl, rfl, by decide⟩

/-- The part of the reader for what holds no other value does not depend on the depth. -/
theorem value?_eq_scalar? {depth : Nat} {c : Char} (array : c ≠ '[') (object : c ≠ '\x7b')
    (rest : List Char) : value? depth (c :: rest) = scalar? (c :: rest) := by
  cases depth with
  | zero => rfl
  | succ depth =>
    unfold value?
    split
    · next same => exact absurd (List.cons.inj same).1 array
    · next same => exact absurd (List.cons.inj same).1 object
    · rfl

theorem value?_quoted (depth : Nat) (text : String) (rest : List Char) :
    value? depth (quoted text ++ rest) = some (.string text, rest) := by
  rw [quoted_append, value?_eq_scalar? (by decide) (by decide), scalar?, stringBody_escapes,
    Option.map_some]
  simp only [String.ofList_toList]

theorem readsBack_member {depth indent : Nat} {m : String × Value}
    (reads : ∀ rest, value? depth (m.2.indented indent ++ rest) = some (m.2, rest))
    (begins : ∃ c tail, m.2.indented indent = c :: tail ∧ isSpace c = false ∧ c ≠ ']') :
    ReadsBack (member (value? depth)) '\x7d' (indentedMember indent) m where
  begins := ⟨_, _, rfl, rfl, by decide⟩
  reads rest := by
    obtain ⟨c, tail, head, other, -⟩ := begins
    have text : indentedMember indent m ++ rest = '"' :: (m.1.toList.flatMap escape ++
        '"' :: (':' :: ([' '] ++ (m.2.indented indent ++ rest)))) := by
      rw [indentedMember, List.append_assoc, quoted_append]; rfl
    have gap : skipSpace ([' '] ++ (m.2.indented indent ++ rest)) = m.2.indented indent ++ rest := by
      rw [skipSpace_append (by simp [isSpace]), head, List.cons_append, skipSpace_of_not other]
    rw [text, member, stringBody_escapes]
    simp only [skipSpace_of_not (show isSpace ':' = false from rfl), gap, reads, Option.map_some,
      String.ofList_toList]

/-- The indented form of a value is read as the value, whatever follows. -/
theorem value?_indented : ∀ (depth : Nat) (value : Value), value.Legible depth →
    ∀ (indent : Nat) (rest : List Char), value? depth (value.indented indent ++ rest) = some (value, rest)
  | depth, .null, _, indent, rest => value?_eq_scalar? (by decide) (by decide) _
  | depth, .bool true, _, indent, rest => value?_eq_scalar? (by decide) (by decide) _
  | depth, .bool false, _, indent, rest => value?_eq_scalar? (by decide) (by decide) _
  | depth, .string text, _, indent, rest => value?_quoted depth text rest
  | 0, .number _, legible, _, _ => legible.elim
  | _ + 1, .number _, legible, _, _ => legible.elim
  | 0, .array _, legible, _, _ => legible.elim
  | 0, .object _, legible, _, _ => legible.elim
  | depth + 1, .array [], _, indent, rest => by
    have text : (Value.array []).indented indent ++ rest = '[' :: ']' :: rest := by
      simp only [indented]; rfl
    rw [text, value?, container_empty rfl]; rfl
  | depth + 1, .array (item :: items), legible, indent, rest => by
    have back : ∀ y ∈ item :: items, ReadsBack (value? depth) ']' (indented (indent + 1)) y :=
      fun y hy => ⟨(legible y hy).begins _, value?_indented depth y (legible y hy) _⟩
    have read := container_further (fun _ => isSpace_of_mem_newLine (indent + 1))
      (fun _ => isSpace_of_mem_newLine indent) rfl (by decide) back rest
    have text : (Value.array (item :: items)).indented indent ++ rest =
        '[' :: (newLine (indent + 1) ++ (item.indented (indent + 1) ++
          (further (indented (indent + 1)) (newLine (indent + 1)) items ++
            (newLine indent ++ ']' :: rest)))) := by
      simp only [indented, indentedItems_eq, List.append_assoc, List.cons_append, List.nil_append]
    rw [text, value?, read]; rfl
  | depth + 1, .object [], _, indent, rest => by
    have text : (Value.object []).indented indent ++ rest = '\x7b' :: '\x7d' :: rest := by
      simp only [indented]; rfl
    rw [text, value?, container_empty rfl]; rfl
  | depth + 1, .object (m :: members), ⟨nodup, legible⟩, indent, rest => by
    have back : ∀ y ∈ m :: members,
        ReadsBack (member (value? depth)) '\x7d' (indentedMember (indent + 1)) y := fun y hy =>
      readsBack_member (value?_indented depth y.2 (legible y hy) _) ((legible y hy).begins _)
    have read := container_further (fun _ => isSpace_of_mem_newLine (indent + 1))
      (fun _ => isSpace_of_mem_newLine indent) rfl (by decide) back rest
    have text : (Value.object (m :: members)).indented indent ++ rest =
        '\x7b' :: (newLine (indent + 1) ++ (indentedMember (indent + 1) m ++
          (further (indentedMember (indent + 1)) (newLine (indent + 1)) members ++
            (newLine indent ++ '\x7d' :: rest)))) := by
      obtain ⟨name, value⟩ := m
      simp only [indented, indentedMember, indentedMembers_eq, List.append_assoc, List.cons_append,
        List.nil_append]
    rw [text, value?, read, Option.map_some]
    simp only [collect_of_nodup nodup]

/-- The indented form of a document is read as the document. -/
theorem read?_indentedText {value : Value} (legible : value.Legible maxDepth) :
    read? value.indentedText = some value := by
  obtain ⟨c, tail, head, other, -⟩ := legible.begins 0
  have start : skipSpace (value.indented 0) = value.indented 0 := by
    rw [head, skipSpace_of_not other]
  have read := value?_indented maxDepth value legible 0 []
  rw [List.append_nil] at read
  rw [read?, indentedText, String.toList_ofList, start, read]
  rfl

end Value

end SwaggerRoutes.Json
