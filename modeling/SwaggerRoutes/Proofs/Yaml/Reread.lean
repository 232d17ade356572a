/-
YAML that sets keys to strings, read back. A text of lines, each with a key and a string in any of its forms,
has the tokens of a block mapping, from which the node is built. The main statement is that the text is read
as the mapping that holds these keys with these strings in order, each string either as it is or in quotes.
-/
import SwaggerRoutes.Proofs.Yaml.Scan
import SwaggerRoutes.Text.Blank
import SwaggerRoutes.Yaml.Node

namespace SwaggerRoutes.Yaml

open SwaggerRoutes.Text (hexDigits upperHexDigit mem_hexDigits)

variable {c : Char} {text : List Char}

/-! ## Characters -/

theorem isReadable_of_isPrintable (h : Written.isPrintable c = true) : isReadable c = true := by
  simp only [Written.isPrintable, isReadable, Bool.or_eq_true, Bool.and_eq_true, decide_eq_true_eq] at h ⊢
  rcases h with (((feed | ascii) | low) | high) | wide <;> simp [*]

theorem isReadable_of_isKeyChar (h : isKeyChar c = true) : isReadable c = true := by
  have ascii : 0x20 ≤ c.toNat ∧ c.toNat ≤ 0x7E := by
    simp only [isKeyChar, Char.isAlphanum, Bool.or_eq_true, decide_eq_true_eq] at h
    rcases h with (letter | digit) | rfl
    · have number := Text.toNat_of_isLetter letter
      omega
    · simp only [Char.isDigit, Bool.and_eq_true, decide_eq_true_eq, ge_iff_le, UInt32.le_iff_toNat_le] at digit
      exact ⟨Nat.le_trans (by decide) digit.1, Nat.le_trans digit.2 (by decide)⟩
    · decide
  simp [isReadable, ascii]

theorem isReadable_hexDigits (width n : Nat) : ∀ d ∈ hexDigits upperHexDigit width n, isReadable d = true := by
  have digit : ∀ m < 16, isReadable (upperHexDigit m) = true := by decide
  intro d h
  obtain ⟨m, small, rfl⟩ := mem_hexDigits h
  exact digit m small

theorem isReadable_escape (c : Char) : ∀ d ∈ Written.escape c, isReadable d = true := by
  have digits {letter : Char} (readable : isReadable letter = true) (width : Nat) :
      ∀ d ∈ '\\' :: letter :: hexDigits upperHexDigit width c.toNat, isReadable d = true :=
    List.forall_mem_cons.2 ⟨by decide, List.forall_mem_cons.2 ⟨readable, isReadable_hexDigits width c.toNat⟩⟩
  fun_cases Written.escape c
  case case1 plain =>
    simp only [Bool.and_eq_true] at plain
    simpa using isReadable_of_isPrintable plain.1.1.1
  case case17 => exact digits (by decide) 2
  case case18 => exact digits (by decide) 4
  case case19 => exact digits (by decide) 8
  -- the escapes by a letter
  all_goals exact List.all_eq_true.1 rfl

theorem isReadable_singleBody (readable : ∀ c ∈ text, isReadable c = true) (atBreak : Bool) :
    ∀ d ∈ Written.singleBody atBreak text, isReadable d = true := by
  have space : isReadable ' ' = true := by decide
  have quote : isReadable '\'' = true := by decide
  induction text generalizing atBreak with
  | nil => cases atBreak <;> simp [Written.singleBody, Written.indentation, space]
  | cons c text ih =>
    rw [List.forall_mem_cons] at readable
    rw [Written.singleBody]
    split_ifs <;> grind [Written.indentation]

theorem isReadable_literalBody (readable : ∀ c ∈ text, isReadable c = true) (atBreak : Bool) :
    ∀ d ∈ Written.literalBody atBreak text, isReadable d = true := by
  have space : isReadable ' ' = true := by decide
  induction text generalizing atBreak with
  | nil => simp [Written.literalBody]
  | cons c text ih =>
    rw [List.forall_mem_cons] at readable
    rw [Written.literalBody]
    split_ifs <;> grind [Written.indentation]

theorem isReadable_hints (text : List Char) :
    ∀ d ∈ Written.indentationHint text ++ Written.chompingHint text, isReadable d = true := by
  rw [List.forall_mem_append]
  constructor
  · unfold Written.indentationHint
    split_ifs <;> exact List.all_eq_true.1 rfl
  · rcases chompingHint_cases text with hint | hint | hint <;> rw [hint] <;> exact List.all_eq_true.1 rfl

/-- A string is written in characters that may stand in a document, whatever it holds. -/
theorem isReadable_value (text : List Char) : ∀ d ∈ Written.value text, isReadable d = true := by
  have printed (unescaped : Unescaped text) : ∀ c ∈ text, isReadable c = true :=
    fun c mem => isReadable_of_isPrintable (unescaped.printable c mem)
  have feed : isReadable '\n' = true := by decide
  have ends (quote : Char) (readable : isReadable quote = true) : ∀ d ∈ [quote, '\n'], isReadable d = true := by
    simp [readable, feed]
  unfold Written.value
  cases form : Written.form text with
  | plain =>
    exact List.forall_mem_append.2 ⟨printed (form_plain form).unescaped, by simp [feed]⟩
  | single =>
    have body := isReadable_singleBody (printed (form_single form).1) false
    exact List.forall_mem_append.2 ⟨List.forall_mem_cons.2 ⟨by decide, body⟩, ends '\'' (by decide)⟩
  | double =>
    have body : ∀ d ∈ text.flatMap Written.escape, isReadable d = true :=
      List.forall_mem_flatMap.2 fun c _ => isReadable_escape c
    exact List.forall_mem_append.2 ⟨List.forall_mem_cons.2 ⟨by decide, body⟩, ends '"' (by decide)⟩
  | literal =>
    have hints := List.forall_mem_append.1 (isReadable_hints text)
    have body := isReadable_literalBody (printed (form_literal form).1) true
    have last : ∀ d ∈ if Written.endsWith isBreak text then [] else ['\n'], isReadable d = true := by
      split_ifs <;> simp [feed]
    simp only [List.forall_mem_append, List.forall_mem_cons]
    exact ⟨⟨⟨⟨by decide, hints.1⟩, hints.2⟩, feed, body⟩, last⟩

theorem isReadable_of_mem_entry {key value : String} (plainKey : Scan.PlainKey key)
    (h : c ∈ Written.entry key value) : isReadable c = true := by
  simp only [Written.entry, List.mem_append, List.mem_cons] at h
  rcases h with inKey | rfl | rfl | inValue
  · exact isReadable_of_isKeyChar (plainKey.keyChars c inKey)
  · decide
  · decide
  · exact isReadable_value _ c inValue

/-! ## Tokens -/

/-- The text that sets keys to strings. -/
def stringEntries (rows : List (String × String)) : List Char :=
  rows.flatMap fun row => Written.entry row.1 row.2

/-- The tokens of one key and its string. -/
def rowTokens (row : String × String) : List Token :=
  [.key, .scalar true row.1, .value, Scan.valueToken row.2]

namespace Scan

variable {rest : List Char} {mark : Mark} {key : String} {tokens : List Token} {count : Nat} {indent : Int}
  {outer : List Int} {opening : List Token}

/-- A key and its string are read, and the next line is ready. -/
theorem exists_run?_row {row : String × String} (plainKey : PlainKey row.1) (opened : Opened indent outer opening)
    (begins : BeginsKey rest) {s : Scan} (column : mark.column = 0)
    (isReady : s.ready? = some (atLine (Written.entry row.1 row.2 ++ rest) mark tokens count indent outer))
    (steps : Nat) :
    ∃ (s' : Scan) (after : Mark) (count' : Nat), after.column = 0 ∧ run? (steps + 3) s = run? steps s' ∧
      s'.ready? = some (atLine rest after ((rowTokens row).reverse ++ (opening ++ tokens)) count' 0 [-1]) := by
  have whole : Written.entry row.1 row.2 ++ rest =
      row.1.toList ++ ':' :: ' ' :: (Written.value row.2.toList ++ rest) := by
    simp [Written.entry]
  rw [whole] at isReady
  obtain ⟨between, count', inside, first⟩ := exists_run?_key plainKey opened column isReady (steps + 1)
  obtain ⟨s', after, lineStart, second, next⟩ := exists_run?_value row.2 begins inside
    (.value :: .scalar true row.1 :: .key :: (opening ++ tokens)) count' steps
  exact ⟨s', after, count' + 1, lineStart, first.trans second, next⟩

theorem beginsKey_stringEntries {rows : List (String × String)} (keys : ∀ row ∈ rows, PlainKey row.1) :
    BeginsKey (stringEntries rows) := by
  intro c more whole
  cases rows with
  | nil => cases whole
  | cons row rows =>
    obtain ⟨nonempty, keyChars, -⟩ := keys row List.mem_cons_self
    obtain ⟨d, left, begins⟩ := List.exists_cons_of_ne_nil nonempty
    simp only [stringEntries, List.flatMap_cons, Written.entry, begins, List.cons_append, List.cons.injEq] at whole
    exact keyChars c (begins ▸ whole.1 ▸ List.mem_cons_self)

/-- Once the mapping is open, all further lines are read, and the mapping is closed. -/
theorem run?_rows {rows : List (String × String)} (keys : ∀ row ∈ rows, PlainKey row.1) {s : Scan}
    (column : mark.column = 0)
    (isReady : s.ready? = some (atLine (stringEntries rows) mark tokens count 0 [-1])) {steps : Nat}
    (enough : 3 * rows.length < steps) :
    (run? steps s).map (·.tokens) = some (.blockEnd :: ((rows.flatMap rowTokens).reverse ++ tokens)) := by
  -- line by line: after each, the next line is ready in the open mapping
  induction rows generalizing s mark tokens count steps with
  | nil =>
    obtain ⟨steps, rfl⟩ := Nat.exists_eq_succ_of_ne_zero (Nat.ne_of_gt enough)
    simp only [run?, isReady, Option.bind_eq_bind, Option.bind_some]
    simp [atLine, stringEntries, finish?, unroll, unroll.close, inFlow, push, dropKey?]
  | cons row rows ih =>
    rw [List.length_cons] at enough
    obtain ⟨steps, rfl⟩ : ∃ left, steps = left + 3 := ⟨steps - 3, by omega⟩
    rw [List.forall_mem_cons] at keys
    obtain ⟨s', after, count', lineStart, first, next⟩ :=
      exists_run?_row keys.1 .further (beginsKey_stringEntries keys.2) column isReady steps
    rw [first, ih keys.2 lineStart next (by omega)]
    simp

end Scan

/-- Every key and its string have three tokens that are read, and as many characters at least. -/
theorem length_le_stringEntries {rows : List (String × String)} (keys : ∀ row ∈ rows, Scan.PlainKey row.1) :
    3 * rows.length ≤ (stringEntries rows).length := by
  induction rows with
  | nil => exact Nat.le_refl 0
  | cons row rows ih =>
    rw [List.forall_mem_cons] at keys
    have onward := ih keys.2
    have first := List.length_pos_of_ne_nil keys.1.nonempty
    simp only [stringEntries, List.flatMap_cons, List.length_append, Written.entry, List.length_cons] at onward ⊢
    omega

theorem withoutOrderMark_eq {chars : List Char} (readable : ∀ c ∈ chars, isReadable c = true) :
    withoutOrderMark chars = chars := by
  cases chars with
  | nil => rfl
  | cons c chars =>
    have first := readable c List.mem_cons_self
    have noMark : c.toNat ≠ 0xFEFF := by
      intro same
      rw [eq_ofNat same] at first
      exact absurd first (by decide)
    rw [withoutOrderMark, if_neg noMark]

/-- The tokens of a text that sets keys to strings. -/
theorem tokens?_stringEntries {row : String × String} {rows : List (String × String)}
    (keys : ∀ other ∈ row :: rows, Scan.PlainKey other.1) :
    tokens? (String.ofList (stringEntries (row :: rows))) =
      some (.blockMappingStart :: ((row :: rows).flatMap rowTokens ++ [.blockEnd])) := by
  have readable : ∀ c ∈ stringEntries (row :: rows), isReadable c = true := by
    intro c mem
    obtain ⟨other, among, mem⟩ := List.mem_flatMap.1 mem
    exact isReadable_of_mem_entry (keys other among) mem
  have isReady : Scan.ready? { cursor := ⟨stringEntries (row :: rows), {}⟩ } =
      some (Scan.atLine (stringEntries (row :: rows)) {} [] 0 (-1) []) :=
    Scan.ready?_eq rfl (Scan.skipGap_key (Scan.beginsKey_stringEntries keys) {}) rfl (by simp)
  have enough := length_le_stringEntries keys
  rw [List.length_cons] at enough
  obtain ⟨steps, length⟩ : ∃ steps, (stringEntries (row :: rows)).length + 1 = steps + 3 :=
    ⟨(stringEntries (row :: rows)).length - 2, by omega⟩
  rw [List.forall_mem_cons] at keys
  obtain ⟨s, after, count, lineStart, first, next⟩ :=
    Scan.exists_run?_row keys.1 .first (Scan.beginsKey_stringEntries keys.2) rfl isReady steps
  have left : 3 * rows.length < steps := by omega
  have onward := Scan.run?_rows keys.2 lineStart next left
  unfold tokens?
  rw [String.toList_ofList, withoutOrderMark_eq readable]
  simp only [List.all_eq_true.2 readable, if_true, length, first]
  obtain ⟨last, read, tokens⟩ := Option.map_eq_some_iff.1 onward
  rw [read, Option.map_some, tokens]
  simp

/-! ## Nodes -/

namespace Node

/-- The node of a string that is written as a value. -/
def valueNode (text : String) : Node := .scalar none (Written.form text.toList == .plain) text

/-- The nodes of one key and its string. -/
def rowNodes (row : String × String) : Node × Node := (.scalar none true row.1, valueNode row.2)

variable {s : Source} {rest : List Token}

theorem nodeOrEmpty?_scalar {before : List Token} {isPlain : Bool} {text : String}
    (content : before.contains (.scalar isPlain text) = false) (steps : Nat) :
    nodeOrEmpty? (steps + 2) true true before { s with tokens := .scalar isPlain text :: rest } =
      some (.scalar none isPlain text, { s with tokens := rest }) := by
  rw [nodeOrEmpty?]
  simp only [emptyBefore, Source.next?, List.head?_cons, content]
  rfl

theorem blockValue?_value (text : String) (steps : Nat) :
    blockValue? (steps + 3) { s with tokens := .value :: Scan.valueToken text :: rest } =
      some (valueNode text, { s with tokens := rest }) := by
  rw [blockValue?]
  exact nodeOrEmpty?_scalar (by simp) steps

/-- The entries of a mapping are read one by one, up to its end. -/
theorem blockEntries?_rows (rows : List (String × String)) {steps : Nat} (enough : rows.length + 3 < steps) :
    blockEntries? steps { s with tokens := rows.flatMap rowTokens ++ .blockEnd :: rest } =
      some (rows.map rowNodes, { s with tokens := rest }) := by
  induction rows generalizing steps with
  | nil =>
    obtain ⟨steps, rfl⟩ := Nat.exists_eq_succ_of_ne_zero (Nat.ne_of_gt (Nat.zero_lt_of_lt enough))
    rfl
  | cons row rows ih =>
    obtain ⟨steps, rfl⟩ : ∃ left, steps = left + 4 := ⟨steps - 4, by omega⟩
    have left : rows.length + 3 < steps + 3 := by simpa using Nat.lt_of_succ_lt_succ enough
    have tokens : (row :: rows).flatMap rowTokens ++ .blockEnd :: rest =
        .key :: .scalar true row.1 :: .value :: Scan.valueToken row.2 ::
          (rows.flatMap rowTokens ++ .blockEnd :: rest) := rfl
    have key (others : List Token) := @nodeOrEmpty?_scalar s others [.key, .value, .blockEnd] true row.1
      (by simp) (steps + 1)
    have value := @blockValue?_value s (rows.flatMap rowTokens ++ .blockEnd :: rest) row.2 steps
    rw [tokens, blockEntries?]
    simp only [Source.next?, Source.drop, List.head?_cons, List.drop_succ_cons, List.drop_zero,
      Option.bind_eq_bind, key, Option.bind_some, value, ih left]
    rfl

theorem length_le_rowTokens (rows : List (String × String)) : rows.length ≤ (rows.flatMap rowTokens).length := by
  induction rows with
  | nil => exact Nat.le_refl 0
  | cons row rows ih =>
    simp only [List.flatMap_cons, List.length_append, List.length_cons, rowTokens]
    omega

/-- The document of a block mapping that is open from the first token to the last. -/
theorem document?_rows (rows : List (String × String)) :
    document? (.blockMappingStart :: (rows.flatMap rowTokens ++ [.blockEnd])) =
      some (some (.mapping none (rows.map rowNodes))) := by
  have length := length_le_rowTokens rows
  have entries := @blockEntries?_rows { tokens := [], handles := standardHandles } [] rows
    (4 * ((rows.flatMap rowTokens ++ [Token.blockEnd]).length + 1) + 3) (by simp only [List.length_append]; omega)
  generalize rows.flatMap rowTokens ++ [Token.blockEnd] = tokens at entries ⊢
  unfold document?
  simp only [Bool.false_eq_true, if_false, List.length_cons, Option.bind_eq_bind]
  rw [node?]
  simp [Source.next?, Source.drop, properties?, entries, under]

/-- A text that sets keys to strings is read as the mapping of these keys to these strings. -/
theorem read?_stringEntries {row : String × String} {rows : List (String × String)}
    (keys : ∀ other ∈ row :: rows, Scan.PlainKey other.1) :
    read? (String.ofList (stringEntries (row :: rows))) =
      some (some (.mapping none ((row :: rows).map rowNodes))) := by
  rw [read?, tokens?_stringEntries keys, Option.bind_some, document?_rows]

end Node

end SwaggerRoutes.Yaml
