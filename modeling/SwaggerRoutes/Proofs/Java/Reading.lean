/-
Reading a string literal as the Java language does, in two steps. First Unicode escapes are translated,
which are recognised by the number of backslashes before them; then the literal is read from the
translated characters, of which each still knows how it was written. The main statement is that the
literal of a text is read as the text whatever follows it, and that reading takes nothing of what
follows.
-/
import SwaggerRoutes.Proofs.Java.Literal

namespace SwaggerRoutes.Java

open SwaggerRoutes.Text

/-! ## Unicode escapes -/

/-- A character after the translation of Unicode escapes: its number, which may be that of a surrogate,
and the characters that write it. -/
structure InputChar where
  code : Nat
  written : List Char
deriving DecidableEq, Repr

/-- The number that a Unicode escape writes after its backslash, and how many characters it takes: at
least one `u`, then four digits. -/
def unicodeEscape? (text : List Char) : Option (Nat × Nat) :=
  let marks := (text.takeWhile (· = 'u')).length
  if marks = 0 then none
  else (readHex? 4 (text.drop marks) 0).map fun (code, _) => (code, marks + 4)

/-- A text with its Unicode escapes translated. A backslash begins one only if an even number of
backslashes stands right before it; `odd` says that their number is odd. The next `skip` characters
belong to an escape that is translated already. -/
def translate : (skip : Nat) → (odd : Bool) → List Char → List InputChar
  | _, _, [] => []
  | skip + 1, odd, _ :: rest => translate skip odd rest
  | 0, odd, c :: rest =>
    if c = '\\' && !odd then
      match unicodeEscape? rest with
      | some (code, size) => ⟨code, c :: rest.take size⟩ :: translate size false rest
      | none => ⟨c.toNat, [c]⟩ :: translate 0 true rest
    else ⟨c.toNat, [c]⟩ :: translate 0 false rest

theorem translate_skip (skip : Nat) (odd : Bool) (text : List Char) :
    translate skip odd text = translate 0 odd (text.drop skip) := by
  induction skip generalizing text with
  | zero => rfl
  | succ skip ih =>
    cases text with
    | nil => rfl
    | cons c rest => exact ih rest

/-- Translation loses nothing of how a text is written. -/
theorem flatMap_written_translate (skip : Nat) (odd : Bool) (text : List Char) :
    (translate skip odd text).flatMap InputChar.written = text.drop skip := by
  induction text generalizing skip odd with
  | nil => simp [translate]
  | cons c rest ih =>
    cases skip with
    | succ skip => exact ih skip odd
    | zero =>
      rw [translate]
      split
      · split
        next code size escape => rw [List.flatMap_cons, ih, List.cons_append, List.take_append_drop]; rfl
        next => rw [List.flatMap_cons, ih]; rfl
      · rw [List.flatMap_cons, ih]; rfl

/-! ## String literals -/

/-- The number of the character that stands for another one after a backslash. -/
def escapeValue? (code : Nat) : Option Nat :=
  (escapeLetters.find? fun letter => letter.1.toNat = code).map fun letter => letter.2.toNat

/-- The numbers of the characters up to the quote that ends a literal, and what follows the quote;
`escaped` says that a backslash stands before the next character. A literal ends on the line on which it
begins. -/
def readInside? : (escaped : Bool) → List InputChar → Option (List Nat × List InputChar)
  | _, [] => none
  | true, c :: rest =>
    match escapeValue? c.code with
    | some value => (readInside? false rest).map fun (values, rest) => (value :: values, rest)
    | none => none
  | false, c :: rest =>
    if c.code = '"'.toNat then some ([], rest)
    else if c.code = '\n'.toNat ∨ c.code = '\r'.toNat then none
    else if c.code = '\\'.toNat then readInside? true rest
    else (readInside? false rest).map fun (values, rest) => (c.code :: values, rest)

/-- The value of the literal that a text begins with, as the numbers of its characters, and the text
after the literal. -/
def readLiteral? (text : List Char) : Option (List Nat × List Char) :=
  match translate 0 false text with
  | [] => none
  | c :: rest =>
    if c.code = '"'.toNat then
      (readInside? false rest).map fun (values, rest) => (values, rest.flatMap InputChar.written)
    else none

/-! ## What is written for one character -/

theorem toNat_lt_of_isControl {c : Char} (h : isControl c = true) : c.toNat < 0x10000 := by
  simp only [isControl, Bool.or_eq_true, Bool.and_eq_true, decide_eq_true_eq] at h
  omega

theorem unicodeEscape?_cons_of_ne {c : Char} (h : c ≠ 'u') (rest : List Char) :
    unicodeEscape? (c :: rest) = none := by
  simp [unicodeEscape?, h]

/-- A backslash and a character that is no `u` are no Unicode escape, and the next one begins anew. -/
theorem translate_letter {letter : Char} (h : letter ≠ 'u') (rest : List Char) :
    translate 0 false ('\\' :: letter :: rest) =
      ⟨'\\'.toNat, ['\\']⟩ :: ⟨letter.toNat, [letter]⟩ :: translate 0 false rest := by
  rw [translate]
  simp only [unicodeEscape?_cons_of_ne h, translate]
  simp

theorem translate_cons_of_ne {c : Char} (h : c ≠ '\\') (rest : List Char) :
    translate 0 false (c :: rest) = ⟨c.toNat, [c]⟩ :: translate 0 false rest := by
  simp [translate, h]

theorem lowerHexDigit_ne {n : Nat} (h : n < 16) : lowerHexDigit n ≠ 'u' := by
  have all : ∀ n < 16, lowerHexDigit n ≠ 'u' := by decide
  exact all n h

/-- The Unicode escape of a number is translated to it. -/
theorem translate_hexDigits {n : Nat} (h : n < 0x10000) (rest : List Char) :
    translate 0 false ('\\' :: 'u' :: hexDigits lowerHexDigit 4 n ++ rest) =
      ⟨n, '\\' :: 'u' :: hexDigits lowerHexDigit 4 n⟩ :: translate 0 false rest := by
  obtain ⟨first, others, digits⟩ : ∃ first others, hexDigits lowerHexDigit 4 n = first :: others :=
    ⟨_, _, rfl⟩
  have length : others.length = 3 := by
    have four := length_hexDigits lowerHexDigit 4 n
    rw [digits] at four
    exact Nat.succ.inj four
  have other : first ≠ 'u' := by
    obtain ⟨m, small, same⟩ := mem_hexDigits (digits ▸ List.mem_cons_self : first ∈ hexDigits lowerHexDigit 4 n)
    exact same ▸ lowerHexDigit_ne small
  have value : readHex? 4 (hexDigits lowerHexDigit 4 n ++ rest) 0 = some (n, rest) := by
    rw [readHex?_hexDigits hexValue?_lowerHexDigit, Nat.mul_zero, Nat.zero_add,
      Nat.mod_eq_of_lt (show n < Nat.pow 16 4 from h)]
  rw [digits] at value ⊢
  have escape : unicodeEscape? ('u' :: (first :: others ++ rest)) = some (n, 5) := by
    simp only [List.cons_append] at value
    simp [unicodeEscape?, other, value]
  simp only [List.cons_append] at escape ⊢
  rw [translate]
  simp only [escape, translate_skip 5]
  simp [length]

theorem readInside?_cons_of_ne {code : Nat} (quote : code ≠ '"'.toNat) (feed : code ≠ '\n'.toNat)
    (ret : code ≠ '\r'.toNat) (backslash : code ≠ '\\'.toNat) (written : List Char)
    (rest : List InputChar) :
    readInside? false (⟨code, written⟩ :: rest) =
      (readInside? false rest).map fun (values, rest) => (code :: values, rest) := by
  rw [readInside?, if_neg quote, if_neg (not_or.2 ⟨feed, ret⟩), if_neg backslash]

/-- What is written for a character is translated and read as the character, whatever follows it. -/
theorem readInside?_escape (c : Char) (rest : List Char) :
    readInside? false (translate 0 false (escape c ++ rest)) =
      (readInside? false (translate 0 false rest)).map fun (values, rest) => (c.toNat :: values, rest) := by
  fun_cases escape c
  case case8 quote backslash feed ret tab back form control =>
    rw [translate_hexDigits (toNat_lt_of_isControl control), readInside?_cons_of_ne] <;> rwa [ne_eq, Char.toNat_inj]
  case case9 quote backslash feed ret tab back form control =>
    rw [List.singleton_append, translate_cons_of_ne backslash, readInside?_cons_of_ne] <;>
      rwa [ne_eq, Char.toNat_inj]
  -- the seven escapes by a letter
  all_goals
    subst_vars
    rw [List.cons_append, List.singleton_append, translate_letter (by decide)]
    rfl

/-- The inside of a literal is read up to the quote that ends it. -/
theorem readInside?_escapes (text rest : List Char) :
    readInside? false (translate 0 false (text.flatMap escape ++ '"' :: rest)) =
      some (text.map Char.toNat, translate 0 false rest) := by
  induction text with
  | nil => rw [List.flatMap_nil, List.nil_append, translate_cons_of_ne (by decide)]; rfl
  | cons c text ih => rw [List.flatMap_cons, List.append_assoc, readInside?_escape, ih]; rfl

/-- How a literal is translated does not depend on what follows, nor does it change that. -/
theorem translate_escape_append (c : Char) (rest : List Char) :
    translate 0 false (escape c ++ rest) =
      translate 0 false (escape c) ++ translate 0 false rest := by
  fun_cases escape c
  case case8 quote backslash feed ret tab back form control =>
    have alone := translate_hexDigits (toNat_lt_of_isControl control) []
    rw [List.append_nil] at alone
    rw [translate_hexDigits (toNat_lt_of_isControl control), alone]; rfl
  case case9 quote backslash feed ret tab back form control =>
    rw [List.singleton_append, translate_cons_of_ne backslash, translate_cons_of_ne backslash]; rfl
  -- the seven escapes by a letter
  all_goals
    subst_vars
    rw [List.cons_append, List.singleton_append, translate_letter (by decide)]
    rfl

theorem translate_literalChars_append (text rest : List Char) :
    translate 0 false (literalChars text ++ rest) =
      translate 0 false (literalChars text) ++ translate 0 false rest := by
  have inside : ∀ rest, translate 0 false (text.flatMap escape ++ rest) =
      translate 0 false (text.flatMap escape) ++ translate 0 false rest := by
    induction text with
    | nil => intro rest; rfl
    | cons c text ih =>
      intro rest
      rw [List.flatMap_cons, List.append_assoc, translate_escape_append, ih,
        translate_escape_append c (text.flatMap escape), List.append_assoc]
  have quote : ∀ rest, translate 0 false ('"' :: rest) = ⟨'"'.toNat, ['"']⟩ :: translate 0 false rest :=
    translate_cons_of_ne (by decide)
  simp only [literalChars, List.cons_append, List.append_assoc, List.nil_append, quote, inside]
  rfl

/-! ## Controls -/

theorem not_isControl_lowerHexDigit {n : Nat} (h : n < 16) : isControl (lowerHexDigit n) = false := by
  have all : ∀ n < 16, isControl (lowerHexDigit n) = false := by decide
  exact all n h

theorem not_isControl_of_mem_escape (c : Char) : ∀ d ∈ escape c, isControl d = false := by
  fun_cases escape c
  case case8 quote backslash feed ret tab back form control =>
    intro d h
    rcases List.mem_cons.1 h with rfl | h
    · rfl
    rcases List.mem_cons.1 h with rfl | h
    · rfl
    obtain ⟨m, small, rfl⟩ := mem_hexDigits h
    exact not_isControl_lowerHexDigit small
  case case9 quote backslash feed ret tab back form control => simpa using control
  -- the seven escapes by a letter
  all_goals simp [isControl]

theorem not_isControl_of_mem_literalChars {text : List Char} {c : Char} (h : c ∈ literalChars text) :
    isControl c = false := by
  simp only [literalChars, List.cons_append, List.mem_cons, List.mem_append, List.mem_flatMap,
    List.not_mem_nil, or_false] at h
  rcases h with rfl | ⟨d, -, h⟩ | rfl
  · rfl
  · exact not_isControl_of_mem_escape d c h
  · rfl

/-! ## The literal of a text -/

/-- A literal is read back: whatever follows it, reading yields the characters of its text and takes
exactly the literal, whose translation does not depend on what follows. It holds no control. -/
theorem literal_read_back (text : String) (rest : List Char) :
    readLiteral? ((literal text).toList ++ rest) = some (text.toList.map Char.toNat, rest) ∧
    translate 0 false ((literal text).toList ++ rest) =
      translate 0 false (literal text).toList ++ translate 0 false rest ∧
    ∀ c ∈ (literal text).toList, ¬ c.toNat ≤ 0x1F ∧ ¬ (0x7F ≤ c.toNat ∧ c.toNat ≤ 0x9F) := by
  rw [toList_literal]
  refine ⟨?_, translate_literalChars_append _ rest, fun c h => ?_⟩
  · have written := flatMap_written_translate 0 false rest
    rw [List.drop_zero] at written
    rw [readLiteral?, literalChars, List.append_assoc, List.cons_append, translate_cons_of_ne (by decide),
      List.singleton_append]
    simp only [if_true, readInside?_escapes, Option.map_some, written]
  · have plain := not_isControl_of_mem_literalChars h
    simp only [isControl, Bool.or_eq_false_iff, Bool.and_eq_false_iff, decide_eq_false_iff_not] at plain
    omega

/-- A backslash before text that looks like a Unicode escape and one before a control, in a literal before
a Unicode escape. -/
theorem literal_read_back_hostile :
    (literal "\\u0041\\\x01").toList = "\"\\\\u0041\\\\\\u0001\"".toList ∧
      readLiteral? ("\"\\\\u0041\\\\\\u0001\"".toList ++ "\\u0022".toList) =
        some ("\\u0041\\\x01".toList.map Char.toNat, "\\u0022".toList) ∧
      ¬ '\\'.toNat ≤ 0x1F ∧ ¬ (0x7F ≤ '\\'.toNat ∧ '\\'.toNat ≤ 0x9F) := by
  have written : (literal "\\u0041\\\x01").toList = "\"\\\\u0041\\\\\\u0001\"".toList := by decide
  obtain ⟨read, -, plain⟩ := literal_read_back "\\u0041\\\x01" "\\u0022".toList
  exact ⟨written, written ▸ read, plain '\\' (by decide)⟩

end SwaggerRoutes.Java
