/-
A string literal shows where it ends. Every escape can be read back to its character without looking
at what follows, and none begins with a quote; so the literal of a text, with anything after it, is
the literal of no other text. A literal stands on one line.
-/
import SwaggerRoutes.Java.Literal
import SwaggerRoutes.Proofs.Text.Pieces

namespace SwaggerRoutes.Java

open SwaggerRoutes.Text

/-! ## Reading an escape -/

/-- The characters that stand after a backslash for another character, with what they stand for. -/
def escapeLetters : List (Char × Char) :=
  [('"', '"'), ('\\', '\\'), ('n', '\n'), ('r', '\r'), ('t', '\t'), ('b', '\x08'), ('f', '\x0c')]

/-- The character that the text after a backslash stands for, and what follows. -/
def readEscape? : List Char → Option (Char × List Char)
  | [] => none
  | c :: rest =>
    if c = 'u' then (readHex? 4 rest 0).map fun (n, rest) => (Char.ofNat n, rest)
    else (escapeLetters.lookup c).map fun value => (value, rest)

/-- The first character that the inside of a literal stands for, and what follows. -/
def readChar? : List Char → Option (Char × List Char)
  | [] => none
  | c :: rest => if c = '\\' then readEscape? rest else some (c, rest)

theorem readChar?_escape (c : Char) (rest : List Char) :
    readChar? (escape c ++ rest) = some (c, rest) := by
  fun_cases escape c
  case case8 quote backslash feed ret tab back form control =>
    have small : c.toNat < Nat.pow 16 4 := by
      simp only [isControl, Bool.or_eq_true, Bool.and_eq_true, decide_eq_true_eq] at control
      show c.toNat < 65536
      omega
    have digits : readHex? 4 (hexDigits lowerHexDigit 4 c.toNat ++ rest) 0 = some (c.toNat, rest) := by
      rw [readHex?_hexDigits hexValue?_lowerHexDigit, Nat.mod_eq_of_lt small, Nat.mul_zero,
        Nat.zero_add]
    simp [readChar?, readEscape?, digits]
  case case9 quote backslash feed ret tab back form control => simp [readChar?, backslash]
  -- the seven escapes by a letter
  all_goals subst_vars; rfl

/-- Escapes that agree with what follows them are escapes of the same character. -/
theorem escape_append_inj {c d : Char} {rest rest' : List Char}
    (same : escape c ++ rest = escape d ++ rest') : c = d ∧ rest = rest' := by
  have read := congrArg readChar? same
  rw [readChar?_escape, readChar?_escape] at read
  simpa using read

/-! ## The characters of an escape -/

/-- The characters that no literal holds after the character that follows a backslash. -/
def isDelimiter (c : Char) : Bool := c = '"' || c = '\\' || c = '\n'

theorem not_isDelimiter_lowerHexDigit {n : Nat} (h : n < 16) :
    isDelimiter (lowerHexDigit n) = false := by
  have all : ∀ n < 16, isDelimiter (lowerHexDigit n) = false := by decide
  exact all n h

/-- An escape is a backslash with something after it, or the character itself. -/
theorem escape_cases (c : Char) :
    (∃ d tail, escape c = '\\' :: d :: tail ∧ d ≠ '\n' ∧ ∀ e ∈ tail, isDelimiter e = false) ∨
      (escape c = [c] ∧ isDelimiter c = false) := by
  fun_cases escape c
  case case8 =>
    refine .inl ⟨_, _, rfl, by decide, fun e he => ?_⟩
    obtain ⟨m, hm, rfl⟩ := mem_hexDigits he
    exact not_isDelimiter_lowerHexDigit hm
  case case9 quote backslash feed ret tab back form control =>
    exact .inr ⟨rfl, by simp [isDelimiter, quote, backslash, feed]⟩
  all_goals exact .inl ⟨_, _, rfl, by decide, by simp⟩

/-- No escape begins with the quote that ends a literal. -/
theorem head?_escape_ne (c : Char) (rest : List Char) : (escape c ++ rest).head? ≠ some '"' := by
  rcases escape_cases c with ⟨d, tail, e, -, -⟩ | ⟨e, h⟩
  · simp [e]
  · rw [e]; rintro ⟨⟩; simp [isDelimiter] at h

/-! ## Literals -/

theorem notMem_literalChars (text : List Char) : '\n' ∉ literalChars text := by
  simp only [literalChars, List.cons_append, List.mem_cons, List.mem_append, List.mem_flatMap,
    List.not_mem_nil, or_false, not_or, not_exists, not_and]
  refine ⟨by decide, fun c _ hc => ?_, by decide⟩
  rcases escape_cases c with ⟨d, tail, e, hd, ht⟩ | ⟨e, h⟩
  · rw [e, List.mem_cons, List.mem_cons] at hc
    rcases hc with hc | rfl | hc
    · cases hc
    · exact hd rfl
    · simpa [isDelimiter] using ht _ hc
  · rw [e, List.mem_singleton] at hc
    subst hc; simp [isDelimiter] at h

theorem escape_separated : Separated escape (fun _ => True) (fun rest => rest.head? = some '"')
    (fun _ _ => True) where
  notEnd c _ rest := head?_escape_ne c rest
  followed _ _ _ _ _ := trivial
  inj _ _ _ _ _ _ _ _ same := escape_append_inj same

/-- A literal shows where it ends: with what follows it, it is the literal of one text only. -/
theorem literalChars_append_inj {text text' rest rest' : List Char}
    (same : literalChars text ++ rest = literalChars text' ++ rest') : text = text' ∧ rest = rest' := by
  simp only [literalChars, List.cons_append, List.append_assoc, List.cons.injEq, true_and,
    List.nil_append] at same
  obtain ⟨texts, tails⟩ := escape_separated.flatMap_append_inj (fun _ _ => trivial)
    (fun _ _ => trivial) (fun _ _ => trivial) (fun _ _ => trivial) rfl rfl same
  exact ⟨texts, (List.cons.inj tails).2⟩

theorem toList_literal (text : String) : (literal text).toList = literalChars text.toList := by
  simp [literal]

end SwaggerRoutes.Java
