/-
Plain scalars of YAML, read back. A string is written plain if nothing in it looks like the end of a plain
scalar: no colon before a blank and no sign of a comment after one. The main statements are that such a
string is read up to the line after it, and a key up to its colon.
-/
import SwaggerRoutes.Proofs.Yaml.Block
import SwaggerRoutes.Proofs.Yaml.Quoted

namespace SwaggerRoutes.Yaml

variable {c : Char} {mark : Mark} {text : List Char} {indent : Nat} {gap : Gap}

/-! ## One character -/

theorem blankOrEnd_append (text rest : List Char) :
    blankOrEnd (text ++ '\n' :: rest) = blankOrEnd text := by
  cases text <;> rfl

theorem plain_cons {rest : List Char} (blank : isBlank c = false) (noBreak : isBreak c = false)
    (word : endsWord false c rest = false)
    (onward : gap = .none ∨ (indent ≤ 1 ∧ mark.column ≠ 0 ∧ c ≠ '#')) :
    plain false indent (c :: rest) mark gap =
      (plain false indent rest (mark.right 1) .none).map (·.prepend (gap.text ++ [c])) := by
  have ret : c ≠ '\r' := by rintro rfl; exact absurd noBreak (by decide)
  have stays : (!gap.isNone && ((!false && decide (mark.column < indent)) || decide (c = '#')
      || (decide (mark.column = 0) && documentMark (c :: rest)))) = false := by
    rcases onward with rfl | ⟨small, inside, comment⟩
    · rfl
    · have : ¬ mark.column < indent := by omega
      simp [this, inside, comment]
  rw [plain.eq_def]
  split
  case h_3 same =>
    cases same
    simp only [blank, noBreak, stays, word, misplacedColon, Bool.false_and, Bool.false_eq_true, if_false]
  all_goals grind

theorem plain_space (between : gap.isLines = false) (rest : List Char) :
    plain false indent (' ' :: rest) mark gap = plain false indent rest (mark.right 1) (gap.blank ' ') := by
  rw [plain.eq_def]
  split
  case h_3 same =>
    cases same
    simp [between, isBlank]
  all_goals grind

/-- The line break after a plain scalar, and the line after it, end the scalar. -/
theorem exists_plain_end {rest : List Char} (begins : BeginsLine rest) (mark : Mark) :
    ∃ after : Mark, after.column = 0 ∧
      plain false 1 ('\n' :: rest) mark .none = some { text := [], cursor := ⟨rest, after⟩, broken := true } := by
  refine ⟨mark.nextLine 1, rfl, ?_⟩
  show plain false 1 rest (mark.nextLine 1) (.lines ['\n'] []) = _
  cases rest with
  | nil => rfl
  | cons c rest =>
    obtain ⟨blank, noBreak⟩ := begins c rest rfl
    have ret : c ≠ '\r' := by rintro rfl; exact absurd noBreak (by decide)
    rw [plain.eq_def]
    split
    case h_3 same =>
      cases same
      simp [blank, noBreak, Gap.isNone, Gap.isLines, Mark.nextLine]
    all_goals grind

/-! ## Values -/

/-- A plain string is read up to the line after it. The character before the text counts as a blank where
there is a gap. -/
theorem exists_plain (printable : ∀ c ∈ text, Written.isPrintable c = true)
    (noBreaks : ∀ c ∈ text, isBreak c = false) {before : Char} (inside : Written.badInside (before :: text) = false)
    (ending : Written.endsWith isBlank (before :: text) = false) (between : gap.isLines = false)
    (context : gap = .none ∨ isBlank before = true) (column : mark.column ≠ 0)
    {rest : List Char} (begins : BeginsLine rest) :
    ∃ after : Mark, after.column = 0 ∧ plain false 1 (text ++ '\n' :: rest) mark gap =
      some { text := gap.text ++ text, cursor := ⟨rest, after⟩, broken := true } := by
  induction text generalizing before gap mark with
  | nil =>
    have none : gap = .none := context.resolve_right (by simpa [Written.endsWith] using ending)
    obtain ⟨after, start, read⟩ := exists_plain_end begins mark
    exact ⟨after, start, by rw [none]; exact read⟩
  | cons c text ih =>
    rw [List.forall_mem_cons] at printable noBreaks
    rw [Written.badInside, Bool.or_eq_false_iff, Bool.or_eq_false_iff] at inside
    obtain ⟨⟨colon, comment⟩, inside⟩ := inside
    have ending : Written.endsWith isBlank (c :: text) = false := by
      simpa [Written.endsWith] using ending
    by_cases space : c = ' '
    · subst space
      obtain ⟨whole, still⟩ := text_blank between ' '
      obtain ⟨after, start, read⟩ :=
        ih printable.2 noBreaks.2 inside ending still (.inr rfl) (right_column_ne column 1)
      refine ⟨after, start, ?_⟩
      rw [whole, List.append_assoc] at read
      exact (plain_space between _).trans read
    · have blank := not_isBlank_of_isPrintable printable.1 space
      have word : endsWord false c (text ++ '\n' :: rest) = false := by
        rw [endsWord, blankOrEnd_append]
        simpa using colon
      have onward : gap = .none ∨ (1 ≤ 1 ∧ mark.column ≠ 0 ∧ c ≠ '#') := by
        refine context.imp_right fun blankBefore => ⟨Nat.le_refl 1, column, ?_⟩
        rintro rfl
        simp [blankBefore] at comment
      obtain ⟨after, start, read⟩ :=
        ih printable.2 noBreaks.2 inside ending rfl (.inl rfl) (right_column_ne column 1)
      refine ⟨after, start, ?_⟩
      rw [List.cons_append, plain_cons blank noBreaks.1 word onward, read]
      simp [Scanned.prepend, Gap.text]

/-! ## Keys -/

/-- A character of a key that needs no quotes. -/
def isKeyChar (c : Char) : Bool := c.isAlphanum || c = '_'

theorem isKeyChar_ne (h : isKeyChar c = true) {other : Char} (no : isKeyChar other = false) : c ≠ other := by
  rintro rfl
  rw [h] at no
  cases no

theorem not_isBlank_of_isKeyChar (h : isKeyChar c = true) : isBlank c = false := by
  simp [isBlank, isKeyChar_ne h (show isKeyChar ' ' = false by decide),
    isKeyChar_ne h (show isKeyChar '\t' = false by decide)]

theorem not_isBreak_of_isKeyChar (h : isKeyChar c = true) : isBreak c = false := by
  have code (n : Nat) (no : isKeyChar (Char.ofNat n) = false) : c.toNat ≠ n := fun same =>
    isKeyChar_ne h no (eq_ofNat same)
  simp [isBreak, isKeyChar_ne h (show isKeyChar '\n' = false by decide),
    isKeyChar_ne h (show isKeyChar '\r' = false by decide), code 0x85 (by decide), code 0x2028 (by decide),
    code 0x2029 (by decide)]

theorem right_right (mark : Mark) (count count' : Nat) :
    (mark.right count).right count' = mark.right (count + count') := by
  simp [Mark.right, Nat.add_assoc]

/-- A key is read up to its colon. -/
theorem plain_key {key : List Char} (keyChars : ∀ c ∈ key, isKeyChar c = true) (indent : Nat) (rest : List Char)
    (mark : Mark) :
    plain false indent (key ++ ':' :: ' ' :: rest) mark .none =
      some { text := key, cursor := ⟨':' :: ' ' :: rest, mark.right key.length⟩ } := by
  induction key generalizing mark with
  | nil => rfl
  | cons c key ih =>
    rw [List.forall_mem_cons] at keyChars
    have colon : c ≠ ':' := isKeyChar_ne keyChars.1 (by decide)
    have word : endsWord false c (key ++ ':' :: ' ' :: rest) = false := by simp [endsWord, colon]
    rw [List.cons_append, plain_cons (not_isBlank_of_isKeyChar keyChars.1) (not_isBreak_of_isKeyChar keyChars.1)
      word (.inl rfl), ih keyChars.2, right_right]
    simp [Scanned.prepend, Gap.text, Nat.add_comm]

end SwaggerRoutes.Yaml
