/-
Quoted scalars of YAML, read back. In double quotes every character but spaces and printable ones is
escaped, so that no line is folded. In single quotes the line breaks are those that keep their identity,
each followed by indentation that does not count. The main statements are that a string in either quotes
is read as the string, whatever follows the closing quote.
-/
import SwaggerRoutes.Proofs.Yaml.Printable
import SwaggerRoutes.Yaml.Scalar
import Mathlib.Data.List.Basic
import Mathlib.Tactic.SplitIfs

namespace SwaggerRoutes.Yaml

open SwaggerRoutes.Text (hexDigits upperHexDigit)

/-! ## Double quotes -/

variable {c : Char} {mark : Mark}

theorem doubleQuoted_cons (blank : isBlank c = false) (noBreak : isBreak c = false) (quote : c ≠ '"')
    (backslash : c ≠ '\\') (inside : mark.column ≠ 0) (rest : List Char) (gap : Gap) :
    doubleQuoted (c :: rest) mark gap =
      (doubleQuoted rest (mark.right 1) .none).map (·.prepend (gap.text ++ [c])) := by
  have ret : c ≠ '\r' := by rintro rfl; exact absurd noBreak (by decide)
  rw [doubleQuoted.eq_def]
  split
  case h_8 same =>
    cases same
    simp [blank, noBreak, quote, backslash, inside]
  all_goals grind

theorem doubleQuoted_space (rest : List Char) (mark : Mark) (gap : Gap) :
    doubleQuoted (' ' :: rest) mark gap = doubleQuoted rest (mark.right 1) (gap.blank ' ') := by
  rw [doubleQuoted.eq_def]
  split
  case h_8 same => cases same; rfl
  all_goals grind

theorem doubleQuoted_quote (inside : mark.column ≠ 0) (rest : List Char) (gap : Gap) :
    doubleQuoted ('"' :: rest) mark gap = some { text := gap.text, cursor := ⟨rest, mark.right 1⟩ } := by
  rw [doubleQuoted.eq_def]
  split
  case h_8 same => cases same; simp [isBlank, isBreak, inside]
  all_goals grind

theorem doubleQuoted_letter {letter : Char} (h : unescape? letter = some c) (rest : List Char) (mark : Mark)
    (gap : Gap) :
    doubleQuoted ('\\' :: letter :: rest) mark gap =
      (doubleQuoted rest (mark.right 2) .none).map (·.prepend (gap.text ++ [c])) := by
  have apart : letter ≠ 'x' ∧ letter ≠ 'u' ∧ letter ≠ 'U' ∧ isBreak letter = false := by
    unfold unescape? at h
    split at h <;> first | (cases h; done) | exact ⟨by decide, by decide, by decide, by decide⟩
  obtain ⟨two, four, eight, noBreak⟩ := apart
  have ret : letter ≠ '\r' := by rintro rfl; exact absurd noBreak (by decide)
  rw [doubleQuoted.eq_def]
  split
  case h_7 same => cases same; rw [noBreak, h]; rfl
  all_goals grind

/-- The number of a character is read as the character. -/
theorem hexChar?_hexDigits {width : Nat} (h : c.toNat < Nat.pow 16 width) :
    hexChar? (hexDigits upperHexDigit width c.toNat) = some c := by
  have read := Text.readHex?_hexDigits Text.hexValue?_upperHexDigit width c.toNat [] 0
  rw [List.append_nil, Nat.mod_eq_of_lt h, Nat.mul_zero,
    Nat.zero_add] at read
  have valid := c.valid
  simp only [UInt32.isValidChar, Nat.isValidChar] at valid
  have scalar : ¬((0xD800 ≤ c.toNat ∧ c.toNat ≤ 0xDFFF) ∨ 0x10FFFF < c.toNat) := by
    simp only [Char.toNat]
    omega
  unfold hexChar?
  rw [Text.length_hexDigits, read]
  dsimp only
  rw [if_neg scalar, Char.ofNat_toNat]

theorem doubleQuoted_two (h : c.toNat < 0x100) (rest : List Char) (mark : Mark) (gap : Gap) :
    doubleQuoted ('\\' :: 'x' :: hexDigits upperHexDigit 2 c.toNat ++ rest) mark gap =
      (doubleQuoted rest (mark.right 4) .none).map (·.prepend (gap.text ++ [c])) := by
  have value : hexChar? (hexDigits upperHexDigit 2 c.toNat) = some c := hexChar?_hexDigits h
  simp only [hexDigits, List.nil_append, List.cons_append] at value ⊢
  rw [doubleQuoted, value]

theorem doubleQuoted_four (h : c.toNat < 0x10000) (rest : List Char) (mark : Mark) (gap : Gap) :
    doubleQuoted ('\\' :: 'u' :: hexDigits upperHexDigit 4 c.toNat ++ rest) mark gap =
      (doubleQuoted rest (mark.right 6) .none).map (·.prepend (gap.text ++ [c])) := by
  have value : hexChar? (hexDigits upperHexDigit 4 c.toNat) = some c := hexChar?_hexDigits h
  simp only [hexDigits, List.nil_append, List.cons_append] at value ⊢
  rw [doubleQuoted, value]

theorem doubleQuoted_eight (rest : List Char) (mark : Mark) (gap : Gap) :
    doubleQuoted ('\\' :: 'U' :: hexDigits upperHexDigit 8 c.toNat ++ rest) mark gap =
      (doubleQuoted rest (mark.right 10) .none).map (·.prepend (gap.text ++ [c])) := by
  have small : c.toNat < 0x100000000 := Nat.lt_of_lt_of_eq c.val.toNat_lt (by decide)
  have value : hexChar? (hexDigits upperHexDigit 8 c.toNat) = some c := hexChar?_hexDigits small
  simp only [hexDigits, List.nil_append, List.cons_append] at value ⊢
  rw [doubleQuoted, value]

/-- What is written for a character other than a space is read as the character. -/
theorem exists_doubleQuoted_escape (space : c ≠ ' ') (inside : mark.column ≠ 0) (gap : Gap) :
    ∃ count, ∀ rest, doubleQuoted (Written.escape c ++ rest) mark gap =
      (doubleQuoted rest (mark.right count) .none).map (·.prepend (gap.text ++ [c])) := by
  fun_cases Written.escape c
  case case1 plain =>
    simp only [Bool.and_eq_true, bne_iff_ne, Bool.not_eq_true'] at plain
    obtain ⟨⟨⟨printable, quote⟩, backslash⟩, noBreak⟩ := plain
    have blank := not_isBlank_of_isPrintable printable space
    exact ⟨1, fun rest => doubleQuoted_cons blank noBreak quote backslash inside rest gap⟩
  case case17 small => exact ⟨4, fun rest => doubleQuoted_two (Nat.lt_succ_of_le small) rest mark gap⟩
  case case18 small => exact ⟨6, fun rest => doubleQuoted_four (Nat.lt_succ_of_le small) rest mark gap⟩
  case case19 => exact ⟨10, fun rest => doubleQuoted_eight rest mark gap⟩
  -- the escapes by a letter
  all_goals
    rename_i code
    have same : c = Char.ofNat _ := eq_ofNat code
    exact ⟨2, fun rest => doubleQuoted_letter (by rw [same]; rfl) rest mark gap⟩

/-- Between two words there are blanks at most. -/
theorem text_blank {gap : Gap} (h : gap.isLines = false) (c : Char) :
    (gap.blank c).text = gap.text ++ [c] ∧ (gap.blank c).isLines = false := by
  cases gap with
  | none => exact ⟨rfl, rfl⟩
  | blanks text => exact ⟨rfl, rfl⟩
  | lines first others => cases h

theorem right_column_ne (inside : mark.column ≠ 0) (count : Nat) : (mark.right count).column ≠ 0 :=
  Nat.ne_of_gt (Nat.add_pos_left (Nat.pos_of_ne_zero inside) count)

/-- A string in double quotes is read. -/
theorem exists_doubleQuoted (text rest : List Char) {gap : Gap} (between : gap.isLines = false)
    (inside : mark.column ≠ 0) :
    ∃ after, doubleQuoted (text.flatMap Written.escape ++ '"' :: rest) mark gap =
      some { text := gap.text ++ text, cursor := ⟨rest, after⟩ } := by
  induction text generalizing mark gap with
  | nil => exact ⟨_, by simpa using doubleQuoted_quote inside rest gap⟩
  | cons c text ih =>
    rw [List.flatMap_cons, List.append_assoc]
    by_cases space : c = ' '
    · subst space
      obtain ⟨whole, between⟩ := text_blank between ' '
      obtain ⟨after, read⟩ := ih between (right_column_ne inside 1)
      rw [whole, List.append_assoc] at read
      exact ⟨after, (doubleQuoted_space _ _ _).trans read⟩
    · obtain ⟨count, one⟩ := exists_doubleQuoted_escape space inside gap
      obtain ⟨after, read⟩ := @ih _ .none rfl (right_column_ne inside count)
      refine ⟨after, ?_⟩
      rw [one, read]
      simp [Scanned.prepend, Gap.text]

/-! ## Single quotes -/

theorem singleQuoted_cons (blank : isBlank c = false) (noBreak : isBreak c = false) (quote : c ≠ '\'')
    (inside : mark.column ≠ 0) (rest : List Char) (gap : Gap) :
    singleQuoted (c :: rest) mark gap =
      (singleQuoted rest (mark.right 1) .none).map (·.prepend (gap.text ++ [c])) := by
  have ret : c ≠ '\r' := by rintro rfl; exact absurd noBreak (by decide)
  rw [singleQuoted.eq_def]
  split
  case h_4 same => cases same; simp [blank, noBreak, quote, inside]
  all_goals grind

theorem singleQuoted_space (rest : List Char) (mark : Mark) (gap : Gap) :
    singleQuoted (' ' :: rest) mark gap = singleQuoted rest (mark.right 1) (gap.blank ' ') := by
  rw [singleQuoted.eq_def]
  split
  case h_4 same => cases same; rfl
  all_goals grind

theorem singleQuoted_break (h : isBreak c = true) (ret : c ≠ '\r') (rest : List Char) (mark : Mark)
    (gap : Gap) :
    singleQuoted (c :: rest) mark gap = singleQuoted rest (mark.nextLine 1) (gap.line (normalBreak c)) := by
  obtain ⟨space, tab, quote⟩ := ne_of_isBreak h
  have blank : isBlank c = false := by simp [isBlank, space, tab]
  rw [singleQuoted.eq_def]
  split
  case h_4 same => cases same; simp [blank, h]
  all_goals grind

theorem singleQuoted_twice (rest : List Char) (mark : Mark) (gap : Gap) :
    singleQuoted ('\'' :: '\'' :: rest) mark gap =
      (singleQuoted rest (mark.right 2) .none).map (·.prepend (gap.text ++ ['\''])) := by
  rw [singleQuoted]

theorem singleQuoted_quote {next : Char} (other : next ≠ '\'') (inside : mark.column ≠ 0) (rest : List Char)
    (gap : Gap) :
    singleQuoted ('\'' :: next :: rest) mark gap =
      some { text := gap.text, cursor := ⟨next :: rest, mark.right 1⟩ } := by
  rw [singleQuoted.eq_def]
  split
  case h_4 same => cases same; simp [isBlank, isBreak, inside]
  all_goals grind

/-- What is known between two words of a string in single quotes, before the rest of the string. No blank
stands next to a line break, and the first line break is none that reads as a space. -/
inductive Fits : Gap → (atBreak : Bool) → (text : List Char) → Mark → Prop
  | word {text : List Char} {mark : Mark} (inside : mark.column ≠ 0) : Fits .none false text mark
  | blanks {blanks text : List Char} {mark : Mark} (inside : mark.column ≠ 0)
      (noBreak : Written.startsWith isBreak text = false) : Fits (.blanks blanks) false text mark
  | lines {first others text : List Char} {mark : Mark} (kept : first ≠ ['\n'])
      (noSpace : Written.startsWith Written.isSpace text = false) : Fits (.lines first others) true text mark

namespace Fits

variable {gap : Gap} {atBreak : Bool} {text : List Char}

/-- A word, or the closing quote, comes after the indentation of its line. -/
theorem exists_onward (fits : Fits gap atBreak text mark) :
    ∃ after : Mark, after.column ≠ 0 ∧ ∀ rest,
      singleQuoted ((if atBreak then Written.indentation else []) ++ rest) mark gap =
        singleQuoted rest after gap := by
  cases fits with
  | word inside => exact ⟨mark, inside, fun _ => rfl⟩
  | blanks inside => exact ⟨mark, inside, fun _ => rfl⟩
  | lines kept =>
    refine ⟨(mark.right 1).right 1, Nat.succ_ne_zero _, fun rest => ?_⟩
    exact (singleQuoted_space _ _ _).trans (singleQuoted_space _ _ _)

theorem space (fits : Fits gap atBreak (' ' :: text) mark) (noBreak : Written.startsWith isBreak text = false) :
    atBreak = false ∧ Fits (gap.blank ' ') false text (mark.right 1) ∧
      (gap.blank ' ').text = gap.text ++ [' '] := by
  cases fits with
  | word inside => exact ⟨rfl, .blanks (right_column_ne inside 1) noBreak, rfl⟩
  | blanks inside => exact ⟨rfl, .blanks (right_column_ne inside 1) noBreak, rfl⟩
  | lines kept noSpace => exact absurd noSpace (by simp [Written.startsWith, Written.isSpace])

theorem line (fits : Fits gap atBreak (c :: text) mark) (h : isBreak c = true) (feed : c ≠ '\n')
    (noSpace : Written.startsWith Written.isSpace text = false) :
    Fits (gap.line c) true text (mark.nextLine 1) ∧ (gap.line c).text = gap.text ++ [c] := by
  have kept : [c] ≠ ['\n'] := by simpa using feed
  cases fits with
  | word inside => exact ⟨.lines kept noSpace, by simp [Gap.line, Gap.text, feed]⟩
  | blanks inside noBreak => exact absurd noBreak (by simp [Written.startsWith, h])
  | lines kept => exact ⟨.lines kept noSpace, by simp [Gap.line, Gap.text, kept]⟩

end Fits

/-- A string in single quotes is read, up to a character that is no quote. -/
theorem exists_singleQuoted {text : List Char} (unescaped : Unescaped text) (feeds : '\n' ∉ text)
    (noLeading : Written.hasPair isBreak Written.isSpace text = false) {gap : Gap} {atBreak : Bool}
    (fits : Fits gap atBreak text mark) {next : Char} (other : next ≠ '\'') (rest : List Char) :
    ∃ after, singleQuoted (Written.singleBody atBreak text ++ '\'' :: next :: rest) mark gap =
      some { text := gap.text ++ text, cursor := ⟨next :: rest, after⟩ } := by
  induction text generalizing gap atBreak mark with
  | nil =>
    obtain ⟨after, inside, onward⟩ := fits.exists_onward
    refine ⟨after.right 1, ?_⟩
    rw [Written.singleBody, onward, singleQuoted_quote other inside, List.append_nil]
  | cons c text ih =>
    obtain ⟨spaceFirst, -⟩ := hasPair_cons unescaped.noTrailing
    obtain ⟨breakFirst, onwardLeading⟩ := hasPair_cons noLeading
    have printable := unescaped.printable c List.mem_cons_self
    have feed : c ≠ '\n' := fun same => feeds (same ▸ List.mem_cons_self)
    have noMore : '\n' ∉ text := fun mem => feeds (List.mem_cons_of_mem c mem)
    rw [Written.singleBody]
    by_cases space : c = ' '
    · subst space
      obtain ⟨rfl, fits, whole⟩ := fits.space (spaceFirst rfl)
      obtain ⟨after, read⟩ := ih unescaped.tail noMore onwardLeading fits
      refine ⟨after, ?_⟩
      rw [whole, List.append_assoc] at read
      rw [if_pos rfl]
      exact (singleQuoted_space _ _ _).trans read
    by_cases broken : isBreak c = true
    · obtain ⟨same, ret⟩ := normalBreak_eq printable broken
      obtain ⟨fits, whole⟩ := fits.line broken feed (breakFirst broken)
      obtain ⟨after, read⟩ := ih unescaped.tail noMore onwardLeading fits
      refine ⟨after, ?_⟩
      rw [whole, List.append_assoc] at read
      rw [if_neg space, if_pos broken, List.cons_append, singleQuoted_break broken ret, same]
      exact read
    · obtain ⟨before, inside, onward⟩ := fits.exists_onward
      rw [if_neg space, if_neg broken, List.append_assoc, List.append_assoc, onward]
      by_cases quote : c = '\''
      · obtain ⟨after, read⟩ := ih unescaped.tail noMore onwardLeading (.word (right_column_ne inside 2))
        refine ⟨after, ?_⟩
        rw [if_pos quote, List.cons_append, List.cons_append, singleQuoted_twice, List.nil_append, read, quote]
        simp [Scanned.prepend, Gap.text]
      · obtain ⟨after, read⟩ := ih unescaped.tail noMore onwardLeading (.word (right_column_ne inside 1))
        refine ⟨after, ?_⟩
        rw [if_neg quote, List.cons_append, singleQuoted_cons (not_isBlank_of_isPrintable printable space)
          (by simpa using broken) quote inside, List.nil_append, read]
        simp [Scanned.prepend, Gap.text]

end SwaggerRoutes.Yaml
