/-
Printable characters and neighbours in a text. A string that is written without escapes holds printable
characters only, whose line breaks are read as they are, and no space before a line break.
-/
import SwaggerRoutes.Yaml.Written
import Mathlib.Tactic.SplitIfs

namespace SwaggerRoutes.Yaml

/-! ## Printable characters -/

variable {c : Char}

theorem eq_ofNat {n : Nat} (same : c.toNat = n) : c = Char.ofNat n := by
  rw [← same, Char.ofNat_toNat]

theorem not_isBlank_of_isPrintable (printable : Written.isPrintable c = true) (space : c ≠ ' ') :
    isBlank c = false := by
  have tab : c ≠ '\t' := by rintro rfl; exact absurd printable (by decide)
  simp [isBlank, space, tab]

theorem ne_of_isBreak (h : isBreak c = true) : c ≠ ' ' ∧ c ≠ '\t' ∧ c ≠ '\'' := by
  refine ⟨?_, ?_, ?_⟩ <;> rintro rfl <;> exact absurd h (by decide)

/-- A printable line break is kept as it is. -/
theorem normalBreak_eq (printable : Written.isPrintable c = true) (h : isBreak c = true) :
    normalBreak c = c ∧ c ≠ '\r' := by
  have ret : c ≠ '\r' := by rintro rfl; exact absurd printable (by decide)
  have next : c.toNat ≠ 0x85 := by
    intro same
    rw [eq_ofNat same] at printable
    exact absurd printable (by decide)
  refine ⟨?_, ret⟩
  simp only [isBreak, ret, next, decide_false, Bool.or_false, Bool.or_eq_true, decide_eq_true_eq] at h
  unfold normalBreak
  split_ifs with separator
  · rfl
  · grind

/-! ## Neighbours -/

/-- Neighbours in a text of more than one character. -/
theorem hasPair_cons {p q : Char → Bool} {text : List Char} (h : Written.hasPair p q (c :: text) = false) :
    (p c = true → Written.startsWith q text = false) ∧ Written.hasPair p q text = false := by
  cases text with
  | nil => exact ⟨fun _ => rfl, rfl⟩
  | cons d text =>
    rw [Written.hasPair, Bool.or_eq_false_iff, Bool.and_eq_false_iff] at h
    refine ⟨fun first => ?_, h.2⟩
    simpa [first, Written.startsWith] using h.1

/-- What a string may hold that is written without escapes. -/
structure Unescaped (text : List Char) : Prop where
  printable : ∀ c ∈ text, Written.isPrintable c = true
  noTrailing : Written.hasPair Written.isSpace isBreak text = false

theorem unescaped_of_needsEscapes {text : List Char} (h : Written.needsEscapes text = false) :
    Unescaped text := by
  rw [Written.needsEscapes, Bool.or_eq_false_iff] at h
  exact ⟨by simpa using h.1, h.2⟩

theorem Unescaped.tail {text : List Char} (h : Unescaped (c :: text)) : Unescaped text :=
  ⟨fun d mem => h.printable d (List.mem_cons_of_mem c mem), (hasPair_cons h.noTrailing).2⟩

end SwaggerRoutes.Yaml
