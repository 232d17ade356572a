/-
Strings of TOML, read back. A string is written in one of four forms: basic or literal, on one line or
on several. A basic string escapes what its reader could not take as it is, and a literal one is only
chosen where nothing needs an escape. The main statement is that each of the forms is read as the string
that was written, with whatever stands on the lines after it.
-/
import SwaggerRoutes.Toml.Text
import SwaggerRoutes.Toml.Written
import Mathlib.Data.List.Basic
import Mathlib.Tactic.SplitIfs

namespace SwaggerRoutes.Toml

open SwaggerRoutes.Text (hexDigits upperHexDigit)

/-- A reading with more text in front of what was read. -/
def prepend (front : List Char) (read : List Char × List Char) : List Char × List Char :=
  (front ++ read.1, read.2)

theorem prepend_nil : prepend [] = id := rfl

theorem prepend_comp (front front' : List Char) : prepend front ∘ prepend front' = prepend (front ++ front') := by
  funext read
  simp [prepend]

/-- A character that may stand in a string as it is. -/
def mayStand (c : Char) : Bool := !(isForbidden c && c != '\n')

/-! ## Escapes -/

/-- A reader of text where a backslash and a letter, or the number of a character, stand for it. -/
structure ReadsEscapes (read : List Char → Option (List Char × List Char)) : Prop where
  letter : ∀ {letter c : Char}, unescape? letter = some c → ∀ rest,
    read ('\\' :: letter :: rest) = (read rest).map (prepend [c])
  number : ∀ {n : Nat}, n < 0x80 → ∀ rest,
    read ('\\' :: 'u' :: hexDigits upperHexDigit 4 n ++ rest) = (read rest).map (prepend [Char.ofNat n])
  plain : ∀ {c : Char}, isForbidden c = false → c ≠ '\\' → c ≠ '"' → ∀ rest,
    read (c :: rest) = (read rest).map (prepend [c])

theorem hexDigits_four (n : Nat) :
    hexDigits upperHexDigit 4 n =
      [upperHexDigit (n / 16 / 16 / 16 % 16), upperHexDigit (n / 16 / 16 % 16), upperHexDigit (n / 16 % 16),
        upperHexDigit (n % 16)] := rfl

theorem hexChar?_hexDigits {n : Nat} (h : n < 0x80) :
    hexChar? (hexDigits upperHexDigit 4 n) = some (Char.ofNat n) := by
  have read := Text.readHex?_hexDigits Text.hexValue?_upperHexDigit 4 n [] 0
  rw [List.append_nil, Nat.mod_eq_of_lt (show n < Nat.pow 16 4 by simp; omega)] at read
  unfold hexChar?
  rw [Text.length_hexDigits, read]
  simp
  omega

theorem letter_ne_of_unescape? {letter c : Char} (h : unescape? letter = some c) :
    letter ≠ 'u' ∧ letter ≠ 'U' := by
  constructor <;> rintro rfl <;> simp [unescape?] at h

theorem readsEscapes_basic : ReadsEscapes basic where
  letter h rest := by
    obtain ⟨short, long⟩ := letter_ne_of_unescape? h
    rw [basic.eq_5 _ _ (fun _ _ _ _ _ same => absurd same short)
      (fun _ _ _ _ _ _ _ _ _ same => absurd same long), h]
    rfl
  number h rest := by
    have value := hexChar?_hexDigits h
    rw [hexDigits_four] at value ⊢
    simp only [List.cons_append, List.nil_append, basic, value]
    rfl
  plain allowed backslash quote rest := by
    rw [basic.eq_6]
    · simp [allowed, backslash]; rfl
    all_goals simp [backslash, quote]

theorem longBasic_cons {c : Char} {rest : List Char} (allowed : mayStand c = true) (backslash : c ≠ '\\')
    (quotes : ∀ more, c = '"' → rest ≠ '"' :: '"' :: more) :
    longBasic false (c :: rest) = (longBasic false rest).map (prepend [c]) := by
  have noReturn : c ≠ '\r' := by rintro rfl; exact absurd allowed (by decide)
  rw [mayStand, Bool.not_eq_true'] at allowed
  rw [longBasic.eq_def]
  split
  case h_9 same =>
    cases same
    simp only [allowed, backslash, Bool.false_and, Bool.false_or, decide_false, Bool.false_eq_true, if_false]
    rfl
  all_goals grind

theorem mayStand_of_not_isForbidden {c : Char} (h : isForbidden c = false) : mayStand c = true := by
  simp [mayStand, h]

theorem readsEscapes_longBasic : ReadsEscapes (longBasic false) where
  letter h rest := by
    obtain ⟨short, long⟩ := letter_ne_of_unescape? h
    rw [longBasic.eq_def]
    split
    case h_8 same => cases same; rw [h]; rfl
    all_goals grind
  number h rest := by
    have value := hexChar?_hexDigits h
    rw [hexDigits_four] at value ⊢
    simp only [List.cons_append, List.nil_append, longBasic, value]
    rfl
  plain allowed backslash quote _ :=
    longBasic_cons (mayStand_of_not_isForbidden allowed) backslash fun _ same => absurd same quote

/-- What is written for a character is read as the character. -/
theorem ReadsEscapes.escape {read : List Char → Option (List Char × List Char)} (reads : ReadsEscapes read)
    {c : Char} (quote : c ≠ '"') (feed : c ≠ '\n') (rest : List Char) :
    read (Written.escape c ++ rest) = (read rest).map (prepend [c]) := by
  fun_cases Written.escape c
  case case6 n _ _ _ _ _ control =>
    have small : c.toNat < 0x80 := by
      simp only [Bool.or_eq_true, decide_eq_true_eq, n] at control
      omega
    rw [reads.number small, Char.ofNat_toNat]
  case case7 n _ tab _ _ backslash control =>
    refine reads.plain ?_ backslash quote rest
    simp only [Bool.or_eq_true, decide_eq_true_eq, not_or, n] at control
    simp [isForbidden, control]
  -- the escapes by a letter
  all_goals
    subst_vars
    exact reads.letter (by decide) rest

/-! ## Rows of quotes -/

/-- A reader of text that three quotes end, where fewer of them may stand anywhere. -/
structure ReadsRows (read : List Char → Option (List Char × List Char)) (quote : Char) (plain : Char → Prop) :
    Prop where
  quote_plain : plain quote
  closing : ∀ {row : Nat}, row ≤ 2 → ∀ {c : Char}, c ≠ quote → ∀ rest,
    read (List.replicate (row + 3) quote ++ c :: rest) = some (List.replicate row quote, c :: rest)
  cons : ∀ {c : Char} {rest : List Char}, plain c → (∀ more, c = quote → rest ≠ quote :: quote :: more) →
    read (c :: rest) = (read rest).map (prepend [c])

theorem cases_of_le_two {row : Nat} (h : row ≤ 2) : row = 0 ∨ row = 1 ∨ row = 2 := by omega

theorem readsRows_longBasic :
    ReadsRows (longBasic false) '"' fun c => mayStand c = true ∧ c ≠ '\\' where
  quote_plain := ⟨by decide, by decide⟩
  closing few _ other rest := by
    rcases cases_of_le_two few with rfl | rfl | rfl <;> simp [List.replicate, longBasic, other]
  cons plain quotes := longBasic_cons plain.1 plain.2 quotes

theorem readsRows_longLiteral : ReadsRows longLiteral '\'' (mayStand · = true) where
  quote_plain := by decide
  closing few _ other rest := by
    rcases cases_of_le_two few with rfl | rfl | rfl <;> simp [List.replicate, longLiteral, other]
  cons {c _} plain quotes := by
    have noReturn : c ≠ '\r' := by rintro rfl; exact absurd plain (by decide)
    rw [longLiteral.eq_def]
    split
    case h_6 same =>
      cases same
      rw [mayStand, Bool.not_eq_true'] at plain
      rw [plain]
      rfl
    all_goals grind

/-- Up to two quotes before another character are part of the text. -/
theorem ReadsRows.row {read : List Char → Option (List Char × List Char)} {quote : Char} {plain : Char → Prop}
    (reads : ReadsRows read quote plain) {row : Nat} (few : row ≤ 2) {c : Char} (other : c ≠ quote)
    (rest : List Char) :
    read (List.replicate row quote ++ c :: rest) =
      (read (c :: rest)).map (prepend (List.replicate row quote)) := by
  induction row with
  | zero => simp [prepend_nil]
  | succ row ih =>
    have short : ∀ more, quote = quote → List.replicate row quote ++ c :: rest ≠ quote :: quote :: more := by
      intro more _
      rcases cases_of_le_two (Nat.le_of_succ_le few) with rfl | rfl | rfl
      · simp [other]
      · simp [other]
      · omega
    rw [List.replicate_succ, List.cons_append, reads.cons reads.quote_plain short, ih (by omega),
      Option.map_map, prepend_comp]
    rfl

/-- After a row of quotes, what stands for one character is read, and then the rest. -/
theorem ReadsRows.step {read : List Char → Option (List Char × List Char)} {quote : Char} {plain : Char → Prop}
    (reads : ReadsRows read quote plain) {row : Nat} (few : row ≤ 2) {c first : Char}
    (more : List Char) {rest text left : List Char} (other : first ≠ quote)
    (one : read (first :: more ++ rest) = (read rest).map (prepend [c])) (onward : read rest = some (text, left)) :
    read (List.replicate row quote ++ (first :: more ++ rest)) =
      some (List.replicate row quote ++ c :: text, left) := by
  rw [List.cons_append] at one ⊢
  rw [reads.row few other, one, onward]
  rfl

/-! ## The four forms -/

/-- A basic string is read, in which every quote is escaped. -/
theorem basic_basicBody (text rest : List Char) :
    basic (Written.basicBody 0 false 0 text ++ '"' :: rest) = some (text, rest) := by
  induction text with
  | nil => rfl
  | cons c text ih =>
    rw [Written.basicBody]
    by_cases quote : c = '"'
    · subst quote
      rw [if_pos rfl, if_neg (Nat.lt_irrefl 0), List.cons_append, List.cons_append,
        readsEscapes_basic.letter (show unescape? '"' = some '"' by decide), ih]
      rfl
    by_cases feed : c = '\n'
    · subst feed
      rw [if_neg quote, if_pos rfl, if_neg Bool.false_ne_true, List.append_assoc, List.cons_append,
        List.cons_append, readsEscapes_basic.letter (show unescape? 'n' = some '\n' by decide),
        List.nil_append, ih]
      rfl
    · rw [if_neg quote, if_neg feed, List.append_assoc, readsEscapes_basic.escape quote feed, ih]
      rfl

/-- What an escape begins with. -/
theorem exists_escape_eq {c : Char} (quote : c ≠ '"') (feed : c ≠ '\n') :
    ∃ first more, Written.escape c = first :: more ∧ first ≠ '"' ∧ first ≠ '\n' ∧ first ≠ '\r' := by
  fun_cases Written.escape c
  case case7 ret _ _ => exact ⟨c, [], rfl, quote, feed, ret⟩
  all_goals exact ⟨_, _, rfl, by decide, by decide, by decide⟩

/-- A basic string of several lines is read. The row of quotes before the rest of the text has been
written, and not yet read. -/
theorem longBasic_basicBody {row : Nat} (few : row ≤ 2) (text : List Char) {next : Char} (other : next ≠ '"')
    (rest : List Char) :
    longBasic false (List.replicate row '"' ++
        (Written.basicBody 2 true row text ++ ('"' :: '"' :: '"' :: next :: rest))) =
      some (List.replicate row '"' ++ text, next :: rest) := by
  induction text generalizing row with
  | nil =>
    have closing := readsRows_longBasic.closing few other rest
    rw [← List.replicate_append_replicate] at closing
    simpa [Written.basicBody] using closing
  | cons c text ih =>
    have onward := ih (Nat.zero_le 2)
    rw [Written.basicBody]
    by_cases quote : c = '"'
    · subst quote
      rw [if_pos rfl]
      split_ifs with fewer
      · have onward := @ih (row + 1) fewer
        rw [List.replicate_succ'] at onward
        simpa using onward
      · exact readsRows_longBasic.step few ['"'] (by decide)
          (readsEscapes_longBasic.letter (by decide) _) onward
    by_cases feed : c = '\n'
    · subst feed
      rw [if_neg quote, if_pos rfl, if_pos rfl]
      exact readsRows_longBasic.step few [] (by decide)
        (readsRows_longBasic.cons ⟨by decide, by decide⟩ nofun) onward
    · obtain ⟨first, more, whole, other, -⟩ := exists_escape_eq quote feed
      have one := readsEscapes_longBasic.escape quote feed
      rw [whole] at one
      rw [if_neg quote, if_neg feed, whole, List.append_assoc]
      exact readsRows_longBasic.step few _ other (one _) onward

theorem longLiteral_append {row : Nat} {text : List Char} (few : Written.longestRow '\'' row text ≤ 2)
    (stand : ∀ c ∈ text, mayStand c = true) {next : Char} (other : next ≠ '\'') (rest : List Char) :
    longLiteral (List.replicate row '\'' ++ (text ++ ('\'' :: '\'' :: '\'' :: next :: rest))) =
      some (List.replicate row '\'' ++ text, next :: rest) := by
  induction text generalizing row with
  | nil =>
    have closing := readsRows_longLiteral.closing (show row ≤ 2 from few) other rest
    rw [← List.replicate_append_replicate] at closing
    simpa using closing
  | cons c text ih =>
    rw [List.forall_mem_cons] at stand
    rw [Written.longestRow] at few
    split_ifs at few with quote
    · have onward := ih few stand.2
      rw [List.replicate_succ'] at onward
      simpa [quote] using onward
    · obtain ⟨fewBefore, fewAfter⟩ := Nat.max_le.1 few
      exact readsRows_longLiteral.step fewBefore [] quote
        (readsRows_longLiteral.cons stand.1 fun _ same => absurd same quote) (ih fewAfter stand.2)

theorem literal_append {text : List Char} (apostrophes : '\'' ∉ text)
    (stand : ∀ c ∈ text, isForbidden c = false) (rest : List Char) :
    literal (text ++ '\'' :: rest) = some (text, rest) := by
  have differ : ∀ c ∈ text, (c != '\'') = true := fun c mem => by
    simpa using ne_of_mem_of_not_mem mem apostrophes
  have allowed : text.any isForbidden = false := by simpa using stand
  unfold literal
  rw [List.takeWhile_append_of_pos differ, List.dropWhile_append_of_pos differ]
  simp [allowed]

/-! ## Which form is chosen -/

theorem longestRow_ge (c : Char) (here : Nat) (text : List Char) : here ≤ Written.longestRow c here text := by
  induction text generalizing here with
  | nil => exact Nat.le_refl here
  | cons d text ih =>
    rw [Written.longestRow]
    split_ifs
    · exact Nat.le_of_succ_le (ih (here + 1))
    · exact Nat.le_max_left ..

theorem notMem_of_longestRow {c : Char} {here : Nat} {text : List Char}
    (h : Written.longestRow c here text = 0) : c ∉ text := by
  induction text generalizing here with
  | nil => exact List.not_mem_nil
  | cons d text ih =>
    rw [Written.longestRow] at h
    split_ifs at h with same
    · have := longestRow_ge c (here + 1) text
      omega
    · have none : Written.longestRow c 0 text = 0 := by omega
      simp [Ne.symm same, ih none]

theorem mayStand_of_not_isControl {c : Char} (h : Written.isControl c = false) : mayStand c = true := by
  simp only [Written.isControl, mayStand, isForbidden] at h ⊢
  grind

/-- A string is written as it is on one line only if it has no apostrophe and nothing to escape. -/
theorem form_literal {text : List Char} (h : Written.form text = .literal) :
    '\'' ∉ text ∧ ∀ c ∈ text, isForbidden c = false := by
  unfold Written.form at h
  dsimp only at h
  split_ifs at h with basic literal
  simp only [Bool.and_eq_true, Bool.not_eq_true', decide_eq_true_eq] at literal
  obtain ⟨⟨controls, feeds⟩, apostrophes⟩ := literal
  refine ⟨notMem_of_longestRow apostrophes, fun c mem => ?_⟩
  have control : Written.isControl c = false := by simpa using List.any_eq_false.1 controls c mem
  have feed : c ≠ '\n' := by rintro rfl; simp [mem] at feeds
  simpa [mayStand, feed] using mayStand_of_not_isControl control

/-- A string is written as it is on several lines only if its apostrophes and characters allow it. -/
theorem form_longLiteral {text : List Char} (h : Written.form text = .longLiteral) :
    Written.longestRow '\'' 0 text ≤ 2 ∧ ∀ c ∈ text, mayStand c = true := by
  unfold Written.form at h
  dsimp only at h
  split_ifs at h with basic literal longBasic longLiteral
  simp only [Bool.and_eq_true, Bool.not_eq_true', decide_eq_true_eq] at longLiteral
  refine ⟨longLiteral.2, fun c mem => mayStand_of_not_isControl ?_⟩
  simpa using List.any_eq_false.1 longLiteral.1 c mem

/-! ## Values -/

theorem exists_basicBody_eq (c : Char) (text : List Char) :
    ∃ first more, Written.basicBody 0 false 0 (c :: text) = first :: more ∧ first ≠ '"' := by
  rw [Written.basicBody]
  by_cases quote : c = '"'
  · rw [if_pos quote, if_neg (Nat.lt_irrefl 0)]
    exact ⟨_, _, rfl, by decide⟩
  by_cases feed : c = '\n'
  · rw [if_neg quote, if_pos feed]
    exact ⟨_, _, rfl, by decide⟩
  · obtain ⟨first, more, whole, other, -⟩ := exists_escape_eq quote feed
    rw [if_neg quote, if_neg feed, whole]
    exact ⟨_, _, rfl, other⟩

theorem lineBreak?_eq_none {c : Char} (feed : c ≠ '\n') (ret : c ≠ '\r') (rest : List Char) :
    lineBreak? (c :: rest) = none := by
  unfold lineBreak?
  split <;> simp_all

/-- The line break after the opening quotes is there for a text with line feeds, and does not count. -/
theorem dropLineBreak_opening {text body : List Char} (none : '\n' ∉ text → lineBreak? body = none) :
    dropLineBreak (Written.opening text ++ body) = body := by
  unfold Written.opening dropLineBreak
  split_ifs with feeds
  · rfl
  · rw [List.nil_append, none (by simpa using feeds)]
    rfl

theorem lineBreak?_basicBody {text : List Char} (feeds : '\n' ∉ text) (rest : List Char) :
    lineBreak? (Written.basicBody 2 true 0 text ++ '"' :: rest) = none := by
  cases text with
  | nil => exact lineBreak?_eq_none (by decide) (by decide) rest
  | cons c text =>
    have feed : c ≠ '\n' := fun same => feeds (same ▸ List.mem_cons_self)
    rw [Written.basicBody, if_neg feed]
    by_cases quote : c = '"'
    · rw [if_pos quote, if_pos (by decide)]
      exact lineBreak?_eq_none (by decide) (by decide) _
    · obtain ⟨first, more, whole, -, other, ret⟩ := exists_escape_eq quote feed
      rw [if_neg quote, whole]
      exact lineBreak?_eq_none other ret _

theorem string?_quote {first : Char} (other : first ≠ '"') (rest : List Char) :
    string? ('"' :: first :: rest) = basic (first :: rest) := by
  unfold string?
  split <;> simp_all

theorem string?_apostrophe {first : Char} (other : first ≠ '\'') (rest : List Char) :
    string? ('\'' :: first :: rest) = literal (first :: rest) := by
  unfold string?
  split <;> simp_all

theorem lineBreak?_append {text : List Char} (feeds : '\n' ∉ text) (stand : ∀ c ∈ text, mayStand c = true)
    (rest : List Char) : lineBreak? (text ++ '\'' :: rest) = none := by
  cases text with
  | nil => exact lineBreak?_eq_none (by decide) (by decide) rest
  | cons c text =>
    refine lineBreak?_eq_none (fun same => feeds (same ▸ List.mem_cons_self)) ?_ _
    rintro rfl
    exact absurd (stand _ List.mem_cons_self) (by decide)

/-- A string is read back with what stands on the lines after it. -/
theorem string?_value (text rest : List Char) :
    string? (Written.value text ++ '\n' :: rest) = some (text, '\n' :: rest) := by
  unfold Written.value
  cases form : Written.form text with
  | basic =>
    have read := basic_basicBody text ('\n' :: rest)
    cases text with
    | nil => rfl
    | cons c text =>
      obtain ⟨first, more, whole, other⟩ := exists_basicBody_eq c text
      rw [whole] at read ⊢
      simpa [string?_quote other] using read
  | literal =>
    obtain ⟨apostrophes, stand⟩ := form_literal form
    have read := literal_append apostrophes stand ('\n' :: rest)
    cases text with
    | nil => rfl
    | cons c text =>
      have other : c ≠ '\'' := fun same => apostrophes (same ▸ List.mem_cons_self)
      simpa [string?_apostrophe other] using read
  | longBasic =>
    have read := longBasic_basicBody (Nat.zero_le 2) text (show '\n' ≠ '"' by decide) rest
    rw [← dropLineBreak_opening fun feeds => lineBreak?_basicBody feeds _] at read
    simpa [string?, List.append_assoc] using read
  | longLiteral =>
    obtain ⟨few, stand⟩ := form_longLiteral form
    have read := longLiteral_append few stand (show '\n' ≠ '\'' by decide) rest
    rw [← dropLineBreak_opening fun feeds => lineBreak?_append feeds stand _] at read
    simpa [string?, List.append_assoc] using read

end SwaggerRoutes.Toml
