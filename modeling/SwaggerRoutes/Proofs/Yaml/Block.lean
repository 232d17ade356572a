/-
Literal blocks of YAML, read back. The reader keeps the line breaks since the last line with content and
adds them before the next one, or to the end of the text as the header says. The main statement is that a
string with line feeds, written as a block, is read as the string, up to the line that follows the block.
-/
import SwaggerRoutes.Proofs.Yaml.Printable
import SwaggerRoutes.Yaml.Scalar
import Mathlib.Data.List.Basic

namespace SwaggerRoutes.Yaml

variable {c : Char} {mark : Mark} {text : List Char}

/-! ## One character -/

namespace BlockState

/-- The state after one character of the text of a literal block. -/
def after (state : BlockState) (c : Char) : BlockState :=
  if isBreak c then
    if state.inLine then { state with inLine := false, lineBreak := [c], emptyLines := [] }
    else { state with emptyLines := state.emptyLines ++ [c] }
  else if state.inLine then state
  else { inLine := true, startsBlank := isBlank c }

/-- The line breaks that were read and stand in no text yet. -/
def pending (state : BlockState) : List Char :=
  if state.inLine then [] else state.lineBreak ++ state.emptyLines

theorem pending_break (state : BlockState) (broken : isBreak c = true) :
    (state.after c).pending = state.pending ++ [c] := by
  unfold after pending
  rw [if_pos broken]
  cases state.inLine <;> simp

theorem inLine_after (state : BlockState) (c : Char) : (state.after c).inLine = !isBreak c := by
  unfold after
  cases isBreak c <;> cases line : state.inLine <;> simp [line]

end BlockState

theorem prepend_nil (result : Option Scanned) : result.map (·.prepend []) = result := by
  cases result <;> rfl

theorem prepend_comp (front front' : List Char) :
    (Scanned.prepend front ∘ Scanned.prepend front') = Scanned.prepend (front ++ front') := by
  funext scanned
  simp [Scanned.prepend]

variable {chomping : Chomping} {state : BlockState}

theorem blockLines_break (broken : isBreak c = true) (printable : Written.isPrintable c = true)
    (rest : List Char) :
    blockLines false chomping 2 (c :: rest) mark state =
      blockLines false chomping 2 rest (mark.nextLine 1) (state.after c) := by
  obtain ⟨same, ret⟩ := normalBreak_eq printable broken
  rw [blockLines.eq_def]
  split
  case h_3 equal =>
    cases equal
    simp only [broken, if_true, same, BlockState.after]
  all_goals grind

theorem blockLines_inLine (noBreak : isBreak c = false) (inLine : state.inLine = true) (rest : List Char) :
    blockLines false chomping 2 (c :: rest) mark state =
      (blockLines false chomping 2 rest (mark.right 1) state).map (·.prepend [c]) := by
  have ret : c ≠ '\r' := by rintro rfl; exact absurd noBreak (by decide)
  rw [blockLines.eq_def]
  split
  case h_3 same =>
    cases same
    simp only [noBreak, inLine, Bool.false_eq_true, if_false, if_true]
  all_goals grind

theorem blockLines_indentation (atStart : state.inLine = false) (small : mark.column < 2) (rest : List Char) :
    blockLines false chomping 2 (' ' :: rest) mark state =
      blockLines false chomping 2 rest (mark.right 1) state := by
  rw [blockLines.eq_def]
  split
  case h_3 same =>
    cases same
    simp [atStart, small, isBreak]
  all_goals grind

theorem blockLines_content (noBreak : isBreak c = false) (atStart : state.inLine = false)
    (column : mark.column = 2) (rest : List Char) :
    blockLines false chomping 2 (c :: rest) mark state =
      (blockLines false chomping 2 rest (mark.right 1) (state.after c)).map (·.prepend (state.pending ++ [c])) := by
  have ret : c ≠ '\r' := by rintro rfl; exact absurd noBreak (by decide)
  rw [blockLines.eq_def]
  split
  case h_3 same =>
    cases same
    simp [noBreak, atStart, column, BlockState.after, BlockState.pending, BlockState.gap]
  all_goals grind

/-- A line that begins with a character which is neither a blank nor a break, or nothing at all. -/
def BeginsLine (rest : List Char) : Prop :=
  ∀ c more, rest = c :: more → isBlank c = false ∧ isBreak c = false

/-- The line after a block stands at the start of its line and begins with no blank and no break. -/
theorem blockLines_end (atStart : state.inLine = false) (column : mark.column = 0) {rest : List Char}
    (begins : BeginsLine rest) :
    blockLines false chomping 2 rest mark state = some { text := state.tail chomping, cursor := ⟨rest, mark⟩ } := by
  cases rest with
  | nil => rw [blockLines]; simp [atStart]
  | cons c rest =>
    obtain ⟨blank, noBreak⟩ := begins c rest rfl
    have ret : c ≠ '\r' := by rintro rfl; exact absurd noBreak (by decide)
    rw [blockLines.eq_def]
    split
    case h_3 same =>
      cases same
      simp only [isBlank, Bool.or_eq_false_iff, decide_eq_false_iff_not] at blank
      simp [noBreak, atStart, column, blank]
    all_goals grind

/-! ## All lines -/

/-- What a block holds for one character, after its indentation if a line begins with it. -/
def literalPiece (atBreak : Bool) (c : Char) : List Char :=
  if isBreak c then [c] else (if atBreak then Written.indentation else []) ++ [c]

theorem literalBody_cons (atBreak : Bool) (c : Char) (text : List Char) :
    Written.literalBody atBreak (c :: text) = literalPiece atBreak c ++ Written.literalBody (isBreak c) text := by
  rw [Written.literalBody, literalPiece]
  cases isBreak c <;> simp

/-- A piece of a block is read: the text that it adds and what is then pending make up what was pending
and the character. -/
theorem exists_blockLines_piece (printable : Written.isPrintable c = true) {atBreak : Bool}
    (mode : state.inLine = !atBreak) (column : atBreak = true → mark.column = 0) (chomping : Chomping) :
    ∃ front after, front ++ (state.after c).pending = state.pending ++ [c] ∧
      (isBreak c = true → Mark.column after = 0) ∧
      ∀ rest, blockLines false chomping 2 (literalPiece atBreak c ++ rest) mark state =
        (blockLines false chomping 2 rest after (state.after c)).map (·.prepend front) := by
  by_cases broken : isBreak c = true
  · refine ⟨[], mark.nextLine 1, state.pending_break broken, fun _ => rfl, fun rest => ?_⟩
    rw [literalPiece, if_pos broken, List.singleton_append, blockLines_break broken printable, prepend_nil]
  have noBreak : isBreak c = false := by simpa using broken
  have onward : (state.after c).pending = [] := by
    rw [BlockState.pending, BlockState.inLine_after, noBreak]; rfl
  cases atBreak with
  | false =>
    have same : state.after c = state := by simp [BlockState.after, noBreak, mode]
    have before : state.pending = [] := by simp [BlockState.pending, mode]
    refine ⟨[c], mark.right 1, by rw [onward, before]; rfl, fun h => absurd h broken, fun rest => ?_⟩
    rw [same, literalPiece, if_neg broken]
    exact blockLines_inLine noBreak mode rest
  | true =>
    refine ⟨state.pending ++ [c], ((mark.right 1).right 1).right 1, by simp [onward], fun h => absurd h broken,
      fun rest => ?_⟩
    have start := column rfl
    rw [literalPiece, if_neg broken]
    show blockLines false chomping 2 (' ' :: ' ' :: c :: rest) mark state = _
    rw [blockLines_indentation mode (by omega),
      blockLines_indentation mode (by simp only [Mark.right]; omega),
      blockLines_content noBreak mode (by simp only [Mark.right]; omega)]

/-- The body of a block is read piece by piece. -/
theorem exists_blockLines (printable : ∀ c ∈ text, Written.isPrintable c = true) {atBreak : Bool}
    (mode : state.inLine = !atBreak) (column : atBreak = true → mark.column = 0) (chomping : Chomping) :
    ∃ front after, front ++ (text.foldl BlockState.after state).pending = state.pending ++ text ∧
      ((text.foldl BlockState.after state).inLine = false → Mark.column after = 0) ∧
      ∀ rest, blockLines false chomping 2 (Written.literalBody atBreak text ++ rest) mark state =
        (blockLines false chomping 2 rest after (text.foldl BlockState.after state)).map (·.prepend front) := by
  induction text generalizing state atBreak mark with
  | nil =>
    refine ⟨[], mark, by simp, fun h => column ?_, fun rest => by rw [prepend_nil]; rfl⟩
    simpa [mode] using h
  | cons c text ih =>
    rw [List.forall_mem_cons] at printable
    obtain ⟨front, between, whole, start, one⟩ := exists_blockLines_piece printable.1 mode column chomping
    obtain ⟨more, after, all, ends, read⟩ := ih printable.2 (state.inLine_after c) start
    refine ⟨front ++ more, after, ?_, ends, fun rest => ?_⟩
    · rw [List.foldl_cons, List.append_assoc, all, ← List.append_assoc, whole, List.append_assoc,
        List.singleton_append]
    · rw [literalBody_cons, List.append_assoc, one, read, Option.map_map, prepend_comp, List.foldl_cons]

/-! ## The end of a block -/

/-- The chomping that a hint stands for. -/
def chompingOf (hint : List Char) : Chomping :=
  if hint = ['-'] then .strip else if hint = ['+'] then .keep else .clip

theorem foldl_concat (state : BlockState) (before : List Char) (c : Char) :
    (before ++ [c]).foldl BlockState.after state = (before.foldl BlockState.after state).after c := by
  rw [List.foldl_append]; rfl

/-- At the start of a line all that is pending is kept. -/
theorem tail_keep (atStart : state.inLine = false) : state.tail .keep = state.pending := by
  simp [BlockState.tail, BlockState.pending, atStart]

/-- A break right after content is all that is pending. -/
theorem tail_clip (inLine : state.inLine = true) (broken : isBreak c = true) :
    (state.after c).tail .clip = (state.after c).pending := by
  simp [BlockState.tail, BlockState.pending, BlockState.after, inLine, broken]

/-- The breaks at the end of a text are those that its chomping keeps. -/
theorem tail_chomping (before : List Char) {last : Char} (broken : isBreak last = true) :
    ((before ++ [last]).foldl BlockState.after {}).tail
        (chompingOf (Written.chompingHint (before ++ [last]))) =
      ((before ++ [last]).foldl BlockState.after {}).pending := by
  have atStart : ((before ++ [last]).foldl BlockState.after {}).inLine = false := by
    rw [foldl_concat, BlockState.inLine_after, broken]; rfl
  unfold Written.chompingHint
  rw [List.reverse_append, List.reverse_singleton, List.singleton_append]
  dsimp only
  rw [if_neg (by simp [broken])]
  rcases List.eq_nil_or_concat' before with rfl | ⟨front, c, rfl⟩
  · exact tail_keep atStart
  rw [List.reverse_append, List.reverse_singleton, List.singleton_append]
  dsimp only
  by_cases double : isBreak c = true
  · rw [if_pos double]
    exact tail_keep atStart
  · rw [if_neg double]
    rw [foldl_concat]
    refine tail_clip ?_ broken
    rw [foldl_concat, BlockState.inLine_after]
    simpa using double

/-- The lines of a block give the text back, whatever line comes after them. -/
theorem exists_blockLines_literal (nonempty : text ≠ []) (printable : ∀ c ∈ text, Written.isPrintable c = true)
    (column : mark.column = 0) {rest : List Char} (begins : BeginsLine rest) :
    ∃ after : Mark, after.column = 0 ∧
      blockLines false (chompingOf (Written.chompingHint text)) 2
          (Written.literalBody true text ++ ((if Written.endsWith isBreak text then [] else ['\n']) ++ rest))
          mark {} =
        some { text, cursor := ⟨rest, after⟩ } := by
  obtain ⟨front, after, whole, ends, read⟩ :=
    @exists_blockLines mark text {} printable true rfl (fun _ => column) (chompingOf (Written.chompingHint text))
  obtain ⟨before, last, rfl⟩ := (List.eq_nil_or_concat' text).resolve_left nonempty
  have endsWith : Written.endsWith isBreak (before ++ [last]) = isBreak last := by
    simp [Written.endsWith]
  rw [read, endsWith]
  have mode : ((before ++ [last]).foldl BlockState.after {}).inLine = !isBreak last := by
    rw [foldl_concat, BlockState.inLine_after]
  by_cases broken : isBreak last = true
  · rw [broken] at mode
    refine ⟨after, ends mode, ?_⟩
    rw [if_pos broken, List.nil_append, blockLines_end mode (ends mode) begins, tail_chomping before broken]
    simp only [Option.map_some, Scanned.prepend]
    rw [whole]
    rfl
  · refine ⟨after.nextLine 1, rfl, ?_⟩
    have hint : Written.chompingHint (before ++ [last]) = ['-'] := by
      simp [Written.chompingHint, broken]
    rw [if_neg broken, hint, List.singleton_append, blockLines_break (by decide) (by decide),
      blockLines_end (by rw [BlockState.inLine_after]; rfl) rfl begins]
    have kept : ((before ++ [last]).foldl BlockState.after {}).pending = [] := by
      rw [BlockState.pending, mode, show isBreak last = false by simpa using broken]
      rfl
    rw [kept, List.append_nil] at whole
    simp [Scanned.prepend, whole, chompingOf, BlockState.tail, BlockState.pending]

/-! ## The header -/

theorem chompingHint_cases (text : List Char) :
    Written.chompingHint text = ['-'] ∨ Written.chompingHint text = ['+'] ∨ Written.chompingHint text = [] := by
  unfold Written.chompingHint
  grind

/-- The header of a block is read up to the end of its line. -/
theorem exists_blockHeader? {hint : List Char} {given : Nat}
    (known : hint = [] ∧ given = 0 ∨ hint = ['2'] ∧ given = 2) (text body : List Char) (mark : Mark) :
    ∃ after, blockHeader? ⟨hint ++ Written.chompingHint text ++ '\n' :: body, mark⟩ =
      some (chompingOf (Written.chompingHint text), given, ⟨'\n' :: body, after⟩) := by
  rcases known with ⟨rfl, rfl⟩ | ⟨rfl, rfl⟩ <;>
    rcases chompingHint_cases text with hint | hint | hint <;> rw [hint] <;> exact ⟨_, rfl⟩

theorem exists_lineEnd? (body : List Char) (mark : Mark) :
    ∃ after : Mark, after.column = 0 ∧ lineEnd? ⟨'\n' :: body, mark⟩ = some ⟨body, after⟩ :=
  ⟨_, rfl, rfl⟩

/-- The indentation of a block that begins with content is found on its first line. -/
theorem leadingLines_content (noBreak : isBreak c = false) (blank : isBlank c = false)
    (column : mark.column = 0) (rest : List Char) :
    leadingLines (' ' :: ' ' :: c :: rest) mark 0 =
      some (2, [], ⟨c :: rest, (mark.right 1).right 1⟩) := by
  have ret : c ≠ '\r' := by rintro rfl; exact absurd noBreak (by decide)
  simp only [isBlank, Bool.or_eq_false_iff, decide_eq_false_iff_not] at blank
  show leadingLines (c :: rest) ((mark.right 1).right 1) 0 = _
  rw [leadingLines.eq_def]
  split
  case h_3 same =>
    cases same
    simp [blank, noBreak, Mark.right, column]
  all_goals grind

/-- With or without a hint for its indentation, a block is read from the start of its first line. -/
theorem exists_block?_eq (nonempty : text ≠ []) (printable : ∀ c ∈ text, Written.isPrintable c = true)
    (rest : List Char) (mark : Mark) :
    ∃ start : Mark, start.column = 0 ∧
      block? false 0 ⟨Written.indentationHint text ++ Written.chompingHint text ++ '\n' ::
          (Written.literalBody true text ++ rest), mark⟩ =
        blockLines false (chompingOf (Written.chompingHint text)) 2 (Written.literalBody true text ++ rest)
          start {} := by
  by_cases hinted : Written.startsWith Written.isSpaceOrBreak text = true
  · have hint : Written.indentationHint text = ['2'] := if_pos hinted
    obtain ⟨between, header⟩ := exists_blockHeader? (.inr ⟨hint, rfl⟩) text (Written.literalBody true text ++ rest) mark
    obtain ⟨start, column, ends⟩ := exists_lineEnd? (Written.literalBody true text ++ rest) between
    refine ⟨start, column, ?_⟩
    unfold block?
    rw [header]
    simp only [Option.bind_eq_bind, Option.bind_some, ends]
    rfl
  · have hint : Written.indentationHint text = [] := if_neg hinted
    obtain ⟨between, header⟩ := exists_blockHeader? (.inl ⟨hint, rfl⟩) text (Written.literalBody true text ++ rest) mark
    obtain ⟨start, column, ends⟩ := exists_lineEnd? (Written.literalBody true text ++ rest) between
    refine ⟨start, column, ?_⟩
    obtain ⟨c, more, rfl⟩ := List.exists_cons_of_ne_nil nonempty
    have content : isBreak c = false ∧ c ≠ ' ' := by
      simpa [Written.startsWith, Written.isSpaceOrBreak, Written.isSpace, and_comm] using hinted
    obtain ⟨noBreak, space⟩ := content
    have blank := not_isBlank_of_isPrintable (printable c List.mem_cons_self) space
    have body : Written.literalBody true (c :: more) ++ rest =
        ' ' :: ' ' :: c :: (Written.literalBody false more ++ rest) := by
      rw [literalBody_cons, literalPiece, noBreak]
      rfl
    unfold block?
    rw [header]
    simp only [Option.bind_eq_bind, Option.bind_some, ends]
    rw [body, leadingLines_content noBreak blank column, blockLines_indentation rfl (by omega),
      blockLines_indentation rfl (by simp only [Mark.right]; omega)]
    rfl

theorem exists_block? (nonempty : text ≠ []) (printable : ∀ c ∈ text, Written.isPrintable c = true)
    {rest : List Char} (begins : BeginsLine rest) (mark : Mark) :
    ∃ after : Mark, after.column = 0 ∧
      block? false 0 ⟨Written.indentationHint text ++ Written.chompingHint text ++ '\n' ::
          (Written.literalBody true text ++ ((if Written.endsWith isBreak text then [] else ['\n']) ++ rest)),
          mark⟩ =
        some { text, cursor := ⟨rest, after⟩ } := by
  obtain ⟨start, column, whole⟩ := exists_block?_eq nonempty printable
    ((if Written.endsWith isBreak text then [] else ['\n']) ++ rest) mark
  rw [whole]
  exact exists_blockLines_literal nonempty printable column begins

end SwaggerRoutes.Yaml
