/-
The tokens of YAML that sets keys to strings.
-/
import SwaggerRoutes.Proofs.Yaml.Word
import SwaggerRoutes.Yaml.Token

namespace SwaggerRoutes.Yaml

variable {c : Char} {rest text : List Char} {mark : Mark}

/-! ## Forms -/

/-- A string that may be written plain. -/
structure WrittenPlain (text : List Char) : Prop where
  unescaped : Unescaped text
  noBreaks : ∀ c ∈ text, isBreak c = false
  begins : Written.startsWith Written.isSpaceOrBreak text = false
  ends : Written.endsWith Written.isSpaceOrBreak text = false
  start : Written.badStart text = false
  inside : Written.badInside text = false
  nonempty : text ≠ []

theorem form_plain (h : Written.form text = .plain) : WrittenPlain text := by
  unfold Written.form at h
  split_ifs at h with feeds block plain
  simp only [Written.allowsPlain, Bool.and_eq_true, Bool.not_eq_true', Bool.or_eq_false_iff] at plain
  obtain ⟨reads, ⟨⟨⟨⟨⟨escapes, begins⟩, ends⟩, breaks⟩, -⟩, start⟩, inside⟩ := plain
  refine ⟨unescaped_of_needsEscapes escapes, by simpa using breaks, begins, ends, start, inside, ?_⟩
  rintro rfl
  exact absurd reads (by decide)

namespace WrittenPlain

/-- After a word, a plain string goes on with no indicator. -/
theorem insideWord (plain : WrittenPlain text) : Written.badInside ('x' :: text) = false := by
  cases text with
  | nil => rfl
  | cons c text =>
    have start := plain.start
    simp only [Written.badStart, Bool.or_eq_false_iff] at start
    have colon : (decide (c = ':') && blankOrEnd text) = false := by
      by_cases same : c = ':'
      · simpa [same] using start.2
      · simp [same]
    have noBlank : (isBlank 'x' || isBreak 'x') = false := by decide
    rw [Written.badInside, colon, noBlank, plain.inside]
    simp

/-- A plain string ends with a word. -/
theorem endsWord (plain : WrittenPlain text) : Written.endsWith isBlank ('x' :: text) = false := by
  obtain ⟨before, last, rfl⟩ := text.eq_nil_or_concat'.resolve_left plain.nonempty
  have ends := plain.ends
  have space : last ≠ ' ' := by
    rintro rfl
    simp [Written.endsWith, Written.isSpaceOrBreak, Written.isSpace] at ends
  have blank := not_isBlank_of_isPrintable (plain.unescaped.printable last (by simp)) space
  rw [Written.endsWith, ← List.cons_append, List.getLast?_concat]
  exact blank

end WrittenPlain

theorem form_single (h : Written.form text = .single) :
    Unescaped text ∧ '\n' ∉ text ∧ Written.hasPair isBreak Written.isSpace text = false := by
  unfold Written.form at h
  split_ifs at h with feeds block plain single
  simp only [Written.allowsSingle, Bool.not_eq_true', Bool.or_eq_false_iff] at single
  exact ⟨unescaped_of_needsEscapes single.1, by simpa using feeds, single.2⟩

theorem form_literal (h : Written.form text = .literal) : Unescaped text ∧ text ≠ [] := by
  unfold Written.form at h
  split_ifs at h with feeds block
  simp only [Written.allowsLiteral, Bool.not_eq_true', Bool.or_eq_false_iff] at block
  refine ⟨unescaped_of_needsEscapes block.1, ?_⟩
  rintro rfl
  exact absurd feeds (by decide)

/-! ## Between tokens -/

namespace Scan

variable {s : Scan}

theorem skipGap_cons {keyAllowed : Bool} (blank : isBlank c = false) (noBreak : isBreak c = false)
    (comment : c ≠ '#') (rest : List Char) (mark : Mark) :
    skipGap false (c :: rest) mark false keyAllowed = (⟨c :: rest, mark⟩, keyAllowed) := by
  have ret : c ≠ '\r' := by rintro rfl; exact absurd noBreak (by decide)
  simp only [isBlank, Bool.or_eq_false_iff, decide_eq_false_iff_not] at blank
  rw [skipGap.eq_def]
  split
  case h_3 same => cases same; simp [blank, noBreak, comment]
  all_goals grind

theorem unroll_eq {column : Int} (inside : s.indent ≤ column) : s.unroll column = s := by
  have stays : ¬ column < s.indent := by omega
  unfold unroll
  split_ifs
  · rfl
  · cases s.outer with
    | nil => rfl
    | cons outer rest => rw [unroll.close, if_neg stays]

/-- Outside of flow collections, a place where no open collection ends is ready for the next token as soon
as the gap is passed. -/
theorem ready?_eq {cursor : Cursor} {keyAllowed : Bool} (block : s.outerKeys = [])
    (skipped : skipGap false s.cursor.rest s.cursor.mark false s.keyAllowed = (cursor, keyAllowed))
    (fresh : refresh? cursor.mark s.key = some s.key) (inside : s.indent ≤ cursor.mark.column) :
    s.ready? = some { s with cursor, keyAllowed } := by
  have flow : s.inFlow = false := by simp [inFlow, block]
  unfold ready?
  rw [flow, skipped]
  simp only [dropStale?, fresh, block, List.mapM_nil]
  exact congrArg some (unroll_eq inside)

/-- One token: the state is made ready, and the token is read that begins there. -/
theorem run?_token {ready next : Scan} (steps : Nat) (isReady : s.ready? = some ready)
    (begins : ready.cursor.rest = c :: rest) (token : ready.token? c rest = some next) :
    run? (steps + 1) s = run? steps next := by
  simp only [run?, isReady, Option.bind_eq_bind, Option.bind_some, begins, token]

/-! ## Which token -/

theorem token?_colon (s : Scan) (rest : List Char) : s.token? ':' (' ' :: rest) = s.value? := by
  simp [token?, documentMark, blankOrEnd, isBlank]

theorem token?_bar (block : s.inFlow = false) (rest : List Char) : s.token? '|' rest = s.blockScalar? false := by
  simp [token?, documentMark, block]

theorem token?_apostrophe (s : Scan) (rest : List Char) :
    s.token? '\'' rest = s.quotedScalar? singleQuoted := by
  simp [token?, documentMark]

theorem token?_quote (s : Scan) (rest : List Char) : s.token? '"' rest = s.quotedScalar? doubleQuoted := by
  simp [token?, documentMark]

/-- No indicator begins the text: none that is listed, and none of the other three before a blank. -/
theorem ne_of_badStart (start : Written.badStart (c :: rest) = false) :
    (∀ other ∈ Written.startIndicators, c ≠ other) ∧
      (c = '?' ∨ c = ':' ∨ c = '-' → blankOrEnd rest = false) := by
  rw [Written.badStart, Bool.or_eq_false_iff] at start
  obtain ⟨listed, lone⟩ := start
  constructor
  · rintro other mem rfl
    simp [mem] at listed
  · rintro (rfl | rfl | rfl) <;> simpa using lone

theorem startsPlain_of_badStart (blank : isBlank c = false) (noBreak : isBreak c = false)
    (start : Written.badStart (c :: rest) = false) : startsPlain false c rest = true := by
  obtain ⟨differ, lone⟩ := ne_of_badStart start
  simp only [Written.startIndicators, List.forall_mem_cons, List.not_mem_nil, false_implies, implies_true,
    and_true] at differ
  by_cases single : c = '?' ∨ c = ':' ∨ c = '-'
  · have more := lone single
    cases rest with
    | nil => cases more
    | cons d rest =>
      have first : isBlank d = false := by
        simp only [blankOrEnd, Bool.or_eq_false_iff] at more
        exact more.1
      rcases single with rfl | rfl | rfl <;> simp [startsPlain, more, first]
  · simp only [not_or] at single
    simp [startsPlain, indicators, blank, noBreak, differ, single]

/-- Where no indicator stands, a plain scalar begins. -/
theorem token?_plain (block : s.inFlow = false) (blank : isBlank c = false) (noBreak : isBreak c = false)
    (start : Written.badStart (c :: rest) = false)
    (line : s.cursor.mark.column ≠ 0 ∨ documentMark (c :: rest) = false) :
    s.token? c rest = s.plainScalar? := by
  have plain := startsPlain_of_badStart blank noBreak start
  obtain ⟨differ, lone⟩ := ne_of_badStart start
  simp only [Written.startIndicators, List.forall_mem_cons, List.not_mem_nil, false_implies, implies_true,
    and_true] at differ
  have noMark : (s.cursor.mark.column == 0 && documentMark (c :: rest)) = false := by
    rcases line with inside | other
    · simp [inside]
    · simp [other]
  -- the three indicators that may begin a word do so here, since no blank follows them
  have single {indicator : Char} (listed : indicator = '?' ∨ indicator = ':' ∨ indicator = '-') :
      ¬ (c = indicator ∧ blankOrEnd rest = true) := by
    rintro ⟨rfl, more⟩
    rw [lone listed] at more
    cases more
  simp [token?, noMark, differ, single, block, plain]

/-! ## Keys -/

/-- The state at the start of a line, outside of flow collections. -/
def atLine (rest : List Char) (mark : Mark) (tokens : List Token) (count : Nat) (indent : Int)
    (outer : List Int) : Scan :=
  { cursor := ⟨rest, mark⟩, tokens, count, indent, outer }

/-- Before the first key no mapping is open, and before any other one the mapping of the keys is. -/
inductive Opened : (indent : Int) → (outer : List Int) → (opening : List Token) → Prop
  | first : Opened (-1) [] [.blockMappingStart]
  | further : Opened 0 [-1] []

/-- A state in the mapping of the keys, where no key may have begun. -/
def inMapping (rest : List Char) (mark : Mark) (tokens : List Token) (count : Nat) (keyAllowed : Bool) : Scan :=
  { cursor := ⟨rest, mark⟩, tokens, count, indent := 0, outer := [-1], keyAllowed }

/-- A key that needs no quotes, and is not too long to be one. -/
structure PlainKey (key : String) : Prop where
  nonempty : key.toList ≠ []
  keyChars : ∀ c ∈ key.toList, isKeyChar c = true
  short : key.toList.length ≤ 1024

/-- The state between a key and its colon: the key may turn out to be one. -/
def afterKey (rest : List Char) (mark : Mark) (key : String) (tokens : List Token) (count : Nat) (indent : Int)
    (outer : List Int) : Scan where
  cursor := ⟨':' :: ' ' :: rest, mark.right key.toList.length⟩
  tokens := .scalar true key :: tokens
  count := count + 1
  indent
  outer
  key := some ⟨count, indent == (mark.column : Int), mark⟩
  keyAllowed := false

variable {key : String} {tokens : List Token} {count : Nat} {indent : Int} {outer : List Int}
  {opening : List Token}

theorem plainScalar?_key (plainKey : PlainKey key) :
    (atLine (key.toList ++ ':' :: ' ' :: rest) mark tokens count indent outer).plainScalar? =
      some (afterKey rest mark key tokens count indent outer) := by
  have read := plain_key plainKey.keyChars (indent + 1).toNat rest mark
  simp only [plainScalar?, saveKey?, dropKey?, atLine, inFlow, Option.bind_eq_bind, Option.bind_some]
  simp [read, afterKey, takeTo, push]

theorem badStart_of_isKeyChar (h : isKeyChar c = true) (rest : List Char) :
    Written.badStart (c :: rest) = false ∧ documentMark (c :: rest) = false := by
  have others : (Written.startIndicators ++ ['?', ':', '-', '.']).all (!isKeyChar ·) = true := by decide
  have differ : ∀ other ∈ Written.startIndicators ++ ['?', ':', '-', '.'], c ≠ other := fun other mem =>
    isKeyChar_ne h (by simpa using List.all_eq_true.1 others other mem)
  simp only [Written.startIndicators, List.cons_append, List.nil_append, List.forall_mem_cons, List.not_mem_nil,
    false_implies, implies_true, and_true] at differ
  constructor
  · simp [Written.badStart, Written.startIndicators, differ]
  · unfold documentMark
    split <;> simp_all

theorem value?_afterKey (opened : Opened indent outer opening) (column : mark.column = 0) :
    (afterKey rest mark key tokens count indent outer).value? =
      some (inMapping (' ' :: rest) ((mark.right key.toList.length).right 1)
        (.value :: .scalar true key :: .key :: (opening ++ tokens)) (count + 2 + opening.length + 1) false) := by
  -- the tokens of the key and of the mapping are put in behind the scalar, which came last
  have behindKey : count + 1 - count = 1 := by omega
  have behindBoth : count + 2 - count = 2 := by omega
  cases opened <;>
    simp [value?, afterKey, inMapping, insert, roll, inFlow, take, push, putIn, Cursor.skip, column, behindKey,
      behindBoth]

/-- A key and its colon are read. -/
theorem exists_run?_key (plainKey : PlainKey key) (opened : Opened indent outer opening) {s : Scan}
    (column : mark.column = 0)
    (isReady : s.ready? = some (atLine (key.toList ++ ':' :: ' ' :: rest) mark tokens count indent outer))
    (steps : Nat) :
    ∃ (after : Mark) (count' : Nat), after.column ≠ 0 ∧
      run? (steps + 2) s = run? steps
        (inMapping (' ' :: rest) after (.value :: .scalar true key :: .key :: (opening ++ tokens)) count' false) := by
  refine ⟨(mark.right key.toList.length).right 1, count + 2 + opening.length + 1, Nat.succ_ne_zero _, ?_⟩
  obtain ⟨c, more, begins⟩ := List.exists_cons_of_ne_nil plainKey.nonempty
  have first : isKeyChar c = true := plainKey.keyChars c (begins ▸ List.mem_cons_self)
  have token : (atLine (key.toList ++ ':' :: ' ' :: rest) mark tokens count indent outer).token? c
      (more ++ ':' :: ' ' :: rest) = some (afterKey rest mark key tokens count indent outer) := by
    obtain ⟨start, noMark⟩ := badStart_of_isKeyChar first (more ++ ':' :: ' ' :: rest)
    rw [token?_plain rfl (not_isBlank_of_isKeyChar first) (not_isBreak_of_isKeyChar first) start (.inr noMark)]
    exact plainScalar?_key plainKey
  -- the key may wait for its colon: it stands on the same line, and not too far away
  have atColon : (afterKey rest mark key tokens count indent outer).ready? =
      some (afterKey rest mark key tokens count indent outer) := by
    have fresh : isStale (mark.right key.toList.length) ⟨count, indent == (mark.column : Int), mark⟩ = false := by
      have short := plainKey.short
      simp [isStale, Mark.right, short]
    refine ready?_eq rfl (skipGap_cons (by decide) (by decide) (by decide) _ _) ?_ ?_
    · simp only [afterKey, refresh?, fresh]
      rfl
    · cases opened <;> simp only [afterKey] <;> omega
  rw [run?_token (steps + 1) isReady (by simp [atLine, begins]) token,
    run?_token steps atColon rfl (token?_colon _ rest ▸ value?_afterKey opened column)]

/-! ## Values -/

/-- A text that begins with a key, or nothing at all. -/
def BeginsKey (rest : List Char) : Prop := ∀ c more, rest = c :: more → isKeyChar c = true

theorem BeginsKey.beginsLine (begins : BeginsKey rest) : BeginsLine rest := fun c more h =>
  ⟨not_isBlank_of_isKeyChar (begins c more h), not_isBreak_of_isKeyChar (begins c more h)⟩

theorem skipGap_key {keyAllowed : Bool} (begins : BeginsKey rest) (mark : Mark) :
    skipGap false rest mark false keyAllowed = (⟨rest, mark⟩, keyAllowed) := by
  cases rest with
  | nil => rfl
  | cons c rest =>
    have first := begins c rest rfl
    exact skipGap_cons (not_isBlank_of_isKeyChar first) (not_isBreak_of_isKeyChar first)
      (isKeyChar_ne first (by decide)) rest mark

theorem ready?_line (begins : BeginsKey rest) (mark : Mark) (tokens : List Token) (count : Nat) :
    (inMapping rest mark tokens count true).ready? = some (inMapping rest mark tokens count true) :=
  ready?_eq rfl (skipGap_key begins mark) rfl (by simp [inMapping])

theorem ready?_lineEnd (begins : BeginsKey rest) (mark : Mark) (tokens : List Token) (count : Nat) :
    (inMapping ('\n' :: rest) mark tokens count false).ready? =
      some (inMapping rest (mark.nextLine 1) tokens count true) :=
  ready?_eq rfl (skipGap_key begins (mark.nextLine 1)) rfl (by simp [inMapping])

/-- A text is that of a value: it begins with a token, after which the next line is ready. -/
structure IsValue (c : Char) (text rest : List Char) (token : Token) : Prop where
  blank : isBlank c = false
  noBreak : isBreak c = false
  comment : c ≠ '#'
  read : ∀ {mark : Mark} (tokens : List Token) (count : Nat), mark.column ≠ 0 → ∃ (s : Scan) (after : Mark),
    after.column = 0 ∧ (inMapping (c :: text) mark tokens count false).token? c text = some s ∧
      s.ready? = some (inMapping rest after (token :: tokens) (count + 1) true)

theorem isValue_plain (plain : WrittenPlain (c :: text)) (begins : BeginsKey rest) :
    IsValue c (text ++ '\n' :: rest) rest (.scalar true (String.ofList (c :: text))) := by
  have printable := plain.unescaped.printable c List.mem_cons_self
  have noBreak := plain.noBreaks c List.mem_cons_self
  have space : c ≠ ' ' := by
    rintro rfl
    simpa [Written.startsWith, Written.isSpaceOrBreak, Written.isSpace] using plain.begins
  have blank := not_isBlank_of_isPrintable printable space
  have start : Written.badStart (c :: (text ++ '\n' :: rest)) = false := by
    have start := plain.start
    rwa [Written.badStart, ← blankOrEnd_append text rest] at start
  have comment : c ≠ '#' := by
    rintro rfl
    simp [Written.badStart, Written.startIndicators] at start
  refine ⟨blank, noBreak, comment, fun {mark} tokens count column => ?_⟩
  obtain ⟨after, lineStart, read⟩ := exists_plain plain.unescaped.printable plain.noBreaks plain.insideWord
    plain.endsWord rfl (.inl rfl) column begins.beginsLine
  refine ⟨inMapping rest after (.scalar true (String.ofList (c :: text)) :: tokens) (count + 1) true, after,
    lineStart, ?_, ready?_line begins after _ _⟩
  rw [token?_plain rfl blank noBreak start (.inl column)]
  rw [List.cons_append] at read
  simp [plainScalar?, saveKey?, inMapping, inFlow, read, takeTo, push, Gap.text]

/-- A quoted string is a value; the line ends after its closing quote. -/
theorem isValue_quoted {quoted : List Char → Mark → Gap → Option Scanned} {quote : Char} {chars : List Char}
    (isQuote : quote = '\'' ∨ quote = '"') (token : ∀ s chars, token? s quote chars = s.quotedScalar? quoted)
    (read : ∀ {mark : Mark}, mark.column ≠ 0 →
      ∃ after, quoted chars mark .none = some { text, cursor := ⟨'\n' :: rest, after⟩ })
    (begins : BeginsKey rest) : IsValue quote chars rest (.scalar false (String.ofList text)) where
  blank := by rcases isQuote with rfl | rfl <;> decide
  noBreak := by rcases isQuote with rfl | rfl <;> decide
  comment := by rcases isQuote with rfl | rfl <;> decide
  read {mark} tokens count column := by
    obtain ⟨after, read⟩ := read (right_column_ne column 1)
    refine ⟨inMapping ('\n' :: rest) after (.scalar false (String.ofList text) :: tokens) (count + 1) false,
      after.nextLine 1, rfl, ?_, ready?_lineEnd begins after _ _⟩
    rw [token]
    simp [quotedScalar?, saveKey?, inMapping, Cursor.skip, read, takeTo, push]

theorem isValue_single {text : List Char} (unescaped : Unescaped text) (feeds : '\n' ∉ text)
    (noLeading : Written.hasPair isBreak Written.isSpace text = false) (begins : BeginsKey rest) :
    IsValue '\'' (Written.singleBody false text ++ '\'' :: '\n' :: rest) rest
      (.scalar false (String.ofList text)) := by
  refine isValue_quoted (.inl rfl) token?_apostrophe (fun column => ?_) begins
  exact exists_singleQuoted unescaped feeds noLeading (.word column) (by decide) rest

theorem isValue_double (text : List Char) (begins : BeginsKey rest) :
    IsValue '"' (text.flatMap Written.escape ++ '"' :: '\n' :: rest) rest
      (.scalar false (String.ofList text)) := by
  refine isValue_quoted (.inr rfl) token?_quote (fun column => ?_) begins
  exact @exists_doubleQuoted _ text ('\n' :: rest) .none rfl column

theorem isValue_literal {text : List Char} (nonempty : text ≠ []) (unescaped : Unescaped text)
    (begins : BeginsKey rest) :
    IsValue '|' (Written.indentationHint text ++ Written.chompingHint text ++ '\n' ::
        (Written.literalBody true text ++ ((if Written.endsWith isBreak text then [] else ['\n']) ++ rest)))
      rest (.scalar false (String.ofList text)) := by
  refine ⟨by decide, by decide, by decide, fun {mark} tokens count column => ?_⟩
  obtain ⟨after, lineStart, read⟩ := exists_block? nonempty unescaped.printable begins.beginsLine (mark.right 1)
  refine ⟨inMapping rest after (.scalar false (String.ofList text) :: tokens) (count + 1) true, after,
    lineStart, ?_, ready?_line begins after _ _⟩
  rw [token?_bar rfl]
  simp only [blockScalar?, dropKey?, inMapping, Cursor.skip, List.drop_succ_cons, List.drop_zero,
    Option.bind_eq_bind, Option.bind_some, read]
  rfl

/-- The token of a string that is written as a value. -/
def valueToken (text : String) : Token := .scalar (Written.form text.toList == .plain) text

theorem exists_isValue (text : String) (begins : BeginsKey rest) :
    ∃ c more, Written.value text.toList ++ rest = c :: more ∧ IsValue c more rest (valueToken text) := by
  unfold valueToken Written.value
  cases form : Written.form text.toList with
  | plain =>
    have plain := form_plain form
    obtain ⟨c, more, whole⟩ := List.exists_cons_of_ne_nil plain.nonempty
    rw [whole] at plain
    have value := isValue_plain plain begins
    rw [← whole, String.ofList_toList] at value
    exact ⟨c, _, by simp [whole], value⟩
  | single =>
    obtain ⟨unescaped, feeds, noLeading⟩ := form_single form
    have value := isValue_single unescaped feeds noLeading begins
    rw [String.ofList_toList] at value
    exact ⟨_, _, by simp, value⟩
  | double =>
    have value := isValue_double text.toList begins
    rw [String.ofList_toList] at value
    exact ⟨_, _, by simp, value⟩
  | literal =>
    obtain ⟨unescaped, nonempty⟩ := form_literal form
    have value := isValue_literal nonempty unescaped begins
    rw [String.ofList_toList] at value
    exact ⟨_, _, by simp, value⟩

/-- The value of a key is read, and the next line is ready. -/
theorem exists_run?_value (text : String) (begins : BeginsKey rest) (column : mark.column ≠ 0)
    (tokens : List Token) (count steps : Nat) :
    ∃ (s : Scan) (after : Mark), after.column = 0 ∧
      run? (steps + 1) (inMapping (' ' :: (Written.value text.toList ++ rest)) mark tokens count false) =
        run? steps s ∧
      s.ready? = some (inMapping rest after (valueToken text :: tokens) (count + 1) true) := by
  obtain ⟨c, more, whole, value⟩ := exists_isValue text begins
  obtain ⟨s, after, lineStart, token, isReady⟩ := value.read tokens count (right_column_ne column 1)
  refine ⟨s, after, lineStart, ?_, isReady⟩
  rw [whole]
  refine run?_token steps (ready?_eq rfl ?_ rfl ?_) rfl token
  · exact skipGap_cons value.blank value.noBreak value.comment more (mark.right 1)
  · simp [inMapping]

end Scan

end SwaggerRoutes.Yaml
