/-
Reading the scalars of YAML: plain ones, the two quoted forms, and block scalars. Each reader goes
through the text once, character by character, and yields the scalar's text and the cursor after it.

Between the words of a plain or quoted scalar lies a gap. A gap of blanks is kept as it is; a single
line break reads as a space, and of several breaks all but the first are kept.
-/
import SwaggerRoutes.Yaml.Char
import SwaggerRoutes.Text.Hex

namespace SwaggerRoutes.Yaml

open SwaggerRoutes.Text

/-! ## Gaps -/

/-- What lies between two words: nothing, blanks, or line breaks, the first and the others. -/
inductive Gap
  | none
  | blanks (text : List Char)
  | lines (first others : List Char)
deriving DecidableEq, Repr

namespace Gap

/-- The gap with a blank more; blanks around line breaks do not count. -/
def blank (c : Char) : Gap → Gap
  | .none => .blanks [c]
  | .blanks text => .blanks (text ++ [c])
  | .lines first others => .lines first others

/-- The gap with a line break more. -/
def line (c : Char) : Gap → Gap
  | .lines first others => .lines first (others ++ [c])
  | _ => .lines [c] []

/-- The text that a gap reads as. -/
def text : Gap → List Char
  | .none => []
  | .blanks text => text
  | .lines first others =>
    if first = ['\n'] then (if others = [] then [' '] else others) else first ++ others

def isNone : Gap → Bool
  | .none => true
  | _ => false

/-- Whether the gap goes over a line's end. -/
def isLines : Gap → Bool
  | .lines _ _ => true
  | _ => false

end Gap

/-- A scalar that was read: its text, where the reading ended, and whether a line break lies
between the scalar and that place. -/
structure Scanned where
  text : List Char
  cursor : Cursor
  broken : Bool := false

namespace Scanned

/-- The result with text put before it. -/
def prepend (text : List Char) (scanned : Scanned) : Scanned :=
  { scanned with text := text ++ scanned.text }

end Scanned

/-! ## Plain scalars -/

/-- The indicators of flow collections. -/
def isFlowIndicator (c : Char) : Bool := c = ',' || c = '[' || c = ']' || c = '\x7b' || c = '\x7d'

/-- Whether a word ends here: at a colon before a blank, and inside a flow collection at an
indicator. -/
def endsWord (flow : Bool) (c : Char) (rest : List Char) : Bool :=
  (c = ':' && blankOrEnd rest) || (flow && isFlowIndicator c)

/-- A colon that may not stand where it does: inside a flow collection, before an indicator. -/
def misplacedColon (flow : Bool) (c : Char) (rest : List Char) : Bool :=
  flow && c = ':' && match rest with
    | d :: _ => isFlowIndicator d || d = '?'
    | [] => false

/-- A plain scalar, whose further lines stand at least at the column `indent` unless it is inside a
flow collection. After a gap a comment, a mark between documents and a lesser indentation end it. -/
def plain (flow : Bool) (indent : Nat) : List Char → Mark → Gap → Option Scanned
  | [], mark, gap => some ⟨[], ⟨[], mark⟩, gap.isLines⟩
  | '\r' :: '\n' :: rest, mark, gap => plain flow indent rest (mark.nextLine 2) (gap.line '\n')
  | c :: rest, mark, gap =>
    if isBlank c then
      if gap.isLines && mark.column < indent && c = '\t' then none
      else plain flow indent rest (mark.right 1) (gap.blank c)
    else if isBreak c then plain flow indent rest (mark.nextLine 1) (gap.line (normalBreak c))
    else if !gap.isNone && ((!flow && mark.column < indent) || c = '#'
        || (mark.column = 0 && documentMark (c :: rest))) then
      some ⟨[], ⟨c :: rest, mark⟩, gap.isLines⟩
    else if misplacedColon flow c rest then none
    else if endsWord flow c rest then some ⟨[], ⟨c :: rest, mark⟩, gap.isLines⟩
    else (plain flow indent rest (mark.right 1) .none).map (·.prepend (gap.text ++ [c]))

/-! ## Quoted scalars -/

/-- A single-quoted scalar after its opening quote. A quote inside is written twice. -/
def singleQuoted : List Char → Mark → Gap → Option Scanned
  | [], _, _ => none
  | '\r' :: '\n' :: rest, mark, gap => singleQuoted rest (mark.nextLine 2) (gap.line '\n')
  | '\'' :: '\'' :: rest, mark, gap =>
    (singleQuoted rest (mark.right 2) .none).map (·.prepend (gap.text ++ ['\'']))
  | c :: rest, mark, gap =>
    if isBlank c then singleQuoted rest (mark.right 1) (gap.blank c)
    else if isBreak c then singleQuoted rest (mark.nextLine 1) (gap.line (normalBreak c))
    else if mark.column = 0 && documentMark (c :: rest) then none
    else if c = '\'' then some { text := gap.text, cursor := ⟨rest, mark.right 1⟩ }
    else (singleQuoted rest (mark.right 1) .none).map (·.prepend (gap.text ++ [c]))

/-- The character that a letter after a backslash stands for. -/
def unescape? (letter : Char) : Option Char :=
  match letter with
  | '0' => some '\x00'
  | 'a' => some '\x07'
  | 'b' => some '\x08'
  | 't' => some '\t'
  | '\t' => some '\t'
  | 'n' => some '\n'
  | 'v' => some '\x0b'
  | 'f' => some '\x0c'
  | 'r' => some '\r'
  | 'e' => some '\x1b'
  | ' ' => some ' '
  | '"' => some '"'
  | '/' => some '/'
  | '\\' => some '\\'
  | 'N' => some '\u0085'
  | '_' => some '\u00a0'
  | 'L' => some '\u2028'
  | 'P' => some '\u2029'
  | _ => none

/-- The character whose number hexadecimal digits write; surrogates are none. -/
def hexChar? (digits : List Char) : Option Char :=
  match readHex? digits.length digits 0 with
  | some (n, _) =>
    if (0xD800 ≤ n ∧ n ≤ 0xDFFF) ∨ 0x10FFFF < n then none else some (Char.ofNat n)
  | none => none

/-- A double-quoted scalar after its opening quote. A backslash escapes a character, or a line break
together with the blanks after it. -/
def doubleQuoted : List Char → Mark → Gap → Option Scanned
  | [], _, _ => none
  | '\r' :: '\n' :: rest, mark, gap => doubleQuoted rest (mark.nextLine 2) (gap.line '\n')
  | '\\' :: '\r' :: '\n' :: rest, mark, gap =>
    (doubleQuoted rest (mark.nextLine 3) (.lines [] [])).map (·.prepend gap.text)
  | '\\' :: 'x' :: a :: b :: rest, mark, gap =>
    match hexChar? [a, b] with
    | some c => (doubleQuoted rest (mark.right 4) .none).map (·.prepend (gap.text ++ [c]))
    | none => none
  | '\\' :: 'u' :: a :: b :: c :: d :: rest, mark, gap =>
    match hexChar? [a, b, c, d] with
    | some c => (doubleQuoted rest (mark.right 6) .none).map (·.prepend (gap.text ++ [c]))
    | none => none
  | '\\' :: 'U' :: a :: b :: c :: d :: e :: f :: g :: h :: rest, mark, gap =>
    match hexChar? [a, b, c, d, e, f, g, h] with
    | some c => (doubleQuoted rest (mark.right 10) .none).map (·.prepend (gap.text ++ [c]))
    | none => none
  | '\\' :: letter :: rest, mark, gap =>
    if isBreak letter then
      (doubleQuoted rest (mark.nextLine 2) (.lines [] [])).map (·.prepend gap.text)
    else match unescape? letter with
      | some c => (doubleQuoted rest (mark.right 2) .none).map (·.prepend (gap.text ++ [c]))
      | none => none
  | c :: rest, mark, gap =>
    if isBlank c then doubleQuoted rest (mark.right 1) (gap.blank c)
    else if isBreak c then doubleQuoted rest (mark.nextLine 1) (gap.line (normalBreak c))
    else if mark.column = 0 && documentMark (c :: rest) then none
    else if c = '"' then some { text := gap.text, cursor := ⟨rest, mark.right 1⟩ }
    else if c = '\\' then none
    else (doubleQuoted rest (mark.right 1) .none).map (·.prepend (gap.text ++ [c]))

/-! ## Block scalars -/

/-- What becomes of the line breaks at the end of a block scalar: none stays, the first stays, or
all stay. -/
inductive Chomping
  | strip | clip | keep
deriving DecidableEq, Repr

/-- The header of a block scalar after its indicator: chomping and indentation, each at most once
and in either order. -/
def blockHeader? (cursor : Cursor) : Option (Chomping × Nat × Cursor) :=
  let chomping? (c : Char) : Option Chomping :=
    if c = '+' then some .keep else if c = '-' then some .strip else none
  let indentation (cursor : Cursor) : Option (Nat × Cursor) :=
    match cursor.rest with
    | c :: _ =>
      if c.isDigit then (if c = '0' then none else some (c.toNat - 48, cursor.skip 1))
      else some (0, cursor)
    | [] => some (0, cursor)
  match cursor.rest with
  | c :: _ =>
    match chomping? c with
    | some chomping => do
      let (indent, cursor) ← indentation (cursor.skip 1)
      return (chomping, indent, cursor)
    | none => do
      let (indent, cursor) ← indentation cursor
      match cursor.rest with
      | c :: _ =>
        match chomping? c with
        | some chomping =>
          if indent = 0 then return (.clip, indent, cursor)
          else return (chomping, indent, cursor.skip 1)
        | none => return (.clip, indent, cursor)
      | [] => return (.clip, indent, cursor)
  | [] => some (.clip, 0, cursor)

/-- The cursor after the rest of a line on which only blanks and a comment may still stand. -/
def lineEnd? (cursor : Cursor) : Option Cursor :=
  let cursor := cursor.skipBlanks
  let cursor := if cursor.rest.head? = some '#' then cursor.skipToBreak else cursor
  if breakOrEnd cursor.rest then some cursor.skipBreak else none

/-- The empty lines at the start of a block scalar without given indentation: the greatest column
that is reached in them or at the first line with content, the breaks, and the cursor there. -/
def leadingLines : List Char → Mark → (deepest : Nat) → Option (Nat × List Char × Cursor)
  | [], mark, deepest => some (max deepest mark.column, [], ⟨[], mark⟩)
  | '\r' :: '\n' :: rest, mark, deepest =>
    (leadingLines rest (mark.nextLine 2) (max deepest mark.column)).map fun (n, breaks, cursor) =>
      (n, '\n' :: breaks, cursor)
  | c :: rest, mark, deepest =>
    if c = ' ' then leadingLines rest (mark.right 1) deepest
    else if c = '\t' then none
    else if isBreak c then
      (leadingLines rest (mark.nextLine 1) (max deepest mark.column)).map fun (n, breaks, cursor) =>
        (n, normalBreak c :: breaks, cursor)
    else some (max deepest mark.column, [], ⟨c :: rest, mark⟩)

/-- The state inside a block scalar: the break that ended the last line with content, the breaks of
the empty lines since, and whether that line began with a blank. -/
structure BlockState where
  inLine : Bool := false
  lineBreak : List Char := []
  emptyLines : List Char := []
  startsBlank : Bool := false

/-- What the breaks before a line with content read as. A folded scalar joins two lines that do not
begin with a blank. -/
def BlockState.gap (state : BlockState) (folded blankNext : Bool) : List Char :=
  if folded && state.lineBreak = ['\n'] && !state.startsBlank && !blankNext then
    if state.emptyLines = [] then [' '] else state.emptyLines
  else state.lineBreak ++ state.emptyLines

/-- The breaks at the end of a block scalar that stay. -/
def BlockState.tail (state : BlockState) : Chomping → List Char
  | .strip => []
  | .clip => state.lineBreak
  | .keep => state.lineBreak ++ state.emptyLines

/-- The lines of a block scalar, each without its indentation, up to one that is indented less. -/
def blockLines (folded : Bool) (chomping : Chomping) (indent : Nat) :
    List Char → Mark → BlockState → Option Scanned
  | [], mark, state =>
    let state := if state.inLine then {} else state
    some { text := state.tail chomping, cursor := ⟨[], mark⟩ }
  | '\r' :: '\n' :: rest, mark, state =>
    let next : BlockState :=
      if state.inLine then { state with inLine := false, lineBreak := ['\n'], emptyLines := [] }
      else { state with emptyLines := state.emptyLines ++ ['\n'] }
    blockLines folded chomping indent rest (mark.nextLine 2) next
  | c :: rest, mark, state =>
    if isBreak c then
      let next : BlockState :=
        if state.inLine then
          { state with inLine := false, lineBreak := [normalBreak c], emptyLines := [] }
        else { state with emptyLines := state.emptyLines ++ [normalBreak c] }
      blockLines folded chomping indent rest (mark.nextLine 1) next
    else if state.inLine then
      (blockLines folded chomping indent rest (mark.right 1) state).map (·.prepend [c])
    else if mark.column < indent && c = ' ' then
      blockLines folded chomping indent rest (mark.right 1) state
    else if mark.column < indent && c = '\t' then none
    else if mark.column = indent then
      let next : BlockState := { inLine := true, startsBlank := isBlank c }
      (blockLines folded chomping indent rest (mark.right 1) next).map
        (·.prepend (state.gap folded (isBlank c) ++ [c]))
    else some { text := state.tail chomping, cursor := ⟨c :: rest, mark⟩ }

/-- A block scalar after its indicator, inside a collection that is indented by `outer` columns;
outside of any collection `outer` is `-1`. -/
def block? (folded : Bool) (outer : Int) (cursor : Cursor) : Option Scanned := do
  let (chomping, given, cursor) ← blockHeader? cursor
  let cursor ← lineEnd? cursor
  if given = 0 then
    let (deepest, breaks, cursor) ← leadingLines cursor.rest cursor.mark 0
    let indent := max (max deepest (outer + 1).toNat) 1
    blockLines folded chomping indent cursor.rest cursor.mark { emptyLines := breaks }
  else
    blockLines folded chomping (outer.toNat + given) cursor.rest cursor.mark {}

end SwaggerRoutes.Yaml
