/-
The character classes of YAML 1.1, and positions in a text.
-/

namespace SwaggerRoutes.Yaml

/-! ## Classes -/

/-- A space or a tab. -/
def isBlank (c : Char) : Bool := c = ' ' || c = '\t'

/-- A character that ends a line. -/
def isBreak (c : Char) : Bool :=
  c = '\n' || c = '\r' || c.toNat = 0x85 || c.toNat = 0x2028 || c.toNat = 0x2029

/-- A character of names and handles. -/
def isWordChar (c : Char) : Bool := c.isAlphanum || c = '_' || c = '-'

/-- A character that may stand in a document at all. -/
def isReadable (c : Char) : Bool :=
  let n := c.toNat
  n = 0x9 || n = 0xA || n = 0xD || (0x20 ≤ n && n ≤ 0x7E) || n = 0x85 || (0xA0 ≤ n && n ≤ 0xD7FF)
    || (0xE000 ≤ n && n ≤ 0xFFFD && n != 0xFEFF) || 0x10000 ≤ n

/-- What a line break contributes to a text: a line feed, unless it is one of the two separators
beyond ASCII that keep their identity. -/
def normalBreak (c : Char) : Char :=
  if c.toNat = 0x2028 || c.toNat = 0x2029 then c else '\n'

/-- Whether a text is at its end, or begins with a blank or a break. -/
def blankOrEnd : List Char → Bool
  | [] => true
  | c :: _ => isBlank c || isBreak c

/-- Whether a text is at its end or begins with a break. -/
def breakOrEnd : List Char → Bool
  | [] => true
  | c :: _ => isBreak c

/-- Whether a text begins with one of the two marks between documents. -/
def documentMark : List Char → Bool
  | '-' :: '-' :: '-' :: rest => blankOrEnd rest
  | '.' :: '.' :: '.' :: rest => blankOrEnd rest
  | _ => false

/-! ## Positions -/

/-- A position: characters before it, lines before it, and characters before it on its line. -/
structure Mark where
  index : Nat := 0
  line : Nat := 0
  column : Nat := 0
deriving DecidableEq, Repr

namespace Mark

/-- The position after characters of one line. -/
def right (mark : Mark) (count : Nat) : Mark :=
  { mark with index := mark.index + count, column := mark.column + count }

/-- The position after a line break of that many characters. -/
def nextLine (mark : Mark) (count : Nat) : Mark :=
  { index := mark.index + count, line := mark.line + 1, column := 0 }

end Mark

/-- The text from some position on. -/
structure Cursor where
  rest : List Char
  mark : Mark := {}
deriving Repr

namespace Cursor

/-- The cursor after characters of one line. -/
def skip (cursor : Cursor) (count : Nat) : Cursor :=
  ⟨cursor.rest.drop count, cursor.mark.right count⟩

/-- The longest start of the text whose characters are all of a class, none of which is a break,
and the cursor after it. -/
def span (p : Char → Bool) (cursor : Cursor) : List Char × Cursor :=
  let taken := cursor.rest.takeWhile p
  (taken, ⟨cursor.rest.dropWhile p, cursor.mark.right taken.length⟩)

/-- The cursor after the blanks. -/
def skipBlanks (cursor : Cursor) : Cursor := (cursor.span isBlank).2

/-- The cursor at the end of the line. -/
def skipToBreak (cursor : Cursor) : Cursor := (cursor.span fun c => !isBreak c).2

/-- The cursor after a line break, if there is one. -/
def skipBreak (cursor : Cursor) : Cursor :=
  match cursor.rest with
  | '\r' :: '\n' :: rest => ⟨rest, cursor.mark.nextLine 2⟩
  | c :: rest => if isBreak c then ⟨rest, cursor.mark.nextLine 1⟩ else cursor
  | [] => cursor

end Cursor

end SwaggerRoutes.Yaml
