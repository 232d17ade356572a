/-
Writing a string as the value of a key in block style. The form is the first that keeps the string:
a literal block if it has line feeds, otherwise plain, single-quoted or double-quoted. A string that
would read as something else when plain is quoted.
-/
import SwaggerRoutes.Yaml.Char
import SwaggerRoutes.Yaml.Plain

namespace SwaggerRoutes.Yaml.Written

open SwaggerRoutes.Text (hexDigits upperHexDigit)

/-! ## What a string holds -/

/-- A character that may stand in every form. -/
def isPrintable (c : Char) : Bool :=
  let n := c.toNat
  n = 0xA || (0x20 ≤ n && n ≤ 0x7E) || (0xA0 ≤ n && n ≤ 0xD7FF)
    || (0xE000 ≤ n && n ≤ 0xFFFD && n != 0xFEFF) || 0x10000 ≤ n

/-- Whether two neighbours in a text have two properties in this order. -/
def hasPair (p q : Char → Bool) : List Char → Bool
  | c :: d :: rest => (p c && q d) || hasPair p q (d :: rest)
  | _ => false

def isSpace (c : Char) : Bool := c = ' '

def startsWith (p : Char → Bool) (text : List Char) : Bool := (text.head?.map p).getD false

def endsWith (p : Char → Bool) (text : List Char) : Bool := (text.getLast?.map p).getD false

def isSpaceOrBreak (c : Char) : Bool := isSpace c || isBreak c

/-- The indicators that may not begin a plain string. -/
def startIndicators : List Char :=
  ['#', ',', '[', ']', '\x7b', '\x7d', '&', '*', '!', '|', '>', '\'', '"', '%', '@', '\x60']

/-- Whether the first character of a plain string would be taken for an indicator. -/
def badStart : List Char → Bool
  | c :: rest =>
    startIndicators.contains c || ((c = '?' || c = ':' || c = '-') && blankOrEnd rest)
  | [] => false

/-- Whether an indicator stands after the first character: a colon before a blank, or the sign of a
comment after one. -/
def badInside : List Char → Bool
  | c :: d :: rest =>
    (d = ':' && blankOrEnd rest) || (d = '#' && (isBlank c || isBreak c)) || badInside (d :: rest)
  | _ => false

/-- Whether a text begins like a mark between documents. -/
def startsLikeMark : List Char → Bool
  | '-' :: '-' :: '-' :: _ => true
  | '.' :: '.' :: '.' :: _ => true
  | _ => false

/-! ## The forms -/

inductive Form
  | plain | single | double | literal
deriving DecidableEq, Repr

/-- Only double quotes keep characters that are not printable, and a space before a line break. -/
def needsEscapes (text : List Char) : Bool :=
  text.any (fun c => !isPrintable c) || hasPair isSpace isBreak text

def allowsPlain (text : List Char) : Bool :=
  !(needsEscapes text || startsWith isSpaceOrBreak text || endsWith isSpaceOrBreak text
    || text.any isBreak || startsLikeMark text || badStart text || badInside text)

def allowsSingle (text : List Char) : Bool := !(needsEscapes text || hasPair isBreak isSpace text)

def allowsLiteral (text : List Char) : Bool := !(needsEscapes text || endsWith isSpace text)

/-- Whether a plain string would be read as something else than this string. -/
def readsOtherwise (text : List Char) : Bool :=
  meaning (String.ofList text) != .string || isZeroPadded text

/-- The form of a string. -/
def form (text : List Char) : Form :=
  if text.contains '\n' then (if allowsLiteral text then .literal else .double)
  else if !readsOtherwise text && allowsPlain text then .plain
  else if allowsSingle text then .single
  else .double

/-! ## Quoted strings -/

/-- How far the further lines of a string are indented. -/
def indentation : List Char := [' ', ' ']

/-- The inside of single quotes. After a line break the next line is indented. -/
def singleBody : (atBreak : Bool) → List Char → List Char
  | atBreak, [] => if atBreak then indentation else []
  | atBreak, c :: rest =>
    if c = ' ' then c :: singleBody atBreak rest
    else if isBreak c then c :: singleBody true rest
    else
      (if atBreak then indentation else []) ++ (if c = '\'' then ['\'', '\''] else [c])
        ++ singleBody false rest

/-- What double quotes hold for one character. -/
def escape (c : Char) : List Char :=
  let n := c.toNat
  if isPrintable c && c != '"' && c != '\\' && !isBreak c then [c]
  else if n = 0x0 then ['\\', '0']
  else if n = 0x7 then ['\\', 'a']
  else if n = 0x8 then ['\\', 'b']
  else if n = 0x9 then ['\\', 't']
  else if n = 0xA then ['\\', 'n']
  else if n = 0xB then ['\\', 'v']
  else if n = 0xC then ['\\', 'f']
  else if n = 0xD then ['\\', 'r']
  else if n = 0x1B then ['\\', 'e']
  else if n = 0x22 then ['\\', '"']
  else if n = 0x5C then ['\\', '\\']
  else if n = 0x85 then ['\\', 'N']
  else if n = 0xA0 then ['\\', '_']
  else if n = 0x2028 then ['\\', 'L']
  else if n = 0x2029 then ['\\', 'P']
  else if n ≤ 0xFF then '\\' :: 'x' :: hexDigits upperHexDigit 2 n
  else if n ≤ 0xFFFF then '\\' :: 'u' :: hexDigits upperHexDigit 4 n
  else '\\' :: 'U' :: hexDigits upperHexDigit 8 n

/-! ## Literal blocks -/

/-- The lines of a block, each with its indentation, unless it is empty. -/
def literalBody : (atBreak : Bool) → List Char → List Char
  | _, [] => []
  | atBreak, c :: rest =>
    if isBreak c then c :: literalBody true rest
    else (if atBreak then indentation else []) ++ c :: literalBody false rest

/-- The indentation in the header of a block; it is given where the text begins with a space or a
break. -/
def indentationHint (text : List Char) : List Char :=
  if startsWith isSpaceOrBreak text then ['2'] else []

/-- The chomping in the header of a block: whether no break, one, or more end the text. -/
def chompingHint (text : List Char) : List Char :=
  match text.reverse with
  | [] => ['-']
  | last :: before =>
    if !isBreak last then ['-']
    else match before with
      | [] => ['+']
      | c :: _ => if isBreak c then ['+'] else []

/-! ## Entries -/

/-- A string after its key, up to the place where the next key stands. -/
def value (text : List Char) : List Char :=
  match form text with
  | .plain => text ++ ['\n']
  | .single => '\'' :: singleBody false text ++ ['\'', '\n']
  | .double => '"' :: text.flatMap escape ++ ['"', '\n']
  | .literal =>
    '|' :: indentationHint text ++ chompingHint text ++ '\n' :: literalBody true text
      ++ (if endsWith isBreak text then [] else ['\n'])

/-- An entry of a block mapping. -/
def entry (key text : String) : List Char := key.toList ++ ':' :: ' ' :: value text.toList

end SwaggerRoutes.Yaml.Written
