/-
Writing a string as a TOML value. The form is the first that keeps the string without escapes: basic
or literal, on one line or on several; where none does, a basic string with escapes. Only strings
with line feeds are written on several lines with a line break after the opening quotes.
-/
import SwaggerRoutes.Text.Hex

namespace SwaggerRoutes.Toml.Written

open SwaggerRoutes.Text (hexDigits upperHexDigit)

/-! ## What a string holds -/

/-- A control that must be escaped everywhere. -/
def isControl (c : Char) : Bool :=
  (c.toNat < 0x20 && c != '\t' && c != '\n') || c.toNat = 0x7F

/-- The longest row of one character in a text. `here` is the length of the row that ends here. -/
def longestRow (c : Char) : (here : Nat) → List Char → Nat
  | here, [] => here
  | here, d :: rest =>
    if d = c then longestRow c (here + 1) rest else max here (longestRow c 0 rest)

/-! ## The forms -/

inductive Form
  | basic | literal | longBasic | longLiteral
deriving DecidableEq, Repr

/-- The form of a string. -/
def form (text : List Char) : Form :=
  let controls := text.any isControl
  let newlines := text.contains '\n'
  let backslashes := text.contains '\\'
  let quotes := longestRow '"' 0 text
  let apostrophes := longestRow '\'' 0 text
  if !controls && !backslashes && !newlines && quotes = 0 then .basic
  else if !controls && !newlines && apostrophes = 0 then .literal
  else if !controls && !backslashes && quotes ≤ 2 then .longBasic
  else if !controls && apostrophes ≤ 2 then .longLiteral
  else if newlines then .longBasic
  else .basic

/-! ## Texts -/

/-- What a basic string holds for one character other than a quote and a line feed. -/
def escape (c : Char) : List Char :=
  let n := c.toNat
  if c = '\x08' then ['\\', 'b']
  else if c = '\t' then ['\\', 't']
  else if c = '\x0c' then ['\\', 'f']
  else if c = '\r' then ['\\', 'r']
  else if c = '\\' then ['\\', '\\']
  else if n < 0x20 || n = 0x7F then '\\' :: 'u' :: hexDigits upperHexDigit 4 n
  else [c]

/-- The inside of a basic string. A quote is escaped once `allowed` of them stand in a row before
it; `row` counts those. -/
def basicBody (allowed : Nat) (long : Bool) : (row : Nat) → List Char → List Char
  | _, [] => []
  | row, c :: rest =>
    if c = '"' then
      if row < allowed then '"' :: basicBody allowed long (row + 1) rest
      else '\\' :: '"' :: basicBody allowed long 0 rest
    else if c = '\n' then
      (if long then ['\n'] else ['\\', 'n']) ++ basicBody allowed long 0 rest
    else escape c ++ basicBody allowed long 0 rest

/-- The line break after the opening quotes of a string that has line feeds. -/
def opening (text : List Char) : List Char := if text.contains '\n' then ['\n'] else []

/-- A string as a value. -/
def value (text : List Char) : List Char :=
  match form text with
  | .basic => '"' :: basicBody 0 false 0 text ++ ['"']
  | .literal => '\'' :: text ++ ['\'']
  | .longBasic =>
    ['"', '"', '"'] ++ opening text ++ basicBody 2 true 0 text ++ ['"', '"', '"']
  | .longLiteral => ['\'', '\'', '\''] ++ opening text ++ text ++ ['\'', '\'', '\'']

/-- A line that sets a key. -/
def entry (key text : String) : List Char :=
  key.toList ++ ' ' :: '=' :: ' ' :: value text.toList ++ ['\n']

end SwaggerRoutes.Toml.Written
