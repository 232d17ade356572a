/-
The strings and comments of TOML 1.0. There are basic strings, with escapes, and literal ones,
without; each on one line or on several. In a string of several lines every line break reads as a
line feed, one right after the opening quotes does not count, and up to two quotes may stand right
before the closing ones.
-/
import SwaggerRoutes.Text.Hex

namespace SwaggerRoutes.Toml

open SwaggerRoutes.Text

/-! ## Characters -/

/-- White space within a line. -/
def isBlank (c : Char) : Bool := c = ' ' || c = '\t'

/-- A control that may not stand in a string or comment as it is. -/
def isForbidden (c : Char) : Bool := (c.toNat < 0x20 && c != '\t') || c.toNat = 0x7F

def skipBlanks (text : List Char) : List Char := text.dropWhile isBlank

/-- The text after a line break, if it begins with one. -/
def lineBreak? : List Char → Option (List Char)
  | '\n' :: rest => some rest
  | '\r' :: '\n' :: rest => some rest
  | _ => none

/-- The rest of a line after a comment's sign. -/
def skipComment? (text : List Char) : Option (List Char) :=
  let rest := text.dropWhile fun c => !isForbidden c
  match rest with
  | [] => some []
  | _ => if (lineBreak? rest).isSome then some rest else none

/-- The end of a line: blanks, perhaps a comment, then a line break or the end of the text. -/
def endLine? (text : List Char) : Option (List Char) := do
  let rest := skipBlanks text
  let rest ← match rest with
    | '#' :: rest => skipComment? rest
    | rest => some rest
  match rest with
  | [] => some []
  | _ => lineBreak? rest

/-! ## Escapes -/

/-- The character that a letter after a backslash stands for. -/
def unescape? (letter : Char) : Option Char :=
  if letter = 'b' then some '\x08'
  else if letter = 't' then some '\t'
  else if letter = 'n' then some '\n'
  else if letter = 'f' then some '\x0c'
  else if letter = 'r' then some '\r'
  else if letter = '"' then some '"'
  else if letter = '\\' then some '\\'
  else none

/-- The character whose number hexadecimal digits write; surrogates are none. -/
def hexChar? (digits : List Char) : Option Char :=
  match readHex? digits.length digits 0 with
  | some (n, _) =>
    if (0xD800 ≤ n ∧ n ≤ 0xDFFF) ∨ 0x10FFFF < n then none else some (Char.ofNat n)
  | none => none

/-! ## Strings of one line -/

/-- A basic string after its opening quote, and the text after the string. -/
def basic : List Char → Option (List Char × List Char)
  | [] => none
  | '"' :: rest => some ([], rest)
  | '\\' :: 'u' :: a :: b :: c :: d :: rest =>
    match hexChar? [a, b, c, d] with
    | some c => (basic rest).map fun (text, rest) => (c :: text, rest)
    | none => none
  | '\\' :: 'U' :: a :: b :: c :: d :: e :: f :: g :: h :: rest =>
    match hexChar? [a, b, c, d, e, f, g, h] with
    | some c => (basic rest).map fun (text, rest) => (c :: text, rest)
    | none => none
  | '\\' :: letter :: rest =>
    match unescape? letter with
    | some c => (basic rest).map fun (text, rest) => (c :: text, rest)
    | none => none
  | c :: rest =>
    if isForbidden c || c = '\\' then none
    else (basic rest).map fun (text, rest) => (c :: text, rest)

/-- A literal string after its opening quote, and the text after the string. -/
def literal (text : List Char) : Option (List Char × List Char) :=
  let body := text.takeWhile (· != '\'')
  match text.dropWhile (· != '\'') with
  | _ :: rest => if body.any isForbidden then none else some (body, rest)
  | [] => none

/-! ## Strings of several lines -/

/-- Whether nothing but blanks stands before the next line break. -/
def blankLine (text : List Char) : Bool := (lineBreak? (skipBlanks text)).isSome

/-- A basic string after its opening quotes. A backslash at the end of a line takes away the line
break with all blanks and line breaks after it; `folding` says that such a place is being passed. -/
def longBasic : (folding : Bool) → List Char → Option (List Char × List Char)
  | _, [] => none
  | _, '"' :: '"' :: '"' :: '"' :: '"' :: rest => some (['"', '"'], rest)
  | _, '"' :: '"' :: '"' :: '"' :: rest => some (['"'], rest)
  | _, '"' :: '"' :: '"' :: rest => some ([], rest)
  | folding, '\r' :: '\n' :: rest =>
    if folding then longBasic true rest
    else (longBasic false rest).map fun (text, rest) => ('\n' :: text, rest)
  | _, '\\' :: 'u' :: a :: b :: c :: d :: rest =>
    match hexChar? [a, b, c, d] with
    | some c => (longBasic false rest).map fun (text, rest) => (c :: text, rest)
    | none => none
  | _, '\\' :: 'U' :: a :: b :: c :: d :: e :: f :: g :: h :: rest =>
    match hexChar? [a, b, c, d, e, f, g, h] with
    | some c => (longBasic false rest).map fun (text, rest) => (c :: text, rest)
    | none => none
  | _, '\\' :: letter :: rest =>
    match unescape? letter with
    | some c => (longBasic false rest).map fun (text, rest) => (c :: text, rest)
    | none =>
      if blankLine (letter :: rest) then
        if letter = '\r' then
          match rest with
          | _ :: rest => longBasic true rest
          | [] => none
        else longBasic true rest
      else none
  | folding, c :: rest =>
    if folding && (isBlank c || c = '\n') then longBasic true rest
    else if (isForbidden c && c != '\n') || c = '\\' then none
    else (longBasic false rest).map fun (text, rest) => (c :: text, rest)

/-- A literal string after its opening quotes. -/
def longLiteral : List Char → Option (List Char × List Char)
  | [] => none
  | '\'' :: '\'' :: '\'' :: '\'' :: '\'' :: rest => some (['\'', '\''], rest)
  | '\'' :: '\'' :: '\'' :: '\'' :: rest => some (['\''], rest)
  | '\'' :: '\'' :: '\'' :: rest => some ([], rest)
  | '\r' :: '\n' :: rest => (longLiteral rest).map fun (text, rest) => ('\n' :: text, rest)
  | c :: rest =>
    if isForbidden c && c != '\n' then none
    else (longLiteral rest).map fun (text, rest) => (c :: text, rest)

/-- The text after a line break, or the text itself if it begins with none. -/
def dropLineBreak (text : List Char) : List Char := (lineBreak? text).getD text

/-- A string of any of the four forms, and the text after it. -/
def string? : List Char → Option (List Char × List Char)
  | '"' :: '"' :: '"' :: rest => longBasic false (dropLineBreak rest)
  | '\'' :: '\'' :: '\'' :: rest => longLiteral (dropLineBreak rest)
  | '"' :: rest => basic rest
  | '\'' :: rest => literal rest
  | _ => none

end SwaggerRoutes.Toml
