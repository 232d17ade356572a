/-
Reading a JSON document. A document is one value with white space around it; arrays and objects
nest up to 127 levels. A number that is whole and fits 64 bits is kept as a whole number. Any other
is read in one pass without exact arithmetic: its digits fill a 64-bit significand as far as they
fit, and the significand, rounded, is multiplied or divided by one power of ten.
-/
import SwaggerRoutes.Json.Value
import SwaggerRoutes.Text.Blank
import SwaggerRoutes.Text.Hex

namespace SwaggerRoutes.Json

open SwaggerRoutes.Text

/-- The white space of the format. -/
def isSpace (c : Char) : Bool := c = ' ' || c = '\n' || c = '\r' || c = '\t'

def skipSpace (text : List Char) : List Char := text.dropWhile isSpace

/-! ## Strings -/

/-- The character that a letter after a backslash stands for. -/
def unescape? (letter : Char) : Option Char :=
  if letter = '"' then some '"'
  else if letter = '\\' then some '\\'
  else if letter = '/' then some '/'
  else if letter = 'b' then some '\x08'
  else if letter = 'f' then some '\x0c'
  else if letter = 'n' then some '\n'
  else if letter = 'r' then some '\r'
  else if letter = 't' then some '\t'
  else none

/-- The number that four hexadecimal digits write. -/
def hex4? (a b c d : Char) : Option Nat := (readHex? 4 [a, b, c, d] 0).map Prod.fst

/-- The character that two surrogates stand for. -/
def fromSurrogates (high low : Nat) : Char :=
  Char.ofNat (0x10000 + 0x400 * (high - 0xD800) + (low - 0xDC00))

/-- The text of a string literal after its opening quote, and what follows the literal. A control
below U+0020 must be escaped, and a surrogate must be half of a pair. -/
def stringBody : List Char → Option (List Char × List Char)
  | [] => none
  | '"' :: rest => some ([], rest)
  | '\\' :: letter :: rest =>
    if letter = 'u' then
      match rest with
      | a :: b :: c :: d :: rest =>
        match hex4? a b c d with
        | none => none
        | some n =>
          if 0xD800 ≤ n ∧ n < 0xDC00 then
            match rest with
            | '\\' :: 'u' :: a :: b :: c :: d :: rest =>
              match hex4? a b c d with
              | none => none
              | some low =>
                if 0xDC00 ≤ low ∧ low < 0xE000 then
                  (stringBody rest).map fun (text, rest) => (fromSurrogates n low :: text, rest)
                else none
            | _ => none
          else if 0xDC00 ≤ n ∧ n < 0xE000 then none
          else (stringBody rest).map fun (text, rest) => (Char.ofNat n :: text, rest)
      | _ => none
    else
      match unescape? letter with
      | none => none
      | some c => (stringBody rest).map fun (text, rest) => (c :: text, rest)
  | c :: rest =>
    if c.toNat < 0x20 || c = '\\' then none
    else (stringBody rest).map fun (text, rest) => (c :: text, rest)

/-! ## Numbers -/

def digitValue (c : Char) : Nat := c.toNat - 48

/-- The largest significand, that of 64 bits. -/
def maxSignificand : Nat := 0xFFFFFFFFFFFFFFFF

/-- A significand with as many of the digits appended as fit, and the digits that are left. -/
def appendDigits (significand : Nat) : List Char → Nat × List Char
  | [] => (significand, [])
  | c :: digits =>
    let next := 10 * significand + digitValue c
    if next ≤ maxSignificand then appendDigits next digits else (significand, c :: digits)

/-- The power of ten rounded to a number of the format, for exponents up to 308. -/
def powerOfTen (exponent : Nat) : Option Binary64 := Binary64.nearest? false (Nat.pow 10 exponent) 1

/-- The number divided by `10 ^ exponent`: by `10 ^ 308` as long as the exponent is greater, unless
the number has become zero, and then once by the power that is left. -/
def divideByPower (x : Binary64) : (steps exponent : Nat) → Option Binary64
  | 0, exponent => do x.div? (← powerOfTen exponent)
  | steps + 1, exponent =>
    if exponent ≤ 308 then do x.div? (← powerOfTen exponent)
    else if x.isZero then some x
    else do divideByPower (← x.div? (← powerOfTen 308)) steps (exponent - 308)

/-- The number that a significand and a power of ten denote, `none` if it is too large. -/
def scale? (significand : Nat) (exponent : Int) : Option Binary64 := do
  let x ← Binary64.nearest? false significand 1
  if 0 ≤ exponent then
    if exponent ≤ 308 then x.mul? (← powerOfTen exponent.toNat)
    else if x.isZero then some x
    else none
  else divideByPower x (-exponent).toNat (-exponent).toNat

/-- The digits at the start of a text, and the rest. -/
def spanDigits (text : List Char) : List Char × List Char :=
  (text.takeWhile isDigit, text.dropWhile isDigit)

/-- The fraction of a number, `none` within if there is no point; a point needs a digit. -/
def fraction? : List Char → Option (Option (List Char) × List Char)
  | '.' :: text =>
    let (digits, rest) := spanDigits text
    if digits.isEmpty then none else some (some digits, rest)
  | text => some (none, text)

/-- The value of a row of decimal digits. -/
def natOfDigits (digits : List Char) : Nat := digits.foldl (fun n c => 10 * n + digitValue c) 0

/-- The exponent of a number, `none` within if there is no mark; a mark needs a digit. -/
def exponent? : List Char → Option (Option Int × List Char)
  | mark :: text =>
    if mark = 'e' || mark = 'E' then
      let (negative, text) := match text with
        | '-' :: text => (true, text)
        | '+' :: text => (false, text)
        | text => (false, text)
      let (digits, rest) := spanDigits text
      if digits.isEmpty then none
      else some (some (if negative then -(natOfDigits digits : Int) else natOfDigits digits), rest)
    else some (none, mark :: text)
  | [] => some (none, [])

/-- A whole number without fraction and exponent: kept if it fits, a negative zero is not whole. -/
def wholeNumber (negative : Bool) (significand : Nat) : Option Number :=
  if !negative then some (.int significand)
  else if significand = 0 ∨ 0x8000000000000000 < significand then
    (Binary64.nearest? true significand 1).map .double
  else some (.int (-significand))

/-- A number and what follows it. -/
def number? (text : List Char) : Option (Number × List Char) := do
  let (negative, text) := match text with
    | '-' :: text => (true, text)
    | text => (false, text)
  let (digits, text) := spanDigits text
  if digits.isEmpty || (digits.length > 1 && digits.head? = some '0') then none
  else
    let (fraction, text) ← fraction? text
    let (exponent, text) ← exponent? text
    let (significand, surplus) := appendDigits 0 digits
    if fraction.isNone && exponent.isNone && surplus.isEmpty then
      return (← wholeNumber negative significand, text)
    else
      let decimals := fraction.getD []
      let (significand, dropped) := appendDigits significand decimals
      let power := surplus.length - ((decimals.length - dropped.length : Nat) : Int)
        + exponent.getD 0
      let x ← scale? significand power
      return (.double { x with negative }, text)

/-! ## Values -/

/-- A value that holds no other. -/
def scalar? : List Char → Option (Value × List Char)
  | '"' :: rest => (stringBody rest).map fun (text, rest) => (.string (String.ofList text), rest)
  | 'n' :: 'u' :: 'l' :: 'l' :: rest => some (.null, rest)
  | 't' :: 'r' :: 'u' :: 'e' :: rest => some (.bool true, rest)
  | 'f' :: 'a' :: 'l' :: 's' :: 'e' :: rest => some (.bool false, rest)
  | text => (number? text).map fun (n, rest) => (.number n, rest)

/-- Entries separated by commas up to a closing character, at least one. Every entry takes a
character, so the length of the text bounds the number of steps. -/
def entries (entry : List Char → Option (α × List Char)) (close : Char) :
    (steps : Nat) → List Char → Option (List α × List Char)
  | 0, _ => none
  | steps + 1, text =>
    match entry text with
    | none => none
    | some (x, rest) =>
      match skipSpace rest with
      | c :: rest =>
        if c = close then some ([x], rest)
        else if c = ',' then
          (entries entry close steps (skipSpace rest)).map fun (xs, rest) => (x :: xs, rest)
        else none
      | [] => none

/-- The entries of a container after its opening bracket; there may be none. -/
def container (entry : List Char → Option (α × List Char)) (close : Char) (text : List Char) :
    Option (List α × List Char) :=
  match skipSpace text with
  | [] => none
  | c :: rest =>
    if c = close then some ([], rest) else entries entry close (rest.length + 1) (c :: rest)

/-- A name, a colon and a value. -/
def member (value : List Char → Option (Value × List Char)) :
    List Char → Option ((String × Value) × List Char)
  | '"' :: text =>
    match stringBody text with
    | none => none
    | some (name, rest) =>
      match skipSpace rest with
      | ':' :: rest =>
        (value (skipSpace rest)).map fun (v, rest) => ((String.ofList name, v), rest)
      | _ => none
  | _ => none

/-- The members in order, where a repeated name keeps its first place and takes the last value. -/
def collect (members : List (String × Value)) : List (String × Value) :=
  members.foldl (fun done m => put m.1 m.2 done) []

/-- A value that nests at most `depth` levels, and what follows it. -/
def value? : (depth : Nat) → List Char → Option (Value × List Char)
  | 0, text => scalar? text
  | depth + 1, text =>
    match text with
    | '[' :: rest =>
      (container (value? depth) ']' rest).map fun (items, rest) => (.array items, rest)
    | '\x7b' :: rest =>
      (container (member (value? depth)) '\x7d' rest).map fun (members, rest) =>
        (.object (collect members), rest)
    | _ => scalar? text

/-- How deep a document may nest. -/
def maxDepth : Nat := 127

/-- The document that a text writes. -/
def read? (text : String) : Option Value :=
  match value? maxDepth (skipSpace text.toList) with
  | some (value, rest) => if (skipSpace rest).isEmpty then some value else none
  | none => none

end SwaggerRoutes.Json
