/-
The values of TOML 1.0 that are neither strings nor containers: truth values, numbers, dates and
times. Only whether a text is such a value matters here, not which one it is.
-/
import SwaggerRoutes.Json.Reader

namespace SwaggerRoutes.Toml

open SwaggerRoutes.Text

/-! ## Numbers -/

/-- Whether a text is a row of digits, at least one, where single underscores may separate them. -/
def isDigits (isDigit : Char → Bool) : List Char → Bool
  | [] => false
  | [c] => isDigit c
  | c :: '_' :: rest => isDigit c && isDigits isDigit rest
  | c :: rest => isDigit c && isDigits isDigit rest

/-- A text without its sign, and whether it is a minus. -/
def unsigned : List Char → Bool × List Char
  | '-' :: rest => (true, rest)
  | '+' :: rest => (false, rest)
  | rest => (false, rest)

/-- Decimal digits without a zero in front of others. -/
def isWhole (text : List Char) : Bool :=
  isDigits isDigit text && (text.length == 1 || text.head? != some '0')

def withoutUnderscores (text : List Char) : List Char := text.filter (· != '_')

/-- The number that digits write in a base. -/
def inBase (base : Nat) (digits : List Char) : Nat :=
  digits.foldl (fun n c => base * n + (hexValue? c).getD 0) 0

/-- Whether a whole number fits 64 bits with its sign. -/
def fits (negative : Bool) (n : Nat) : Bool :=
  if negative then n ≤ 0x8000000000000000 else n < 0x8000000000000000

/-- Whether digits write a number in a base. -/
def isMarked (base : Nat) (digits : List Char) : Bool :=
  isDigits (fun c => (hexValue? c).any (· < base)) digits
    && fits false (inBase base (withoutUnderscores digits))

def isInteger (text : List Char) : Bool :=
  match text with
  | '0' :: 'x' :: digits => isMarked 16 digits
  | '0' :: 'o' :: digits => isMarked 8 digits
  | '0' :: 'b' :: digits => isMarked 2 digits
  | _ =>
    let (negative, digits) := unsigned text
    isWhole digits && fits negative (inBase 10 (withoutUnderscores digits))

/-- Whether a number with these parts is finite. -/
def isFinite (whole fraction exponent : List Char) : Bool :=
  let (negative, power) := unsigned (withoutUnderscores exponent)
  let digits := withoutUnderscores whole ++ withoutUnderscores fraction
  let shift : Int := Json.natOfDigits power
  let scale := (if negative then -shift else shift) - (withoutUnderscores fraction).length
  (Binary64.ofDecimal? false (Json.natOfDigits digits) scale).isSome

/-- A number with a fraction, an exponent or both, or one of the words for what is not finite. A
positive number must not be too great; a negative one of any size reads as negative infinity. -/
def isFloat (text : List Char) : Bool :=
  let (negative, text) := unsigned text
  if text = "inf".toList || text = "nan".toList then true
  else
    let isMark (c : Char) : Bool := c = 'e' || c = 'E'
    let mantissa := text.takeWhile fun c => !isMark c
    let exponent := (text.dropWhile fun c => !isMark c).drop 1
    let hasExponent := mantissa.length != text.length
    let whole := mantissa.takeWhile (· != '.')
    let fraction := (mantissa.dropWhile (· != '.')).drop 1
    let hasFraction := whole.length != mantissa.length
    (hasExponent || hasFraction) && isWhole whole
      && (!hasFraction || isDigits isDigit fraction)
      && (!hasExponent || isDigits isDigit (unsigned exponent).2)
      && (negative || isFinite whole fraction (if hasExponent then exponent else ['0']))

/-! ## Dates and times -/

/-- The value of two digits. -/
def two? (a b : Char) : Option Nat :=
  if isDigit a && isDigit b then some (Json.natOfDigits [a, b]) else none

def daysIn (year month : Nat) : Nat :=
  if month = 2 then
    if (year % 4 = 0 && year % 100 != 0) || year % 400 = 0 then 29 else 28
  else if month = 4 || month = 6 || month = 9 || month = 11 then 30
  else 31

/-- A date, and the text after it. -/
def date? : List Char → Option (List Char)
  | a :: b :: c :: d :: '-' :: e :: f :: '-' :: g :: h :: rest => do
    let century ← two? a b
    let year ← two? c d
    let month ← two? e f
    let day ← two? g h
    if 1 ≤ month && month ≤ 12 && 1 ≤ day && day ≤ daysIn (100 * century + year) month then
      some rest
    else none
  | _ => none

/-- A time of day, and the text after it. -/
def time? : List Char → Option (List Char)
  | a :: b :: ':' :: c :: d :: ':' :: e :: f :: rest => do
    let hour ← two? a b
    let minute ← two? c d
    let second ← two? e f
    if 23 < hour || 59 < minute || 60 < second then none
    else match rest with
      | '.' :: rest =>
        if (rest.head?.map isDigit).getD false then some (rest.dropWhile isDigit) else none
      | rest => some rest
  | _ => none

/-- Whether a text is an offset from universal time. -/
def isOffset : List Char → Bool
  | ['Z'] => true
  | ['z'] => true
  | [sign, a, b, ':', c, d] =>
    (sign = '+' || sign = '-') && (two? a b).any (· ≤ 23) && (two? c d).any (· ≤ 59)
  | _ => false

/-- Whether a text is a date, a time, or both with or without an offset. -/
def isDateTime (text : List Char) : Bool :=
  match date? text with
  | some [] => true
  | some (separator :: rest) =>
    (separator = 'T' || separator = 't' || separator = ' ') && match time? rest with
      | some rest => rest.isEmpty || isOffset rest
      | none => false
  | none => time? text == some []

/-! ## Scalars -/

/-- The characters of numbers, words, dates and times. -/
def isScalarChar (c : Char) : Bool :=
  c.isAlphanum || c = '_' || c = '+' || c = '-' || c = '.' || c = ':'

def isScalar (text : List Char) : Bool :=
  text = "true".toList || text = "false".toList || isInteger text || isFloat text
    || isDateTime text

/-- A scalar, and the text after it. A date and a time may have one space between them. -/
def scalar? (text : List Char) : Option (List Char) :=
  let word := text.takeWhile isScalarChar
  let rest := text.dropWhile isScalarChar
  match date? word, rest with
  | some [], ' ' :: after =>
    let time := after.takeWhile isScalarChar
    if (time.head?.map isDigit).getD false then
      if isDateTime (word ++ ' ' :: time) then some (after.dropWhile isScalarChar) else none
    else some rest
  | _, _ => if isScalar word then some rest else none

end SwaggerRoutes.Toml
