/-
What a plain scalar stands for. In this order: nothing or null, a truth value, a whole number, a
floating-point number, and otherwise a string.
-/
import SwaggerRoutes.Json.Reader

namespace SwaggerRoutes.Yaml

open SwaggerRoutes.Text

/-- What a plain scalar stands for. A number without a finite value reads as null, and a whole
number beyond 64 but within 128 bits has no reading at all. -/
inductive Meaning
  | null
  | bool (b : Bool)
  | int (n : Int)
  | wide
  | double (x : Binary64)
  | notFinite
  | string
deriving DecidableEq, Repr

/-! ## Words -/

def isNull (text : String) : Bool :=
  text == "null" || text == "Null" || text == "NULL" || text == "~"

def bool? (text : String) : Option Bool :=
  if text = "true" || text = "True" || text = "TRUE" then some true
  else if text = "false" || text = "False" || text = "FALSE" then some false
  else none

/-! ## Whole numbers -/

/-- The value of a digit in any base up to sixteen. -/
def digit? (base : Nat) (c : Char) : Option Nat :=
  match hexValue? c with
  | some d => if d < base then some d else none
  | none => none

/-- The number that digits write in a base; there must be one at least. -/
def natInBase? (base : Nat) (digits : List Char) : Option Nat :=
  if digits.isEmpty then none
  else digits.foldlM (fun n c => (digit? base c).map fun d => base * n + d) 0

/-- A number with the mark of its base in front. -/
def marked? : List Char → Option Nat
  | '0' :: 'x' :: digits => natInBase? 16 digits
  | '0' :: 'o' :: digits => natInBase? 8 digits
  | '0' :: 'b' :: digits => natInBase? 2 digits
  | _ => none

/-- Digits after a zero, perhaps with a sign: no number. -/
def isZeroPadded (text : List Char) : Bool :=
  let digits := match text with
    | '-' :: rest => rest
    | '+' :: rest => rest
    | rest => rest
  1 < digits.length && digits.head? = some '0' && digits.all isDigit

/-- A whole number of any size. -/
def wholeNumber? (text : List Char) : Option Int :=
  match text with
  | '-' :: rest =>
    match marked? rest with
    | some n => some (-(n : Int))
    | none => if isZeroPadded text then none else (natInBase? 10 rest).map fun n => -(n : Int)
  | _ =>
    let rest := if text.head? = some '+' then text.drop 1 else text
    match marked? rest with
    | some n => some n
    | none => if isZeroPadded text then none else (natInBase? 10 rest).map fun n => (n : Int)

/-- How a whole number reads by its size, `none` beyond 128 bits. -/
def sized? (n : Int) : Option Meaning :=
  if -0x8000000000000000 ≤ n ∧ n < 0x10000000000000000 then some (.int n)
  else if -0x80000000000000000000000000000000 ≤ n ∧ n < 0x100000000000000000000000000000000 then
    some .wide
  else none

/-- A whole number of at most 128 bits. -/
def int? (text : List Char) : Option Meaning := (wholeNumber? text).bind sized?

/-! ## Floating-point numbers -/

/-- A decimal with digits on at least one side of its point, and perhaps an exponent. -/
def decimal? (text : List Char) : Option Meaning := do
  let (negative, text) := match text with
    | '-' :: rest => (true, rest)
    | '+' :: rest => (false, rest)
    | rest => (false, rest)
  let (whole, text) := Json.spanDigits text
  let (fraction, text) := match text with
    | '.' :: rest => Json.spanDigits rest
    | rest => ([], rest)
  if whole.isEmpty && fraction.isEmpty then none
  else
    let (exponent, text) ← Json.exponent? text
    if !text.isEmpty then none
    else
      let digits := Json.natOfDigits (whole ++ fraction)
      let x ← Binary64.ofDecimal? negative digits (exponent.getD 0 - fraction.length)
      return .double x

/-- A floating-point number, or one of the words for infinity and for what is no number. -/
def double? (text : List Char) : Option Meaning :=
  let unsigned := if text.head? = some '+' then text.drop 1 else text
  if text.head? = some '+' && (unsigned.head? = some '+' || unsigned.head? = some '-') then none
  else if unsigned ∈ [".inf".toList, ".Inf".toList, ".INF".toList] then some .notFinite
  else if text ∈ ["-.inf".toList, "-.Inf".toList, "-.INF".toList] then some .notFinite
  else if text ∈ [".nan".toList, ".NaN".toList, ".NAN".toList] then some .notFinite
  else decimal? unsigned

/-! ## The order of readings -/

/-- What a plain scalar stands for. -/
def meaning (text : String) : Meaning :=
  if text = "" || isNull text then .null
  else match bool? text with
    | some b => .bool b
    | none =>
      match int? text.toList with
      | some meaning => meaning
      | none =>
        if isZeroPadded text.toList then .string
        else (double? text.toList).getD .string

end SwaggerRoutes.Yaml
