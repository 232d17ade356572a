/-
The two written forms of a JSON document: the compact one, without any space, and the indented one,
with every item and member on a line of its own, two spaces further in than its container. In both
a string escapes the quote, the backslash and the controls below U+0020, and nothing else.
-/
import SwaggerRoutes.Json.Value
import SwaggerRoutes.Decimal.Shortest
import SwaggerRoutes.Text.Hex

namespace SwaggerRoutes.Json

open SwaggerRoutes.Text

/-! ## Scalars -/

/-- What a string literal holds for one character of its text. -/
def escape (c : Char) : List Char :=
  if c = '"' then ['\\', '"']
  else if c = '\\' then ['\\', '\\']
  else if c = '\n' then ['\\', 'n']
  else if c = '\r' then ['\\', 'r']
  else if c = '\t' then ['\\', 't']
  else if c = '\x08' then ['\\', 'b']
  else if c = '\x0c' then ['\\', 'f']
  else if c.toNat < 0x20 then '\\' :: 'u' :: hexDigits lowerHexDigit 4 c.toNat
  else [c]

/-- The string literal for a text. -/
def quoted (text : String) : List Char := '"' :: text.toList.flatMap escape ++ ['"']

/-- The digits of a whole number, with its sign. -/
def intChars (n : Int) : List Char :=
  if n < 0 then '-' :: Nat.toDigits 10 n.natAbs else Nat.toDigits 10 n.natAbs

def Number.chars : Number → List Char
  | .int n => intChars n
  | .double x => x.text

/-- The literal of a truth value. -/
def boolChars (b : Bool) : List Char := if b then "true".toList else "false".toList

namespace Value

/-! ## Compact -/

mutual

/-- The compact form. -/
def compact : Value → List Char
  | .null => "null".toList
  | .bool b => boolChars b
  | .number n => n.chars
  | .string text => quoted text
  | .array [] => "[]".toList
  | .array (value :: rest) => '[' :: compact value ++ compactItems rest
  | .object [] => ['\x7b', '\x7d']
  | .object ((name, value) :: rest) =>
    '\x7b' :: quoted name ++ ':' :: compact value ++ compactMembers rest
termination_by structural value => value

/-- The items after the first, and the bracket that closes the array. -/
def compactItems : List Value → List Char
  | [] => [']']
  | value :: rest => ',' :: compact value ++ compactItems rest
termination_by structural values => values

/-- The members after the first, and the brace that closes the object. -/
def compactMembers : List (String × Value) → List Char
  | [] => ['\x7d']
  | (name, value) :: rest => ',' :: quoted name ++ ':' :: compact value ++ compactMembers rest
termination_by structural members => members

end

/-- The compact form as a string. -/
def compactText (value : Value) : String := String.ofList value.compact

/-! ## Indented -/

/-- A new line at a depth of nesting. -/
def newLine (depth : Nat) : List Char := '\n' :: List.replicate (2 * depth) ' '

mutual

/-- The indented form of a value that stands at a depth of nesting. -/
def indented (depth : Nat) : Value → List Char
  | .null => "null".toList
  | .bool b => boolChars b
  | .number n => n.chars
  | .string text => quoted text
  | .array [] => "[]".toList
  | .array (value :: rest) =>
    '[' :: newLine (depth + 1) ++ indented (depth + 1) value ++ indentedItems depth rest
  | .object [] => ['\x7b', '\x7d']
  | .object ((name, value) :: rest) =>
    '\x7b' :: newLine (depth + 1) ++ quoted name ++ ':' :: ' ' :: indented (depth + 1) value
      ++ indentedMembers depth rest
termination_by structural value => value

/-- The items after the first, and the bracket that closes the array. -/
def indentedItems (depth : Nat) : List Value → List Char
  | [] => newLine depth ++ [']']
  | value :: rest =>
    ',' :: newLine (depth + 1) ++ indented (depth + 1) value ++ indentedItems depth rest
termination_by structural values => values

/-- The members after the first, and the brace that closes the object. -/
def indentedMembers (depth : Nat) : List (String × Value) → List Char
  | [] => newLine depth ++ ['\x7d']
  | (name, value) :: rest =>
    ',' :: newLine (depth + 1) ++ quoted name ++ ':' :: ' ' :: indented (depth + 1) value
      ++ indentedMembers depth rest
termination_by structural members => members

end

/-- The indented form of a whole document. -/
def indentedText (value : Value) : String := String.ofList (value.indented 0)

end Value

end SwaggerRoutes.Json
