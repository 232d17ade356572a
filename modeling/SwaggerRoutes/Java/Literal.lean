/-
String literals of the Java language. A literal stands between two double quotes; a quote, a
backslash and the controls with a letter of their own are escaped by a backslash, every other
control by a Unicode escape of four digits, and nothing else is escaped.
-/
import SwaggerRoutes.Text.Blank
import SwaggerRoutes.Text.Hex

namespace SwaggerRoutes.Java

open SwaggerRoutes.Text

/-- What a literal holds for one character of its text. -/
def escape (c : Char) : List Char :=
  if c = '"' then ['\\', '"']
  else if c = '\\' then ['\\', '\\']
  else if c = '\n' then ['\\', 'n']
  else if c = '\r' then ['\\', 'r']
  else if c = '\t' then ['\\', 't']
  else if c = '\x08' then ['\\', 'b']
  else if c = '\x0c' then ['\\', 'f']
  else if isControl c then '\\' :: 'u' :: hexDigits lowerHexDigit 4 c.toNat
  else [c]

/-- The characters of the literal for a text. -/
def literalChars (text : List Char) : List Char :=
  '"' :: text.flatMap escape ++ ['"']

/-- The literal that denotes a text. -/
def literal (text : String) : String := String.ofList (literalChars text.toList)

end SwaggerRoutes.Java
