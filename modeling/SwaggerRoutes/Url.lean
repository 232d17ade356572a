/-
Which locations are web addresses: those that are a URL of the scheme `http` or `https`. The path, the
query and the fragment of such a URL may hold anything, so only the scheme, the host and the port are
looked at. The rules are those of the living standard but for one: the name of a host is not brought
into ASCII, so a name that this step refuses counts as a host. A run leaves the question to its host.
-/
import SwaggerRoutes.Text.Blank
import SwaggerRoutes.Text.Hex
import SwaggerRoutes.Text.Pieces

namespace SwaggerRoutes.Url

open SwaggerRoutes.Text

/-! ## Cleaning -/

def isControlOrSpace (c : Char) : Bool := c.toNat ≤ 0x20

/-- A location without controls and spaces at its ends, and without tabs and line breaks. -/
def clean (text : List Char) : List Char :=
  let inner := ((text.dropWhile isControlOrSpace).reverse.dropWhile isControlOrSpace).reverse
  inner.filter fun c => c != '\t' && c != '\n' && c != '\r'

/-! ## Percent signs -/

/-- The bytes of a text, where a percent sign with two digits stands for one byte. -/
def percentDecode : List Char → List UInt8
  | '%' :: a :: b :: rest =>
    match hexValue? a, hexValue? b with
    | some high, some low => UInt8.ofNat (16 * high + low) :: percentDecode rest
    | _, _ => '%'.toString.toUTF8.toList ++ percentDecode (a :: b :: rest)
  | c :: rest => c.toString.toUTF8.toList ++ percentDecode rest
  | [] => []

/-- The text of a host's name without percent signs, if it is one. -/
def decodeHost? (text : List Char) : Option (List Char) :=
  (String.fromUTF8? ⟨(percentDecode text).toArray⟩).map String.toList

/-! ## Hosts -/

/-- A character that no name of a host may hold. -/
def isForbidden (c : Char) : Bool :=
  c.toNat ≤ 0x20 || c.toNat = 0x7F || c ∈ ['#', '/', ':', '<', '>', '?', '@', '[', '\\', ']', '^',
    '|', '%'] || c.toNat = 0xFFFD

/-- The value of digits in a base, if all are digits of that base. -/
def inBase? (base : Nat) (digits : List Char) : Option Nat :=
  digits.foldlM (fun n c =>
    match hexValue? c with
    | some d => if d < base then some (base * n + d) else none
    | none => none) 0

/-- A part of an address in numbers: decimal, octal after a zero, or hexadecimal. -/
def number? (part : List Char) : Option Nat :=
  match part with
  | [] => none
  | ['0'] => some 0
  | '0' :: c :: digits =>
    if c = 'x' || c = 'X' then inBase? 16 digits else inBase? 8 (c :: digits)
  | digits => inBase? 10 digits

/-- The parts of a host's name, without an empty one at its end. -/
def hostParts (host : List Char) : List (List Char) :=
  let parts := pieces '.' host
  if 1 < parts.length && parts.getLast? = some [] then parts.dropLast else parts

/-- Whether the last part of a name is a number, so that the name must be an address. -/
def endsInNumber (host : List Char) : Bool :=
  match (hostParts host).getLast? with
  | some part => !part.isEmpty && (part.all isDigit || (number? part).isSome)
  | none => false

/-- Whether a name is an address of 32 bits: up to four numbers, of which the last one fills what
the others leave. -/
def isAddress (host : List Char) : Bool :=
  let parts := hostParts host
  match parts.mapM number? with
  | some numbers =>
    numbers.length ≤ 4 && numbers.dropLast.all (· ≤ 255)
      && numbers.getLast?.any (· < Nat.pow 256 (5 - numbers.length))
  | none => false

/-- A decimal number up to 255 without zeros in front. -/
def isOctet (part : List Char) : Bool :=
  !part.isEmpty && part.all isDigit && (part.length == 1 || part.head? != some '0')
    && (inBase? 10 part).any (· ≤ 255)

/-- Whether a text is four octets. -/
def isQuad (text : List Char) : Bool :=
  let parts := pieces '.' text
  parts.length == 4 && parts.all isOctet

/-- Whether a text is one group of a long address. -/
def isGroup (text : List Char) : Bool :=
  !text.isEmpty && text.length ≤ 4 && text.all fun c => (hexValue? c).isSome

/-- How many groups a text holds; at its end four octets may stand for two groups. -/
def groups? (quadAllowed : Bool) (text : List Char) : Option Nat :=
  if text.isEmpty then some 0
  else
    let parts := pieces ':' text
    let last := parts.getLastD []
    if !parts.dropLast.all isGroup then none
    else if isGroup last then some parts.length
    else if quadAllowed && isQuad last then some (parts.length + 1)
    else none

/-- The texts before and after the first two colons in a row. -/
def splitGap : List Char → Option (List Char × List Char)
  | ':' :: ':' :: rest => some ([], rest)
  | c :: rest => (splitGap rest).map fun (before, after) => (c :: before, after)
  | [] => none

/-- Whether a text is an address of 128 bits: eight groups, or fewer around one gap. -/
def isLongAddress (text : List Char) : Bool :=
  match splitGap text with
  | none => groups? true text == some 8
  | some (before, after) =>
    match groups? false before, groups? true after with
    | some m, some n => m + n ≤ 7
    | _, _ => false

/-- Whether a text names a host. -/
def isHost (text : List Char) : Bool :=
  match text with
  | [] => false
  | '[' :: rest => rest.getLast? = some ']' && isLongAddress rest.dropLast
  | _ =>
    match decodeHost? text with
    | none => false
    | some [] => false
    | some host =>
      !host.any isForbidden && (!endsInNumber host || isAddress host)

/-! ## Ports -/

/-- Whether a text is the number of a port, or empty. -/
def isPort (text : List Char) : Bool :=
  text.all isDigit && (inBase? 10 text).any (· ≤ 65535)

/-! ## Addresses -/

def isSlash (c : Char) : Bool := c = '/' || c = '\\'

/-- The scheme of a location in lower case, and what follows its colon. -/
def scheme? (text : List Char) : Option (List Char × List Char) :=
  let isSchemeChar (c : Char) : Bool := c.isAlphanum || c = '+' || c = '-' || c = '.'
  let scheme := text.takeWhile isSchemeChar
  match scheme, text.dropWhile isSchemeChar with
  | c :: _, ':' :: rest => if isLetter c then some (scheme.map Char.toLower, rest) else none
  | _, _ => none

/-- The text after the last `@`, or all of it. -/
def afterUser (text : List Char) : List Char := (pieces '@' text).getLastD []

/-- Host and port of an authority: the port follows the first colon outside of brackets. -/
def hostAndPort : (bracket : Bool) → List Char → List Char × List Char
  | _, [] => ([], [])
  | bracket, c :: rest =>
    if c = ':' && !bracket then ([], rest)
    else
      let inside := if c = '[' then true else if c = ']' then false else bracket
      let (host, port) := hostAndPort inside rest
      (c :: host, port)

/-- Whether a text is the authority of a web address. -/
def isAuthority (text : List Char) : Bool :=
  let (host, port) := hostAndPort false (afterUser text)
  isHost host && isPort port

/-- Whether a location is a web address. Any number of slashes may follow its scheme. -/
def isRemote (location : String) : Bool :=
  match scheme? (clean location.toList) with
  | some (scheme, rest) =>
    (scheme = "http".toList || scheme = "https".toList)
      && isAuthority ((rest.dropWhile isSlash).takeWhile fun c =>
        !isSlash c && c != '?' && c != '#')
  | none => false

end SwaggerRoutes.Url
