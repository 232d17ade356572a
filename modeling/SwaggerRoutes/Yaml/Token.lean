/-
The tokens of a YAML text. Collections in block style have no brackets of their own: their start
and end are tokens too, which follow from indentation. A mapping key may be recognised only at the
colon after it; the place of a possible key is remembered, and its tokens are put in there.
-/
import SwaggerRoutes.Yaml.Scalar

namespace SwaggerRoutes.Yaml

open SwaggerRoutes.Text

inductive Token
  | versionDirective (major minor : Nat)
  | tagDirective (handle uri : String)
  | documentStart
  | documentEnd
  | blockSequenceStart
  | blockMappingStart
  | blockEnd
  | flowSequenceStart
  | flowSequenceEnd
  | flowMappingStart
  | flowMappingEnd
  | blockEntry
  | flowEntry
  | key
  | value
  | alias (name : String)
  | anchor (name : String)
  | tag (handle suffix : String)
  | scalar (isPlain : Bool) (text : String)
deriving DecidableEq, Repr

/-! ## Names, tags and directives -/

/-- The name of an anchor or alias, after its indicator. -/
def anchorName? (cursor : Cursor) : Option (String × Cursor) :=
  let (name, cursor) := cursor.span isWordChar
  let ends := blankOrEnd cursor.rest || match cursor.rest with
    | c :: _ => c ∈ ['?', ':', ',', ']', '\x7d', '%', '@', '\x60']
    | [] => true
  if name.isEmpty || !ends then none else some (String.ofList name, cursor)

/-- How many bytes a character takes whose first byte is given; zero if no character begins so. -/
def sizeOfFirstByte (byte : Nat) : Nat :=
  if byte < 0x80 then 1
  else if 0xC0 ≤ byte ∧ byte < 0xE0 then 2
  else if 0xE0 ≤ byte ∧ byte < 0xF0 then 3
  else if 0xF0 ≤ byte ∧ byte < 0xF8 then 4
  else 0

/-- One byte written as a percent sign and two digits. -/
def percentByte? : List Char → Option (Nat × List Char)
  | '%' :: a :: b :: rest =>
    match hexValue? a, hexValue? b with
    | some high, some low => some (16 * high + low, rest)
    | _, _ => none
  | _ => none

/-- Further bytes of a character, six bits each. -/
def percentBytes? : (count : Nat) → List Char → (value : Nat) → Option (Nat × List Char)
  | 0, rest, value => some (value, rest)
  | count + 1, rest, value =>
    match percentByte? rest with
    | some (byte, rest) =>
      if 0x80 ≤ byte ∧ byte < 0xC0 then percentBytes? count rest (64 * value + byte % 64) else none
    | none => none

/-- A character whose bytes are all written with percent signs, and the text after it. -/
def percentChar? (text : List Char) : Option (Char × List Char) :=
  match percentByte? text with
  | some (byte, rest) =>
    let lead := match sizeOfFirstByte byte with
      | 1 => byte
      | 2 => byte % 32
      | 3 => byte % 16
      | _ => byte % 8
    match sizeOfFirstByte byte with
    | 0 => none
    | size + 1 => (percentBytes? size rest lead).map fun (value, rest) => (Char.ofNat value, rest)
  | none => none

/-- The characters of tag suffixes; inside angle brackets some indicators are among them. -/
def isUriChar (verbatim : Bool) (c : Char) : Bool :=
  isWordChar c || c ∈ [';', '/', '?', ':', '@', '&', '=', '+', '$', '.', '!', '~', '*', '\'', '(',
    ')'] || (verbatim && c ∈ [',', '[', ']'])

/-- The characters of a tag suffix, and what follows them. Every step takes a character, so the
length of the text bounds their number. -/
def uriChars? (verbatim : Bool) : (steps : Nat) → List Char → Option (List Char × List Char)
  | 0, rest => some ([], rest)
  | steps + 1, rest =>
    match rest with
    | '%' :: _ =>
      match percentChar? rest with
      | some (c, rest) => (uriChars? verbatim steps rest).map fun (cs, rest) => (c :: cs, rest)
      | none => none
    | c :: tail =>
      if isUriChar verbatim c then
        (uriChars? verbatim steps tail).map fun (cs, rest) => (c :: cs, rest)
      else some ([], rest)
    | [] => some ([], [])

/-- A tag suffix at the cursor. -/
def uri? (verbatim : Bool) (cursor : Cursor) : Option (List Char × Cursor) := do
  let size := cursor.rest.length
  let (chars, rest) ← uriChars? verbatim size cursor.rest
  return (chars, ⟨rest, cursor.mark.right (size - rest.length)⟩)

/-- The start of a tag: an exclamation mark, word characters, and perhaps a second mark. -/
def tagHandle? (cursor : Cursor) : Option (List Char × Cursor) :=
  match cursor.rest with
  | '!' :: _ =>
    let (word, cursor) := (cursor.skip 1).span isWordChar
    match cursor.rest with
    | '!' :: _ => some ('!' :: word ++ ['!'], cursor.skip 1)
    | _ => some ('!' :: word, cursor)
  | _ => none

/-- Handle and suffix of a tag, at its exclamation mark. A tag in angle brackets, and the mark
alone, have an empty handle. -/
def tagParts? (cursor : Cursor) : Option (List Char × List Char × Cursor) := do
  match cursor.rest with
  | '!' :: '<' :: _ =>
    let (uri, cursor) ← uri? true (cursor.skip 2)
    match cursor.rest with
    | '>' :: _ => if uri.isEmpty then none else return ([], uri, cursor.skip 1)
    | _ => none
  | _ =>
    let (handle, cursor) ← tagHandle? cursor
    if 2 ≤ handle.length && handle.getLast? = some '!' then
      let (uri, cursor) ← uri? false cursor
      if uri.isEmpty then none else return (handle, uri, cursor)
    else
      let (uri, cursor) ← uri? false cursor
      let suffix := handle.drop 1 ++ uri
      if suffix.isEmpty then return ([], ['!'], cursor) else return (['!'], suffix, cursor)

/-- A tag, which a blank or a break must follow, or a comma inside a flow collection. -/
def tag? (flow : Bool) (cursor : Cursor) : Option (Token × Cursor) := do
  let (handle, suffix, cursor) ← tagParts? cursor
  if blankOrEnd cursor.rest || (flow && cursor.rest.head? = some ',') then
    return (.tag (String.ofList handle) (String.ofList suffix), cursor)
  else none

/-- A version number: at most nine digits. -/
def versionNumber? (cursor : Cursor) : Option (Nat × Cursor) :=
  let (digits, cursor) := cursor.span Char.isDigit
  if digits.isEmpty || 9 < digits.length then none
  else some (digits.foldl (fun n c => 10 * n + (c.toNat - 48)) 0, cursor)

/-- A directive, after its percent sign. Only two are known. -/
def directive? (cursor : Cursor) : Option (Token × Cursor) := do
  let (name, cursor) := cursor.span isWordChar
  if name.isEmpty || !blankOrEnd cursor.rest then none
  else if name = ['Y', 'A', 'M', 'L'] then
    let (major, cursor) ← versionNumber? cursor.skipBlanks
    match cursor.rest with
    | '.' :: _ =>
      let (minor, cursor) ← versionNumber? (cursor.skip 1)
      return (.versionDirective major minor, ← lineEnd? cursor)
    | _ => none
  else if name = ['T', 'A', 'G'] then
    let (handle, cursor) ← tagHandle? cursor.skipBlanks
    if handle.getLast? != some '!' then none
    else match cursor.rest with
      | c :: _ =>
        if !isBlank c then none
        else
          let (uri, cursor) ← uri? true cursor.skipBlanks
          if uri.isEmpty || !blankOrEnd cursor.rest then none
          else
            return (.tagDirective (String.ofList handle) (String.ofList uri),
              ← lineEnd? cursor)
      | [] => none
  else none

/-! ## The state between tokens -/

/-- A place where a mapping key may have begun, and how many tokens were there before it. A key is
required where only a key can stand at its indentation. -/
structure KeyPlace where
  tokens : Nat
  required : Bool
  mark : Mark
deriving Repr

/-- What is known between two tokens. Tokens are kept latest first; there is a possible key for
every open flow collection and one outside of all. -/
structure Scan where
  cursor : Cursor
  tokens : List Token := []
  count : Nat := 0
  indent : Int := -1
  outer : List Int := []
  key : Option KeyPlace := none
  outerKeys : List (Option KeyPlace) := []
  keyAllowed : Bool := true

namespace Scan

/-- Whether a flow collection is open. -/
def inFlow (s : Scan) : Bool := !s.outerKeys.isEmpty

def push (s : Scan) (token : Token) : Scan :=
  { s with tokens := token :: s.tokens, count := s.count + 1 }

/-- A list with an item put in behind the first `depth`. -/
def putIn (item : Token) : (depth : Nat) → List Token → List Token
  | 0, tokens => item :: tokens
  | _ + 1, [] => [item]
  | depth + 1, t :: tokens => t :: putIn item depth tokens

/-- A token put in where only the first `place` tokens were there. -/
def insert (s : Scan) (place : Nat) (token : Token) : Scan :=
  { s with tokens := putIn token (s.count - place) s.tokens, count := s.count + 1 }

/-- Closes the block collections that are indented more than `column`. -/
def unroll (s : Scan) (column : Int) : Scan :=
  if s.inFlow then s else close s s.outer
where
  close (s : Scan) : List Int → Scan
    | [] => s
    | outer :: rest =>
      if column < s.indent then close { s.push .blockEnd with indent := outer, outer := rest } rest
      else s

/-- Opens a block collection at a column, unless one is open there; its token is put in at a place
among the tokens. -/
def roll (s : Scan) (column place : Nat) (token : Token) : Scan :=
  if s.inFlow || (column : Int) ≤ s.indent then s
  else { s.insert place token with indent := column, outer := s.indent :: s.outer }

/-- Gives up the possible key, which must not be a required one. -/
def dropKey? (s : Scan) : Option Scan :=
  match s.key with
  | some place => if place.required then none else some { s with key := none }
  | none => some s

/-- Remembers this place as that of a possible key. -/
def saveKey? (s : Scan) : Option Scan :=
  if s.keyAllowed then do
    let s ← s.dropKey?
    let required := !s.inFlow && s.indent == (s.cursor.mark.column : Int)
    return { s with key := some ⟨s.count, required, s.cursor.mark⟩ }
  else some s

/-- A key stands on one line and within 1024 characters of its colon. -/
def isStale (mark : Mark) (place : KeyPlace) : Bool :=
  place.mark.line < mark.line || place.mark.index + 1024 < mark.index

/-- A possible key after its time: gone, or a fault if it was required. -/
def refresh? (mark : Mark) : Option KeyPlace → Option (Option KeyPlace)
  | none => some none
  | some place =>
    if isStale mark place then (if place.required then none else some none)
    else some (some place)

/-- Forgets all possible keys after their time. -/
def dropStale? (s : Scan) : Option Scan := do
  let key ← refresh? s.cursor.mark s.key
  let outerKeys ← s.outerKeys.mapM (refresh? s.cursor.mark)
  return { s with key, outerKeys }

/-! ## Single tokens -/

/-- Moves on by `count` characters and adds a token. -/
def take (s : Scan) (count : Nat) (token : Token) : Scan :=
  { s.push token with cursor := s.cursor.skip count }

/-- Moves on to a cursor and adds a token. -/
def takeTo (s : Scan) (cursor : Cursor) (token : Token) : Scan :=
  { s.push token with cursor }

def flowStart? (s : Scan) (token : Token) : Option Scan := do
  let s ← s.saveKey?
  return { s.take 1 token with
    key := none, outerKeys := s.key :: s.outerKeys, keyAllowed := true }

def flowEnd? (s : Scan) (token : Token) : Option Scan := do
  let s ← s.dropKey?
  let s := match s.outerKeys with
    | key :: rest => { s with key, outerKeys := rest }
    | [] => s
  return { s.take 1 token with keyAllowed := false }

def flowEntry? (s : Scan) : Option Scan := do
  let s ← s.dropKey?
  return { s.take 1 .flowEntry with keyAllowed := true }

def blockEntry? (s : Scan) : Option Scan := do
  if !s.inFlow && !s.keyAllowed then none
  else
    let s := s.roll s.cursor.mark.column s.count .blockSequenceStart
    let s ← s.dropKey?
    return { s.take 1 .blockEntry with keyAllowed := true }

def explicitKey? (s : Scan) : Option Scan := do
  if !s.inFlow && !s.keyAllowed then none
  else
    let s := s.roll s.cursor.mark.column s.count .blockMappingStart
    let s ← s.dropKey?
    return { s.take 1 .key with keyAllowed := !s.inFlow }

def value? (s : Scan) : Option Scan :=
  match s.key with
  | some place =>
    let s := (s.insert place.tokens .key).roll place.mark.column place.tokens .blockMappingStart
    some { s.take 1 .value with key := none, keyAllowed := false }
  | none =>
    if !s.inFlow && !s.keyAllowed then none
    else
      let s := s.roll s.cursor.mark.column s.count .blockMappingStart
      some { s.take 1 .value with keyAllowed := !s.inFlow }

def documentMark? (s : Scan) (token : Token) : Option Scan := do
  let s ← (s.unroll (-1)).dropKey?
  return { s.take 3 token with keyAllowed := false }

def directiveToken? (s : Scan) : Option Scan := do
  let s ← (s.unroll (-1)).dropKey?
  let (token, cursor) ← directive? (s.cursor.skip 1)
  return { s.takeTo cursor token with keyAllowed := false }

def anchorToken? (s : Scan) (token : String → Token) : Option Scan := do
  let s ← s.saveKey?
  let (name, cursor) ← anchorName? (s.cursor.skip 1)
  return { s.takeTo cursor (token name) with keyAllowed := false }

def tagToken? (s : Scan) : Option Scan := do
  let s ← s.saveKey?
  let (token, cursor) ← tag? s.inFlow s.cursor
  return { s.takeTo cursor token with keyAllowed := false }

def blockScalar? (s : Scan) (folded : Bool) : Option Scan := do
  let s ← s.dropKey?
  let scanned ← block? folded s.indent (s.cursor.skip 1)
  return { s.takeTo scanned.cursor (.scalar false (String.ofList scanned.text)) with
    keyAllowed := true }

def quotedScalar? (s : Scan) (quoted : List Char → Mark → Gap → Option Scanned) :
    Option Scan := do
  let s ← s.saveKey?
  let after := s.cursor.skip 1
  let scanned ← quoted after.rest after.mark .none
  return { s.takeTo scanned.cursor (.scalar false (String.ofList scanned.text)) with
    keyAllowed := false }

def plainScalar? (s : Scan) : Option Scan := do
  let s ← s.saveKey?
  let scanned ← plain s.inFlow (s.indent + 1).toNat s.cursor.rest s.cursor.mark .none
  return { s.takeTo scanned.cursor (.scalar true (String.ofList scanned.text)) with
    keyAllowed := scanned.broken }

/-! ## All tokens -/

/-- What lies between tokens: spaces, comments and line breaks, and tabs where no key may begin. In
block style a new line may begin with a key. Also says whether a key may begin afterwards. -/
def skipGap (flow : Bool) : List Char → Mark → (comment keyAllowed : Bool) → Cursor × Bool
  | [], mark, _, keyAllowed => (⟨[], mark⟩, keyAllowed)
  | '\r' :: '\n' :: rest, mark, _, keyAllowed =>
    skipGap flow rest (mark.nextLine 2) false (keyAllowed || !flow)
  | c :: rest, mark, comment, keyAllowed =>
    if isBreak c then skipGap flow rest (mark.nextLine 1) false (keyAllowed || !flow)
    else if comment || c = ' ' || (c = '\t' && (flow || !keyAllowed)) then
      skipGap flow rest (mark.right 1) comment keyAllowed
    else if c = '#' then skipGap flow rest (mark.right 1) true keyAllowed
    else (⟨c :: rest, mark⟩, keyAllowed)

/-- The indicators that no plain scalar begins with. -/
def indicators : List Char :=
  ['-', '?', ':', ',', '[', ']', '\x7b', '\x7d', '#', '&', '*', '!', '|', '>', '\'', '"', '%', '@',
    '\x60']

/-- Whether a plain scalar begins with this character, before that text. -/
def startsPlain (flow : Bool) (c : Char) (rest : List Char) : Bool :=
  !(isBlank c || isBreak c || indicators.contains c)
    || (c = '-' && !(rest.head?.map isBlank).getD false)
    || (!flow && (c = '?' || c = ':') && !blankOrEnd rest)

/-- The next token, which begins with this character, before that text. -/
def token? (s : Scan) (c : Char) (rest : List Char) : Option Scan :=
  let lineStart := s.cursor.mark.column == 0
  if lineStart && c = '%' then s.directiveToken?
  else if lineStart && documentMark (c :: rest) then
    s.documentMark? (if c = '-' then .documentStart else .documentEnd)
  else if c = '[' then s.flowStart? .flowSequenceStart
  else if c = '\x7b' then s.flowStart? .flowMappingStart
  else if c = ']' then s.flowEnd? .flowSequenceEnd
  else if c = '\x7d' then s.flowEnd? .flowMappingEnd
  else if c = ',' then s.flowEntry?
  else if c = '-' && blankOrEnd rest then s.blockEntry?
  else if c = '?' && (s.inFlow || blankOrEnd rest) then s.explicitKey?
  else if c = ':' && (s.inFlow || blankOrEnd rest) then s.value?
  else if c = '*' then s.anchorToken? .alias
  else if c = '&' then s.anchorToken? .anchor
  else if c = '!' then s.tagToken?
  else if c = '|' && !s.inFlow then s.blockScalar? false
  else if c = '>' && !s.inFlow then s.blockScalar? true
  else if c = '\'' then s.quotedScalar? singleQuoted
  else if c = '"' then s.quotedScalar? doubleQuoted
  else if startsPlain s.inFlow c rest then s.plainScalar?
  else none

/-- The state before the next token: the gap is passed, old keys are forgotten, and collections that
are indented more are closed. -/
def ready? (s : Scan) : Option Scan := do
  let (cursor, keyAllowed) := skipGap s.inFlow s.cursor.rest s.cursor.mark false s.keyAllowed
  let s ← { s with cursor, keyAllowed }.dropStale?
  return s.unroll s.cursor.mark.column

/-- The state after the last token: all block collections are closed. -/
def finish? (s : Scan) : Option Scan := (s.unroll (-1)).dropKey?

/-- Reads tokens up to the end. Every token takes a character. -/
def run? : (steps : Nat) → Scan → Option Scan
  | 0, _ => none
  | steps + 1, s => do
    let s ← s.ready?
    match s.cursor.rest with
    | [] => s.finish?
    | c :: rest => run? steps (← s.token? c rest)

end Scan

/-- The text without a mark of its byte order. -/
def withoutOrderMark : List Char → List Char
  | c :: rest => if c.toNat = 0xFEFF then rest else c :: rest
  | [] => []

/-- The tokens of a text. -/
def tokens? (text : String) : Option (List Token) :=
  let chars := withoutOrderMark text.toList
  if chars.all isReadable then
    (Scan.run? (chars.length + 1) { cursor := ⟨chars, {}⟩ }).map fun s => s.tokens.reverse
  else none

end SwaggerRoutes.Yaml
