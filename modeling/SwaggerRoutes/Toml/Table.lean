/-
The tables of a TOML 1.0 document. A table is defined once: by its header, or by keys with dots in
one place, or within one value; a table that only its subtables mention may still get its header. A
header in double brackets adds a table to an array, and later headers speak of the last one.
-/
import SwaggerRoutes.Text.Pieces
import SwaggerRoutes.Toml.Text
import SwaggerRoutes.Toml.Scalar

namespace SwaggerRoutes.Toml

open SwaggerRoutes

/-! ## Tables -/

/-- What a key stands for. Of values only strings are told apart; of an array of tables only the
last one can still grow. -/
inductive Item
  | string (text : String)
  | value
  | table (implicit dotted : Bool) (entries : List (String × Item))
  | tables (last : List (String × Item))
deriving Repr

abbrev Entries := List (String × Item)

def find? (name : String) : Entries → Option Item
  | [] => none
  | (key, item) :: rest => if key = name then some item else find? name rest

def put (name : String) (item : Item) : Entries → Entries
  | [] => [(name, item)]
  | (key, old) :: rest =>
    if key = name then (name, item) :: rest else (key, old) :: put name item rest

/-- Changes the table at the end of a path; tables that are missing on the way are made. Along the
dots of a key no table may be passed that has a header. The change is told whether its table comes
from dots. -/
def change? (dots : Bool) (f : Bool → Entries → Option Entries) :
    (path : List String) → (dotted : Bool) → Entries → Option Entries
  | [], dotted, entries => f dotted entries
  | key :: path, _, entries =>
    match find? key entries with
    | none =>
      (change? dots f path dots []).map fun below => put key (.table true dots below) entries
    | some (.table implicit dotted below) =>
      if dots && !implicit then none
      else (change? dots f path dotted below).map fun below =>
        put key (.table implicit dotted below) entries
    | some (.tables below) =>
      (change? dots f path false below).map fun below => put key (.tables below) entries
    | some (.string _) => none
    | some .value => none

/-- Splits a path before its last key. -/
def splitLast (path : List String) : List String × String := (path.dropLast, path.getLastD "")

/-- Opens the table of a header. -/
def openTable? (path : List String) (root : Entries) : Option Entries :=
  let (above, key) := splitLast path
  change? false (fun _ entries =>
    match find? key entries with
    | none => some (put key (.table false false []) entries)
    | some (.table true false below) => some (put key (.table false false below) entries)
    | some _ => none) above false root

/-- Adds a table to the array of a header in double brackets. -/
def addTable? (path : List String) (root : Entries) : Option Entries :=
  let (above, key) := splitLast path
  change? false (fun _ entries =>
    match find? key entries with
    | none => some (put key (.tables []) entries)
    | some (.tables _) => some (put key (.tables []) entries)
    | some _ => none) above false root

/-- Sets a key, perhaps with dots, in a table. -/
def setKey? (path : List String) (item : Item) (table : Entries) : Option Entries :=
  let (above, key) := splitLast path
  change? true (fun dotted entries =>
    if dotted == above.isEmpty then none
    else match find? key entries with
      | none => some (put key item entries)
      | some _ => none) above false table

/-! ## Keys and values -/

def isBareKeyChar (c : Char) : Bool := c.isAlphanum || c = '_' || c = '-'

/-- How many parts a key may have, and how deep the values of a document may nest. -/
def maxDepth : Nat := 79

/-- One key without dots, and the text after it. -/
def simpleKey? (text : List Char) : Option (String × List Char) :=
  match text with
  | '"' :: rest => (basic rest).map fun (key, rest) => (String.ofList key, rest)
  | '\'' :: rest => (literal rest).map fun (key, rest) => (String.ofList key, rest)
  | _ =>
    let key := text.takeWhile isBareKeyChar
    if key.isEmpty then none else some (String.ofList key, text.dropWhile isBareKeyChar)

/-- A key of at most `parts` parts with dots between them, and the text after it and the blanks
there. -/
def keyParts? : (parts : Nat) → List Char → Option (List String × List Char)
  | 0, _ => none
  | parts + 1, text => do
    let (key, rest) ← simpleKey? (skipBlanks text)
    match skipBlanks rest with
    | '.' :: rest =>
      let (keys, rest) ← keyParts? parts rest
      return (key :: keys, rest)
    | rest => return ([key], rest)

/-- A key, and the text after it and the blanks there. -/
def key? (text : List Char) : Option (List String × List Char) := keyParts? maxDepth text

/-- White space, comments and line breaks between the items of an array. -/
def skipLines? : (steps : Nat) → List Char → Option (List Char)
  | 0, _ => none
  | steps + 1, text =>
    match skipBlanks text with
    | '#' :: rest =>
      match skipComment? rest with
      | some rest => skipLines? steps rest
      | none => none
    | rest =>
      match lineBreak? rest with
      | some rest => skipLines? steps rest
      | none => some rest

/-- The items of an array after its bracket, up to its end. -/
def arrayItems? (value? : List Char → Option (Item × List Char)) :
    (steps : Nat) → List Char → Option (List Char)
  | 0, _ => none
  | steps + 1, text => do
    match ← skipLines? (text.length + 1) text with
    | ']' :: rest => return rest
    | text =>
      let (_, rest) ← value? text
      match ← skipLines? (rest.length + 1) rest with
      | ']' :: rest => return rest
      | ',' :: rest => arrayItems? value? steps rest
      | _ => none

/-- A key and its value, set in a table. -/
def keyValue? (value? : List Char → Option (Item × List Char)) (table : Entries)
    (text : List Char) : Option (Entries × List Char) := do
  let (path, rest) ← key? text
  match rest with
  | '=' :: rest =>
    let (item, rest) ← value? (skipBlanks rest)
    return (← setKey? path item table, rest)
  | _ => none

/-- The entries of a table within a value after its brace, at least one, up to its end. -/
def inlineEntries? (value? : List Char → Option (Item × List Char)) :
    (steps : Nat) → Entries → List Char → Option (List Char)
  | 0, _, _ => none
  | steps + 1, table, text => do
    let (table, rest) ← keyValue? value? table text
    match skipBlanks rest with
    | '\x7d' :: rest => return rest
    | ',' :: rest => inlineEntries? value? steps table rest
    | _ => none

/-- A value other than an array or a table, and the text after it. -/
def simpleValue? (text : List Char) : Option (Item × List Char) :=
  match string? text with
  | some (text, rest) => some (.string (String.ofList text), rest)
  | none => (scalar? text).map fun rest => (.value, rest)

/-- A value with at most `depth` levels of arrays and tables, and the text after it. -/
def value? : (depth : Nat) → List Char → Option (Item × List Char)
  | 0, text => simpleValue? text
  | depth + 1, text =>
    match text with
    | '[' :: rest =>
      (arrayItems? (value? depth) (rest.length + 1) rest).map fun rest => (.value, rest)
    | '\x7b' :: rest =>
      match skipBlanks rest with
      | '\x7d' :: rest => some (.value, rest)
      | rest =>
        (inlineEntries? (value? depth) (rest.length + 1) [] rest).map fun rest => (.value, rest)
    | text => simpleValue? text

/-! ## Documents -/

/-- The path of a header up to its closing brackets, and the text after them. -/
def header? (closing : List Char) (text : List Char) : Option (List String × List Char) := do
  let (path, rest) ← key? text
  return (path, ← Text.dropStart? closing rest)

/-- The lines of a document. `current` is the path of the last header. -/
def lines? : (steps : Nat) → (current : List String) → (root : Entries) → List Char →
    Option Entries
  | 0, _, _, _ => none
  | steps + 1, current, root, text => do
    match ← skipLines? (text.length + 1) text with
    | [] => return root
    | '[' :: '[' :: rest =>
      let (path, rest) ← header? [']', ']'] rest
      lines? steps path (← addTable? path root) (← endLine? rest)
    | '[' :: rest =>
      let (path, rest) ← header? [']'] rest
      lines? steps path (← openTable? path root) (← endLine? rest)
    | text =>
      let (path, rest) ← key? text
      match rest with
      | '=' :: rest =>
        let (item, rest) ← value? maxDepth (skipBlanks rest)
        let root ← change? false (fun _ table => setKey? path item table) current false root
        lines? steps current root (← endLine? rest)
      | _ => none

/-- The entries of a document. A mark of its byte order at the start does not count. -/
def read? (text : String) : Option Entries :=
  let chars := match text.toList with
    | c :: rest => if c.toNat = 0xFEFF then rest else c :: rest
    | [] => []
  lines? (chars.length + 1) [] [] chars

end SwaggerRoutes.Toml
