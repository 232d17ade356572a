/-
The JSON document that a YAML node stands for. Aliases are replaced by what they name, but not more
often than a hundred times the size of the document; collections nest up to 128 levels. The keys of
a mapping are the texts of scalars.
-/
import SwaggerRoutes.Yaml.Node
import SwaggerRoutes.Yaml.Plain

namespace SwaggerRoutes.Yaml

open SwaggerRoutes.Json (Value)

/-! ## Scalars -/

def booleanTag : String := "tag:yaml.org,2002:bool"
def integerTag : String := "tag:yaml.org,2002:int"
def floatTag : String := "tag:yaml.org,2002:float"
def nullTag : String := "tag:yaml.org,2002:null"

/-- Whether a tag is local to its application. No value is known for those. -/
def isLocalTag (tag : String) : Bool := tag.toList.head? == some '!'

def hasLocalTag (tag : Option String) : Bool := (tag.map isLocalTag).getD false

/-- The value of a number or of any other meaning of a text. -/
def Meaning.value? (text : String) : Meaning → Option Value
  | .null => some .null
  | .bool b => some (.bool b)
  | .int n => some (.number (.int n))
  | .wide => none
  | .double x => some (.number (.double x))
  | .notFinite => some .null
  | .string => some (.string text)

/-- The value of a scalar. A tag of one of the basic types must fit the text; another one makes it
a string, as do quotes. -/
def scalarValue? (tag : Option String) (isPlain : Bool) (text : String) : Option Value :=
  match tag with
  | none => if isPlain then (meaning text).value? text else some (.string text)
  | some tag =>
    if isLocalTag tag then none
    else if tag = booleanTag then (bool? text).map .bool
    else if tag = integerTag then (int? text.toList).bind (·.value? text)
    else if tag = floatTag then (double? text.toList).bind (·.value? text)
    else if tag = nullTag then (if isNull text then some .null else none)
    else some (.string text)

/-! ## Aliases -/

/-- The anchored nodes, the ones that begin last first. -/
abbrev Anchors := List (Nat × Node)

/-- The anchors of a document. -/
def anchorsOf (node : Node) : Anchors := node.anchors.reverse

/-- A node without its anchor. -/
def Node.bare : Node → Node
  | .anchored _ node => node
  | node => node

/-- The node that is meant, and how many aliases may still be followed. -/
def follow? (anchors : Anchors) (node : Node) (left : Nat) : Option (Node × Nat) :=
  match node.bare with
  | .alias number =>
    match left with
    | 0 => none
    | left + 1 => (anchors.lookup number).map fun node => (node.bare, left)
  | node => some (node, left)

/-- The text of a scalar, whatever its tag and form. -/
def scalarText? (anchors : Anchors) (node : Node) (left : Nat) : Option (String × Nat) :=
  match follow? anchors node left with
  | some (.scalar _ _ text, left) => some (text, left)
  | _ => none

/-! ## Values -/

/-- A list of results, where each step starts with the aliases that the one before has left. -/
def each? (f : α → Nat → Option (β × Nat)) : List α → Nat → Option (List β × Nat)
  | [], left => some ([], left)
  | x :: rest, left =>
    match f x left with
    | none => none
    | some (y, left) => (each? f rest left).map fun (ys, left) => (y :: ys, left)

/-- The member that an entry of a mapping stands for. -/
def member? (anchors : Anchors) (value? : Node → Nat → Option (Value × Nat))
    (entry : Node × Node) (left : Nat) : Option ((String × Value) × Nat) :=
  match scalarText? anchors entry.1 left with
  | none => none
  | some (name, left) => (value? entry.2 left).map fun (value, left) => ((name, value), left)

/-- The value of a node with at most `depth` levels of collections. -/
def value? (anchors : Anchors) : (depth : Nat) → Node → Nat → Option (Value × Nat)
  | 0, node, left =>
    match follow? anchors node left with
    | some (.scalar tag isPlain text, left) =>
      (scalarValue? tag isPlain text).map fun value => (value, left)
    | _ => none
  | depth + 1, node, left =>
    match follow? anchors node left with
    | some (.scalar tag isPlain text, left) =>
      (scalarValue? tag isPlain text).map fun value => (value, left)
    | some (.sequence tag items, left) =>
      if hasLocalTag tag then none
      else (each? (value? anchors depth) items left).map fun (items, left) => (.array items, left)
    | some (.mapping tag entries, left) =>
      if hasLocalTag tag then none
      else (each? (member? anchors (value? anchors depth)) entries left).map
        fun (members, left) => (.object (Json.collect members), left)
    | _ => none

/-- How deep the collections of a document may nest. -/
def maxDepth : Nat := 128

/-- How many aliases may be followed in a document. -/
def maxAliases (node : Node) : Nat := 100 * node.events

/-- The document that a text stands for; an empty text stands for null. -/
def readDocument? (text : String) : Option Value :=
  match Node.read? text with
  | none => none
  | some none => some .null
  | some (some node) =>
    (value? (anchorsOf node) maxDepth node (maxAliases node)).map Prod.fst

end SwaggerRoutes.Yaml
