/-
The node that a YAML text describes. Anchored nodes carry the number of their anchor, and an alias
the number that its name had where it stands. A text describes one node at most.
-/
import SwaggerRoutes.Yaml.Token

namespace SwaggerRoutes.Yaml

/-- A node. The tag of a scalar or collection is written out in full. -/
inductive Node
  | scalar (tag : Option String) (isPlain : Bool) (text : String)
  | sequence (tag : Option String) (items : List Node)
  | mapping (tag : Option String) (entries : List (Node × Node))
  | anchored (number : Nat) (node : Node)
  | alias (number : Nat)
deriving Repr

namespace Node

/-- The node of nothing at all. -/
def empty : Node := .scalar none true ""

/-! ## Reading from tokens -/

/-- What is left to read, and what is known from before: the numbers of the anchors by their names,
and what the handles of tags stand for. -/
structure Source where
  tokens : List Token
  anchors : List (String × Nat) := []
  handles : List (String × String) := []

namespace Source

def next? (s : Source) : Option Token := s.tokens.head?

def drop (s : Source) : Source := { s with tokens := s.tokens.drop 1 }

/-- Names an anchor: it gets as its number how many names there were before. -/
def nameAnchor (s : Source) (name : String) : Nat × Source :=
  let number := s.anchors.length
  (number, { s with anchors := (name, number) :: s.anchors.filter (·.1 != name) })

end Source

/-- The full tag for a handle and a suffix. -/
def fullTag? (s : Source) (handle suffix : String) : Option String :=
  if handle = "" then some suffix
  else (s.handles.lookup handle).map fun start => start ++ suffix

/-- Anchor and tag in front of a node, each at most once and in either order. -/
def properties? (s : Source) : Option (Option String × Option String × Source) := do
  match s.next? with
  | some (.anchor name) =>
    match s.drop.next? with
    | some (.tag handle suffix) =>
      return (some name, some (← fullTag? s handle suffix), s.drop.drop)
    | _ => return (some name, none, s.drop)
  | some (.tag handle suffix) =>
    let tag ← fullTag? s handle suffix
    match s.drop.next? with
    | some (.anchor name) => return (some name, some tag, s.drop.drop)
    | _ => return (none, some tag, s.drop)
  | _ => return (none, none, s)

/-- The tag of a scalar: the mark alone counts as none. -/
def scalarTag (tag : Option String) : Option String := if tag = some "!" then none else tag

/-- A node under its anchor. -/
def under (number : Option Nat) (node : Node) : Node :=
  match number with
  | some n => .anchored n node
  | none => node

/-- Whether one of the tokens that may follow an empty node comes next; at the end, any does. -/
def emptyBefore (s : Source) (tokens : List Token) : Bool :=
  match s.next? with
  | some token => tokens.contains token
  | none => false

mutual

/-- A node. In block style it may be a block collection, and as the value of a mapping a sequence
without indentation of its own. -/
def node? : (steps : Nat) → (block indentless : Bool) → Source → Option (Node × Source)
  | 0, _, _, _ => none
  | steps + 1, block, indentless, s => do
    match s.next? with
    | some (.alias name) => return (.alias (← s.anchors.lookup name), s.drop)
    | _ =>
      let (anchor, tag, s) ← properties? s
      let (number, s) := match anchor with
        | some name => let (n, s) := s.nameAnchor name; (some n, s)
        | none => (none, s)
      match s.next? with
      | some .blockEntry =>
        if indentless then
          let (items, s) ← indentlessItems? steps s
          return (under number (.sequence tag items), s)
        else if anchor.isSome || tag.isSome then
          return (under number (.scalar tag true ""), s)
        else none
      | some (.scalar isPlain text) =>
        return (under number (.scalar (scalarTag tag) isPlain text), s.drop)
      | some .flowSequenceStart =>
        let (items, s) ← flowItems? steps true s.drop
        return (under number (.sequence tag items), s)
      | some .flowMappingStart =>
        let (entries, s) ← flowEntries? steps true s.drop
        return (under number (.mapping tag entries), s)
      | next =>
        if block && next = some .blockSequenceStart then
          let (items, s) ← blockItems? steps s.drop
          return (under number (.sequence tag items), s)
        else if block && next = some .blockMappingStart then
          let (entries, s) ← blockEntries? steps s.drop
          return (under number (.mapping tag entries), s)
        else if anchor.isSome || tag.isSome then
          return (under number (.scalar tag true ""), s)
        else none

/-- A node, or the empty one before certain tokens. -/
def nodeOrEmpty? : (steps : Nat) → (block indentless : Bool) → (before : List Token) → Source →
    Option (Node × Source)
  | 0, _, _, _, _ => none
  | steps + 1, block, indentless, before, s =>
    if emptyBefore s before then some (empty, s) else node? steps block indentless s

/-- The items of a block sequence, up to its end. -/
def blockItems? : (steps : Nat) → Source → Option (List Node × Source)
  | 0, _ => none
  | steps + 1, s => do
    match s.next? with
    | some .blockEntry =>
      let (item, s) ← nodeOrEmpty? steps true false [.blockEntry, .blockEnd] s.drop
      let (items, s) ← blockItems? steps s
      return (item :: items, s)
    | some .blockEnd => return ([], s.drop)
    | _ => none

/-- The items of a sequence without indentation of its own. -/
def indentlessItems? : (steps : Nat) → Source → Option (List Node × Source)
  | 0, _ => none
  | steps + 1, s => do
    match s.next? with
    | some .blockEntry =>
      let (item, s) ←
        nodeOrEmpty? steps true false [.blockEntry, .key, .value, .blockEnd] s.drop
      let (items, s) ← indentlessItems? steps s
      return (item :: items, s)
    | _ => return ([], s)

/-- The entries of a block mapping, up to its end. -/
def blockEntries? : (steps : Nat) → Source → Option (List (Node × Node) × Source)
  | 0, _ => none
  | steps + 1, s => do
    let before := [.key, .value, .blockEnd]
    match s.next? with
    | some .key =>
      let (key, s) ← nodeOrEmpty? steps true true before s.drop
      let (value, s) ← blockValue? steps s
      let (entries, s) ← blockEntries? steps s
      return ((key, value) :: entries, s)
    | some .value => none
    | some .blockEnd => return ([], s.drop)
    | _ => none

/-- The value of an entry of a block mapping; it may be missing. -/
def blockValue? : (steps : Nat) → Source → Option (Node × Source)
  | 0, _ => none
  | steps + 1, s =>
    match s.next? with
    | some .value => nodeOrEmpty? steps true true [.key, .value, .blockEnd] s.drop
    | _ => some (empty, s)

/-- The items of a flow sequence, up to its end. An item may be a single entry of a mapping. -/
def flowItems? : (steps : Nat) → (first : Bool) → Source → Option (List Node × Source)
  | 0, _, _ => none
  | steps + 1, first, s => do
    match s.next? with
    | some .flowSequenceEnd => return ([], s.drop)
    | next =>
      if !first && next != some .flowEntry then none
      else
        let s := if first then s else s.drop
        match s.next? with
        | some .key =>
          let (entry, s) ← flowPair? steps s.drop
          let (items, s) ← flowItems? steps false s
          return (.mapping none [entry] :: items, s)
        | some .flowSequenceEnd => return ([], s.drop)
        | _ =>
          let (item, s) ← node? steps false false s
          let (items, s) ← flowItems? steps false s
          return (item :: items, s)

/-- The entry of a mapping that is an item of a flow sequence. Where its key is missing, the token
that shows it is passed over. -/
def flowPair? : (steps : Nat) → Source → Option ((Node × Node) × Source)
  | 0, _ => none
  | steps + 1, s => do
    let (key, s) ←
      if emptyBefore s [.value, .flowEntry, .flowSequenceEnd] then some (empty, s.drop)
      else node? steps false false s
    match s.next? with
    | some .value =>
      let (value, s) ← nodeOrEmpty? steps false false [.flowEntry, .flowSequenceEnd] s.drop
      return ((key, value), s)
    | _ => return ((key, empty), s)

/-- The entries of a flow mapping, up to its end. -/
def flowEntries? : (steps : Nat) → (first : Bool) → Source →
    Option (List (Node × Node) × Source)
  | 0, _, _ => none
  | steps + 1, first, s => do
    match s.next? with
    | some .flowMappingEnd => return ([], s.drop)
    | next =>
      if !first && next != some .flowEntry then none
      else
        let s := if first then s else s.drop
        match s.next? with
        | some .key =>
          let (key, s) ←
            nodeOrEmpty? steps false false [.value, .flowEntry, .flowMappingEnd] s.drop
          let (value, s) ← flowValue? steps s
          let (entries, s) ← flowEntries? steps false s
          return ((key, value) :: entries, s)
        | some .flowMappingEnd => return ([], s.drop)
        | _ =>
          let (key, s) ← node? steps false false s
          let (entries, s) ← flowEntries? steps false s
          return ((key, empty) :: entries, s)

/-- The value of an entry of a flow mapping; it may be missing. -/
def flowValue? : (steps : Nat) → Source → Option (Node × Source)
  | 0, _ => none
  | steps + 1, s =>
    match s.next? with
    | some .value => nodeOrEmpty? steps false false [.flowEntry, .flowMappingEnd] s.drop
    | _ => some (empty, s)

end

/-! ## Documents -/

/-- The directives before a document: at most one version, of YAML 1.1 or 1.2, and handles of tags,
none of them twice. -/
def directives? : (version : Bool) → List (String × String) → List Token →
    Option (List (String × String) × List Token)
  | version, handles, .versionDirective major minor :: rest =>
    if version || major != 1 || (minor != 1 && minor != 2) then none
    else directives? true handles rest
  | version, handles, .tagDirective handle uri :: rest =>
    if (handles.lookup handle).isSome then none
    else directives? version ((handle, uri) :: handles) rest
  | _, handles, rest => some (handles, rest)

/-- The handles that every document has unless it gives them another meaning. -/
def standardHandles : List (String × String) := [("!", "!"), ("!!", "tag:yaml.org,2002:")]

/-- The root of a document at its start. A document without content has the empty node. -/
def root? (s : Source) : Option (Node × Source) :=
  match s.next? with
  | none => some (empty, s)
  | some .documentEnd => some (empty, s)
  | some .documentStart => some (empty, s)
  | some (.versionDirective _ _) => some (empty, s)
  | some (.tagDirective _ _) => some (empty, s)
  | some _ => node? (4 * s.tokens.length + 4) true false s

/-- The only document among tokens, `none` within if there is none. -/
def document? (tokens : List Token) : Option (Option Node) :=
  match tokens with
  | [] => some none
  | first :: _ => do
    let explicit := match first with
      | .versionDirective _ _ => true
      | .tagDirective _ _ => true
      | .documentStart => true
      | _ => false
    let (node, s) ←
      if explicit then do
        let (handles, rest) ← directives? false [] tokens
        match rest with
        | .documentStart :: rest => root? { tokens := rest, handles := handles ++ standardHandles }
        | _ => none
      else node? (4 * tokens.length + 4) true false { tokens, handles := standardHandles }
    if s.tokens.all (· == .documentEnd) then return some node else none

/-- The node that a text describes; `none` within for an empty text. -/
def read? (text : String) : Option (Option Node) := (tokens? text).bind document?

/-! ## Numbers of things -/

mutual

/-- How many events describe a node: one for a scalar or alias, and for a collection one at its
start and one at its end. -/
def events : Node → Nat
  | .scalar _ _ _ => 1
  | .alias _ => 1
  | .anchored _ node => node.events
  | .sequence _ items => eventsOfItems items + 2
  | .mapping _ entries => eventsOfEntries entries + 2
termination_by structural node => node

def eventsOfItems : List Node → Nat
  | [] => 0
  | node :: rest => node.events + eventsOfItems rest
termination_by structural nodes => nodes

def eventsOfEntries : List (Node × Node) → Nat
  | [] => 0
  | (key, value) :: rest => key.events + value.events + eventsOfEntries rest
termination_by structural entries => entries

end

mutual

/-- The anchored nodes with their numbers, in the order in which they begin. -/
def anchors : Node → List (Nat × Node)
  | .scalar _ _ _ => []
  | .alias _ => []
  | .anchored number node => (number, node) :: node.anchors
  | .sequence _ items => anchorsOfItems items
  | .mapping _ entries => anchorsOfEntries entries
termination_by structural node => node

def anchorsOfItems : List Node → List (Nat × Node)
  | [] => []
  | node :: rest => node.anchors ++ anchorsOfItems rest
termination_by structural nodes => nodes

def anchorsOfEntries : List (Node × Node) → List (Nat × Node)
  | [] => []
  | (key, value) :: rest => key.anchors ++ value.anchors ++ anchorsOfEntries rest
termination_by structural entries => entries

end

end Node

end SwaggerRoutes.Yaml
