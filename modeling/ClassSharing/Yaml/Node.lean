import ClassSharing.Yaml.Tag
import ClassSharing.Yaml.Token

/-!
# Nodes of a document

The tokens of a document describe one node: a scalar, a sequence or a mapping, each with a tag. A
node with an anchor is found again by its aliases. An alias that stands inside the node it names
finds a collection without entries.
-/

namespace ClassSharing.Yaml

/-- The tag of a node: one of the known types, or another text. -/
inductive NodeTag where
  | core (tag : CoreTag)
  | other (text : String)
  deriving DecidableEq, Repr

/-- The tag that is written in full. -/
def NodeTag.ofText (text : String) : NodeTag :=
  match CoreTag.ofText? text with
  | some tag => .core tag
  | none => .other text

/-- A node. -/
inductive Node where
  | scalar (tag : NodeTag) (text : List Char)
  | sequence (tag : NodeTag) (items : List Node)
  | mapping (tag : NodeTag) (entries : List (Node × Node))
  deriving Repr

namespace Node

/-- The tag of a node. -/
def tag : Node → NodeTag
  | scalar t _ | sequence t _ | mapping t _ => t

/-- The node where nothing is written. -/
def empty : Node := scalar (.core .null) []

/-! ### Reading nodes -/

/-- The tokens that are left, and the anchors so far, the latest first. -/
structure Reading where
  tokens : List Token
  anchors : List (String × Node)

/-- A step of the reading. -/
abbrev Reader := StateT Reading (Except Failure)

namespace Reader

/-- The document is not well-formed. -/
def bad {α : Type} : Reader α := fun _ => malformed

/-- The next token. -/
def peek? : Reader (Option Token) := return (← get).tokens.head?

/-- Goes behind the next token. -/
def advance : Reader Unit := modify fun r => { r with tokens := r.tokens.tail }

/-- Goes behind the next token if it is the given one. -/
def accept (t : Token) : Reader Bool := do
  if (← peek?) = some t then
    advance
    return true
  else return false

/-- Whether the next token is one of the given ones. -/
def isNext (ts : List Token) : Reader Bool := do
  match ← peek? with
  | some t => return ts.contains t
  | none => return false

/-- Keeps a node under an anchor. -/
def keep (anchor : Option String) (node : Node) : Reader Unit :=
  match anchor with
  | some name => modify fun r => { r with anchors := (name, node) :: r.anchors }
  | none => pure ()

end Reader

open Reader

/-- The prefixes that the handles of tags stand for. -/
abbrev Handles := List (String × String)

/-- The handles that need no directive. -/
def usualHandles : Handles := [("!", "!"), ("!!", CoreTag.domain)]

/-- The text of a tag. -/
def tagText (handles : Handles) (t : WrittenTag) : Except Failure String :=
  match t.handle with
  | none => .ok t.suffix
  | some handle =>
    match handles.lookup handle with
    | some resolved => .ok (resolved ++ t.suffix)
    | none => malformed

/-- The anchor and the tag in front of a node, in either order. -/
def properties (handles : Handles) : Reader (Option String × Option String) := do
  match ← peek? with
  | some (.anchor name) =>
    advance
    match ← peek? with
    | some (.tag t) =>
      advance
      return (some name, some (← tagText handles t))
    | _ => return (some name, none)
  | some (.tag t) =>
    advance
    match ← peek? with
    | some (.anchor name) =>
      advance
      return (some name, some (← tagText handles t))
    | _ => return (none, some (← tagText handles t))
  | _ => return (none, none)

/-- The tag that asks for the type that a node looks like. -/
def openTag : String := "!"

/-- The tag of a collection. -/
def collectionTag (written : Option String) (usual : CoreTag) : NodeTag :=
  match written with
  | some t => if t = openTag then .core usual else .ofText t
  | none => .core usual

/-- The tag of a scalar. Without a tag of its own a plain scalar has the type it looks like, and a
quoted one is a string. -/
def scalarTag (written : Option String) (plain : Bool) (text : List Char) : NodeTag :=
  match written with
  | some t => if t = openTag then .core (.ofPlain text) else .ofText t
  | none => .core (if plain then .ofPlain text else .str)

mutual

/-- Reads a node. In a block, collections may be given by indentation; where a sequence may stand
without indentation of its own, its entries may start at once. -/
def read (handles : Handles) (inBlock bare : Bool) : (fuel : Nat) → Reader Node
  | 0 => bad
  | fuel + 1 => do
    if let some (.alias name) ← peek? then
      advance
      match (← get).anchors.lookup name with
      | some node => return node
      | none => bad
    else
      let (anchor, written) ← properties handles
      if let some name := anchor then
        if ((← get).anchors.lookup name).isSome then bad
      let sequenceOf (items : Reader (List Node)) : Reader Node := do
        let tag := collectionTag written .seq
        keep anchor (sequence tag [])
        let node := sequence tag (← items)
        keep anchor node
        return node
      let mappingOf (entries : Reader (List (Node × Node))) : Reader Node := do
        let tag := collectionTag written .map
        keep anchor (mapping tag [])
        let node := mapping tag (← entries)
        keep anchor node
        return node
      match ← peek? with
      | some (.scalar text plain) =>
        advance
        let node := scalar (scalarTag written plain text.toList) text.toList
        keep anchor node
        return node
      | some .flowSequenceStart =>
        advance
        sequenceOf (readFlowItems handles true fuel)
      | some .flowMappingStart =>
        advance
        mappingOf (readFlowEntries handles true fuel)
      | next =>
        if bare && next == some .blockEntry then sequenceOf (readBareItems handles fuel)
        else if inBlock && next == some .blockSequenceStart then
          advance
          sequenceOf (readItems handles fuel)
        else if inBlock && next == some .blockMappingStart then
          advance
          mappingOf (readEntries handles fuel)
        else if anchor.isSome || written.isSome then
          let node := scalar (scalarTag written true []) []
          keep anchor node
          return node
        else bad

/-- Reads a node, unless one of the given tokens follows at once. -/
def readUnless (handles : Handles) (ends : List Token) (inBlock bare : Bool) :
    (fuel : Nat) → Reader Node
  | 0 => bad
  | fuel + 1 => do
    if ← isNext ends then return empty else read handles inBlock bare fuel

/-- Reads the entries of an indented sequence. -/
def readItems (handles : Handles) : (fuel : Nat) → Reader (List Node)
  | 0 => bad
  | fuel + 1 => do
    if ← accept .blockEntry then
      let item ← readUnless handles [.blockEntry, .blockEnd] true false fuel
      return item :: (← readItems handles fuel)
    else if ← accept .blockEnd then return []
    else bad

/-- Reads the entries of a sequence without indentation of its own. -/
def readBareItems (handles : Handles) : (fuel : Nat) → Reader (List Node)
  | 0 => bad
  | fuel + 1 => do
    if ← accept .blockEntry then
      let item ← readUnless handles [.blockEntry, .key, .value, .blockEnd] true false fuel
      return item :: (← readBareItems handles fuel)
    else return []

/-- Reads the entries of an indented mapping. -/
def readEntries (handles : Handles) : (fuel : Nat) → Reader (List (Node × Node))
  | 0 => bad
  | fuel + 1 => do
    if ← accept .key then
      let ends : List Token := [.key, .value, .blockEnd]
      let k ← readUnless handles ends true true fuel
      let v ← if ← accept .value then readUnless handles ends true true fuel else pure empty
      return (k, v) :: (← readEntries handles fuel)
    else if ← accept .blockEnd then return []
    else bad

/-- Reads the items of a sequence in brackets. A pair of key and value is a mapping by itself. -/
def readFlowItems (handles : Handles) (first : Bool) : (fuel : Nat) → Reader (List Node)
  | 0 => bad
  | fuel + 1 => do
    if ← accept .flowSequenceEnd then return []
    if !first then
      if !(← accept .flowEntry) then bad
    if ← accept .key then
      let k ← readUnless handles [.value, .flowEntry, .flowSequenceEnd] false false fuel
      let v ← if ← accept .value then
          readUnless handles [.flowEntry, .flowSequenceEnd] false false fuel
        else pure empty
      return mapping (.core .map) [(k, v)] :: (← readFlowItems handles false fuel)
    else if ← accept .flowSequenceEnd then return []
    else
      let item ← read handles false false fuel
      return item :: (← readFlowItems handles false fuel)

/-- Reads the entries of a mapping in braces. -/
def readFlowEntries (handles : Handles) (first : Bool) :
    (fuel : Nat) → Reader (List (Node × Node))
  | 0 => bad
  | fuel + 1 => do
    if ← accept .flowMappingEnd then return []
    if !first then
      if !(← accept .flowEntry) then bad
    if ← accept .key then
      let k ← readUnless handles [.value, .flowEntry, .flowMappingEnd] false false fuel
      let v ← if ← accept .value then
          readUnless handles [.flowEntry, .flowMappingEnd] false false fuel
        else pure empty
      return (k, v) :: (← readFlowEntries handles false fuel)
    else if ← accept .flowMappingEnd then return []
    else
      let k ← read handles false false fuel
      return (k, empty) :: (← readFlowEntries handles false fuel)

end

/-! ### Documents -/

/-- The handles of the directives in front of a document. There is one version at most, of the
first edition, and one prefix for each handle. -/
def directives : (fuel : Nat) → (version : Bool) → Handles → Reader Handles
  | 0, _, _ => bad
  | fuel + 1, version, handles => do
    match ← peek? with
    | some (.directive d) =>
      advance
      match d with
      | .version major _ =>
        if version ∨ major ≠ 1 then bad else directives fuel true handles
      | .tag handle resolved =>
        if (handles.lookup handle).isSome then bad
        else directives fuel version ((handle, resolved) :: handles)
      | .other => directives fuel version handles
    | _ => return handles

/-- Reads the only document. -/
def readDocument (size : Nat) : Reader (Option Node) := do
  let fuel := 4 * size + 8
  match ← peek? with
  | none => return none
  | some (.directive _) | some .documentStart =>
    let handles ← directives fuel false []
    if !(← accept .documentStart) then bad
    let handles := handles ++ usualHandles
    match ← peek? with
    | none | some (.directive _) | some .documentStart | some .documentEnd => return some empty
    | _ => return some (← read handles true false fuel)
  | _ => return some (← read usualHandles true false fuel)

/-- The node of a text; `none` if it holds no document. Nothing may follow the document but marks
of its end. -/
def ofTokens? (tokens : List Token) : Except Failure (Option Node) := do
  let (node, rest) ← readDocument tokens.length ⟨tokens, []⟩
  if rest.tokens.all (· == .documentEnd) then return node else malformed

end Node

end ClassSharing.Yaml
