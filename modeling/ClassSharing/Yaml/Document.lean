import ClassSharing.Yaml.Node
import ClassSharing.Yaml.Scalar

/-!
# Values of documents

The value of a node: scalars by their types, sequences as lists, mappings with the entries of merged
mappings in front of their own. Of several failures the one counts that is found first when the
nodes are built level by level.
-/

namespace ClassSharing.Yaml

/-! ### Values level by level -/

/-- A value, or the failure that is found first, with its level. -/
inductive Built (α : Type) where
  | ok (a : α)
  | failed (level : Nat) (f : Failure)

namespace Built

variable {α β : Type}

/-- Applies a function to a built value. -/
def map (f : α → β) : Built α → Built β
  | ok a => ok (f a)
  | failed n e => failed n e

/-- Two values one after the other. -/
def seq (f : Built (α → β)) (a : Built α) : Built β :=
  match f, a with
  | ok f, ok a => ok (f a)
  | failed n e, ok _ => failed n e
  | ok _, failed n e => failed n e
  | failed n e, failed m e' => if m < n then failed m e' else failed n e

/-- Several values one after the other. -/
def all : List (Built α) → Built (List α)
  | [] => ok []
  | b :: rest => seq (map List.cons b) (all rest)

/-- A value or a failure at a level. -/
def ofExcept (level : Nat) : Except Failure α → Built α
  | .ok a => ok a
  | .error e => failed level e

/-- A key, which has to be one. -/
def key (level : Nat) : Built Value → Built Value
  | ok v => if v.isKey then ok v else failed level .document
  | b => b

end Built

/-- A key and a value that were built. -/
abbrev BuiltEntry := Built Value × Built Value

/-- The entries of a mapping. -/
def builtEntries (level : Nat) (entries : List BuiltEntry) : Built Entries :=
  .all (entries.map fun e =>
    .seq (.map Prod.mk (e.1.key level)) e.2)

/-- Entries with each key once: of equal keys the last value counts. -/
def lastWins (entries : Entries) : Entries := Entries.overlay [] entries

namespace Node

/-- The text of a node that should be a scalar. A mapping with a default value has the text of
that. -/
def text? : Node → Option (List Char)
  | scalar _ text => some text
  | sequence .. => none
  | mapping _ entries => defaultText? entries
where
  /-- The text of the default value of a mapping. -/
  defaultText? : List (Node × Node) → Option (List Char)
    | [] => none
    | e :: rest => match entryText? e with
      | some text => text
      | none => defaultText? rest
  /-- The text of an entry that is the default value; `none` for another entry. -/
  entryText? : Node × Node → Option (Option (List Char))
    | (k, v) => if k.tag = .core .value then some (text? v) else none

/-- The value of a mapping with the given entries, merged ones included. -/
def mappingValue (level : Nat) (entries : Option (List BuiltEntry)) : Built Value :=
  match entries with
  | some entries => (builtEntries level entries).map fun es => .mapping (lastWins es)
  | none => .failed level .document

/-- The set of the keys that a mapping has. -/
def keySet (level : Nat) (entries : Option (List BuiltEntry)) : Built Value :=
  match entries with
  | some entries =>
    (builtEntries level entries).map fun es => .set ((lastWins es).map Prod.fst)
  | none => .failed level .document

mutual

/-- The value of a node at a level. What is inside a collection is built one level later. -/
def build (level : Nat) : Node → Built Value
  | scalar tag text =>
    match tag with
    | .core t =>
      if [CoreTag.seq, .map, .set, .omap, .pairs].contains t then .failed (level + 1) .document
      else .ofExcept level (scalarValue t text)
    | .other _ => .failed level .document
  | sequence tag items =>
    match tag with
    | .core .seq => (Built.all (buildAll (level + 1) items)).map .list
    | .core .omap | .core .pairs => (Built.all (pairsOf (level + 1) items)).map .list
    | .core .map | .core .set => .failed (level + 1) .document
    | _ => .failed level .document
  | mapping tag entries =>
    match tag with
    | .core .map => mappingValue (level + 1) (entriesOf (level + 1) entries)
    | .core .set => keySet (level + 1) (entriesOf (level + 1) entries)
    | .core .seq | .core .omap | .core .pairs => .failed (level + 1) .document
    | .core t =>
      match text? (mapping (.core t) entries) with
      | some text =>
        if t = .timestamp then .failed level (.general .type "expected a text")
        else .ofExcept level (scalarValue t text)
      | none => .failed level .document
    | .other _ => .failed level .document

/-- The values of several nodes. -/
def buildAll (level : Nat) : List Node → List (Built Value)
  | [] => []
  | n :: rest => build level n :: buildAll level rest

/-- The pairs of a list of mappings, each with one entry. -/
def pairsOf (level : Nat) : List Node → List (Built Value)
  | [] => []
  | n :: rest => pairOf level n :: pairsOf level rest

/-- The pair of a mapping with one entry. -/
def pairOf (level : Nat) : Node → Built Value
  | mapping _ [(k, v)] =>
    .seq (.map (fun k v => .list [k, v]) (build level k)) (build level v)
  | _ => .failed level .document

/-- The entries of a mapping: those of merged mappings, then its own. `none` if something is merged
that is no mapping. -/
def entriesOf (level : Nat) (entries : List (Node × Node)) : Option (List BuiltEntry) :=
  match splitEntries level entries with
  | some (merged, own) => some (merged ++ own)
  | none => none

/-- The merged and the own entries of a mapping. -/
def splitEntries (level : Nat) :
    List (Node × Node) → Option (List BuiltEntry × List BuiltEntry)
  | [] => some ([], [])
  | e :: rest =>
    match splitEntry level e, splitEntries level rest with
    | some (m, o), some (merged, own) => some (m ++ merged, o ++ own)
    | _, _ => none

/-- The merged and the own entries that one written entry stands for. -/
def splitEntry (level : Nat) : Node × Node → Option (List BuiltEntry × List BuiltEntry)
  | (k, v) =>
    match k with
    | scalar (.core .merge) _ | sequence (.core .merge) _ | mapping (.core .merge) _ =>
      (mergedEntries level v).map fun es => (es, [])
    | scalar (.core .value) text => some ([], [(.ok (.str (String.ofList text)), build level v)])
    | k => some ([], [(build level k, build level v)])

/-- The entries of a node that is merged: a mapping, or a list of mappings of which the first
counts most. -/
def mergedEntries (level : Nat) : Node → Option (List BuiltEntry)
  | mapping _ entries => entriesOf level entries
  | sequence _ items => mergedItems level items
  | scalar .. => none

/-- The entries of merged mappings, the last mapping first. -/
def mergedItems (level : Nat) : List Node → Option (List BuiltEntry)
  | [] => some []
  | n :: rest =>
    match mergedItem level n, mergedItems level rest with
    | some first, some others => some (others ++ first)
    | _, _ => none

/-- The entries of one of several merged mappings. -/
def mergedItem (level : Nat) : Node → Option (List BuiltEntry)
  | mapping _ entries => entriesOf level entries
  | _ => none

end

end Node

/-! ### Texts -/

/-- Whether a character may stand in a document. -/
def isAllowed (c : Char) : Bool :=
  let n := c.toNat
  n == 9 || n == 0xa || n == 0xd || (0x20 ≤ n && n ≤ 0x7e) || n == 0x85 ||
    (0xa0 ≤ n && n ≤ 0xd7ff) || (0xe000 ≤ n && n ≤ 0xfffd) || 0x10000 ≤ n

/-- The value of the only document of a text. A text without a document has no value. -/
def valueOf (text : List Char) : Except Failure Value := do
  if !text.all isAllowed then malformed
  else
    match ← Node.ofTokens? (← tokensOf text) with
    | none => return .null
    | some node =>
      match node.build 0 with
      | .ok v => return v
      | .failed _ f => throw f

end ClassSharing.Yaml
