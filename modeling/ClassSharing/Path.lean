/-!
# Paths

A path has an anchor and parts. Reading a path drops empty parts and the part `.`, and keeps the
part `..`. Exactly two slashes in front are an anchor of their own; any other number of slashes is
one slash.
-/

namespace ClassSharing

/-- Where a path starts. -/
inductive Anchor where
  | relative
  | root
  | doubleRoot
  deriving DecidableEq, Repr

namespace Anchor

/-- The slashes of an anchor. -/
def text : Anchor → String
  | relative => ""
  | root => "/"
  | doubleRoot => "//"

/-- The anchor of a text. -/
def ofChars : List Char → Anchor
  | '/' :: '/' :: '/' :: _ => root
  | '/' :: '/' :: _ => doubleRoot
  | '/' :: _ => root
  | _ => relative

end Anchor

/-- The texts between the slashes of a text. -/
def pathPieces : List Char → List (List Char)
  | [] => [[]]
  | c :: rest =>
    if c = '/' then [] :: pathPieces rest
    else match pathPieces rest with
      | [] => [[c]]
      | piece :: pieces => (c :: piece) :: pieces

/-- Whether a text is a part of a path: not empty, not `.`, and without a slash. -/
def isPathPart (piece : List Char) : Bool :=
  !piece.isEmpty && piece != ['.'] && !piece.contains '/'

/-- A path. -/
structure Path where
  anchor : Anchor
  parts : List String
  /-- No part is empty or `.`, and none has a slash. -/
  parts_ok : ∀ p ∈ parts, isPathPart p.toList = true
  deriving DecidableEq, Repr

namespace Path

/-- Reads a path. -/
def ofString (text : String) : Path where
  anchor := .ofChars text.toList
  parts := ((pathPieces text.toList).filter isPathPart).map String.ofList
  parts_ok := by
    intro p hp
    obtain ⟨piece, h, rfl⟩ := List.mem_map.1 hp
    simpa using (List.mem_filter.1 h).2

/-- The text of a path. The relative path without parts is `.`. -/
def text (p : Path) : String :=
  let body := "/".intercalate p.parts
  if p.anchor = .relative ∧ p.parts = [] then "." else p.anchor.text ++ body

/-- A path below another. -/
def child (p : Path) (name : String) (h : isPathPart name.toList = true) : Path where
  anchor := p.anchor
  parts := p.parts ++ [name]
  parts_ok := by
    intro q hq
    rcases List.mem_append.1 hq with hq | hq
    · exact p.parts_ok q hq
    · rw [List.mem_singleton.1 hq]; exact h

instance : ToString Path := ⟨text⟩

end Path

end ClassSharing
