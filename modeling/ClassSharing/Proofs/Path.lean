import ClassSharing.Path
import Mathlib

/-!
# Paths are read back

The text of a path is read as this path (`ofString_text`). So a path that was read once is in a form
that does not change any more.
-/

namespace ClassSharing

/-! ### Pieces -/

/-- A text without a slash is one piece. -/
lemma pathPieces_of_not_mem {piece : List Char} (h : '/' ∉ piece) : pathPieces piece = [piece] := by
  induction piece with
  | nil => rfl
  | cons c piece ih =>
    have hc : c ≠ '/' := fun heq => h (heq ▸ List.mem_cons_self)
    rw [pathPieces, if_neg hc, ih fun hmem => h (List.mem_cons_of_mem _ hmem)]

/-- There is always a piece. -/
lemma pathPieces_ne_nil (text : List Char) : pathPieces text ≠ [] := by
  cases text with
  | nil => simp [pathPieces]
  | cons c rest =>
    rw [pathPieces]
    split
    · simp
    · split <;> simp

/-- The pieces on both sides of a slash. -/
lemma pathPieces_append (front rest : List Char) :
    pathPieces (front ++ '/' :: rest) = pathPieces front ++ pathPieces rest := by
  induction front with
  | nil => rfl
  | cons c front ih =>
    rw [List.cons_append, pathPieces, pathPieces, ih]
    by_cases hc : c = '/'
    · rw [if_pos hc, if_pos hc, List.cons_append]
    · rw [if_neg hc, if_neg hc]
      cases hfront : pathPieces front with
      | nil => exact absurd hfront (pathPieces_ne_nil front)
      | cons piece pieces => rfl

/-- The first piece ends at the first slash. -/
lemma pathPieces_append_slash {piece : List Char} (h : '/' ∉ piece) (rest : List Char) :
    pathPieces (piece ++ '/' :: rest) = piece :: pathPieces rest := by
  rw [pathPieces_append, pathPieces_of_not_mem h]
  rfl

/-- A part of a path has no slash. -/
lemma slash_not_mem_of_isPathPart {piece : List Char} (h : isPathPart piece = true) :
    '/' ∉ piece := by
  simp only [isPathPart, Bool.and_eq_true, Bool.not_eq_true'] at h
  simpa using h.2

/-- Parts with slashes between them are found again among the pieces. -/
lemma filter_pathPieces_intercalate {parts : List (List Char)}
    (h : ∀ p ∈ parts, isPathPart p = true) :
    (pathPieces (['/'].intercalate parts)).filter isPathPart = parts := by
  induction parts with
  | nil => rfl
  | cons p rest ih =>
    have hp : isPathPart p = true := h p List.mem_cons_self
    have hslash := slash_not_mem_of_isPathPart hp
    cases rest with
    | nil => simp [pathPieces_of_not_mem hslash, hp]
    | cons q rest =>
      rw [List.intercalate_cons_cons, List.append_assoc, List.singleton_append,
        pathPieces_append_slash hslash, List.filter_cons_of_pos hp,
        ih fun p hmem => h p (List.mem_cons_of_mem _ hmem)]

/-- Parts with slashes between them do not start with a slash. -/
lemma head?_intercalate_ne_slash {parts : List (List Char)}
    (h : ∀ p ∈ parts, isPathPart p = true) : (['/'].intercalate parts).head? ≠ some '/' := by
  cases parts with
  | nil => simp
  | cons p rest =>
    have hp : isPathPart p = true := h p List.mem_cons_self
    cases p with
    | nil => exact absurd hp (by decide)
    | cons c piece =>
      have hc : c ≠ '/' := fun heq => slash_not_mem_of_isPathPart hp (heq ▸ List.mem_cons_self)
      cases rest <;> simp [List.intercalate_cons_cons, hc]

/-- The slashes of an anchor are told from a body that does not start with one. -/
lemma Anchor.ofChars_append (a : Anchor) {body : List Char} (h : body.head? ≠ some '/') :
    Anchor.ofChars (a.text.toList ++ body) = a := by
  cases body with
  | nil => cases a <;> rfl
  | cons c rest =>
    have hc : c ≠ '/' := fun heq => h (heq ▸ rfl)
    cases a <;> simp [Anchor.text, Anchor.ofChars, hc]

/-- The slashes of an anchor add no parts. -/
lemma Anchor.filter_pathPieces_append (a : Anchor) (body : List Char) :
    (pathPieces (a.text.toList ++ body)).filter isPathPart =
      (pathPieces body).filter isPathPart := by
  cases a <;> rfl

namespace Path

/-- The text of a path is read as this path. -/
theorem ofString_text (p : Path) : ofString p.text = p := by
  obtain ⟨anchor, parts, hparts⟩ := p
  have hpieces : ∀ piece ∈ parts.map String.toList, isPathPart piece = true := by
    intro piece hmem
    obtain ⟨part, hpart, rfl⟩ := List.mem_map.mp hmem
    exact hparts part hpart
  by_cases hdot : anchor = .relative ∧ parts = []
  · obtain ⟨rfl, rfl⟩ := hdot
    simp [text, ofString, Anchor.ofChars, pathPieces, isPathPart]
  · have htext : (text ⟨anchor, parts, hparts⟩).toList =
        anchor.text.toList ++ ['/'].intercalate (parts.map String.toList) := by
      rw [text, if_neg hdot, String.toList_append, String.toList_intercalate]
      rfl
    have hanchor : Anchor.ofChars (text ⟨anchor, parts, hparts⟩).toList = anchor := by
      rw [htext]
      exact anchor.ofChars_append (head?_intercalate_ne_slash hpieces)
    have hfilter : ((pathPieces (text ⟨anchor, parts, hparts⟩).toList).filter isPathPart).map
        String.ofList = parts := by
      rw [htext, anchor.filter_pathPieces_append, filter_pathPieces_intercalate hpieces]
      simp [Function.comp_def]
    simp only [ofString, hanchor, hfilter]

end Path

end ClassSharing
