import ClassSharing.Text.Occurrence
import Mathlib

/-!
# Occurrences in joined texts

Where a text can occur in a longer one that is put together from parts. Across a character that it
does not have it cannot reach (`infix_append_cons_iff`), so in words that are joined by such a
character it occurs in one of the words (`infix_intercalate_iff`). Behind a fixed text it occurs
only in what follows, unless the two overlap (`infix_append_iff_of_noOverlap`).
-/

namespace ClassSharing.Text

/-- A text occurs in another one. -/
def Occurs (part text : String) : Prop := part.toList <:+: text.toList

instance (part text : String) : Decidable (Occurs part text) :=
  inferInstanceAs (Decidable (part.toList <:+: text.toList))

/-! ### Across a separator -/

section

variable {part : List Char} {separator : Char}

/-- A text without the separator occurs on one side of it. -/
theorem infix_append_cons_iff (h : separator ∉ part) {first rest : List Char} :
    part <:+: first ++ separator :: rest ↔ part <:+: first ∨ part <:+: rest := by
  rw [List.infix_append_iff, List.infix_cons_iff]
  constructor
  · rintro (hfirst | (hstart | hrest) | ⟨left, right, rfl, hleft, hright⟩)
    · exact .inl hfirst
    · obtain _ | ⟨c, more⟩ := part
      · exact .inl (List.nil_infix)
      · exact absurd ((List.cons_prefix_cons.mp hstart).1 ▸ List.mem_cons_self) h
    · exact .inr hrest
    · obtain _ | ⟨c, more⟩ := right
      · rw [List.append_nil]
        exact .inl hleft.isInfix
      · have hc : separator ∈ left ++ c :: more := by
          rw [(List.cons_prefix_cons.mp hright).1]
          exact List.mem_append_right _ List.mem_cons_self
        exact absurd hc h
  · rintro (hfirst | hrest)
    · exact .inl hfirst
    · exact .inr (.inl (.inr hrest))

/-- A text without the separator occurs in joined words if it occurs in one of them. -/
theorem infix_intercalate_iff (h : separator ∉ part) (hne : part ≠ []) {words : List (List Char)} :
    part <:+: [separator].intercalate words ↔ ∃ word ∈ words, part <:+: word := by
  induction words with
  | nil => simp [hne]
  | cons word rest ih =>
    cases rest with
    | nil => simp
    | cons next rest =>
      rw [List.intercalate_cons_cons, List.append_assoc, List.singleton_append,
        infix_append_cons_iff h, ih, List.exists_mem_cons_iff _ word]

end

/-! ### Behind a fixed text -/

/-- No occurrence of a text begins in a fixed text and ends behind it or at its end. -/
def NoOverlap (part fixed : List Char) : Prop :=
  ∀ start ∈ part.inits, start <:+ fixed → start = []

instance (part fixed : List Char) : Decidable (NoOverlap part fixed) :=
  inferInstanceAs (Decidable (∀ start ∈ part.inits, start <:+ fixed → start = []))

/-- Behind a fixed text in which it does not occur a text occurs only in what follows. -/
theorem infix_append_iff_of_noOverlap {part fixed rest : List Char} (hfixed : ¬ part <:+: fixed)
    (h : NoOverlap part fixed) : part <:+: fixed ++ rest ↔ part <:+: rest := by
  rw [List.infix_append_iff]
  constructor
  · rintro (hin | hrest | ⟨start, more, rfl, hstart, hmore⟩)
    · exact absurd hin hfixed
    · exact hrest
    · have hnil : start = [] :=
        h start ((List.mem_inits _ _).mpr (List.prefix_append start more)) hstart
      rw [hnil, List.nil_append]
      exact hmore.isInfix
  · exact fun hrest => .inr (.inl hrest)

end ClassSharing.Text
