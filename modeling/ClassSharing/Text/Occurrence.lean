/-!
# Occurrences of a text

Whether a text occurs in another one, at any place. The statement here says that this is what it
is to be an infix (`occursIn_iff`).
-/

namespace ClassSharing.Text

/-- Whether a part occurs in a text. -/
def occursIn (part : List Char) : List Char → Bool
  | [] => part.isEmpty
  | c :: rest => part.isPrefixOf (c :: rest) || occursIn part rest

theorem occursIn_iff {part text : List Char} : occursIn part text = true ↔ part <:+: text := by
  induction text with
  | nil => simp [occursIn]
  | cons c rest ih => simp [occursIn, ih, List.infix_cons_iff]

end ClassSharing.Text
