import ClassSharing.Text.Blank

/-!
# Tokens of a line

A line is cut at its spaces. Doubled spaces give empty tokens inside the line, and the empty tokens
at its end are dropped.
-/

namespace ClassSharing

/-- The tokens of a list of characters. -/
def tokensOf (line : List Char) : List (List Char) :=
  ((line.splitOn ' ').reverse.dropWhile List.isEmpty).reverse

/-- The tokens of a line. -/
def tokens (line : String) : List String := (tokensOf line.toList).map String.ofList

/-- Tokens with single spaces between them. -/
def joinTokens (ts : List (List Char)) : List Char := [' '].intercalate ts

end ClassSharing
