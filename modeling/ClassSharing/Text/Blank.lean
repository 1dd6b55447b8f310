/-!
# Blank characters

Two classes of characters are skipped at the ends of a text: the white space of the Unicode
property, and the same together with the four information separators, which count as blank when
a line is tested for being empty.
-/

namespace ClassSharing.Text

/-- Characters with the Unicode property `White_Space`. -/
def isSpace (c : Char) : Bool :=
  let n := c.toNat
  (0x9 ≤ n && n ≤ 0xd) || n == 0x20 || n == 0x85 || n == 0xa0 || n == 0x1680 ||
    (0x2000 ≤ n && n ≤ 0x200a) || n == 0x2028 || n == 0x2029 || n == 0x202f || n == 0x205f ||
    n == 0x3000

/-- White space and the information separators U+001C to U+001F. -/
def isBlank (c : Char) : Bool :=
  isSpace c || (0x1c ≤ c.toNat && c.toNat ≤ 0x1f)

/-- Whether a text holds blank characters only. -/
def isBlankText (text : List Char) : Bool := text.all isBlank

/-- Drops the longest tail whose characters all satisfy `p`. -/
def dropTail (p : Char → Bool) (text : List Char) : List Char :=
  (text.reverse.dropWhile p).reverse

/-- Drops white space at both ends. -/
def trimSpace (text : List Char) : List Char :=
  dropTail isSpace (text.dropWhile isSpace)

theorem isBlank_of_isSpace {c : Char} (h : isSpace c = true) : isBlank c = true := by
  simp [isBlank, h]

end ClassSharing.Text
