import ClassSharing.Failure

/-!
# Cursors

A place in the text of a document: the characters from it on, and its index, line and column. The
end of the text is read as the null character, which no document holds.
-/

namespace ClassSharing.Yaml

/-- The failure of a document that is not well-formed. -/
def malformed {α : Type} : Except Failure α := .error .document

/-- The characters that end a line. -/
def isLineEnd (c : Char) : Bool := ['\n', '\r', '\u0085', '\u2028', '\u2029'].contains c

/-- The end of the text or of a line. -/
def isEnd (c : Char) : Bool := c == '\x00' || isLineEnd c

/-- A space, or the end of the text or of a line. -/
def isGap (c : Char) : Bool := c == ' ' || isEnd c

/-- A space or tab, or the end of the text or of a line. -/
def isWideGap (c : Char) : Bool := c == '\t' || isGap c

/-- A letter or digit of ASCII, a hyphen or an underscore. -/
def isWordChar (c : Char) : Bool :=
  ('0' ≤ c && c ≤ '9') || ('A' ≤ c && c ≤ 'Z') || ('a' ≤ c && c ≤ 'z') || c == '-' || c == '_'

/-- A place in a text. -/
structure Cursor where
  rest : List Char
  index : Nat
  line : Nat
  column : Nat
  deriving Repr

namespace Cursor

/-- The start of a text. -/
def start (text : List Char) : Cursor := ⟨text, 0, 0, 0⟩

/-- The character `k` places further. -/
def peekAt (c : Cursor) (k : Nat) : Char := c.rest.getD k '\x00'

/-- The character at a place. -/
def peek (c : Cursor) : Char := c.peekAt 0

/-- The next place. A byte order mark takes no column. -/
def next (c : Cursor) : Cursor :=
  match c.rest with
  | [] => c
  | ch :: rest =>
    if isLineEnd ch then ⟨rest, c.index + 1, c.line + 1, 0⟩
    else if ch = '\ufeff' then ⟨rest, c.index + 1, c.line, c.column⟩
    else ⟨rest, c.index + 1, c.line, c.column + 1⟩

/-- The place `n` characters further. -/
def skip (c : Cursor) : (n : Nat) → Cursor
  | 0 => c
  | n + 1 => skip c.next n

/-- The characters with a property, up to the first one without it. -/
def takeWhile (c : Cursor) (p : Char → Bool) : List Char := c.rest.takeWhile p

/-- The place of the first character without a property. -/
def skipWhile (c : Cursor) (p : Char → Bool) : Cursor := c.skip (c.takeWhile p).length

/-- The place behind the spaces. -/
def skipSpaces (c : Cursor) : Cursor := c.skipWhile (· == ' ')

/-- The place behind a comment, if one starts here. -/
def skipComment (c : Cursor) : Cursor :=
  if c.peek = '#' then c.skipWhile fun ch => !isEnd ch else c

/-- A line end is read as a line feed, except for the two separators of lines and paragraphs. -/
def lineBreak? (c : Cursor) : Option (Char × Cursor) :=
  let ch := c.peek
  if ch = '\u2028' ∨ ch = '\u2029' then some (ch, c.next)
  else if isLineEnd ch then some ('\n', c.next)
  else none

/-- The place behind a line end, if one stands here. -/
def skipLineEnd (c : Cursor) : Cursor :=
  match c.lineBreak? with
  | some (_, c) => c
  | none => c

/-- Whether three equal characters stand here, with a gap behind them. -/
def isTriple (c : Cursor) (ch : Char) : Bool :=
  c.rest.take 3 == [ch, ch, ch] && isWideGap (c.peekAt 3)

/-- Whether the mark of the start or the end of a document stands here. -/
def isDocumentMark (c : Cursor) : Bool := c.isTriple '-' || c.isTriple '.'

/-- The rest of a line that holds nothing but a comment. -/
def finishLine (c : Cursor) : Except Failure Cursor :=
  let c := c.skipSpaces.skipComment
  if isEnd c.peek then .ok c.skipLineEnd else malformed

end Cursor

end ClassSharing.Yaml
