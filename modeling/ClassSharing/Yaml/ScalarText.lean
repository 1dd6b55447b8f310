import ClassSharing.Yaml.Cursor

/-!
# Texts of scalars

The text of a scalar is read in one of four forms: in single or double quotes, plain, or as a block
of lines. In the first three forms line breaks are folded: a single one is a space, and of several
the first is dropped. A block keeps them or folds them, as its header says.
-/

namespace ClassSharing.Yaml

/-! ### Quoted forms -/

/-- The characters that an escape of one character stands for. -/
def escapes : List (Char × Char) :=
  [('0', '\x00'), ('a', '\x07'), ('b', '\x08'), ('t', '\t'), ('\t', '\t'), ('n', '\n'),
    ('v', '\x0b'), ('f', '\x0c'), ('r', '\r'), ('e', '\x1b'), (' ', ' '), ('"', '"'),
    ('\\', '\\'), ('/', '/'), ('N', '\u0085'), ('_', '\u00a0'), ('L', '\u2028'), ('P', '\u2029')]

/-- The number of hexadecimal digits behind the letter of an escape by number. -/
def escapeWidths : List (Char × Nat) := [('x', 2), ('u', 4), ('U', 8)]

/-- The value of a hexadecimal digit. -/
def hexDigit? (c : Char) : Option Nat :=
  if '0' ≤ c ∧ c ≤ '9' then some (c.toNat - '0'.toNat)
  else if 'a' ≤ c ∧ c ≤ 'f' then some (c.toNat - 'a'.toNat + 10)
  else if 'A' ≤ c ∧ c ≤ 'F' then some (c.toNat - 'A'.toNat + 10)
  else none

/-- The number of hexadecimal digits. -/
def hexNumber? (digits : List Char) : Option Nat :=
  digits.foldl (fun n c => n.bind fun n => (hexDigit? c).map (n * 16 + ·)) (some 0)

/-- The character of a number. A number above the last character is refused as a value, and one of
more than thirty-one bits as too large. -/
def charOfNumber (n : Nat) : Except Failure Char :=
  if n < 0x110000 then .ok (if 0xd800 ≤ n ∧ n < 0xe000 then '\ufffd' else Char.ofNat n)
  else if n < 0x80000000 then .error (.general .value "chr() arg not in range(0x110000)")
  else .error (.general .overflow "Python int too large to convert to C int")

/-- The line breaks at a place, which stand between lines that hold blanks only. The marks of a
document may not stand at the head of such a line. -/
def foldedBreaks : (fuel : Nat) → Cursor → Except Failure (List Char × Cursor)
  | 0, _ => malformed
  | fuel + 1, c =>
    if c.isDocumentMark then malformed
    else
      let c := c.skipWhile fun ch => ch == ' ' || ch == '\t'
      match c.lineBreak? with
      | some (ch, c) => do
        let (breaks, c) ← foldedBreaks fuel c
        return (ch :: breaks, c)
      | none => .ok ([], c)

/-- The text of a first line break and those behind it. -/
def foldBreaks (first : Char) (breaks : List Char) : List Char :=
  if first ≠ '\n' then first :: breaks
  else if breaks.isEmpty then [' '] else breaks

/-- An escape in double quotes, whose backslash has been read. -/
def readEscape (c : Cursor) : Except Failure (List Char × Cursor) :=
  match escapes.lookup c.peek with
  | some ch => .ok ([ch], c.next)
  | none =>
    match escapeWidths.lookup c.peek with
    | some width =>
      let c := c.next
      let digits := c.rest.take width
      match hexNumber? digits with
      | some n =>
        if digits.length = width then do
          let ch ← charOfNumber n
          return ([ch], c.skip width)
        else malformed
      | none => malformed
    | none =>
      if isLineEnd c.peek then foldedBreaks (c.rest.length + 1) c.skipLineEnd
      else malformed

/-- The text up to the closing quote. -/
def quotedText (double : Bool) : (fuel : Nat) → Cursor → Except Failure (List Char × Cursor)
  | 0, _ => malformed
  | fuel + 1, c => do
    let ch := c.peek
    if ch = '\'' ∧ !double then
      if c.peekAt 1 = '\'' then
        let (text, c) ← quotedText double fuel (c.skip 2)
        return ('\'' :: text, c)
      else return ([], c.next)
    else if ch = '"' ∧ double then return ([], c.next)
    else if ch = '\\' ∧ double then
      let (part, c) ← readEscape c.next
      let (text, c) ← quotedText double fuel c
      return (part ++ text, c)
    else if ch = ' ' ∨ ch = '\t' ∨ isEnd ch then
      let blanks := c.takeWhile fun ch => ch == ' ' || ch == '\t'
      let c := c.skip blanks.length
      match c.lineBreak? with
      | some (first, c) =>
        let (breaks, c) ← foldedBreaks (c.rest.length + 1) c
        let (text, c) ← quotedText double fuel c
        return (foldBreaks first breaks ++ text, c)
      | none =>
        if c.peek = '\x00' then malformed
        else
          let (text, c) ← quotedText double fuel c
          return (blanks ++ text, c)
    else
      let (text, c) ← quotedText double fuel c.next
      return (ch :: text, c)

/-- A scalar in quotes, the opening one at the cursor. -/
def scanQuoted (c : Cursor) : Except Failure (List Char × Cursor) :=
  quotedText (c.peek == '"') (c.rest.length + 1) c.next

/-! ### Plain form -/

/-- The marks of collections in brackets. -/
def flowMarks : List Char := [',', '[', ']', '\x7b', '\x7d']

/-- Whether a plain scalar ends at a place. Inside brackets the marks of collections end it. -/
def endsPlain (inFlow : Bool) (c : Cursor) (k : Nat) : Bool :=
  let ch := c.peekAt k
  let after := c.peekAt (k + 1)
  isWideGap ch ||
    (ch == ':' && (isWideGap after || (inFlow && flowMarks.contains after))) ||
    (inFlow && (ch == '?' || flowMarks.contains ch))

/-- The number of characters of the part of a plain scalar at a place, from the character `k` on. -/
def plainLength (inFlow : Bool) (c : Cursor) : (fuel : Nat) → (k : Nat) → Nat
  | 0, k => k
  | fuel + 1, k => if endsPlain inFlow c k then k else plainLength inFlow c fuel (k + 1)

/-- The breaks behind the first one in a plain scalar; `none` in front of the mark of a document. -/
def plainBreaks : (fuel : Nat) → Cursor → Option (List Char) × Cursor
  | 0, c => (some [], c)
  | fuel + 1, c =>
    if c.peek = ' ' then plainBreaks fuel c.next
    else match c.lineBreak? with
      | none => (some [], c)
      | some (ch, c) =>
        if c.isDocumentMark then (none, c)
        else
          let (breaks, c) := plainBreaks fuel c
          (breaks.map (ch :: ·), c)

/-- What stands between two parts of a plain scalar, and whether a line was ended. Nothing stands
between them if the scalar is over. -/
def plainSpaces (c : Cursor) : List Char × Bool × Cursor :=
  let blanks := c.takeWhile (· == ' ')
  let c := c.skip blanks.length
  match c.lineBreak? with
  | none => (blanks, false, c)
  | some (first, c) =>
    if c.isDocumentMark then ([], true, c)
    else
      match plainBreaks (c.rest.length + 1) c with
      | (some breaks, c) => (foldBreaks first breaks, true, c)
      | (none, c) => ([], true, c)

/-- The parts of a plain scalar from a place on. `between` stands in front of the next part, and
`fresh` tells whether the last line was ended behind the part before. -/
def plainParts (inFlow : Bool) (indent : Int) :
    (fuel : Nat) → (between : List Char) → (fresh : Bool) → Cursor → List Char × Bool × Cursor
  | 0, _, fresh, c => ([], fresh, c)
  | fuel + 1, between, fresh, c =>
    let n := plainLength inFlow c (c.rest.length + 1) 0
    if c.peek = '#' ∨ n = 0 then ([], fresh, c)
    else
      let part := between ++ c.rest.take n
      let (spaces, fresh, c) := plainSpaces (c.skip n)
      if spaces.isEmpty ∨ c.peek = '#' ∨ (!inFlow ∧ (c.column : Int) < indent) then
        (part, fresh, c)
      else
        let (text, fresh, c) := plainParts inFlow indent fuel spaces fresh c
        (part ++ text, fresh, c)

/-- A plain scalar, and whether a line was ended behind it. -/
def scanPlain (inFlow : Bool) (indent : Int) (c : Cursor) : List Char × Bool × Cursor :=
  plainParts inFlow (indent + 1) (c.rest.length + 1) [] false c

/-! ### Block form -/

/-- What is done with the line breaks at the end of a block. -/
inductive Chomping where
  | strip
  | clip
  | keep
  deriving DecidableEq, Repr

/-- The indentation and the treatment of the last breaks in the header of a block. -/
def blockHeader (c : Cursor) : Except Failure (Chomping × Option Nat × Cursor) := do
  let sign? (c : Cursor) : Option Chomping :=
    if c.peek = '+' then some .keep else if c.peek = '-' then some .strip else none
  let digit? (c : Cursor) : Option Nat :=
    if '0' ≤ c.peek ∧ c.peek ≤ '9' then some (c.peek.toNat - '0'.toNat) else none
  let (chomping, increment, c) := match sign? c with
    | some chomping =>
      match digit? c.next with
      | some n => (chomping, some n, c.skip 2)
      | none => (chomping, none, c.next)
    | none =>
      match digit? c with
      | some n =>
        match sign? c.next with
        | some chomping => (chomping, some n, c.skip 2)
        | none => (.clip, some n, c.next)
      | none => (.clip, none, c)
  if increment = some 0 ∨ !isGap c.peek then malformed
  else return (chomping, increment, c)

/-- The breaks in front of the first line of a block, and the widest indentation among them. -/
def blockIndentation : (fuel : Nat) → (widest : Nat) → Cursor → List Char × Nat × Cursor
  | 0, widest, c => ([], widest, c)
  | fuel + 1, widest, c =>
    if c.peek = ' ' then blockIndentation fuel (max widest c.next.column) c.next
    else match c.lineBreak? with
      | some (ch, c) =>
        let (breaks, widest, c) := blockIndentation fuel widest c
        (ch :: breaks, widest, c)
      | none => ([], widest, c)

/-- The place behind the indentation of a line, at most at a given column. -/
def skipIndent (indent : Nat) (c : Cursor) : Cursor :=
  c.skip (min (c.takeWhile (· == ' ')).length (indent - c.column))

/-- The breaks between two lines of a block. -/
def blockBreaks (indent : Nat) : (fuel : Nat) → Cursor → List Char × Cursor
  | 0, c => ([], c)
  | fuel + 1, c =>
    let c := skipIndent indent c
    match c.lineBreak? with
    | some (ch, c) =>
      let (breaks, c) := blockBreaks indent fuel c
      (ch :: breaks, c)
    | none => ([], c)

/-- The lines of a block from a place on, behind the given breaks: their text, the last line break,
and the breaks behind it. -/
def blockLines (folded : Bool) (indent : Nat) :
    (fuel : Nat) → (breaks : List Char) → (last : List Char) → Cursor →
      List Char × List Char × List Char × Cursor
  | 0, breaks, last, c => ([], last, breaks, c)
  | fuel + 1, breaks, last, c =>
    if c.column = indent ∧ c.peek ≠ '\x00' then
      let isText (ch : Char) : Bool := ch != ' ' && ch != '\t'
      let startsText := isText c.peek
      let line := c.takeWhile fun ch => !isEnd ch
      let c := c.skip line.length
      let (last, c) := match c.lineBreak? with
        | some (ch, c) => ([ch], c)
        | none => ([], c)
      let (after, c) := blockBreaks indent (c.rest.length + 1) c
      if c.column = indent ∧ c.peek ≠ '\x00' then
        let joint :=
          if folded && last == ['\n'] && startsText && isText c.peek then
            if after.isEmpty then [' '] else []
          else last
        let (text, last, after, c) := blockLines folded indent fuel after last c
        (breaks ++ line ++ joint ++ text, last, after, c)
      else (breaks ++ line, last, after, c)
    else ([], last, breaks, c)

/-- A scalar as a block of lines, whose header starts at the cursor. -/
def scanBlock (indent : Int) (c : Cursor) : Except Failure (List Char × Cursor) := do
  let folded := c.peek == '>'
  let (chomping, increment, c) ← blockHeader c.next
  let c ← c.finishLine
  let least := (max 1 (indent + 1)).toNat
  let (breaks, indent, c) := match increment with
    | none =>
      let (breaks, widest, c) := blockIndentation (c.rest.length + 1) 0 c
      (breaks, max least widest, c)
    | some n =>
      let indent := least + n - 1
      let (breaks, c) := blockBreaks indent (c.rest.length + 1) c
      (breaks, indent, c)
  let (text, last, breaks, c) := blockLines folded indent (c.rest.length + 1) breaks [] c
  let tail := match chomping with
    | .strip => []
    | .clip => last
    | .keep => last ++ breaks
  return (text ++ tail, c)

end ClassSharing.Yaml
