import ClassSharing.Yaml.ScalarText

/-!
# Tokens of a document

A document is cut into tokens from left to right. The indentation of the lines opens and closes
block collections. A key of a mapping is only known by the colon behind it: every token that may
start a key is kept in mind, and at the colon the tokens that announce the key are set in front of
it. Such a key stands on one line and has at most 1024 characters.
-/

namespace ClassSharing.Yaml

/-- A tag as it is written: a handle, if there is one, and what stands behind it. -/
structure WrittenTag where
  handle : Option String
  suffix : String
  deriving DecidableEq, Repr

/-- A directive in front of a document. -/
inductive Directive where
  | version (major minor : Nat)
  | tag (handle resolved : String)
  | other
  deriving DecidableEq, Repr

/-- A token. -/
inductive Token where
  | directive (d : Directive)
  | documentStart
  | documentEnd
  | blockSequenceStart
  | blockMappingStart
  | blockEnd
  | flowSequenceStart
  | flowSequenceEnd
  | flowMappingStart
  | flowMappingEnd
  | blockEntry
  | flowEntry
  | key
  | value
  | alias (name : String)
  | anchor (name : String)
  | tag (t : WrittenTag)
  | scalar (text : String) (plain : Bool)
  deriving DecidableEq, Repr

/-! ### Names and tags -/

/-- The name behind the sign of an anchor or an alias. -/
def scanName (c : Cursor) : Except Failure (String × Cursor) :=
  let c := c.next
  let name := c.takeWhile isWordChar
  let c := c.skip name.length
  let after := c.peek
  if name.isEmpty then malformed
  else if isWideGap after || ['?', ':', ',', ']', '\x7d', '%', '@', '\x60'].contains after then
    .ok (String.ofList name, c)
  else malformed

/-- The handle of a tag: an exclamation mark, or a word between two of them. -/
def scanHandle (c : Cursor) : Except Failure (String × Cursor) :=
  if c.peek ≠ '!' then malformed
  else if c.peekAt 1 = ' ' then .ok ("!", c.next)
  else
    let word := c.next.takeWhile isWordChar
    if c.peekAt (word.length + 1) = '!' then
      .ok (String.ofList ('!' :: word ++ ['!']), c.skip (word.length + 2))
    else malformed

/-- Whether a character may stand in the rest of a tag. -/
def isTagChar (c : Char) : Bool :=
  isWordChar c || [';', '/', '?', ':', '@', '&', '=', '+', '$', ',', '.', '!', '~', '*', '\'', '(',
    ')', '[', ']', '%'].contains c

/-- The bytes of the escapes at a place, each a percent sign and two hexadecimal digits. -/
def tagEscapes : (fuel : Nat) → Cursor → Except Failure (List UInt8 × Cursor)
  | 0, c => .ok ([], c)
  | fuel + 1, c =>
    if c.peek ≠ '%' then .ok ([], c)
    else match hexDigit? (c.peekAt 1), hexDigit? (c.peekAt 2) with
      | some a, some b => do
        let (bytes, c) ← tagEscapes fuel (c.skip 3)
        return ((a * 16 + b).toUInt8 :: bytes, c)
      | _, _ => malformed

/-- The characters of the rest of a tag, with its escapes resolved. -/
def tagText : (fuel : Nat) → Cursor → Except Failure (List Char × Cursor)
  | 0, c => .ok ([], c)
  | fuel + 1, c =>
    if c.peek = '%' then do
      let (bytes, c) ← tagEscapes (c.rest.length + 1) c
      match Text.Utf8.decode bytes with
      | .error _ => malformed
      | .ok chars =>
        let (text, c) ← tagText fuel c
        return (chars ++ text, c)
    else if isTagChar c.peek then do
      let (text, c') ← tagText fuel c.next
      return (c.peek :: text, c')
    else .ok ([], c)

/-- The rest of a tag, which may not be empty. -/
def scanTagText (c : Cursor) : Except Failure (String × Cursor) := do
  if !isTagChar c.peek then malformed
  else
    let (text, c) ← tagText (c.rest.length + 1) c
    return (String.ofList text, c)

/-- A tag. -/
def scanTag (c : Cursor) : Except Failure (WrittenTag × Cursor) := do
  let second := c.peekAt 1
  let (t, c) ←
    if second = '<' then do
      let (text, c) ← scanTagText (c.skip 2)
      if c.peek ≠ '>' then malformed else pure (⟨none, text⟩, c.next)
    else if isWideGap second then pure (⟨none, "!"⟩, c.next)
    else do
      let word := c.next.takeWhile fun ch => !isGap ch
      let (handle, c) ← if word.contains '!' then scanHandle c else pure ("!", c.next)
      let (text, c) ← scanTagText c
      pure (⟨some handle, text⟩, c)
  if isGap c.peek then return (t, c) else malformed

/-! ### Directives -/

/-- A number in a directive. -/
def scanNumber (c : Cursor) : Except Failure (Nat × Cursor) :=
  let digits := c.takeWhile Char.isDigit
  if digits.isEmpty then malformed
  else .ok (digits.foldl (fun n d => n * 10 + (d.toNat - '0'.toNat)) 0, c.skip digits.length)

/-- A directive and the end of its line. -/
def scanDirective (c : Cursor) : Except Failure (Directive × Cursor) := do
  let name := c.next.takeWhile isWordChar
  let c := c.next.skip name.length
  if name.isEmpty ∨ !isGap c.peek then malformed
  else
    let (d, c) ←
      if String.ofList name = "YAML" then do
        let (major, c) ← scanNumber c.skipSpaces
        if c.peek ≠ '.' then malformed
        else
          let (minor, c) ← scanNumber c.next
          if isGap c.peek then pure (.version major minor, c) else malformed
      else if String.ofList name = "TAG" then do
        let (handle, c) ← scanHandle c.skipSpaces
        if c.peek ≠ ' ' then malformed
        else
          let (text, c) ← scanTagText c.skipSpaces
          if isGap c.peek then pure (.tag handle text, c) else malformed
      else pure (.other, c.skipWhile fun ch => !isEnd ch)
    return (d, ← c.finishLine)

/-! ### The state of the scan -/

/-- A token that may turn out to start a key: the number of tokens in front of it, its place, and
whether it has to be a key. -/
structure PossibleKey where
  tokenNumber : Nat
  needed : Bool
  index : Nat
  line : Nat
  column : Nat
  deriving Repr

/-- The state between two tokens. The possible keys are those of the levels of brackets, the
innermost first, one for each level and one for the block around them. -/
structure Scan where
  cursor : Cursor
  tokens : List Token
  indent : Int
  indents : List Int
  keyAllowed : Bool
  keys : List (Option PossibleKey)
  deriving Repr

namespace Scan

/-- The state in front of a text. -/
def start (text : List Char) : Scan := ⟨.start text, [], -1, [], true, [none]⟩

/-- Whether the scan is inside brackets. -/
def inFlow (s : Scan) : Bool := 1 < s.keys.length

/-- Adds a token. -/
def push (s : Scan) (t : Token) : Scan := { s with tokens := s.tokens ++ [t] }

/-- Adds a token of `n` characters and goes behind it. -/
def take (s : Scan) (n : Nat) (t : Token) : Scan :=
  { s.push t with cursor := s.cursor.skip n }

/-- Closes the block collections that are indented more than a column. -/
def unwind (s : Scan) (column : Int) : Scan :=
  if s.inFlow then s
  else
    let closed := (s.indent :: s.indents).takeWhile fun i => column < i
    let kept := (s.indent :: s.indents).drop closed.length
    { s with
      tokens := s.tokens ++ closed.map fun _ => .blockEnd
      indent := kept.headD (-1)
      indents := kept.tail }

/-- Opens a block collection at a column, if it is indented more than the one around it. -/
def opens (s : Scan) (column : Nat) : Bool := s.indent < column

/-- The state with a block collection opened at a column. -/
def indented (s : Scan) (column : Nat) : Scan :=
  { s with indent := column, indents := s.indent :: s.indents }

/-- Forgets a possible key, which may not be one that is needed. -/
def dropKey : Option PossibleKey → Except Failure (Option PossibleKey)
  | some k => if k.needed then malformed else .ok none
  | none => .ok none

/-- Forgets a possible key that is too far away. -/
def dropStale (c : Cursor) (key : Option PossibleKey) : Except Failure (Option PossibleKey) :=
  match key with
  | some k => if k.line ≠ c.line ∨ 1024 < c.index - k.index then dropKey key else .ok key
  | none => .ok none

/-- Forgets the possible keys that are too far away. -/
def dropStaleKeys (s : Scan) : Except Failure Scan :=
  return { s with keys := ← s.keys.mapM (dropStale s.cursor) }

/-- Forgets the possible key of this level. -/
def forgetKey (s : Scan) : Except Failure Scan :=
  match s.keys with
  | key :: rest => return { s with keys := (← dropKey key) :: rest }
  | [] => .ok s

/-- Keeps in mind that the next token may start a key. -/
def saveKey (s : Scan) : Except Failure Scan := do
  if !s.keyAllowed then return s
  let needed := !s.inFlow && s.indent == s.cursor.column
  let s ← s.forgetKey
  let key : PossibleKey :=
    ⟨s.tokens.length, needed, s.cursor.index, s.cursor.line, s.cursor.column⟩
  return { s with keys := some key :: s.keys.tail }

/-- Inserts tokens in front of others. -/
def insertAt (s : Scan) (n : Nat) (ts : List Token) : Scan :=
  { s with tokens := s.tokens.take n ++ ts ++ s.tokens.drop n }

/-! ### Steps -/

/-- Goes to the next token. A new line outside brackets allows a key. -/
def skipGaps : (fuel : Nat) → Scan → Scan
  | 0, s => s
  | fuel + 1, s =>
    let c := s.cursor.skipSpaces.skipComment
    match c.lineBreak? with
    | some (_, c) =>
      skipGaps fuel { s with cursor := c, keyAllowed := s.keyAllowed || !s.inFlow }
    | none => { s with cursor := c }

/-- The end of the text. -/
def finish (s : Scan) : Except Failure Scan := (s.unwind (-1)).forgetKey

/-- A directive or a mark of a document closes all that is open. -/
def atMargin (s : Scan) : Except Failure Scan := do
  let s ← (s.unwind (-1)).forgetKey
  return { s with keyAllowed := false }

/-- An opening bracket, which may start a key. -/
def openFlow (s : Scan) (t : Token) : Except Failure Scan := do
  let s ← s.saveKey
  return { s.take 1 t with keys := none :: s.keys, keyAllowed := true }

/-- A closing bracket. -/
def closeFlow (s : Scan) (t : Token) : Except Failure Scan := do
  let s ← s.forgetKey
  match s.keys with
  | _ :: outer :: rest => return { s.take 1 t with keys := outer :: rest, keyAllowed := false }
  | _ => malformed

/-- A comma. -/
def flowEntry (s : Scan) : Except Failure Scan := do
  let s ← s.forgetKey
  return { s.take 1 .flowEntry with keyAllowed := true }

/-- Opens a block collection for a mark at the cursor. Outside brackets the mark may only stand
where a key may. -/
def openBlock (s : Scan) (t : Token) : Except Failure Scan :=
  if s.inFlow then .ok s
  else if !s.keyAllowed then malformed
  else if s.opens s.cursor.column then .ok ((s.indented s.cursor.column).push t)
  else .ok s

/-- The hyphen of an entry. -/
def blockEntry (s : Scan) : Except Failure Scan := do
  let s ← (← s.openBlock .blockSequenceStart).forgetKey
  return { s.take 1 .blockEntry with keyAllowed := true }

/-- The question mark of a key. -/
def markedKey (s : Scan) : Except Failure Scan := do
  let s ← (← s.openBlock .blockMappingStart).forgetKey
  return { s.take 1 .key with keyAllowed := !s.inFlow }

/-- The colon of a value, behind a possible key or by itself. -/
def value (s : Scan) : Except Failure Scan := do
  match s.keys with
  | some key :: rest =>
    let s := { s with keys := none :: rest, keyAllowed := false }
    let s :=
      if !s.inFlow && s.opens key.column then
        (s.indented key.column).insertAt key.tokenNumber [.blockMappingStart, .key]
      else s.insertAt key.tokenNumber [.key]
    return s.take 1 .value
  | _ =>
    let s ← (← s.openBlock .blockMappingStart).forgetKey
    return { s.take 1 .value with keyAllowed := !s.inFlow }

/-- A token that may start a key. -/
def keyed (s : Scan) (scan : Cursor → Except Failure (Token × Cursor)) : Except Failure Scan := do
  let s ← s.saveKey
  let (t, c) ← scan s.cursor
  return { s.push t with cursor := c, keyAllowed := false }

/-- A plain scalar. Behind the end of a line a key is allowed again. -/
def plain (s : Scan) : Except Failure Scan := do
  let s ← s.saveKey
  let (text, fresh, c) := scanPlain s.inFlow s.indent s.cursor
  return { s.push (.scalar (String.ofList text) true) with cursor := c, keyAllowed := fresh }

/-- A scalar as a block. -/
def block (s : Scan) : Except Failure Scan := do
  let s ← s.forgetKey
  let (text, c) ← scanBlock s.indent s.cursor
  return { s.push (.scalar (String.ofList text) false) with cursor := c, keyAllowed := true }

/-- Whether a plain scalar may start at the cursor. -/
def startsPlain (s : Scan) : Bool :=
  let ch := s.cursor.peek
  let marks : List Char := ['-', '?', ':', ',', '[', ']', '\x7b', '\x7d', '#', '&', '*', '!', '|',
    '>', '\'', '"', '%', '@', '\x60']
  if isWideGap ch then false
  else if !marks.contains ch then true
  else !isWideGap (s.cursor.peekAt 1) && (ch == '-' || (!s.inFlow && (ch == '?' || ch == ':')))

/-- The next token of a text that has not ended. -/
def next (s : Scan) : Except Failure Scan :=
  let c := s.cursor
  let ch := c.peek
  let gapBehind := isWideGap (c.peekAt 1)
  if ch = '%' ∧ c.column = 0 then do
    let s ← s.atMargin
    let (d, c) ← scanDirective c
    return { s.push (.directive d) with cursor := c }
  else if c.column = 0 ∧ c.isTriple '-' then return (← s.atMargin).take 3 .documentStart
  else if c.column = 0 ∧ c.isTriple '.' then return (← s.atMargin).take 3 .documentEnd
  else if ch = '[' then s.openFlow .flowSequenceStart
  else if ch = '\x7b' then s.openFlow .flowMappingStart
  else if ch = ']' then s.closeFlow .flowSequenceEnd
  else if ch = '\x7d' then s.closeFlow .flowMappingEnd
  else if ch = ',' then s.flowEntry
  else if ch = '-' ∧ gapBehind then s.blockEntry
  else if ch = '?' ∧ (s.inFlow ∨ gapBehind) then s.markedKey
  else if ch = ':' ∧ (s.inFlow ∨ gapBehind) then s.value
  else if ch = '*' then s.keyed fun c => do let (n, c) ← scanName c; return (.alias n, c)
  else if ch = '&' then s.keyed fun c => do let (n, c) ← scanName c; return (.anchor n, c)
  else if ch = '!' then s.keyed fun c => do let (t, c) ← scanTag c; return (.tag t, c)
  else if (ch = '|' ∨ ch = '>') ∧ !s.inFlow then s.block
  else if ch = '\'' ∨ ch = '"' then
    s.keyed fun c => do let (t, c) ← scanQuoted c; return (.scalar (String.ofList t) false, c)
  else if s.startsPlain then s.plain
  else malformed

/-- All tokens of a text. Every step goes at least one character further. -/
def run : (fuel : Nat) → Scan → Except Failure Scan
  | 0, _ => malformed
  | fuel + 1, s => do
    let s ← (skipGaps (s.cursor.rest.length + 1) s).dropStaleKeys
    let s := s.unwind s.cursor.column
    if s.cursor.rest.isEmpty then s.finish else run fuel (← s.next)

end Scan

/-- The tokens of a text. A byte order mark at its head is passed over. -/
def tokensOf (text : List Char) : Except Failure (List Token) := do
  let s := Scan.start text
  let s := if s.cursor.peek = '\ufeff' then { s with cursor := s.cursor.next } else s
  return (← Scan.run (text.length + 2) s).tokens

end ClassSharing.Yaml
