import ClassSharing.Json.Basic

/-!
# Reading JSON

A reader for the values of a report. Blanks may stand around every token and every escape is
understood; a number is an integer. Each step returns the text behind what it has read.
-/

namespace ClassSharing.Json

/-- Whether a character may stand between two tokens. -/
def isGap (c : Char) : Bool := c == ' ' || c == '\n' || c == '\r' || c == '\t'

/-- Drops the blanks in front of a token. -/
def skipGap (text : List Char) : List Char := text.dropWhile isGap

/-- The value of a hexadecimal digit. -/
def hexValue? (c : Char) : Option Nat :=
  if '0' ≤ c ∧ c ≤ '9' then some (c.toNat - '0'.toNat)
  else if 'a' ≤ c ∧ c ≤ 'f' then some (c.toNat - 'a'.toNat + 10)
  else if 'A' ≤ c ∧ c ≤ 'F' then some (c.toNat - 'A'.toNat + 10)
  else none

/-- The number of four hexadecimal digits. -/
def readUnit? : List Char → Option (Nat × List Char)
  | a :: b :: c :: d :: rest => do
    let a ← hexValue? a
    let b ← hexValue? b
    let c ← hexValue? c
    let d ← hexValue? d
    return (((a * 16 + b) * 16 + c) * 16 + d, rest)
  | _ => none

/-- The character of an escape by its number: one unit, or two units of a surrogate pair. -/
def readNumbered? (text : List Char) : Option (Char × List Char) := do
  let (high, rest) ← readUnit? text
  if 0xd800 ≤ high ∧ high < 0xdc00 then
    match rest with
    | '\\' :: 'u' :: rest =>
      let (low, rest) ← readUnit? rest
      if 0xdc00 ≤ low ∧ low < 0xe000 then
        return (Char.ofNat (0x10000 + (high - 0xd800) * 0x400 + (low - 0xdc00)), rest)
      else none
    | _ => none
  else if 0xdc00 ≤ high ∧ high < 0xe000 then none
  else return (Char.ofNat high, rest)

/-- The character of an escape, whose backslash has been read. -/
def readEscape? : List Char → Option (Char × List Char)
  | '"' :: rest => some ('"', rest)
  | '\\' :: rest => some ('\\', rest)
  | '/' :: rest => some ('/', rest)
  | 'b' :: rest => some ('\x08', rest)
  | 'f' :: rest => some ('\x0c', rest)
  | 'n' :: rest => some ('\n', rest)
  | 'r' :: rest => some ('\r', rest)
  | 't' :: rest => some ('\t', rest)
  | 'u' :: rest => readNumbered? rest
  | _ => none

/-- The characters up to the closing quote. The number bounds the characters read. -/
def readText? : (fuel : Nat) → List Char → Option (List Char × List Char)
  | 0, _ => none
  | _ + 1, [] => none
  | fuel + 1, c :: rest =>
    if c = '"' then some ([], rest)
    else if c = '\\' then do
      let (d, rest) ← readEscape? rest
      let (text, rest) ← readText? fuel rest
      return (d :: text, rest)
    else if c.toNat < 0x20 then none
    else do
      let (text, rest) ← readText? fuel rest
      return (c :: text, rest)

/-- The value of decimal digits. -/
def digitsValue (digits : List Char) : Nat :=
  digits.foldl (fun n c => n * 10 + (c.toNat - '0'.toNat)) 0

/-- A natural number without superfluous zeros, not followed by a fraction or an exponent. -/
def readNat? (text : List Char) : Option (Nat × List Char) :=
  let digits := text.takeWhile Char.isDigit
  let rest := text.dropWhile Char.isDigit
  match digits, rest with
  | [], _ | _, '.' :: _ | _, 'e' :: _ | _, 'E' :: _ => none
  | '0' :: _ :: _, _ => none
  | _, _ => some (digitsValue digits, rest)

mutual

/-- The value at the head of a text. The number bounds the depth of nesting and the length of
collections. -/
def readValue? : (fuel : Nat) → List Char → Option (Json × List Char)
  | 0, _ => none
  | fuel + 1, text =>
    match skipGap text with
    | 'n' :: 'u' :: 'l' :: 'l' :: rest => some (null, rest)
    | 't' :: 'r' :: 'u' :: 'e' :: rest => some (bool true, rest)
    | 'f' :: 'a' :: 'l' :: 's' :: 'e' :: rest => some (bool false, rest)
    | '"' :: rest => do
      let (s, rest) ← readText? (rest.length + 1) rest
      return (str (String.ofList s), rest)
    | '[' :: rest =>
      match skipGap rest with
      | ']' :: rest => some (arr [], rest)
      | rest => do
        let (items, rest) ← readItems? fuel rest
        return (arr items, rest)
    | '\x7b' :: rest =>
      match skipGap rest with
      | '\x7d' :: rest => some (obj [], rest)
      | rest => do
        let (members, rest) ← readMembers? fuel rest
        return (obj members, rest)
    | '-' :: rest => do
      let (n, rest) ← readNat? rest
      return (int (-n), rest)
    | rest => do
      let (n, rest) ← readNat? rest
      return (int n, rest)

/-- The items of an array and its closing bracket. -/
def readItems? : (fuel : Nat) → List Char → Option (List Json × List Char)
  | 0, _ => none
  | fuel + 1, text => do
    let (v, rest) ← readValue? fuel text
    match skipGap rest with
    | ']' :: rest => return ([v], rest)
    | ',' :: rest =>
      let (items, rest) ← readItems? fuel rest
      return (v :: items, rest)
    | _ => none

/-- The members of an object and its closing brace. -/
def readMembers? : (fuel : Nat) → List Char → Option (List (String × Json) × List Char)
  | 0, _ => none
  | fuel + 1, text =>
    match skipGap text with
    | '"' :: rest => do
      let (k, rest) ← readText? (rest.length + 1) rest
      match skipGap rest with
      | ':' :: rest =>
        let (v, rest) ← readValue? fuel rest
        match skipGap rest with
        | '\x7d' :: rest => return ([(String.ofList k, v)], rest)
        | ',' :: rest =>
          let (members, rest) ← readMembers? fuel rest
          return ((String.ofList k, v) :: members, rest)
        | _ => none
      | _ => none
    | _ => none

end

/-- The value of a text that holds nothing else. -/
def ofText? (text : String) : Option Json :=
  match readValue? (text.toList.length + 1) text.toList with
  | some (v, rest) => if (skipGap rest).isEmpty then some v else none
  | none => none

end ClassSharing.Json
