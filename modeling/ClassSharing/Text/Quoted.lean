import ClassSharing.Text.Printable
import ClassSharing.Text.Utf8

/-!
# Quoted texts

A text in quotes, as it is shown inside a message: single quotes unless the text holds a single
quote and no double one, a backslash before the quote and the backslash, and an escape for every
character that is not printable.
-/

namespace ClassSharing.Text

/-- The `width` lowest hexadecimal digits of a number. -/
def hexDigits : (width : Nat) → Nat → List Char
  | 0, _ => []
  | width + 1, n => hexDigits width (n / 16) ++ [Nat.digitChar (n % 16)]

/-- The quotation mark for a text with the given characters. -/
def quoteMark (text : List Char) : Char :=
  if text.contains '\'' && !text.contains '"' then '"' else '\''

/-- The escape of a character by its number, in the shortest of the three forms. -/
def escapeByNumber (n : Nat) : List Char :=
  if n < 0x100 then '\\' :: 'x' :: hexDigits 2 n
  else if n < 0x10000 then '\\' :: 'u' :: hexDigits 4 n
  else '\\' :: 'U' :: hexDigits 8 n

/-- A character inside quotes. -/
def quotedChar (mark c : Char) : List Char :=
  if c = mark ∨ c = '\\' then ['\\', c]
  else if c = '\n' then ['\\', 'n']
  else if c = '\r' then ['\\', 'r']
  else if c = '\t' then ['\\', 't']
  else if isPrintable c then [c]
  else escapeByNumber c.toNat

/-- A text in quotes. -/
def quoted (text : String) : String :=
  let mark := quoteMark text.toList
  String.ofList (mark :: text.toList.flatMap (quotedChar mark) ++ [mark])

/-- A byte inside quotes: the printable part of ASCII stands for itself. -/
def quotedByte (mark : Char) (b : UInt8) : List Char :=
  if b < 0x7f then quotedChar mark (Char.ofNat b.toNat) else escapeByNumber b.toNat

/-- Bytes in quotes, behind the letter `b`. -/
def quotedBytes (bytes : List UInt8) : String :=
  let mark := quoteMark (bytes.map fun b => Char.ofNat b.toNat)
  String.ofList ('b' :: mark :: bytes.flatMap (quotedByte mark) ++ [mark])

end ClassSharing.Text
