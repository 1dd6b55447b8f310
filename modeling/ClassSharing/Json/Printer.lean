import ClassSharing.Json.Basic
import ClassSharing.Text.Quoted

/-!
# Printed JSON

A value is printed over several lines, each level indented by two more spaces. Characters outside
ASCII stand for themselves; quotes, backslashes and controls are escaped, so the printed text
holds no control character but line feeds.
-/

namespace ClassSharing.Json

/-- A character inside a printed text. -/
def escape (c : Char) : List Char :=
  if c = '"' then ['\\', '"']
  else if c = '\\' then ['\\', '\\']
  else if c = '\n' then ['\\', 'n']
  else if c = '\r' then ['\\', 'r']
  else if c = '\t' then ['\\', 't']
  else if c = '\x08' then ['\\', 'b']
  else if c = '\x0c' then ['\\', 'f']
  else if c.toNat < 0x20 then '\\' :: 'u' :: Text.hexDigits 4 c.toNat
  else [c]

/-- A printed text with its quotes. -/
def printText (s : String) : List Char :=
  '"' :: s.toList.flatMap escape ++ ['"']

/-- A printed integer. -/
def printInt (n : Int) : List Char :=
  if n < 0 then '-' :: Nat.toDigits 10 n.natAbs else Nat.toDigits 10 n.natAbs

/-- A line break and the indentation of a level. -/
def newLine (depth : Nat) : List Char := '\n' :: List.replicate (2 * depth) ' '

mutual

/-- A value printed at a level. -/
def print (depth : Nat) : Json → List Char
  | null => "null".toList
  | bool true => "true".toList
  | bool false => "false".toList
  | int n => printInt n
  | str s => printText s
  | arr [] => ['[', ']']
  | arr (v :: rest) =>
    '[' :: newLine (depth + 1) ++ print (depth + 1) v ++ printItems (depth + 1) rest ++
      newLine depth ++ [']']
  | obj [] => ['\x7b', '\x7d']
  | obj (m :: rest) =>
    '\x7b' :: newLine (depth + 1) ++ printMember (depth + 1) m ++ printMembers (depth + 1) rest ++
      newLine depth ++ ['\x7d']

/-- The items behind the first one, each behind a comma. -/
def printItems (depth : Nat) : List Json → List Char
  | [] => []
  | v :: rest => ',' :: newLine depth ++ print depth v ++ printItems depth rest

/-- The members behind the first one, each behind a comma. -/
def printMembers (depth : Nat) : List (String × Json) → List Char
  | [] => []
  | m :: rest => ',' :: newLine depth ++ printMember depth m ++ printMembers depth rest

/-- A member of an object. -/
def printMember (depth : Nat) : String × Json → List Char
  | (k, v) => printText k ++ ':' :: ' ' :: print depth v

end

/-- The printed text of a value. -/
def toText (v : Json) : String := String.ofList (print 0 v)

end ClassSharing.Json
