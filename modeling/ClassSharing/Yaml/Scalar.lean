import ClassSharing.Text.Blank
import ClassSharing.Text.LetterCase
import ClassSharing.Yaml.Tag

/-!
# Values of scalars

The value that the text of a scalar stands for, given its type. Underscores inside numbers are
passed over, and places behind colons count in sixties.
-/

namespace ClassSharing.Yaml

/-- A failure of a value. -/
def badValue {α : Type} (message : String) : Except Failure α := .error (.general .value message)

/-- Drops blanks at both ends. -/
def trimBlank (text : List Char) : List Char :=
  Text.dropTail Text.isBlank (text.dropWhile Text.isBlank)

/-- The sign of a text, and the text without it. -/
def signOf : List Char → Bool × List Char
  | '-' :: rest => (true, rest)
  | '+' :: rest => (false, rest)
  | text => (false, text)

/-! ### Truth values -/

/-- The texts of truth values. -/
def boolTexts : List (String × Bool) :=
  [("yes", true), ("no", false), ("true", true), ("false", false), ("on", true), ("off", false)]

/-- The truth value of a text. -/
def boolOf (text : List Char) : Except Failure Value :=
  let word := Text.lower (String.ofList text)
  match boolTexts.lookup word with
  | some b => .ok (.bool b)
  | none => .error (.general .key (Text.quoted word))

/-! ### Integers -/

/-- The value of a digit in any base up to thirty-six. -/
def digitValue? (c : Char) : Option Nat :=
  if '0' ≤ c ∧ c ≤ '9' then some (c.toNat - '0'.toNat)
  else if 'a' ≤ c ∧ c ≤ 'z' then some (c.toNat - 'a'.toNat + 10)
  else if 'A' ≤ c ∧ c ≤ 'Z' then some (c.toNat - 'A'.toNat + 10)
  else none

/-- The number of digits of a base. -/
def numberOf? (base : Nat) (digits : List Char) : Option Nat :=
  if digits.isEmpty then none
  else digits.foldl (fun n c => n.bind fun n => (digitValue? c).bind fun d =>
    if d < base then some (n * base + d) else none) (some 0)

/-- The letters that may stand behind a zero in front of the digits of a base. -/
def baseLetters : Nat → List Char
  | 2 => ['b', 'B']
  | 8 => ['o', 'O']
  | 16 => ['x', 'X']
  | _ => []

/-- The most digits of a decimal number. -/
def maxDecimalDigits : Nat := 4300

/-- The integer of a text in a base, with blanks around it and perhaps a sign. -/
def intInBase (base : Nat) (text : List Char) : Except Failure Int :=
  let (negative, body) := signOf (trimBlank text)
  let digits := match body with
    | '0' :: letter :: rest => if (baseLetters base).contains letter then rest else body
    | _ => body
  match numberOf? base digits with
  | some n =>
    if base = 10 ∧ maxDecimalDigits < digits.length then
      badValue ("Exceeds the limit (" ++ toString maxDecimalDigits ++
        " digits) for integer string conversion: value has " ++ toString digits.length ++
        " digits; use sys.set_int_max_str_digits() to increase the limit")
    else .ok (if negative then -(n : Int) else n)
  | none =>
    badValue ("invalid literal for int() with base " ++ toString base ++ ": " ++
      String.ofList ((Text.quoted (String.ofList text)).toList.take 200))

/-- The integer of places that count in sixties, the lowest first. -/
def sexagesimal : List Int → Int
  | [] => 0
  | d :: rest => d + 60 * sexagesimal rest

/-- A failure of an empty text where a character is looked at. -/
def noCharacter {α : Type} : Except Failure α :=
  .error (.general .index "string index out of range")

/-- The integer of a text. -/
def intOf (text : List Char) : Except Failure Value := do
  let plain := text.filter (· ≠ '_')
  if plain.isEmpty then noCharacter
  else
    let (negative, body) := signOf plain
    let value ←
      match body with
      | ['0'] => pure 0
      | '0' :: 'b' :: ds => intInBase 2 ds
      | '0' :: 'x' :: ds => intInBase 16 ds
      | '0' :: _ => intInBase 8 body
      | [] => noCharacter
      | _ =>
        if body.contains ':' then
          return .int (let n := sexagesimal (← (body.splitOn ':').mapM (intInBase 10)).reverse
            if negative then -n else n)
        else intInBase 10 body
    return .int (if negative then -value else value)

/-! ### Numbers with a point -/

/-- The exponent behind the digits of a number. -/
def exponentOf? : List Char → Option Int
  | [] => some 0
  | 'e' :: rest | 'E' :: rest =>
    let (negative, digits) := signOf rest
    if digits.all Char.isDigit then
      (numberOf? 10 digits).map fun n => if negative then -(n : Int) else n
    else none
  | _ => none

/-- The number of a decimal text without a sign. -/
def decimalOf? (negative : Bool) (text : List Char) : Option Binary64 := do
  let whole := text.takeWhile Char.isDigit
  let (fraction, rest) := match text.dropWhile Char.isDigit with
    | '.' :: rest => (rest.takeWhile Char.isDigit, rest.dropWhile Char.isDigit)
    | rest => ([], rest)
  let e ← exponentOf? rest
  let n ← numberOf? 10 (whole ++ fraction)
  return .ofDecimal negative n (e - fraction.length)

/-- The number of a text, with blanks around it and perhaps a sign. -/
def realOfText (text : List Char) : Except Failure Binary64 :=
  let (negative, body) := signOf (trimBlank text)
  let word := String.ofList (body.map Char.toLower)
  if word = "inf" ∨ word = "infinity" then .ok (.infinite negative)
  else if word = "nan" then .ok .nan
  else match decimalOf? negative body with
    | some x => .ok x
    | none => badValue ("could not convert string to float: " ++ Text.quoted (String.ofList text))

/-- The sum of places that count in sixties, the lowest first, each term and sum rounded. -/
def realPlaces (sum : Binary64) (base : Nat) : List Binary64 → Binary64
  | [] => sum
  | d :: rest => realPlaces (sum.add (d.mul (.ofNat base))) (base * 60) rest

/-- The number of a text. -/
def realOf (text : List Char) : Except Failure Value := do
  let plain := (Text.lower (String.ofList (text.filter (· ≠ '_')))).toList
  if plain.isEmpty then noCharacter
  else
    let (negative, body) := signOf plain
    let signed (x : Binary64) : Value := .real (if negative then x.neg else x)
    if body = ".inf".toList then return signed (.infinite false)
    else if body = ".nan".toList then return .real .nan
    else if body.contains ':' then
      let places ← (body.splitOn ':').mapM realOfText
      return signed (realPlaces (.zero false) 1 places.reverse)
    else return signed (← realOfText body)

/-! ### Bytes -/

/-- The six bits of a character of the alphabet of sixty-four. -/
def sixBits? (c : Char) : Option Nat :=
  if 'A' ≤ c ∧ c ≤ 'Z' then some (c.toNat - 'A'.toNat)
  else if 'a' ≤ c ∧ c ≤ 'z' then some (c.toNat - 'a'.toNat + 26)
  else if '0' ≤ c ∧ c ≤ '9' then some (c.toNat - '0'.toNat + 52)
  else if c = '+' then some 62
  else if c = '/' then some 63
  else none

/-- The bytes of a text in groups of four characters. Characters outside the alphabet are passed
over. `place` counts the characters of the group so far, `held` are the bits that are not yet part
of a byte, and `pads` the equals signs at the end of the group. -/
def groupBytes? (place held pads : Nat) : List Char → Option (List UInt8)
  | [] => if place = 0 then some [] else none
  | c :: rest =>
    if c = '=' then
      if 2 ≤ place then
        if 4 ≤ place + (pads + 1) then some [] else groupBytes? place held (pads + 1) rest
      else groupBytes? place held pads rest
    else match sixBits? c with
      | none => groupBytes? place held pads rest
      | some bits =>
        match place with
        | 0 => groupBytes? 1 bits 0 rest
        | 1 => (groupBytes? 2 (bits % 16) 0 rest).map ((held * 4 + bits / 16).toUInt8 :: ·)
        | 2 => (groupBytes? 3 (bits % 4) 0 rest).map ((held * 16 + bits / 4).toUInt8 :: ·)
        | _ => (groupBytes? 0 0 0 rest).map ((held * 64 + bits).toUInt8 :: ·)

/-- The bytes of a text. -/
def bytesOf (text : List Char) : Except Failure Value :=
  if text.all fun c => c.toNat < 128 then
    match groupBytes? 0 0 0 text with
    | some bytes => .ok (.bytes bytes)
    | none => malformed
  else malformed

/-! ### Timestamps -/

/-- The number of digits; no digits are zero. -/
def countOf (digits : List Char) : Nat := (numberOf? 10 digits).getD 0

/-- The microseconds of the digits behind the point of a second. -/
def microseconds (fraction : List Char) : Nat :=
  let kept := fraction.take 6
  countOf (kept ++ List.replicate (6 - kept.length) '0')

/-- The offset of a zone in minutes. -/
def zoneMinutes : Option (Char × List Char × List Char) → Int
  | none => 0
  | some (sign, hours, minutes) =>
    let m : Int := (countOf hours * 60 + countOf minutes : Nat)
    if sign = '-' then -m else m

/-- The date, or date and time, of a text. -/
def stampOf (text : List Char) : Except Failure Value := do
  match stampText? (Text.withoutLastFeed text) with
  | none => .error (.general .member "'NoneType' object has no attribute 'groupdict'")
  | some t =>
    let year := countOf t.year
    let month := countOf t.month
    let day := countOf t.day
    let outcome : Except CalendarFault Value :=
      match t.time with
      | none => (Date.check year month day).map .date
      | some (hour, minute, second, fraction) =>
        (DateTime.check year month day (countOf hour) (countOf minute) (countOf second)
          (microseconds fraction) (t.zone.map zoneMinutes)).map .dateTime
    match outcome with
    | .ok v => return v
    | .error fault => badValue fault.message

/-! ### All types -/

/-- The value of the text of a scalar of a type. -/
def scalarValue (tag : CoreTag) (text : List Char) : Except Failure Value :=
  match tag with
  | .null => .ok .null
  | .bool => boolOf text
  | .int => intOf text
  | .float => realOf text
  | .binary => bytesOf text
  | .timestamp => stampOf text
  | .str => .ok (.str (String.ofList text))
  | _ => malformed

end ClassSharing.Yaml
