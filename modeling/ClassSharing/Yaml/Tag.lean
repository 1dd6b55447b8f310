import ClassSharing.Text.Break
import ClassSharing.Yaml.Cursor

/-!
# Tags of plain scalars

A plain scalar without a tag of its own has the type that its text looks like. The patterns of the
types are tried in a fixed order; a text that none of them fits is a string.
-/

namespace ClassSharing.Yaml

/-- The types that values can have. -/
inductive CoreTag where
  | null
  | bool
  | int
  | float
  | binary
  | timestamp
  | omap
  | pairs
  | set
  | str
  | seq
  | map
  | merge
  /-- The key of the default value of a mapping. -/
  | value
  deriving DecidableEq, Repr

namespace CoreTag

/-- The types by their names. -/
def names : List (String × CoreTag) :=
  [("null", null), ("bool", bool), ("int", int), ("float", float), ("binary", binary),
    ("timestamp", timestamp), ("omap", omap), ("pairs", pairs), ("set", set), ("str", str),
    ("seq", seq), ("map", map), ("merge", merge), ("value", value)]

/-- What stands in front of the name of a type. -/
def domain : String := "tag:yaml.org,2002:"

/-- The type of a tag that is written in full. -/
def ofText? (text : String) : Option CoreTag :=
  names.findSome? fun (name, tag) => if domain ++ name = text then some tag else none

end CoreTag

/-! ### Patterns -/

/-- Whether a character is a digit of a base up to ten, or an underscore. -/
def isDigitOrBar (base : Nat) (c : Char) : Bool :=
  c == '_' || (c.isDigit && c.toNat - '0'.toNat < base)

/-- A text without its sign. -/
def unsigned : List Char → List Char
  | '-' :: rest | '+' :: rest => rest
  | text => text

/-- Whether a text has a character and all characters have a property. -/
def someAll (p : Char → Bool) (text : List Char) : Bool := !text.isEmpty && text.all p

/-- Whether a text is a digit and then digits and underscores. -/
def isNumeral (text : List Char) : Bool :=
  (text.headD ' ').isDigit && text.all (isDigitOrBar 10)

/-- Whether a text is a list of sexagesimal places, each a number below sixty behind a colon. -/
def arePlaces (text : List Char) : Bool :=
  match text.splitOn ':' with
  | [] :: (place :: places) =>
    (place :: places).all fun
      | [d] => d.isDigit
      | [t, d] => '0' ≤ t && t ≤ '5' && d.isDigit
      | _ => false
  | _ => false

/-- Whether a text is the exponent of a number: a letter, a sign, and digits. -/
def isExponent : List Char → Bool
  | 'e' :: '-' :: ds | 'e' :: '+' :: ds | 'E' :: '-' :: ds | 'E' :: '+' :: ds =>
    someAll Char.isDigit ds
  | _ => false

/-- Whether a text is the part of a number behind its point: digits and underscores, and perhaps an
exponent. -/
def isFraction (text : List Char) : Bool :=
  let rest := text.dropWhile (isDigitOrBar 10)
  rest.isEmpty || isExponent rest

/-- Whether a text looks like a truth value. -/
def looksBool (text : List Char) : Bool :=
  ["yes", "Yes", "YES", "no", "No", "NO", "true", "True", "TRUE", "false", "False", "FALSE", "on",
    "On", "ON", "off", "Off", "OFF"].contains (String.ofList text)

/-- Whether a text looks like a number with a point. -/
def looksFloat (text : List Char) : Bool :=
  let body := unsigned text
  let whole := body.takeWhile fun c => c != '.' && c != ':'
  match body.drop whole.length with
  | '.' :: rest =>
    if whole.isEmpty then
      (body == text && (rest.headD ' ').isDigit && isFraction rest) ||
        ["inf", "Inf", "INF"].contains (String.ofList rest) ||
        (body == text && ["nan", "NaN", "NAN"].contains (String.ofList rest))
    else isNumeral whole && isFraction rest
  | ':' :: rest =>
    let places := ':' :: rest.takeWhile (· != '.')
    match rest.dropWhile (· != '.') with
    | '.' :: fraction => isNumeral whole && arePlaces places && fraction.all (isDigitOrBar 10)
    | _ => false
  | _ => false

/-- Whether a text looks like an integer. -/
def looksInt (text : List Char) : Bool :=
  match unsigned text with
  | ['0'] => true
  | '0' :: 'b' :: ds => someAll (isDigitOrBar 2) ds
  | '0' :: 'x' :: ds => someAll (fun c => c == '_' || (hexDigit c)) ds
  | '0' :: ds => someAll (isDigitOrBar 8) ds
  | ds =>
    let whole := ds.takeWhile (· != ':')
    let places := ds.drop whole.length
    isNumeral whole && (places.isEmpty || arePlaces places)
where
  hexDigit (c : Char) : Bool :=
    c.isDigit || ('a' ≤ c && c ≤ 'f') || ('A' ≤ c && c ≤ 'F')

/-- Whether a text looks like nothing. -/
def looksNull (text : List Char) : Bool :=
  ["~", "null", "Null", "NULL", ""].contains (String.ofList text)

/-! ### Timestamps -/

/-- The parts of a timestamp as they are written. -/
structure StampText where
  year : List Char
  month : List Char
  day : List Char
  /-- Hour, minute, second, and the digits behind the point of the second. -/
  time : Option (List Char × List Char × List Char × List Char)
  /-- The sign, hours and minutes of the offset, or nothing for universal time. -/
  zone : Option (Option (Char × List Char × List Char))
  deriving Repr

/-- The digits at the head of a text, at most two, and the rest. -/
def oneOrTwo (text : List Char) : List Char × List Char :=
  let ds := (text.take 2).takeWhile Char.isDigit
  (ds, text.drop ds.length)

/-- The two digits at the head of a text. -/
def exactlyTwo? : List Char → Option (List Char × List Char)
  | a :: b :: rest => if a.isDigit && b.isDigit then some ([a, b], rest) else none
  | _ => none

/-- The offset at the end of a timestamp. -/
def zone? (text : List Char) : Option (Option (Option (Char × List Char × List Char))) :=
  match text, text.dropWhile fun c => c == ' ' || c == '\t' with
  | [], _ => some none
  | _, ['Z'] => some (some none)
  | _, sign :: rest =>
    if sign = '-' ∨ sign = '+' then
      match oneOrTwo rest with
      | ([], _) => none
      | (hours, []) => some (some (some (sign, hours, [])))
      | (hours, ':' :: rest) =>
        match exactlyTwo? rest with
        | some (minutes, []) => some (some (some (sign, hours, minutes)))
        | _ => none
      | _ => none
    else none
  | _, [] => none

/-- The time of day and the offset behind the date of a timestamp. -/
def timeOfDay? (text : List Char) :
    Option ((List Char × List Char × List Char × List Char) ×
      Option (Option (Char × List Char × List Char))) := do
  match oneOrTwo text with
  | ([], _) => none
  | (hour, ':' :: rest) =>
    let (minute, rest) ← exactlyTwo? rest
    match rest with
    | ':' :: rest =>
      let (second, rest) ← exactlyTwo? rest
      let (fraction, rest) := match rest with
        | '.' :: rest => (rest.takeWhile Char.isDigit, rest.dropWhile Char.isDigit)
        | rest => ([], rest)
      let zone ← zone? rest
      return ((hour, minute, second, fraction), zone)
    | _ => none
  | _ => none

/-- The parts of a timestamp. -/
def stampText? (text : List Char) : Option StampText := do
  let year := (text.take 4).takeWhile Char.isDigit
  match year.length == 4, text.drop 4 with
  | true, '-' :: rest =>
    match oneOrTwo rest with
    | ([], _) => none
    | (month, '-' :: rest) =>
      match oneOrTwo rest with
      | ([], _) => none
      | (day, []) => return ⟨year, month, day, none, none⟩
      | (day, c :: rest) =>
        let rest? :=
          if c = 'T' ∨ c = 't' then some rest
          else if c = ' ' ∨ c = '\t' then some (rest.dropWhile fun c => c == ' ' || c == '\t')
          else none
        let (time, zone) ← timeOfDay? (← rest?)
        return ⟨year, month, day, some time, zone⟩
    | _ => none
  | _, _ => none

/-- Whether a text looks like a timestamp. A date by itself has two digits for month and day. -/
def looksStamp (text : List Char) : Bool :=
  match stampText? text with
  | some t => t.time.isSome || (t.month.length == 2 && t.day.length == 2)
  | none => false

/-! ### Resolution -/

/-- The type that a plain scalar looks like. No pattern looks at a line feed at the end. -/
def CoreTag.ofPlain (text : List Char) : CoreTag :=
  let body := Text.withoutLastFeed text
  if text.isEmpty then .null
  else if body.isEmpty then .str
  else if looksBool body then .bool
  else if looksFloat body then .float
  else if looksInt body then .int
  else if body == ['<', '<'] then .merge
  else if looksNull body then .null
  else if looksStamp body then .timestamp
  else if body == ['='] then .value
  else .str

end ClassSharing.Yaml
