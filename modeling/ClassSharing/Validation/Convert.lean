import ClassSharing.Path
import ClassSharing.Text.Blank
import ClassSharing.Validation.Checked

/-!
# Lenient conversions

A loose value is accepted for a field if it plainly stands for a value of the field's type: the
text `yes` for a truth value, the number `1.0` or the text ` 1_000.00 ` for an integer, bytes for
the text they encode.
-/

namespace ClassSharing.Checked

/-- The text of a value, if it is a text or the bytes of one; `other` is the issue of bytes that are
none. -/
def textOf? (other : IssueKind) : Value → Option (Checked String)
  | .str s => some (ok s)
  | .bytes bs =>
    match Text.Utf8.decode bs with
    | .ok cs => some (ok (String.ofList cs))
    | .error _ => some (fail other)
  | _ => none

/-- A text. -/
def text (v : Value) : Checked String :=
  match textOf? .textEncoding v with
  | some s => s
  | none => fail .textType

/-! ### Truth values -/

/-- The texts that stand for false. -/
def falseTexts : List String := ["0", "off", "f", "false", "n", "no"]

/-- The texts that stand for true. -/
def trueTexts : List String := ["1", "on", "t", "true", "y", "yes"]

/-- The truth value of a text; upper case is as good as lower case. -/
def boolOfText (s : String) : Checked Bool :=
  let s := String.ofList (s.toList.map Char.toLower)
  if falseTexts.contains s then ok false
  else if trueTexts.contains s then ok true
  else fail .boolParsing

/-- The integers that are taken for numbers of a machine. -/
def isWord (n : Int) : Bool := -wordBound ≤ n && n < wordBound

/-- The truth value of an integer. -/
def boolOfInt (n : Int) : Checked Bool :=
  if !isWord n then fail .boolType
  else if n = 0 then ok false
  else if n = 1 then ok true
  else fail .boolParsing

/-- A truth value. -/
def bool (v : Value) : Checked Bool :=
  match v with
  | .bool b => ok b
  | .int n => boolOfInt n
  | .real x =>
    match x.toInt? with
    | some n => if n = -wordBound then fail .boolType else boolOfInt n
    | none => fail .boolType
  | v =>
    match textOf? .boolParsing v with
    | some s => s.andThen boolOfText
    | none => fail .boolType

/-! ### Integers -/

/-- The most characters of a text that is read as an integer. -/
def maxDigits : Nat := 4300

/-- Whether digits stand with single underscores between them. -/
def areGroupedDigits (cs : List Char) : Bool :=
  (cs.splitOn '_').all fun group => !group.isEmpty && group.all Char.isDigit

/-- The value of digits; underscores are passed over. -/
def groupedValue (cs : List Char) : Nat :=
  (cs.filter Char.isDigit).foldl (fun n c => n * 10 + (c.toNat - '0'.toNat)) 0

/-- The natural number of a text: grouped digits, and perhaps a point with zeros behind it. -/
def natOfText? (cs : List Char) : Option Nat :=
  let whole := cs.takeWhile (· ≠ '.')
  let fraction := cs.dropWhile (· ≠ '.')
  let plain := match fraction with
    | [] => true
    | _ :: zeros => !zeros.isEmpty && zeros.all (· == '0')
  if plain && areGroupedDigits whole then some (groupedValue whole) else none

/-- The integer of a text with blanks around it and perhaps a sign. -/
def intOfText (s : String) : Checked Int :=
  let cs := Text.trimSpace s.toList
  let value? : Option Int := match cs with
    | '-' :: rest => (natOfText? rest).map fun n => -(n : Int)
    | '+' :: rest => (natOfText? rest).map Int.ofNat
    | _ => (natOfText? cs).map Int.ofNat
  match value? with
  | some n => if maxDigits < cs.length then fail .intSize else ok n
  | none => fail .intParsing

/-- The integer of a number without a fraction. -/
def intOfReal (x : Binary64) : Checked Int :=
  if !x.isFinite then fail .infiniteNumber
  else match x.toInt? with
    | none => fail .fraction
    | some n => if -wordBound < n ∧ n < wordBound then ok n else fail .intSize

/-- An integer. -/
def int (v : Value) : Checked Int :=
  match v with
  | .int n => ok n
  | .bool b => ok (if b then 1 else 0)
  | .real x => intOfReal x
  | v =>
    match textOf? .intParsing v with
    | some s => s.andThen intOfText
    | none => fail .intType

/-- A natural number. -/
def nat (v : Value) : Checked Nat :=
  (int v).andThen fun n => if n < 0 then fail .negative else ok n.toNat

/-! ### Other types -/

/-- A path. -/
def path : Value → Checked Path
  | .str s => ok (Path.ofString s)
  | _ => fail .pathType

/-- A value that may be missing. -/
def nullable {α : Type} (check : Value → Checked α) : Value → Checked (Option α)
  | .null => ok none
  | v => map some (check v)

/-- A list. -/
def list {α : Type} (check : Value → Checked α) : Value → Checked (List α)
  | .list vs => items check 0 vs
  | .set vs => items check 0 vs
  | _ => fail .listType

/-- One of several texts, each standing for a value. -/
def oneOf {α : Type} (choices : List (String × α)) (v : Value) : Checked α :=
  match v with
  | .str s =>
    match choices.lookup s with
    | some a => ok a
    | none => fail (.choice (choices.map Prod.fst))
  | _ => fail (.choice (choices.map Prod.fst))

end ClassSharing.Checked
