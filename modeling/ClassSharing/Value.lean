import ClassSharing.Calendar
import ClassSharing.Number.Binary64
import ClassSharing.Text.Quoted

/-!
# Loose values

Data whose shape is not known yet: the fields of a document before they are checked, and the
arguments of a log event. A value has a shown form, in which texts stand in quotes.
-/

namespace ClassSharing

/-- A value of any shape. A mapping keeps its entries in the order of their insertion. -/
inductive Value where
  | null
  | bool (b : Bool)
  | int (n : Int)
  | real (x : Binary64)
  | str (s : String)
  | bytes (bs : List UInt8)
  | date (d : Date)
  | dateTime (t : DateTime)
  | list (items : List Value)
  | mapping (entries : List (Value × Value))
  | set (members : List Value)
  deriving Inhabited, Repr

namespace Value

/-- The name of a value's type. -/
def typeName : Value → String
  | null => "NoneType"
  | bool _ => "bool"
  | int _ => "int"
  | real _ => "float"
  | str _ => "str"
  | bytes _ => "bytes"
  | date _ => "date"
  | dateTime _ => "datetime"
  | list _ => "list"
  | mapping _ => "dict"
  | set _ => "set"

mutual

/-- The shown form of a value. -/
def shown : Value → String
  | null => "None"
  | bool true => "True"
  | bool false => "False"
  | int n => toString n
  | real x => x.text
  | str s => Text.quoted s
  | bytes bs => Text.quotedBytes bs
  | date d => d.shown
  | dateTime t => t.shown
  | list items => "[" ++ ", ".intercalate (shownAll items) ++ "]"
  | mapping entries => "\x7b" ++ ", ".intercalate (shownEntries entries) ++ "\x7d"
  | set members =>
    if members.isEmpty then "set()" else "\x7b" ++ ", ".intercalate (shownAll members) ++ "\x7d"

/-- The shown forms of several values. -/
def shownAll : List Value → List String
  | [] => []
  | v :: rest => v.shown :: shownAll rest

/-- The shown forms of the entries of a mapping. -/
def shownEntries : List (Value × Value) → List String
  | [] => []
  | e :: rest => shownEntry e :: shownEntries rest

/-- The shown form of an entry. -/
def shownEntry : Value × Value → String
  | (k, v) => k.shown ++ ": " ++ v.shown

end

/-! ### Mappings -/

/-- The value of a number, if it is one: a finite number as a quotient with its sign. -/
def number? : Value → Option (Bool × Nat × Nat)
  | bool b => some (false, if b then 1 else 0, 1)
  | int n => some (n < 0, n.natAbs, 1)
  | real x => x.toRatio?
  | _ => none

/-- Whether two values are one key of a mapping. Numbers are compared by value; collections are
no keys. -/
def sameKey (a b : Value) : Bool :=
  match a, b with
  | null, null => true
  | str s, str t => s == t
  | bytes s, bytes t => s == t
  | date s, date t => s == t
  | dateTime s, dateTime t => s.same t
  | real (.infinite s), real (.infinite t) => s == t
  | _, _ =>
    match a.number?, b.number? with
    | some (s, p, q), some (t, u, v) => p * v == u * q && (s == t || p == 0)
    | _, _ => false

/-- Whether a value can be a key. -/
def isKey : Value → Bool
  | list _ | mapping _ | set _ => false
  | _ => true

end Value

/-- The entries of a mapping. -/
abbrev Entries := List (Value × Value)

namespace Entries

/-- Sets a key: its first place is kept, its last value wins. -/
def put (entries : Entries) (key value : Value) : Entries :=
  match entries with
  | [] => [(key, value)]
  | (k, v) :: rest =>
    if k.sameKey key then (k, value) :: rest else (k, v) :: put rest key value

/-- Lays entries over others. -/
def overlay (base top : Entries) : Entries :=
  top.foldl (fun entries e => put entries e.1 e.2) base

/-- The value of a text key. -/
def get? (entries : Entries) (name : String) : Option Value :=
  match entries with
  | [] => none
  | (.str k, v) :: rest => if k = name then some v else get? rest name
  | _ :: rest => get? rest name

/-- Entries with text keys. -/
def ofList (fields : List (String × Value)) : Entries := fields.map fun (k, v) => (.str k, v)

@[simp] theorem get?_nil (name : String) : get? [] name = none := rfl

theorem get?_cons_str (k : String) (v : Value) (rest : Entries) (name : String) :
    get? ((.str k, v) :: rest) name = if k = name then some v else get? rest name := rfl

end Entries

end ClassSharing
