import ClassSharing.Resolution.Holder
import ClassSharing.Resolution.MethodType
import ClassSharing.Resolution.Tokens
import ClassSharing.Text.LetterCase

/-!
# Resolution records

A line of a resolution log records that a lambda form or a species was resolved. A line is checked
in a fixed order: its prefix, the number of its tokens, and, for a lambda form, the holder class
and the method type. The first check that fails rejects the line. The parts of an accepted line are
checked once more when the record is built from them.
-/

namespace ClassSharing

/-- The kind of a record, given by the prefix of its line. -/
inductive ResolveKind where
  | lambdaForm
  | species
  deriving DecidableEq, Repr

namespace ResolveKind

/-- The kinds. -/
def all : List ResolveKind := [lambdaForm, species]

/-- The name of a kind. -/
def name : ResolveKind → String
  | lambdaForm => "LF_RESOLVE"
  | species => "SPECIES_RESOLVE"

/-- The prefix of the lines of a kind. -/
def marker (k : ResolveKind) : String := "[" ++ k.name ++ "]"

/-- The number of tokens of a line. -/
def tokenCount : ResolveKind → Nat
  | lambdaForm => 4
  | species => 2

/-- The kind of a line. -/
def ofLine? (line : String) : Option ResolveKind :=
  all.find? fun k => k.marker.toList.isPrefixOf line.toList

end ResolveKind

/-- What a record says: a method of a holder class with its type, or a species. -/
inductive Resolved where
  | lambdaForm (holder : HolderClass) (method : String) (type : MethodType)
  | species (name : String)
  deriving DecidableEq, Repr

/-- A resolution record and the line it was read from. -/
structure Record where
  raw : String
  resolved : Resolved
  raw_ne : raw ≠ ""
  deriving DecidableEq, Repr

/-- The kind of a record. -/
def Record.kind (r : Record) : ResolveKind :=
  match r.resolved with
  | .lambdaForm .. => .lambdaForm
  | .species _ => .species

/-! ### Rejections -/

/-- Why a line is rejected. -/
inductive Reason where
  | wrongPrefix
  | itemCount
  | holderName
  | methodType
  | other (text : String)
  deriving DecidableEq, Repr

/-- The wording of a reason. -/
def Reason.text : Reason → String
  | wrongPrefix => "wrong prefix"
  | itemCount => "incorrect number of items"
  | holderName => "invalid holder class name"
  | methodType => "invalid method type"
  | other text => text

/-- A rejected line: the reason, the part that is shown with it, and the position of the line in
its batch. -/
structure Rejection where
  line : String
  reason : Reason
  detail : Option String
  number : Option Int
  deriving DecidableEq, Repr

namespace Rejection

/-- The wording without the position. -/
def brief (r : Rejection) : String :=
  Text.capitalize r.reason.text ++ ": " ++ r.detail.getD r.line

/-- The wording of a rejection. -/
def message (r : Rejection) : String :=
  match r.number with
  | some n => r.brief ++ " (line " ++ toString n ++ ")"
  | none => r.brief

end Rejection

/-- What can go wrong when a line is read: a check of the line rejects it, or a model finds issues
in the parts of the line. -/
inductive LineFault where
  | rejected (r : Rejection)
  | invalid (e : ValidationError)
  deriving DecidableEq, Repr

/-! ### Reading -/

namespace Record

/-- The name of the model. -/
def model : String := "ResolutionLine"

/-- The record of a line, whose text must not be empty. -/
def ofLine (line : String) (resolved : Resolved) : Checked Record :=
  if h : line = "" then .faulty [⟨[.field "raw"], .emptyText⟩] else .ok ⟨line, resolved, h⟩

/-- What a line says, by its kind and its tokens. A check that fails is handed to `reject` with the
part of the line that is shown for it. -/
def resolvedOf (reject : Reason → Option String → LineFault) (kind : ResolveKind)
    (ts : List String) : Except LineFault Resolved :=
  match kind, ts with
  | .species, [_, name] => .ok (.species name)
  | .lambdaForm, [_, holder, method, descriptor] =>
    match HolderClass.ofName? holder with
    | none => .error (reject .holderName (some holder))
    | some h =>
      if isMethodType descriptor then
        match (MethodType.parse descriptor).titled MethodType.model with
        | .ok t => .ok (.lambdaForm h method t)
        | .error e => .error (.invalid e)
      else .error (reject .methodType (some descriptor))
  | _, ts => .error (reject .itemCount (some (toString ts.length)))

/-- The rejection of a line at a position of its batch. -/
def reject (number : Option Int) (line : String) (reason : Reason) (detail : Option String) :
    LineFault :=
  .rejected ⟨line, reason, detail, number⟩

/-- Reads a line that stands at a position of its batch. -/
def parseAt (number : Option Int) (line : String) : Except LineFault Record :=
  match ResolveKind.ofLine? line with
  | none => .error (reject number line .wrongPrefix none)
  | some kind =>
    match resolvedOf (reject number line) kind (tokens line) with
    | .error fault => .error fault
    | .ok resolved => ((ofLine line resolved).titled model).mapError .invalid

/-- Reads a line. -/
def parse (line : String) : Except LineFault Record := parseAt none line

end Record

/-! ### Fields -/

/-- The fields of a record, side by side. Checked fields need not be those of a line. -/
structure RecordFields where
  kind : ResolveKind
  raw : String
  holderName : Option String
  method : Option String
  type : Option MethodType
  species : Option String
  deriving DecidableEq, Repr

/-- The fields of a record. -/
def Record.fields (r : Record) : RecordFields :=
  match r.resolved with
  | .lambdaForm h method t => ⟨.lambdaForm, r.raw, some h.name, some method, some t, none⟩
  | .species name => ⟨.species, r.raw, none, none, none, some name⟩

namespace RecordFields

/-- The names of the fields. -/
def names : List String :=
  ["kind", "raw", "holder_class_name", "method_name", "method_type", "species"]

/-- A text that is not empty. -/
def filledText (v : Value) : Checked String :=
  (Checked.text v).andThen fun s => if s = "" then .fail .emptyText else .ok s

/-- The record with the given fields. -/
def ofFields (fields : Entries) : Checked RecordFields :=
  (fun k r h m t s (_ : Unit) => ⟨k, r, h, m, t, s⟩) <$>
    Checked.required fields "kind" (Checked.oneOf (ResolveKind.all.map fun k => (k.name, k))) <*>
    Checked.required fields "raw" filledText <*>
    Checked.optional fields "holder_class_name" none (Checked.nullable Checked.text) <*>
    Checked.optional fields "method_name" none (Checked.nullable Checked.text) <*>
    Checked.optional fields "method_type" none (Checked.nullable MethodType.ofValue) <*>
    Checked.optional fields "species" none (Checked.nullable Checked.text) <*>
    Checked.only names fields

end RecordFields

end ClassSharing
