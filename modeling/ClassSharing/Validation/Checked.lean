import ClassSharing.Validation.Issue
import ClassSharing.Value

/-!
# Checks that collect issues

The outcome of a check is a value or the issues that were found. Checks that stand side by side are
all carried out, and their issues are listed one after the other.
-/

namespace ClassSharing

/-- The outcome of a check. -/
inductive Checked (α : Type) where
  | ok (value : α)
  | faulty (issues : List Issue)
  deriving Repr

namespace Checked

variable {α β : Type}

/-- Applies a function to a checked value. -/
def map (f : α → β) : Checked α → Checked β
  | ok a => ok (f a)
  | faulty is => faulty is

/-- Two checks side by side. -/
def seq (f : Checked (α → β)) (a : Checked α) : Checked β :=
  match f, a with
  | ok f, ok a => ok (f a)
  | ok _, faulty is => faulty is
  | faulty is, ok _ => faulty is
  | faulty is, faulty js => faulty (is ++ js)

instance : Applicative Checked where
  pure := ok
  seq f a := seq f (a ())

/-- A check whose outcome the next one needs. -/
def andThen (a : Checked α) (f : α → Checked β) : Checked β :=
  match a with
  | ok a => f a
  | faulty is => faulty is

/-- A single issue at the value itself. -/
def fail (kind : IssueKind) : Checked α := faulty [⟨[], kind⟩]

/-- A check of a part: its issues are found one step further. -/
def under (step : Step) : Checked α → Checked α
  | ok a => ok a
  | faulty is => faulty (is.map fun i => ⟨step :: i.place, i.kind⟩)

/-- All items of a list, each under its position. -/
def items (check : Value → Checked α) (n : Nat) : List Value → Checked (List α)
  | [] => ok []
  | v :: rest => seq (map List.cons (under (.index n) (check v))) (items check (n + 1) rest)

/-- The outcome with a model's name. -/
def titled (title : String) : Checked α → Except ValidationError α
  | ok a => .ok a
  | faulty is => .error ⟨title, is⟩

/-- The issues of an outcome. -/
def issues : Checked α → List Issue
  | ok _ => []
  | faulty is => is

@[simp] theorem map_ok (f : α → β) (a : α) : map f (ok a) = ok (f a) := rfl

@[simp] theorem seq_ok_ok (f : α → β) (a : α) : seq (ok f) (ok a) = ok (f a) := rfl

@[simp] theorem under_ok (s : Step) (a : α) : under s (ok a) = ok a := rfl

@[simp] theorem items_nil (check : Value → Checked α) (n : Nat) : items check n [] = ok [] := rfl

theorem seq_eq_ok {f : Checked (α → β)} {a : Checked α} {b : β} :
    seq f a = ok b ↔ ∃ g x, f = ok g ∧ a = ok x ∧ g x = b := by
  cases f <;> cases a <;> simp [seq]

/-! ### Fields -/

/-- The outcome for a field that has to be there. -/
def required (fields : Entries) (name : String) (check : Value → Checked α) : Checked α :=
  match fields.get? name with
  | some v => under (.field name) (check v)
  | none => under (.field name) (fail .missing)

/-- The outcome for a field with a default. The default itself is not checked. -/
def optional (fields : Entries) (name : String) (default : α) (check : Value → Checked α) :
    Checked α :=
  match fields.get? name with
  | some v => under (.field name) (check v)
  | none => ok default

/-- The numbers of a machine word lie from the negative of this bound up to below it. -/
def wordBound : Int := 0x8000000000000000

/-- The step to the value of a key. -/
def keyStep : Value → Step
  | .str s => .field s
  | .bool b => .index (if b then 1 else 0)
  | .int n => if -wordBound ≤ n ∧ n < wordBound then .index n else .field (toString n)
  | v => .field v.shown

/-- The issue of an entry that is no field, if it is none. -/
def strayIssue? (names : List String) (entry : Value × Value) : Option Issue :=
  match entry.1 with
  | .str s => if names.contains s then none else some ⟨[.field s], .extraField⟩
  | key => some ⟨[keyStep key], .keyType⟩

/-- Whether the entries have no key but the given names. -/
def only (names : List String) (fields : Entries) : Checked Unit :=
  match fields.filterMap (strayIssue? names) with
  | [] => ok ()
  | is => faulty is

end Checked

end ClassSharing
