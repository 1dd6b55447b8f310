import ClassSharing.Value

/-!
# Log events

A log event has a level, a name and fields. Fields that were bound to a log beforehand stand in
front of the event's own; of two fields with one name the later one counts.
-/

namespace ClassSharing

/-- The level of an event. -/
inductive Level where
  | debug
  | info
  | warning
  | error
  deriving DecidableEq, Repr

/-- The name of a level. -/
def Level.text : Level → String
  | debug => "debug"
  | info => "info"
  | warning => "warning"
  | error => "error"

/-- The number of a level: a higher one is graver. -/
def Level.number : Level → Nat
  | debug => 10
  | info => 20
  | warning => 30
  | error => 40

/-- A log event. -/
structure Event where
  level : Level
  name : String
  fields : List (String × Value)
  deriving Repr

namespace Event

/-- The event with fields bound beforehand. -/
def bind (bound : List (String × Value)) (e : Event) : Event :=
  { e with fields := bound ++ e.fields }

/-- The field that tells which part of the program logs. -/
def component (name : String) : List (String × Value) := [("component", .str name)]

/-- The event in one line. -/
def line (e : Event) : String :=
  " ".intercalate
    (e.level.text :: e.name :: e.fields.map fun (name, value) => name ++ "=" ++ value.shown)

end Event

end ClassSharing
