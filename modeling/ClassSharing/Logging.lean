import ClassSharing.Failure

/-!
# Set-up of the log

The steps through which a log event goes before it is written, and the least level that is written.
-/

namespace ClassSharing

/-- The set-up of the log. -/
structure LogSetup where
  processors : List String
  level : Nat
  format : String
  /-- Whether a log is kept once it has been used. -/
  cache : Bool
  deriving DecidableEq, Repr

namespace LogSetup

/-- The levels by name. -/
def levels : List (String × Nat) :=
  [("CRITICAL", 50), ("FATAL", 50), ("ERROR", 40), ("WARN", 30), ("WARNING", 30), ("INFO", 20),
    ("DEBUG", 10), ("NOTSET", 0)]

/-- The level that is written if none is named. -/
def defaultLevel : String := "INFO"

/-- The steps of the log. -/
def steps (json timestamp : Bool) : List String :=
  (if timestamp then ["TimeStamper"] else []) ++
    ["add_log_level", "add_logger_name", "StackInfoRenderer", "ExceptionRenderer"] ++
    [if json then "JSONRenderer" else "ConsoleRenderer"]

/-- The set-up for a level, whose name may be in lower case. -/
def create (level : String) (json timestamp : Bool) : Except Failure LogSetup :=
  let name := Text.upper level
  match levels.lookup name with
  | some n => .ok ⟨steps json timestamp, n, "%(message)s", true⟩
  | none =>
    .error (.general .member ("module 'logging' has no attribute '" ++ name ++ "'"))

end LogSetup

end ClassSharing
