import ClassSharing.Json.Printer
import ClassSharing.Text.Tab

/-!
# Messages

What is told to the user: plain texts, texts behind a mark that says how a command has gone, and
reports in JSON.
-/

namespace ClassSharing

/-- A mark in front of a message. -/
inductive Mark where
  | success
  | failure
  | caution
  deriving DecidableEq, Repr

/-- The sign of a mark. -/
def Mark.sign : Mark → String
  | success => "✓"
  | failure => "✗"
  | caution => "⚠"

/-- A message. -/
inductive Message where
  | plain (text : String)
  | marked (mark : Mark) (text : String)
  | json (value : Json)
  deriving Repr

namespace Message

/-- The text of a message, before it is laid out on the console. -/
def text : Message → String
  | plain s => s
  | marked mark s => mark.sign ++ " " ++ s
  | json v => v.toText

/-- The message as it stands on the console. -/
def shown (m : Message) : String := Text.onConsole m.text

end Message

/-- The styles of the console: whether colours are switched off, and whether it is a terminal that
moves its cursor. -/
structure ConsoleStyle where
  noColor : Bool
  isTerminal : Bool
  deriving DecidableEq, Repr

/-- The style asked for: colours are off on request or by the environment. Output goes to no
terminal. -/
def ConsoleStyle.create (environmentOff noColor : Bool) : ConsoleStyle :=
  ⟨noColor || environmentOff, false⟩

end ClassSharing
