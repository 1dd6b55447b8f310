import ClassSharing.Run

/-!
# Batches of lines

A batch is accepted if every line is, and rejected at its first rejected line, whose position
counts from one. Either verdict is logged by one event.
-/

namespace ClassSharing.Batch

variable {σ : Type}

/-- Reads the lines from position `n` on. -/
def parseFrom (n : Nat) : List String → Except LineFault (List Record)
  | [] => .ok []
  | line :: rest =>
    match Record.parseAt (some n) line with
    | .error fault => .error fault
    | .ok record =>
      match parseFrom (n + 1) rest with
      | .error fault => .error fault
      | .ok records => .ok (record :: records)

/-- Reads the lines of a batch. -/
def parse (lines : List String) : Except LineFault (List Record) := parseFrom 1 lines

/-- A number that may be missing, as a loose value. -/
def numberValue : Option Int → Value
  | some n => .int n
  | none => .null

/-- The event of an accepted batch. -/
def acceptedEvent (count : Nat) : Event :=
  ⟨.debug, "resolution_lines_validated", [("count", .int count)]⟩

/-- The event of a rejected line. -/
def rejectedEvent (r : Rejection) : Event :=
  ⟨.warning, "resolution_line_rejected",
    [("line_number", numberValue r.number), ("reason", .str r.reason.text)]⟩

/-- The events of a verdict. A fault that is no rejection is not logged. -/
def verdictEvents : Except LineFault (List Record) → List Event
  | .ok records => [acceptedEvent records.length]
  | .error (.rejected r) => [rejectedEvent r]
  | .error (.invalid _) => []

/-- Reads the lines of a batch and logs the verdict. -/
def judge (lines : List String) : Run σ (Except LineFault (List Record)) := do
  Run.logAll (verdictEvents (parse lines))
  return parse lines

/-- Reads the lines of a batch, logs the verdict, and fails if a line is rejected. -/
def validate (lines : List String) : Run σ (List Record) := do
  let verdict ← judge lines
  Run.ofExcept (verdict.mapError .ofLineFault)

end ClassSharing.Batch
