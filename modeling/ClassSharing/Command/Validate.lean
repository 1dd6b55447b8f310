import ClassSharing.Command.Arguments
import ClassSharing.Command.Exit
import ClassSharing.LocalHost
import ClassSharing.Resolution.Batch

/-!
# The command `validate`

Checks the resolution lines of a file and reports how many there are of each kind, or the first
rejected line. The report is a message or a JSON object, made from the same numbers.
-/

namespace ClassSharing

/-- The form of a report. -/
inductive ReportFormat where
  | table
  | json
  deriving DecidableEq, Repr

/-- The options of the command. -/
structure ValidateOptions where
  file : String
  classList : Bool
  format : ReportFormat
  deriving DecidableEq, Repr

namespace Validate

/-- The numbers of accepted lines. -/
structure Counts where
  lambdaForms : Nat
  species : Nat
  total : Nat
  deriving DecidableEq, Repr

/-- The numbers of records. -/
def Counts.of (records : List Record) : Counts where
  lambdaForms := records.countP fun r => r.kind == .lambdaForm
  species := records.countP fun r => r.kind == .species
  total := records.length

/-- The report of accepted lines. -/
def acceptedReport (format : ReportFormat) (n : Counts) : Message :=
  match format with
  | .json => .json (.obj [("valid", .bool true), ("lines", .int n.total),
      ("lf_resolve", .int n.lambdaForms), ("species_resolve", .int n.species)])
  | .table => .marked .success ("Resolution lines valid: " ++ toString n.total ++ " (" ++
      toString n.lambdaForms ++ " LF_RESOLVE, " ++ toString n.species ++ " SPECIES_RESOLVE)")

/-- A number that may be missing, in JSON. -/
def numberJson : Option Int → Json
  | some n => .int n
  | none => .null

/-- The report of a rejected line. -/
def rejectedReport (format : ReportFormat) (r : Rejection) : Message :=
  match format with
  | .json => .json (.obj [("valid", .bool false), ("line_number", numberJson r.number),
      ("reason", .str r.reason.text), ("line", .str r.line)])
  | .table => .marked .failure r.description

/-- The end of a command whose file could not be read. -/
def unreadExit (file : String) : Failure → Exit
  | .system ⟨.notFound, _⟩ => .refused (.fileNotFound file)
  | .system ⟨.permission, _⟩ => .refused (.permissionDenied file "read")
  | f => .escaped (.failure f)

/-- Checks lines and reports the verdict. -/
def report {σ : Type} (format : ReportFormat) (lines : List String) : Run σ Exit := do
  match ← Batch.judge lines with
  | .ok records =>
    Run.say (acceptedReport format (.of records))
    return .status 0
  | .error (.rejected r) =>
    Run.say (rejectedReport format r)
    return .status userStatus
  | .error (.invalid e) => return .escaped (.failure (.validation e))

/-- Runs the command. -/
def run (unreadable : Bool) (o : ValidateOptions) : Run LocalWorld Exit := fun w =>
  match ResolutionLog.read w.files unreadable (Path.ofString o.file) o.classList with
  | .ok lines => report o.format lines w
  | .error f => ⟨.ok (unreadExit o.file f), [], w⟩

end Validate

end ClassSharing
