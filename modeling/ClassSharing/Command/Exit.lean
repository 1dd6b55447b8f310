import ClassSharing.Command.Arguments
import ClassSharing.Failure
import ClassSharing.Report

/-!
# How commands end

A command ends with a status, with an error of its own, with a usage error, or with a failure that
it does not handle.
-/

namespace ClassSharing

/-- The status of a command that the user has to correct. -/
def userStatus : Nat := 1

/-- The status of a command that the system has stopped. -/
def systemStatus : Nat := 2

/-- An error of a command, with the status it asks for. -/
structure CommandError where
  message : String
  status : Nat
  deriving DecidableEq, Repr

namespace CommandError

/-- What is shown of an error. -/
def shown (e : CommandError) : Message := .marked .failure e.message

/-- A file was not found. -/
def fileNotFound (file : String) : CommandError := ⟨"File not found: " ++ file, systemStatus⟩

/-- A file may not be used. -/
def permissionDenied (file operation : String) : CommandError :=
  ⟨"Permission denied: Cannot " ++ operation ++ " " ++ file, systemStatus⟩

/-- Settings are not valid. -/
def invalidConfiguration (e : ValidationError) (source : String) : CommandError :=
  ⟨"Invalid configuration in " ++ source ++ ":\n" ++ e.summary, userStatus⟩

end CommandError

/-- The description of a rejected line, with the line itself. -/
def Rejection.description (r : Rejection) : String := r.message ++ "\n  " ++ r.line

/-- How a command ends. -/
inductive Exit where
  | status (code : Nat)
  | refused (e : CommandError)
  | usage (e : UsageError)
  | escaped (x : Raised)
  deriving DecidableEq, Repr

/-- The status that the process of a command ends with; `none` if it is stopped by a failure. -/
def Exit.code? : Exit → Option Nat
  | status code => some code
  | refused e => some e.status
  | usage _ => some systemStatus
  | escaped _ => none

end ClassSharing
