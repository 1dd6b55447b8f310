import ClassSharing.Text.Occurrence
import ClassSharing.Validation.Convert

/-!
# The command line of a static dump

A static archive is written by a process of its own. Its command line names the class list and the
archive and repeats the arguments of the machine, except those that would ask the process for
another kind of dump. Its environment is replaced as a whole.
-/

namespace ClassSharing

/-- The arguments that ask for another kind of dump, wherever they stand in an argument. -/
def excludedFlags : List String :=
  ["-XX:DumpLoadedClassList=", "-XX:+DumpSharedSpaces", "-XX:+DynamicDumpSharedSpaces",
    "-XX:+RecordDynamicDumpInfo"]

/-- Whether a text holds an excluded flag. -/
def containsExcludedFlag (text : String) : Bool :=
  excludedFlags.any fun flag => Text.occursIn flag.toList text.toList

/-- The arguments that are repeated: those that are there and hold no excluded flag. -/
def keptArguments (arguments : List (Option String)) : List String :=
  arguments.filterMap fun
    | some a => if containsExcludedFlag a then none else some a
    | none => none

/-- The arguments that are repeated, if there are any at all. -/
def filterArguments (arguments : Option (List (Option String))) : List String :=
  match arguments with
  | some as => keptArguments as
  | none => []

/-- A process to be launched: the launcher with its arguments, and the whole environment. -/
structure ProcessSpec where
  command : List String
  environment : List (String × String)
  command_ne : command ≠ []
  deriving DecidableEq, Repr

/-- The environment of a process that writes an archive. -/
def dumpEnvironment : List (String × String) := [("EnvP", "null")]

namespace ProcessSpec

/-- The command line as one text. -/
def render (p : ProcessSpec) : String := " ".intercalate p.command

/-- The name of the model. -/
def model : String := "ExternalProcessSpec"

/-- The names of the fields. -/
def names : List String := ["command", "environment"]

/-- The words of a command line, at least one. -/
def checkCommand (v : Value) : Checked { c : List String // c ≠ [] } :=
  (Checked.list Checked.text v).andThen fun c =>
    if h : c ≠ [] then .ok ⟨c, h⟩ else .fail .emptyList

/-- The entries of an environment, each under its name. -/
def environmentEntries : Entries → Checked (List (String × String))
  | [] => .ok []
  | (k, v) :: rest =>
    let entry := Checked.seq
      (Checked.map Prod.mk (Checked.under (Checked.keyStep k)
        (Checked.under (.field "[key]") (Checked.text k))))
      (Checked.under (Checked.keyStep k) (Checked.text v))
    Checked.seq (Checked.map List.cons entry) (environmentEntries rest)

/-- An environment. -/
def checkEnvironment : Value → Checked (List (String × String))
  | .mapping entries => environmentEntries entries
  | _ => .fail .dictType

/-- The process with the given fields. -/
def ofFields (fields : Entries) : Checked ProcessSpec :=
  (fun c e (_ : Unit) => ⟨c.1, e, c.2⟩) <$>
    Checked.required fields "command" checkCommand <*>
    Checked.optional fields "environment" dumpEnvironment checkEnvironment <*>
    Checked.only names fields

end ProcessSpec

/-- The process that writes a static archive from a class list. -/
def staticDumpProcess (launcher classList archive : String)
    (arguments : Option (List (Option String))) : ProcessSpec where
  command :=
    [launcher, "-Xlog:cds", "-Xshare:dump", "-XX:SharedClassListFile=" ++ classList,
      "-XX:SharedArchiveFile=" ++ archive] ++ filterArguments arguments
  environment := dumpEnvironment
  command_ne := by simp

end ClassSharing
