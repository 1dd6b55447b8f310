import ClassSharing.Failure
import ClassSharing.Validation.Convert

/-!
# Configuration

The settings of dumps and of the stand-alone host. They are checked as one set of fields; the
fields come from the environment, overlaid by a file or by options.
-/

namespace ClassSharing

/-- The settings. -/
structure Config where
  /-- Print the command line of static dumps and the output of their process. -/
  debug : Bool
  /-- Where the launcher is installed. -/
  javaHome : Option Path
  /-- The number in the names of default archives. -/
  pid : Nat
  /-- The arguments of the machine. -/
  vmArguments : List String
  /-- An existing class list. -/
  classListSource : Option Path
  dumpingClassList : Bool
  dumpingArchive : Bool
  sharingEnabled : Bool
  deriving DecidableEq, Repr

/-- The environment: the variables that are set, by name. -/
abbrev Environment := List (String × String)

/-- What settings are made up from: the environment and the number of this process. -/
structure Surroundings where
  environment : Environment
  pid : Nat

namespace Config

/-- The name of the model. -/
def model : String := "CDSConfig"

/-- The names of the fields. -/
def names : List String :=
  ["debug", "java_home", "pid", "vm_arguments", "class_list_source", "dumping_class_list",
    "dumping_archive", "sharing_enabled"]

/-- The settings with the given fields, checked; the number of this process is the default of the
number in archive names. -/
def ofFields (pid : Nat) (fields : Entries) : Checked Config :=
  (fun d j p v c f g s (_ : Unit) => ⟨d, j, p, v, c, f, g, s⟩) <$>
    Checked.optional fields "debug" false Checked.bool <*>
    Checked.optional fields "java_home" none (Checked.nullable Checked.path) <*>
    Checked.optional fields "pid" pid Checked.nat <*>
    Checked.optional fields "vm_arguments" [] (Checked.list Checked.text) <*>
    Checked.optional fields "class_list_source" none (Checked.nullable Checked.path) <*>
    Checked.optional fields "dumping_class_list" false Checked.bool <*>
    Checked.optional fields "dumping_archive" false Checked.bool <*>
    Checked.optional fields "sharing_enabled" false Checked.bool <*>
    Checked.only names fields

/-- A path as a loose value. -/
def pathValue : Option Path → Value
  | some p => .str p.text
  | none => .null

/-- The fields of settings. -/
def toFields (c : Config) : Entries :=
  .ofList
    [("debug", .bool c.debug), ("java_home", pathValue c.javaHome), ("pid", .int c.pid),
      ("vm_arguments", .list (c.vmArguments.map .str)),
      ("class_list_source", pathValue c.classListSource),
      ("dumping_class_list", .bool c.dumpingClassList),
      ("dumping_archive", .bool c.dumpingArchive), ("sharing_enabled", .bool c.sharingEnabled)]

/-- The program that launches a machine, below its installation. -/
def launcher (c : Config) : Except DomainError Path :=
  match c.javaHome with
  | some home => .ok ((home.child "bin" rfl).child "java" rfl)
  | none =>
    .error
      (.configuration "java_home is required to launch a static dump" none (some "java_home"))

/-! ### Environment -/

/-- The variable that switches diagnostics on. -/
def debugVariable : String := "CDS_DEBUG"

/-- The variable of the installation. -/
def homeVariable : String := "JAVA_HOME"

/-- Whether the environment switches diagnostics on: only by the exact text `true`. -/
def debugOf (environment : Environment) : Bool :=
  environment.lookup debugVariable == some "true"

/-- The fields that the environment sets. An installation that is empty is none. -/
def environmentFields (environment : Environment) : Entries :=
  (.str "debug", .bool (debugOf environment)) ::
    match environment.lookup homeVariable with
    | some home => if home = "" then [] else [(.str "java_home", .str home)]
    | none => []

/-- The settings of the environment, overlaid by fields. -/
def overEnvironment (around : Surroundings) (top : Entries) : Checked Config :=
  ofFields around.pid ((environmentFields around.environment).overlay top)

/-- The settings of the environment, overlaid by those fields that are not missing. -/
def ofEnvironment (around : Surroundings) (overrides : Entries) : Checked Config :=
  overEnvironment around (overrides.filter fun e => match e.2 with | .null => false | _ => true)

end Config

end ClassSharing
