import ClassSharing.Command.Arguments
import ClassSharing.Command.Exit
import ClassSharing.Config.File
import ClassSharing.LocalHost
import ClassSharing.Session

/-!
# The command `dump`

Dumps an archive on the stand-alone host, or tells what would be done. The settings are those of
the environment, overlaid by a file and by the options.
-/

namespace ClassSharing

/-- The options of the command. -/
structure DumpOptions where
  isStatic : Bool
  output : Option String
  config : Option String
  javaHome : Option String
  classList : Option String
  vmArguments : List String
  debug : Bool
  dryRun : Bool
  deriving DecidableEq, Repr

/-- What commands work with: what settings are made up from, the version of this program, whether
files may not be read, and the launcher of processes. -/
structure CommandContext where
  around : Surroundings
  version : String
  unreadable : Bool
  launcher : Launcher LocalWorld

namespace DumpOptions

/-- The kind of archive that is asked for. -/
def kind (o : DumpOptions) : ArchiveKind := if o.isStatic then .static else .dynamic

/-- A field that is set by an option, if the option is given. -/
def field (name : String) : Option Value → Entries
  | some v => [(.str name, v)]
  | none => []

/-- The fields that are set by options. -/
def overrides (o : DumpOptions) : Entries :=
  field "java_home" (o.javaHome.map .str) ++
  field "class_list_source" (o.classList.map .str) ++
  field "vm_arguments"
    (if o.vmArguments.isEmpty then none else some (.list (o.vmArguments.map .str))) ++
  field "debug" (if o.debug then some (.bool true) else none)

end DumpOptions

namespace DumpCommand

variable {σ : Type}

/-- The settings of the environment, the file and the options. -/
def settings (ctx : CommandContext) (files : FileTree) (o : DumpOptions) : Run σ Config :=
  match o.config with
  | none => Run.ofChecked Config.model (Config.ofEnvironment ctx.around o.overrides)
  | some file => do
    let base ← Config.ofFile files ctx.around (Path.ofString file)
    Run.ofChecked Config.model
      (Config.ofFields ctx.around.pid (base.toFields.overlay o.overrides))

/-- Prints a plain message. -/
def say (s : String) : Run σ Unit := Run.say (.plain s)

/-- Tells what a dump would do. -/
def plan (ctx : CommandContext) (c : Config) (o : DumpOptions) : Run LocalWorld Unit := do
  let r := Dump.request c o.kind o.output
  say ("Archive: " ++ r.archive)
  match r.classList with
  | none => say "Dynamic archives are written by the running VM; no process is started."
  | some list =>
    say ("Class list: " ++ list)
    say "Command:"
    let spec ← Dump.process (LocalHost.machine c (some ctx.version)) c r
    say spec.render

/-- The collaborators of a dump on the stand-alone host. -/
def collaborators (ctx : CommandContext) (c : Config) : Collaborators LocalWorld :=
  ⟨LocalHost.machine c (some ctx.version), ctx.launcher, none⟩

/-- The messages at the end of a dump. A process that has failed does not make the dump fail. -/
def resultMessages (r : DumpResult) : List Message :=
  let finished := [.marked .success ("Archive dump finished: " ++ r.archive)]
  match r.exitCode with
  | none | some 0 => finished
  | some n => .marked .caution ("Dump process exited with status " ++ toString n) :: finished

/-- Dumps an archive. -/
def perform (ctx : CommandContext) (c : Config) (o : DumpOptions) : Run LocalWorld Unit := do
  let k := collaborators ctx c
  let session ← Session.start k c
  let result ← Session.dump k session o.isStatic o.output
  Run.sayAll (resultMessages result)

/-- The work of the command. -/
def body (ctx : CommandContext) (o : DumpOptions) : Run LocalWorld Unit := fun w =>
  (do
    let c ← settings ctx w.files o
    if o.dryRun then plan ctx c o else perform ctx c o : Run LocalWorld Unit) w

/-- Where settings that are not valid come from. -/
def source (o : DumpOptions) : String :=
  match o.config with
  | none | some "" => "options"
  | some file => file

/-- Ends with a message and a status. -/
def stop (message : String) (status : Nat) : Run σ Exit := do
  Run.say (.marked .failure message)
  return .status status

/-- The end of a command whose work has ended early. -/
def handle (o : DumpOptions) : Raised → Run σ Exit
  | .failure (.system ⟨.notFound, message⟩) => stop message systemStatus
  | .failure (.validation e) => return .refused (.invalidConfiguration e (source o))
  | .failure (.domain e) => stop e.message userStatus
  | .failure (.system e) => stop ("Dump failed: " ++ e.message) systemStatus
  | .failure .document =>
    stop ("Invalid YAML in " ++ o.config.getD "None" ++ ": " ++ Failure.document.message)
      userStatus
  | x => return .escaped x

/-- Runs the command. -/
def run (ctx : CommandContext) (o : DumpOptions) : Run LocalWorld Exit := do
  match ← Run.outcome (body ctx o) with
  | .ok () => return .status 0
  | .error x => handle o x

end DumpCommand

end ClassSharing
