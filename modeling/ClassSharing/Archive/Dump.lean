import ClassSharing.Archive.Request
import ClassSharing.Config
import ClassSharing.Span
import ClassSharing.Text.Break

/-!
# Dumps

A static dump lets the machine write a class list, launches a process that turns it into an
archive, and waits for its end. A dynamic dump asks the machine for the archive. With diagnostics
on, the command line and the output of the process are printed; nothing else depends on that.
-/

namespace ClassSharing.Dump

variable {σ : Type}

/-- The fields that all events of a dump have. -/
def bound : List (String × Value) := Event.component "dump_orchestrator"

/-- An event of a dump. -/
def event (level : Level) (name : String) (fields : List (String × Value)) : Event :=
  ⟨level, name, bound ++ fields⟩

/-- The request for a dump under given settings. -/
def request (c : Config) (kind : ArchiveKind) (fileName : Option String) : DumpRequest :=
  .create kind fileName c.pid c.debug

/-- The process that carries out a request. Settings without an installation are found out before
the machine is asked for its arguments. -/
def process (m : Machine σ) (c : Config) (r : DumpRequest) : Run σ ProcessSpec :=
  match r.classList with
  | none => Run.fail (.general .value "static dump request required")
  | some list => do
    let launcher ← Run.ofExcept (c.launcher.mapError .domain)
    let arguments ← Run.ask m .arguments
    return staticDumpProcess launcher.text list r.archive arguments

/-! ### Diagnostics -/

/-- Prints a message of the diagnostics. -/
def say (s : String) : Run σ Unit := Run.say (.plain s)

/-- The heading of one of the streams of a process. -/
def streamHeading (pid : Int) (stream : String) : String :=
  "Dumping process " ++ toString pid ++ " " ++ stream ++ ": "

/-- The messages for what a process has written to a stream. -/
def streamMessages (pid : Int) (stream : String) (output : Option String) : List Message :=
  .plain (streamHeading pid stream) :: (Text.lines (output.getD "")).map .plain

/-! ### Running the process -/

/-- Launches a process and waits for its end. With diagnostics its output is read first. -/
def runProcess (launcher : Launcher σ) (spec : ProcessSpec) (debug : Bool) : Run σ Int := do
  if debug then
    let child ← Run.call (.spawn spec .captured) (launcher spec)
    let (out, err) ← Run.await .communicate child.written
    Run.sayAll (streamMessages child.pid "Stdout" out)
    Run.sayAll (streamMessages child.pid "Stderr" err)
    Run.await .wait child.exit
  else
    let child ← Run.call (.spawn spec .discarded) (launcher spec)
    Run.await .wait child.exit

/-- The attributes of the span of a dump. -/
def spanAttributes (r : DumpRequest) : List (String × Value) := [("archive_file", .str r.archive)]

/-- The part of a static dump inside its span: the process that was launched and its exit status. -/
def staticBody (m : Machine σ) (launcher : Launcher σ) (c : Config) (r : DumpRequest)
    (list : String) : Run σ (ProcessSpec × Int) := do
  Run.ask m (.dumpClassList list)
  Run.log (event .info "class_list_dumped" [("class_list_file", .str list)])
  let spec ← process m c r
  if r.debug then
    say "Static dump cmd: "
    say spec.render
  let exit ← runProcess launcher spec r.debug
  return (spec, exit)

/-- The event at the end of a static dump. -/
def staticEvent (r : DumpRequest) (exit : Int) : Event :=
  if exit = 0 then event .info "static_dump_completed" [("archive_file", .str r.archive)]
  else event .warning "static_dump_process_exited"
    [("exit_code", .int exit), ("archive_file", .str r.archive)]

/-- Carries out a static request. -/
def dumpStatic (m : Machine σ) (launcher : Launcher σ) (c : Config) (r : DumpRequest)
    (list : String) : Run σ DumpResult := do
  let (spec, exit) ← Run.span "dump_static_archive" (spanAttributes r)
    (staticBody m launcher c r list)
  Run.log (staticEvent r exit)
  return ⟨r.kind, r.archive, some list, some spec.command, some exit⟩

/-- Carries out a dynamic request. -/
def dumpDynamic (m : Machine σ) (r : DumpRequest) : Run σ DumpResult := do
  Run.span "dump_dynamic_archive" (spanAttributes r) (Run.ask m (.dumpDynamic r.archive))
  Run.log (event .info "dynamic_dump_completed" [("archive_file", .str r.archive)])
  return ⟨r.kind, r.archive, none, none, none⟩

/-- Carries out a request: a static one has a class list, a dynamic one has none. -/
def carryOut (m : Machine σ) (launcher : Launcher σ) (c : Config) (r : DumpRequest) :
    Run σ DumpResult :=
  match r.classList with
  | some list => dumpStatic m launcher c r list
  | none => dumpDynamic m r

/-- Dumps an archive, the default one if none is named. -/
def dump (m : Machine σ) (launcher : Launcher σ) (c : Config) (kind : ArchiveKind)
    (fileName : Option String) : Run σ DumpResult := do
  let r := request c kind fileName
  if r.debug then
    say (kind.label ++ " dump to file " ++ r.archive)
  Run.log (event .info "dump_requested"
    [("kind", .str kind.name), ("archive_file", .str r.archive)])
  carryOut m launcher c r

end ClassSharing.Dump
