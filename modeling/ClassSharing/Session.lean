import ClassSharing.Archive.Dump
import ClassSharing.Resolution.Generation

/-!
# Sessions

A session is the one place where a host wires in its machine. It asks for the machine's flags once,
when it is opened, and answers by them from then on.
-/

namespace ClassSharing

/-- The collaborators of a session. -/
structure Collaborators (σ : Type) where
  machine : Machine σ
  launcher : Launcher σ
  generator : Option (Generator σ)

/-- The flags of a machine, asked for in their order. -/
def SharingState.query {σ : Type} (m : Machine σ) : Run σ SharingState := do
  let classList ← Run.ask m .dumpingClassList
  let archive ← Run.ask m .dumpingArchive
  let sharing ← Run.ask m .sharingEnabled
  Run.ofChecked model (ofFields (.ofList
    [("dumping_class_list", classList), ("dumping_archive", archive),
      ("sharing_enabled", sharing)]))

/-- An open session: its settings, and the flags as they were when it was opened. -/
structure Session where
  config : Config
  state : SharingState
  deriving DecidableEq, Repr

namespace Session

variable {σ : Type}

/-- The fields that all events of a session have. -/
def bound : List (String × Value) := Event.component "cds_runtime"

/-- Opens a session. -/
def start (k : Collaborators σ) (config : Config) : Run σ Session := do
  let state ← SharingState.query k.machine
  Run.log ⟨.debug, "sharing_state_initialized", bound ++ state.fields⟩
  return ⟨config, state⟩

/-- Opens a session with given settings, or with those of the environment. -/
def openWith (k : Collaborators σ) (around : Surroundings) (given : Option Config) :
    Run σ Session := do
  match given with
  | some config => start k config
  | none => start k (← Run.ofChecked Config.model (Config.ofEnvironment around []))

/-- Logs a line to the machine while a class list is recorded. -/
def record (k : Collaborators σ) (s : Session) (line : String) : Run σ Unit :=
  if s.state.dumpingClassList then Run.ask k.machine (.logInvoker line) else pure ()

/-- Records the resolution of a lambda form. -/
def traceLambdaForm (k : Collaborators σ) (s : Session)
    (marker holder method descriptor : String) : Run σ Unit :=
  record k s (" ".intercalate [marker, holder, method, descriptor])

/-- Records the resolution of a species. -/
def traceSpecies (k : Collaborators σ) (s : Session) (marker species : String) : Run σ Unit :=
  record k s (" ".intercalate [marker, species])

/-- Sets the static fields of a class from the archive. A failure is logged and leaves them as they
are. -/
def initStatics (k : Collaborators σ) (target : Target) : Run σ Unit := do
  match ← Run.outcome (Run.ask k.machine (.initStatics target)) with
  | .ok () => return ()
  | .error (.failure f) =>
    Run.log ⟨.debug, "archived_statics_not_initialized",
      bound ++ [("target", .str target.text), ("error_type", .str f.name)]⟩
  | .error x => Run.raise x

/-- Restores archived modules. -/
def defineModules (k : Collaborators σ) (platform system : Value) : Run σ Unit :=
  Run.ask k.machine (.defineModules platform system)

/-- The seed of the machine. -/
def seed (k : Collaborators σ) : Run σ Int := Run.ask k.machine .seed

/-- Generates the holder classes of a batch of lines. -/
def generate (k : Collaborators σ) (lines : Option (List String)) : Run σ (List ClassItem) :=
  match k.generator with
  | none =>
    Run.fail (.domain
      (.unsupported "generate_holder_classes" (some "no generator configured")))
  | some g => Batch.generate g lines

/-- Dumps an archive. -/
def dump (k : Collaborators σ) (s : Session) (isStatic : Bool) (fileName : Option String) :
    Run σ DumpResult :=
  Dump.dump k.machine k.launcher s.config (if isStatic then .static else .dynamic) fileName

/-! ### Operations -/

/-- What can be asked of an open session. -/
inductive Operation where
  | flags
  | traceLambdaForm (marker holder method descriptor : String)
  | traceSpecies (marker species : String)
  | initStatics (target : Target)
  | defineModules (platform system : Value)
  | seed
  | generate (lines : Option (List String))
  | dump (isStatic : Bool) (fileName : Option String)

/-- What an operation answers. -/
inductive Answer where
  | nothing
  | flags (state : SharingState)
  | number (n : Int)
  | classes (items : List ClassItem)
  | dumped (result : DumpResult)

/-- Performs an operation. -/
def perform (k : Collaborators σ) (s : Session) : Operation → Run σ Answer
  | .flags => return .flags s.state
  | .traceLambdaForm marker holder method descriptor => do
    traceLambdaForm k s marker holder method descriptor
    return .nothing
  | .traceSpecies marker species => do
    traceSpecies k s marker species
    return .nothing
  | .initStatics target => do
    initStatics k target
    return .nothing
  | .defineModules platform system => do
    defineModules k platform system
    return .nothing
  | .seed => return .number (← seed k)
  | .generate lines => return .classes (← generate k lines)
  | .dump isStatic fileName => return .dumped (← dump k s isStatic fileName)

/-- Performs operations one after the other. One that fails does not stop the others. -/
def performAll (k : Collaborators σ) (s : Session) :
    List Operation → Run σ (List (Except Raised Answer))
  | [] => return []
  | op :: rest => do
    let first ← Run.outcome (perform k s op)
    let others ← performAll k s rest
    return first :: others

end Session

end ClassSharing
