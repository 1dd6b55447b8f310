import ClassSharing.Command.Group
import ClassSharing.Logging

/-!
# The program

Runs a command line on the files below the working directory. What the command may look at is read
first, the command runs on the tree of these files, and what it has changed is written behind it.
The program itself launches no process: a static dump ends with the command line that is to be
launched.
-/

namespace ClassSharing.Program

/-! ### Addresses -/

/-- The addresses that an argument may hold: the argument itself, what stands behind its equals
sign, and what stands behind the letter of an option. -/
def addressesOf (arg : String) : List String :=
  let chars := arg.toList
  [arg, String.ofList ((chars.dropWhile (· ≠ '=')).drop 1), String.ofList (chars.drop 2)]

/-- The names from the working directory to an address. An address outside of it has none. -/
def namesOf (address : String) : List String :=
  let step (names : Option (List String)) (name : String) : Option (List String) :=
    names.bind fun names =>
      if name = "." then some names
      else if name = ".." then if names.isEmpty then none else some names.dropLast
      else some (names ++ [name])
  if FileTree.start address = .root then []
  else ((FileTree.names address).foldl step (some [])).getD []

/-- The settings of `dump` for its arguments, as far as they can be told from some files. -/
def dumpAddresses (ctx : CommandContext) (files : FileTree) (args : List String) : List String :=
  match CommandLine.dumpOptions files args with
  | .error _ => []
  | .ok o =>
    match (DumpCommand.settings ctx files o : Run LocalWorld Config) ⟨files, []⟩ with
    | ⟨.ok c, _, _⟩ =>
      (c.classListSource.map Path.text).toList ++ (Dump.request c o.kind o.output).classList.toList
    | _ => []

/-- The addresses that a command works with beyond those in its arguments. -/
def furtherAddresses (ctx : CommandContext) (files : FileTree) (args : List String) :
    List String :=
  match Arguments.cut CommandLine.groupSpecs false args with
  | .ok ⟨_, name :: rest⟩ =>
    if CommandGroup.usual.find? name = some .dump then dumpAddresses ctx files rest else []
  | _ => []

/-- The entries of a tree that another tree has not. -/
def changes (before after : FileTree) : List (String × List UInt8) :=
  after.entries.filterMap fun (names, entry) =>
    match entry with
    | .file bytes =>
      if before.get? names = some entry then none else some ("/".intercalate names, bytes)
    | .directory => none

/-! ### Reading and writing -/

/-- Files that were read, and whether one of them may not be read. -/
structure Loaded where
  files : FileTree
  denied : Bool

/-- Reads what stands at a place. -/
def loadPlace (known : Loaded) (names : List String) : IO Loaded := do
  try
    let bytes ← IO.FS.readBinFile ("/".intercalate names)
    return { known with files := known.files.putFile names (.file bytes.toList) }
  catch
    | .inappropriateType .. =>
      return { known with files := known.files.putFile names .directory }
    | .permissionDenied .. =>
      return ⟨known.files.putFile names (.file []), true⟩
    | _ => return known

/-- Reads what stands at addresses, and at the places above them. -/
def load (known : Loaded) (addresses : List String) : IO Loaded := do
  let places := addresses.flatMap fun a =>
    let names := namesOf a
    (List.range names.length).map fun n => names.take (n + 1)
  places.eraseDups.foldlM loadPlace known

/-- The environment, as far as it counts. -/
def environment : IO Environment := do
  let mut found : Environment := []
  for name in [Config.debugVariable, Config.homeVariable] do
    if let some value ← IO.getEnv name then
      found := found ++ [(name, value)]
  return found

/-- The number of this process; zero where it cannot be told. -/
def processNumber : IO Nat := do
  try
    let stat ← IO.FS.readFile "/proc/self/stat"
    return (String.ofList (stat.toList.takeWhile Char.isDigit)).toNat?.getD 0
  catch _ => return 0

/-- The failure of launching a process. -/
def launcher : Launcher LocalWorld := fun spec w =>
  ⟨.error (.failure (.system ⟨.other, "no process is launched: " ++ spec.render⟩)), [], w⟩

/-! ### The end of a command -/

/-- The lines of the log from a level on. -/
def logLines (least : Nat) (trace : Trace) : List String :=
  (trace.events.filter fun e => least ≤ e.level.number).map Event.line

/-- What is told at the end of a command. -/
def lastWords : Exit → List String
  | .status _ => []
  | .refused e => [e.shown.shown]
  | .usage e => [(Message.marked .failure e.message).shown]
  | .escaped (.failure f) => [(Message.marked .failure (f.name ++ ": " ++ f.message)).shown]
  | .escaped (.interrupt _) => [(Message.marked .failure "Aborted!").shown]

/-- Runs a command line and returns the status of the process. -/
def run (args : List String) : IO UInt32 := do
  let around : Surroundings := ⟨← environment, ← processNumber⟩
  let ctx (denied : Bool) : CommandContext := ⟨around, CommandLine.version, denied, launcher⟩
  let named ← load ⟨.empty, false⟩ (args.flatMap addressesOf)
  let loaded ← load named (furtherAddresses (ctx named.denied) named.files args)
  let ended := CommandLine.run (ctx loaded.denied) .usual args ⟨loaded.files, []⟩
  for m in ended.trace.messages do
    IO.print m.shown
  for (address, bytes) in changes loaded.files ended.world.files do
    IO.FS.writeBinFile address ⟨bytes.toArray⟩
  match ended.result with
  | .error _ => return 1
  | .ok finished =>
    match (finished.logLevel.map fun level => LogSetup.create level false true) with
    | some (.ok setup) =>
      for line in logLines setup.level ended.trace do
        IO.eprintln line
    | _ => pure ()
    for words in lastWords finished.exit do
      IO.print words
    return ((finished.exit.code?.getD 1).toUInt32)

end ClassSharing.Program

/-- The entry of the program. -/
def main (args : List String) : IO UInt32 := ClassSharing.Program.run args
