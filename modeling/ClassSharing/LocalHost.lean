import ClassSharing.Config
import ClassSharing.Digest
import ClassSharing.Machine
import ClassSharing.Resolution.Log

/-!
# The stand-alone host

A machine that is made up from settings, for use where no machine is running. Its flags and
arguments are those of the settings, its class list is a copy of an existing one, and it offers
nothing that needs a running machine.
-/

namespace ClassSharing

/-- What the stand-alone host works on: the files, and the lines that it was asked to log. -/
structure LocalWorld where
  files : FileTree
  invokerLog : List String
  deriving Repr

namespace LocalHost

/-- The fields that all events of the host have. -/
def bound : List (String × Value) := Event.component "local_host"

/-- Why an operation is not offered. -/
def noMachine : String := "requires a running VM"

/-- The failure of an operation that is not offered. -/
def notOffered (operation : String) : Failure :=
  .domain (.unsupported operation (some noMachine))

/-! ### Seed -/

/-- The version that stands for an unknown one. -/
def unknownVersion : String := "0+unknown"

/-- The number of eight bytes in two's complement. -/
def signed (n : Nat) : Int :=
  if n < 0x8000000000000000 then n else (n : Int) - 0x10000000000000000

/-- The seed of a version: the head of the digest of its name. -/
def seed (version : Option String) : Int :=
  let text := "cds-runtime " ++ version.getD unknownVersion
  signed (Digest.ofBigEndian ((Digest.sha256 (Text.Utf8.encode text.toList)).take 8))

/-! ### Class list -/

/-- The error of copying a file onto itself. -/
def sameFile (source target : String) : SystemError :=
  ⟨.sameFile, "PosixPath(" ++ Text.quoted source ++ ") and " ++ Text.quoted target ++
    " are the same file"⟩

/-- The error of a target that asks for a directory that is not there. -/
def noDirectory (target : String) : SystemError :=
  ⟨.notFound, "Directory does not exist: " ++ target⟩

/-- The error of writing to a target. -/
def targetError (files : FileTree) (fault : FileFault) (target : String) : SystemError :=
  match fault, files.find target with
  | .isDirectory, .error _ => noDirectory target
  | fault, _ => .ofFault fault target

/-- Copies a file. The source is opened before the target. -/
def copy (files : FileTree) (source target : String) : Except Failure FileTree := do
  if target.toList.contains '\x00' then throw .embeddedNull
  if files.same source target then throw (.system (sameFile source target))
  match files.read source with
  | .error fault => throw (.system (.ofFault fault source))
  | .ok bytes =>
    match files.write target bytes with
    | .ok files => return files
    | .error fault => throw (.system (targetError files fault target))

/-- Copies the class list of the settings. -/
def copyClassList (c : Config) (files : FileTree) (target : String) :
    Except Failure (String × FileTree) := do
  match c.classListSource with
  | none =>
    throw (.domain (.configuration "class_list_source is required to dump a class list" none
      (some "class_list_source")))
  | some source =>
    if !(← files.isThere source.text) then throw (.system (.missing source.text))
    return (source.text, ← copy files source.text target)

/-! ### Answers -/

variable {α : Type}

/-- An answer that changes nothing. -/
def answer (a : α) (w : LocalWorld) : Reply LocalWorld α := ⟨.ok a, [], w⟩

/-- A failure that changes nothing. -/
def refuse (f : Failure) (w : LocalWorld) : Reply LocalWorld α := ⟨.error (.failure f), [], w⟩

/-- The host as a machine. -/
def machine (c : Config) (version : Option String) : Machine LocalWorld
  | .dumpingClassList, w => answer (.bool c.dumpingClassList) w
  | .dumpingArchive, w => answer (.bool c.dumpingArchive) w
  | .sharingEnabled, w => answer (.bool c.sharingEnabled) w
  | .arguments, w => answer (some (c.vmArguments.map some)) w
  | .seed, w => answer (seed version) w
  | .logInvoker line, w =>
    ⟨.ok (), [⟨.debug, "lambda_form_invoker_logged", bound ++ [("line", .str line)]⟩],
      { w with invokerLog := w.invokerLog ++ [line] }⟩
  | .initStatics _, w => refuse (notOffered "initialize_from_archive") w
  | .defineModules .., w => refuse (notOffered "define_archived_modules") w
  | .dumpDynamic _, w => refuse (notOffered "dump_dynamic_archive") w
  | .dumpClassList target, w =>
    match copyClassList c w.files target with
    | .ok (source, files) =>
      ⟨.ok (), [⟨.info, "class_list_copied",
        bound ++ [("source", .str source), ("target", .str target)]⟩], { w with files := files }⟩
    | .error f => refuse f w

/-- The host as a generator: it generates nothing. -/
def generator : Generator LocalWorld :=
  fun _ w => refuse (notOffered "generate_holder_classes") w

end LocalHost

end ClassSharing
