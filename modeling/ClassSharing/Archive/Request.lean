import ClassSharing.Validation.Convert

/-!
# Dump requests

An archive is static, written by a fresh process from a class list, or dynamic, written by the
running machine. A request names the archive and, for a static one, the class list beside it.
-/

namespace ClassSharing

/-- The kind of an archive. -/
inductive ArchiveKind where
  | static
  | dynamic
  deriving DecidableEq, Repr

namespace ArchiveKind

/-- The kinds. -/
def all : List ArchiveKind := [static, dynamic]

/-- The name of a kind. -/
def name : ArchiveKind → String
  | static => "static"
  | dynamic => "dynamic"

/-- The name of a kind at the head of a message. -/
def label : ArchiveKind → String
  | static => "Static"
  | dynamic => "Dynamic"

/-- The kind of a name. -/
def ofName? (name : String) : Option ArchiveKind := all.find? fun k => k.name == name

/-- The kinds by their names. -/
def choices : List (String × ArchiveKind) := all.map fun k => (k.name, k)

end ArchiveKind

/-- The archive that is dumped when none is named. -/
def defaultArchiveName (kind : ArchiveKind) (pid : Int) : String :=
  "java_pid" ++ toString pid ++ "_" ++ kind.name ++ ".jsa"

/-- What stands behind the name of an archive in the name of its class list. -/
def classListSuffix : String := ".classlist"

/-- Whether the class list of an archive fits its kind. -/
def fitsKind (kind : ArchiveKind) (classList : Option String) : Bool :=
  match kind with
  | .static => classList.isSome
  | .dynamic => classList.isNone

/-- A request for a dump. -/
structure DumpRequest where
  kind : ArchiveKind
  archive : String
  classList : Option String
  debug : Bool
  /-- Static dumps have a class list and dynamic ones have none. -/
  fits : fitsKind kind classList = true
  deriving DecidableEq, Repr

namespace DumpRequest

/-- The class list of a kind of archive. -/
def classListOf (kind : ArchiveKind) (archive : String) : Option String :=
  match kind with
  | .static => some (archive ++ classListSuffix)
  | .dynamic => none

/-- The request for a dump, of the default archive if none is named. -/
def create (kind : ArchiveKind) (fileName : Option String) (pid : Int) (debug : Bool) :
    DumpRequest where
  kind := kind
  archive := fileName.getD (defaultArchiveName kind pid)
  classList := classListOf kind (fileName.getD (defaultArchiveName kind pid))
  debug := debug
  fits := by cases kind <;> rfl

/-- The name of the model. -/
def model : String := "DumpRequest"

/-- The names of the fields. -/
def names : List String := ["kind", "archive_file", "class_list_file", "debug"]

/-- The request of checked fields, if its class list fits. -/
def checkFit (kind : ArchiveKind) (archive : String) (classList : Option String) (debug : Bool) :
    Checked DumpRequest :=
  if h : fitsKind kind classList = true then .ok ⟨kind, archive, classList, debug, h⟩
  else match kind with
    | .static => .fail (.rule "static dumps require a class list file")
    | .dynamic => .fail (.rule "dynamic dumps never use a class list file")

/-- The request with the given fields. -/
def ofFields (fields : Entries) : Checked DumpRequest :=
  ((fun k a c d (_ : Unit) => checkFit k a c d) <$>
    Checked.required fields "kind" (Checked.oneOf ArchiveKind.choices) <*>
    Checked.required fields "archive_file" Checked.text <*>
    Checked.optional fields "class_list_file" none (Checked.nullable Checked.text) <*>
    Checked.optional fields "debug" false Checked.bool <*>
    Checked.only names fields).andThen id

end DumpRequest

/-! ### Results -/

/-- What a dump has produced: for a static one, the command line of the process and its exit
status. -/
structure DumpResult where
  kind : ArchiveKind
  archive : String
  classList : Option String
  command : Option (List String)
  exitCode : Option Int
  deriving DecidableEq, Repr

namespace DumpResult

/-- The name of the model. -/
def model : String := "DumpResult"

/-- The names of the fields. -/
def names : List String := ["kind", "archive_file", "class_list_file", "command", "exit_code"]

/-- The result with the given fields. -/
def ofFields (fields : Entries) : Checked DumpResult :=
  (fun k a c cmd e (_ : Unit) => ⟨k, a, c, cmd, e⟩) <$>
    Checked.required fields "kind" (Checked.oneOf ArchiveKind.choices) <*>
    Checked.required fields "archive_file" Checked.text <*>
    Checked.optional fields "class_list_file" none (Checked.nullable Checked.text) <*>
    Checked.optional fields "command" none (Checked.nullable (Checked.list Checked.text)) <*>
    Checked.optional fields "exit_code" none (Checked.nullable Checked.int) <*>
    Checked.only names fields

end DumpResult

end ClassSharing
