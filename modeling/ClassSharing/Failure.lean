import ClassSharing.Event
import ClassSharing.FileTree
import ClassSharing.Resolution.Record

/-!
# Failures

Everything that can go wrong: a fault of the operating system, an error of this program's domain, a
failed check, an unreadable document, or a failure of a collaborator. An interrupt is no failure;
nothing that handles failures stops it.
-/

namespace ClassSharing

/-! ### Faults of the system -/

/-- The kinds of system errors. -/
inductive SystemKind where
  | notFound
  | permission
  | isDirectory
  | notDirectory
  | timeout
  | sameFile
  | other
  deriving DecidableEq, Repr

/-- The name of a kind. -/
def SystemKind.name : SystemKind → String
  | notFound => "FileNotFoundError"
  | permission => "PermissionError"
  | isDirectory => "IsADirectoryError"
  | notDirectory => "NotADirectoryError"
  | timeout => "TimeoutError"
  | sameFile => "SameFileError"
  | other => "OSError"

/-- A system error. -/
structure SystemError where
  kind : SystemKind
  message : String
  deriving DecidableEq, Repr

namespace SystemError

/-- The kind of a fault of a file. -/
def kindOf : FileFault → SystemKind
  | .notFound => .notFound
  | .notDirectory => .notDirectory
  | .isDirectory => .isDirectory
  | .nameTooLong => .other

/-- The wording of a numbered fault at an address. -/
def wording (number : Nat) (text address : String) : String :=
  "[Errno " ++ toString number ++ "] " ++ text ++ ": " ++ Text.quoted address

/-- The error of a fault at an address. -/
def ofFault (fault : FileFault) (address : String) : SystemError :=
  ⟨kindOf fault, wording fault.number fault.text address⟩

/-- The error of a file that may not be read. -/
def denied (address : String) : SystemError :=
  ⟨.permission, wording 13 "Permission denied" address⟩

/-- The error of a file that should exist. -/
def missing (address : String) : SystemError := ⟨.notFound, "File not found: " ++ address⟩

end SystemError

/-! ### Errors of the domain -/

/-- An error of this program's domain. -/
inductive DomainError where
  | general (message : String)
  /-- A line was rejected. -/
  | format (rejection : Rejection)
  /-- A required argument is missing. -/
  | argument (message : String)
  /-- A setting is missing or wrong, perhaps in a file or a field. -/
  | configuration (message : String) (file field : Option String)
  /-- A host does not offer an operation. -/
  | unsupported (operation : String) (reason : Option String)
  deriving DecidableEq, Repr

namespace DomainError

/-- The name of an error's kind. -/
def name : DomainError → String
  | general _ => "CDSError"
  | format _ => "InvalidFormatError"
  | argument _ => "InvalidArgumentError"
  | configuration .. => "ConfigurationError"
  | unsupported .. => "UnsupportedOperationError"

/-- The part of a text, if it is there and not empty. -/
def clause (before : String) (text : Option String) (after : String) : List String :=
  match text with
  | some s => if s = "" then [] else [before ++ s ++ after]
  | none => []

/-- The wording of an error. -/
def message : DomainError → String
  | general m => m
  | format r => r.message
  | argument m => m
  | configuration m file field =>
    match clause "in " file "" ++ clause "field '" field "'" with
    | [] => m
    | parts => m ++ " (" ++ ", ".intercalate parts ++ ")"
  | unsupported operation reason =>
    String.join
      (("Operation not supported by this host: " ++ operation) :: clause " (" reason ")")

/-- Whether the error is one of a wrong value. -/
def isValueError : DomainError → Bool
  | format _ | argument _ => true
  | _ => false

/-- The event that tells the details of an error that are not shown, if there are any. -/
def detailEvents (e : DomainError) (details : Option String) : List Event :=
  match details with
  | none | some "" => []
  | some d =>
    [⟨.error, "cds_error",
      [("error_type", .str e.name), ("user_message", .str e.message),
        ("internal_details", .str d)]⟩]

end DomainError

/-! ### All failures -/

/-- The kinds of other failures. -/
inductive GeneralKind where
  | runtime
  | value
  | key
  | index
  | type
  | member
  | overflow
  deriving DecidableEq, Repr

/-- The name of a kind. -/
def GeneralKind.name : GeneralKind → String
  | runtime => "RuntimeError"
  | value => "ValueError"
  | key => "KeyError"
  | index => "IndexError"
  | type => "TypeError"
  | member => "AttributeError"
  | overflow => "OverflowError"

/-- A failure. -/
inductive Failure where
  | system (e : SystemError)
  | domain (e : DomainError)
  | validation (e : ValidationError)
  /-- A document is not well-formed. -/
  | document
  /-- Bytes are no text. -/
  | undecodable (fault : Text.Utf8.Fault)
  | general (kind : GeneralKind) (message : String)
  deriving DecidableEq, Repr

namespace Failure

/-- The name of a failure's kind, as it is logged. -/
def name : Failure → String
  | system e => e.kind.name
  | domain e => e.name
  | validation _ => "ValidationError"
  | document => "YAMLError"
  | undecodable _ => "UnicodeDecodeError"
  | general kind _ => kind.name

/-- The wording of a failure. -/
def message : Failure → String
  | system e => e.message
  | domain e => e.message
  | validation e => e.summary
  | document => "invalid document"
  | undecodable fault => fault.message
  | general _ message => message

/-- The failure of reading a line. -/
def ofLineFault : LineFault → Failure
  | .rejected r => domain (.format r)
  | .invalid e => validation e

/-- A text holds a character that no address may have. -/
def embeddedNull : Failure := general .value "embedded null byte"

end Failure

/-- What ends a run early: a failure, or an interrupt from outside. -/
inductive Raised where
  | failure (f : Failure)
  | interrupt (message : String)
  deriving DecidableEq, Repr

end ClassSharing
