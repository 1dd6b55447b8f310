import ClassSharing.Failure
import ClassSharing.Text.Break

/-!
# Resolution logs and class lists

Resolution lines are read from a log, which holds nothing else, or from a class list, where they
stand behind a tag among the names of classes.
-/

namespace ClassSharing

namespace FileTree

/-- Whether something stands at an address. An address that cannot be one stands for nothing. -/
def isThere (t : FileTree) (address : String) : Except Failure Bool :=
  if address.toList.contains '\x00' then .ok false
  else match t.find address with
    | .ok _ => .ok true
    | .error .nameTooLong => .error (.system (.ofFault .nameTooLong address))
    | .error _ => .ok false

/-- The bytes of a file that has to be there. -/
def readExisting (t : FileTree) (address : String) : Except Failure (List UInt8) := do
  if !(← t.isThere address) then throw (.system (.missing address))
  match t.read address with
  | .ok bytes => return bytes
  | .error fault => throw (.system (.ofFault fault address))

end FileTree

namespace ResolutionLog

/-- What stands in front of a resolution line in a class list. -/
def tag : String := "@lambda-form-invoker "

/-- A line of a class list: a resolution line, which stands behind the tag, or another text. -/
inductive ClassListLine where
  | tagged (line : List Char)
  | other (text : List Char)
  deriving DecidableEq, Repr

namespace ClassListLine

/-- A line as it is written. -/
def text : ClassListLine → List Char
  | tagged line => tag.toList ++ line
  | other text => text

/-- The resolution lines among the lines of a class list. -/
def resolutionLines (lines : List ClassListLine) : List (List Char) := lines.filterMap fun
  | tagged line => some line
  | other _ => none

end ClassListLine

/-- The text behind the tag of a line, if it has one. -/
def untag? (line : List Char) : Option (List Char) :=
  if tag.toList.isPrefixOf line then some (line.drop tag.toList.length) else none

/-- The resolution lines of a class list. -/
def extract (lines : List String) : List String :=
  lines.filterMap fun line => (untag? line.toList).map String.ofList

/-- The lines of a log that are not blank. -/
def filled (lines : List String) : List String :=
  lines.filter fun line => !Text.isBlankText line.toList

/-- The resolution lines among the lines of a file. -/
def select (classList : Bool) (lines : List String) : List String :=
  if classList then extract lines else filled lines

/-- The lines of the text of a file. -/
def fileLines (text : List Char) : List String :=
  (Text.splitLines (Text.foldLineEnds text)).map String.ofList

/-- Reads the resolution lines of a file. A file that may not be read has to be there all the
same. -/
def read (files : FileTree) (unreadable : Bool) (path : Path) (classList : Bool) :
    Except Failure (List String) := do
  if !(← files.isThere path.text) then throw (.system (.missing path.text))
  if unreadable then throw (.system (.denied path.text))
  match Text.Utf8.decode (← files.readExisting path.text) with
  | .ok text => return select classList (fileLines text)
  | .error fault => throw (.undecodable fault)

end ResolutionLog

end ClassSharing
