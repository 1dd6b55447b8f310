import ClassSharing.Config
import ClassSharing.Resolution.Log
import ClassSharing.Run
import ClassSharing.Yaml.Document

/-!
# Settings in a file

A file of settings holds one mapping, or nothing. Its keys are laid over the settings of the
environment; unlike an override that is missing, a key without a value hides the environment's.
-/

namespace ClassSharing.Config

/-- The number of bytes that are read at once. -/
def blockSize : Nat := 8192

/-- The value of the document in the bytes of a file. -/
def documentOf (bytes : List UInt8) : Except Failure Value :=
  match Text.Utf8.decodeBlocks blockSize [] bytes with
  | .error fault => .error (.undecodable fault)
  | .ok text => Yaml.valueOf (Text.foldLineEnds text)

/-- The error of a document that is no mapping. -/
def noMapping (file : String) : DomainError :=
  .configuration "Configuration must be a mapping" (some file) none

/-- The details of a document that is no mapping. -/
def documentType (v : Value) : String := "top-level YAML type: " ++ v.typeName

/-- Reads the settings of a file. -/
def ofFile {σ : Type} (files : FileTree) (around : Surroundings) (path : Path) :
    Run σ Config := do
  let document ← Run.ofExcept ((files.readExisting path.text).bind documentOf)
  match document with
  | .mapping fields => Run.ofChecked model (overEnvironment around fields)
  | .null => Run.ofChecked model (overEnvironment around [])
  | v =>
    Run.logAll ((noMapping path.text).detailEvents (some (documentType v)))
    Run.fail (.domain (noMapping path.text))

end ClassSharing.Config
