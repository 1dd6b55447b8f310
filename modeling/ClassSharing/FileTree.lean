import ClassSharing.Path
import ClassSharing.Text.Utf8

/-!
# A tree of files

The files and directories below a working directory, addressed by texts as they stand in a
command. Every part of an address but the last has to be a directory that exists, a part `..` goes
up, and a slash at the end asks for a directory. The places outside the working directory are
directories without entries.

`FileTree.get?` is the view of a tree: what stands at a place given by names. Writing changes it at
one place only (`get?_put`).
-/

namespace ClassSharing

/-- What stands at a place. -/
inductive FileEntry where
  | directory
  | file (bytes : List UInt8)
  deriving DecidableEq, Repr

/-- Why an address cannot be followed or opened. -/
inductive FileFault where
  | notFound
  | notDirectory
  | isDirectory
  | nameTooLong
  deriving DecidableEq, Repr

namespace FileFault

/-- The number of a fault. -/
def number : FileFault → Nat
  | notFound => 2
  | notDirectory => 20
  | isDirectory => 21
  | nameTooLong => 36

/-- The name of a fault. -/
def text : FileFault → String
  | notFound => "No such file or directory"
  | notDirectory => "Not a directory"
  | isDirectory => "Is a directory"
  | nameTooLong => "File name too long"

end FileFault

/-- A place: names below the working directory, or a directory outside of it. -/
inductive Place where
  | inside (names : List String)
  | above (levels : Nat)
  | root
  deriving DecidableEq, Repr

/-- The entries below a working directory, each at its place. -/
structure FileTree where
  entries : List (List String × FileEntry)
  deriving DecidableEq, Repr

namespace FileTree

/-- The tree without entries. -/
def empty : FileTree := ⟨[]⟩

/-- The entry at a place. -/
def get? (t : FileTree) (names : List String) : Option FileEntry :=
  if names = [] then some .directory else t.entries.lookup names

/-- Sets the entry at a place. -/
def put (t : FileTree) (names : List String) (entry : FileEntry) : FileTree :=
  ⟨(names, entry) :: t.entries.filter fun e => e.1 != names⟩

theorem lookup_filter_ne (entries : List (List String × FileEntry)) {names other : List String}
    (h : other ≠ names) :
    (entries.filter fun e => e.1 != names).lookup other = entries.lookup other := by
  induction entries with
  | nil => rfl
  | cons e rest ih =>
    obtain ⟨k, v⟩ := e
    by_cases hk : k = names
    · subst hk
      have : (other == k) = false := by simpa using h
      simp [List.lookup_cons, this, ih]
    · have hk' : (k != names) = true := by simpa using hk
      simp only [List.filter_cons, hk', if_true, List.lookup_cons, ih]

theorem get?_put (t : FileTree) {names other : List String} {entry : FileEntry}
    (h : names ≠ []) :
    (t.put names entry).get? other = if other = names then some entry else t.get? other := by
  by_cases ho : other = names
  · subst ho; simp [get?, put, h]
  · have : (other == names) = false := by simpa using ho
    simp only [get?, put, List.lookup_cons, this, lookup_filter_ne _ ho, ho, if_false]

/-- Puts a file and the directories above it. -/
def putFile (t : FileTree) (names : List String) (entry : FileEntry) : FileTree :=
  let parents := (List.range names.length).drop 1
  let t := parents.foldl
    (fun t n => if (t.get? (names.take n)).isSome then t else t.put (names.take n) .directory) t
  t.put names entry

/-! ### Addresses -/

/-- The most bytes that a name may have. -/
def maxName : Nat := 255

/-- The most bytes that an address may have. -/
def maxAddress : Nat := 4095

/-- The entry at a place inside or outside the working directory. -/
def entryAt (t : FileTree) : Place → Option FileEntry
  | .inside names => t.get? names
  | .above _ | .root => some .directory

/-- The place one name further, if the place it starts from is a directory. -/
def step (t : FileTree) (place : Place) (name : String) : Except FileFault Place :=
  match t.entryAt place with
  | none => .error .notFound
  | some (.file _) => .error .notDirectory
  | some .directory =>
    if name = "." then .ok place
    else if name = ".." then
      match place with
      | .inside [] => .ok (.above 1)
      | .inside names => .ok (.inside names.dropLast)
      | .above n => .ok (.above (n + 1))
      | .root => .ok .root
    else if maxName < name.utf8ByteSize then .error .nameTooLong
    else match place with
      | .inside names => .ok (.inside (names ++ [name]))
      | _ => .error .notFound

/-- The place behind several names. -/
def walk (t : FileTree) (place : Place) : List String → Except FileFault Place
  | [] => .ok place
  | name :: rest => do walk t (← t.step place name) rest

/-- The place where an address starts. -/
def start (address : String) : Place :=
  if address.toList.head? = some '/' then .root else .inside []

/-- The names of an address. -/
def names (address : String) : List String :=
  ((pathPieces address.toList).map String.ofList).filter fun p => p ≠ ""

/-- Whether a slash stands behind the last name of an address. -/
def endsInSlash (address : String) : Bool :=
  !(names address).isEmpty && address.toList.getLast? == some '/'

/-- The fault of an address as a text: it is empty or has too many bytes. -/
def addressFault? (address : String) : Option FileFault :=
  if address = "" then some .notFound
  else if maxAddress < address.utf8ByteSize then some .nameTooLong
  else none

/-- The place of an address. A slash at its end goes one step further, to the same place. -/
def place (t : FileTree) (address : String) : Except FileFault Place :=
  match addressFault? address with
  | some fault => .error fault
  | none =>
    t.walk (start address) (names address ++ if endsInSlash address then ["."] else [])

/-- What an address stands for. -/
def find (t : FileTree) (address : String) : Except FileFault FileEntry := do
  match t.entryAt (← t.place address) with
  | some entry => .ok entry
  | none => .error .notFound

/-- The bytes of the file at an address. -/
def read (t : FileTree) (address : String) : Except FileFault (List UInt8) := do
  match ← t.find address with
  | .file bytes => .ok bytes
  | .directory => .error .isDirectory

/-- Whether a name goes to a place by itself. -/
def isStep (name : String) : Bool := name == "." || name == ".."

/-- The place of an address at which a file is to be written. A slash at the end of a plain name
is refused as soon as the directory above is found, whether or not the name exists. -/
def target (t : FileTree) (address : String) : Except FileFault Place :=
  match addressFault? address with
  | some fault => .error fault
  | none =>
    if endsInSlash address && !((names address).getLast?.any isStep) then do
      let _ ← t.walk (start address) ((names address).dropLast ++ ["."])
      throw .isDirectory
    else t.place address

/-- Writes a file. The directory above it has to exist. -/
def write (t : FileTree) (address : String) (bytes : List UInt8) : Except FileFault FileTree := do
  let place ← t.target address
  match t.entryAt place, place with
  | some .directory, _ => throw .isDirectory
  | _, .inside names => return t.put names (.file bytes)
  | _, _ => throw .notFound

/-- Whether two addresses stand for one entry that exists. -/
def same (t : FileTree) (a b : String) : Bool :=
  match t.place a, t.place b with
  | .ok p, .ok q => p == q && (t.entryAt p).isSome
  | _, _ => false

end FileTree

end ClassSharing
