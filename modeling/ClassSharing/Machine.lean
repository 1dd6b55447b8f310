import ClassSharing.Archive.Launch
import ClassSharing.Failure

/-!
# The machine and other collaborators

The program works with a machine that shares its class data, with a generator of holder classes,
and with a launcher of processes. Each is a function of a world: it answers a query or fails, it
may log, and it leaves a world behind.
-/

namespace ClassSharing

/-- What a machine is asked to initialise: a class, or any other value. -/
inductive Target where
  | classNamed (name : String)
  | value (v : Value)
  deriving Repr

/-- The text by which a target is known. -/
def Target.text : Target → String
  | classNamed name => name
  | value v => v.shown

/-- What a machine is asked for. -/
inductive Query where
  /-- Whether it records a class list. -/
  | dumpingClassList
  /-- Whether it writes an archive. -/
  | dumpingArchive
  /-- Whether class data sharing is enabled. -/
  | sharingEnabled
  /-- The arguments it was started with. -/
  | arguments
  /-- Append a line to its resolution log. -/
  | logInvoker (line : String)
  /-- Set the static fields of a class from the archive. -/
  | initStatics (target : Target)
  /-- Restore the modules of two loaders. -/
  | defineModules (platform system : Value)
  /-- A number that is stable for the build of the machine. -/
  | seed
  /-- Write the names of the loaded classes to a file. -/
  | dumpClassList (file : String)
  /-- Write a dynamic archive to a file. -/
  | dumpDynamic (file : String)
  deriving Repr

/-- The type of the answers to a query. Flags are answered by loose values. -/
@[reducible] def Query.Answer : Query → Type
  | dumpingClassList | dumpingArchive | sharingEnabled => Value
  | arguments => Option (List (Option String))
  | seed => Int
  | logInvoker _ | initStatics _ | defineModules .. | dumpClassList _ | dumpDynamic _ => Unit

/-- The answer of a collaborator: a result or what ended it, the events it logged, and the world it
leaves behind. -/
structure Reply (σ α : Type) where
  answer : Except Raised α
  heard : List Event
  world : σ

/-- What has ended a collaborator, if it has not answered. -/
def Reply.raised? {σ α : Type} (r : Reply σ α) : Option Raised :=
  match r.answer with
  | .ok _ => none
  | .error x => some x

/-- A machine over a world. -/
def Machine (σ : Type) := (q : Query) → σ → Reply σ q.Answer

/-- The bytes of a class: fixed ones, or a buffer that whoever holds it may still change. -/
structure ClassBytes where
  content : List UInt8
  isFixed : Bool
  deriving DecidableEq, Repr

/-- The bytes as they are now, fixed. -/
def ClassBytes.fixed (b : ClassBytes) : ClassBytes := ⟨b.content, true⟩

/-- Classes that were generated, each under its own name. -/
structure GeneratedClasses where
  entries : List (String × ClassBytes)
  names_distinct : (entries.map Prod.fst).Nodup

namespace GeneratedClasses

/-- Sets the bytes of a class: its first place is kept, its last bytes win. -/
def putEntry (name : String) (bytes : ClassBytes) :
    List (String × ClassBytes) → List (String × ClassBytes)
  | [] => [(name, bytes)]
  | (n, b) :: rest => if n = name then (n, bytes) :: rest else (n, b) :: putEntry name bytes rest

theorem mem_names_putEntry {name : String} {bytes : ClassBytes} {n : String}
    {entries : List (String × ClassBytes)} :
    n ∈ (putEntry name bytes entries).map Prod.fst ↔ n = name ∨ n ∈ entries.map Prod.fst := by
  induction entries with
  | nil => simp [putEntry]
  | cons e rest ih =>
    obtain ⟨m, b⟩ := e
    by_cases h : m = name
    · subst h; simp [putEntry]
    · simp only [putEntry, h, if_false, List.map_cons, List.mem_cons, ih]
      exact ⟨fun h => h.elim (fun h => .inr (.inl h)) (fun h => h.elim .inl (.inr ∘ .inr)),
        fun h => h.elim (.inr ∘ .inl) (fun h => h.elim .inl (.inr ∘ .inr))⟩

theorem nodup_putEntry {name : String} {bytes : ClassBytes}
    {entries : List (String × ClassBytes)} (h : (entries.map Prod.fst).Nodup) :
    ((putEntry name bytes entries).map Prod.fst).Nodup := by
  induction entries with
  | nil => simp [putEntry]
  | cons e rest ih =>
    obtain ⟨m, b⟩ := e
    simp only [List.map_cons, List.nodup_cons] at h
    by_cases hm : m = name
    · subst hm; simpa [putEntry] using h
    · simp only [putEntry, hm, if_false, List.map_cons, List.nodup_cons, mem_names_putEntry,
        false_or]
      exact ⟨h.1, ih h.2⟩

/-- The classes without any. -/
def empty : GeneratedClasses := ⟨[], List.nodup_nil⟩

/-- Sets the bytes of a class. -/
def put (classes : GeneratedClasses) (name : String) (bytes : ClassBytes) : GeneratedClasses :=
  ⟨putEntry name bytes classes.entries, nodup_putEntry classes.names_distinct⟩

/-- The classes of a list; the last bytes of a name win. -/
def ofList (entries : List (String × ClassBytes)) : GeneratedClasses :=
  entries.foldl (fun classes e => classes.put e.1 e.2) empty

end GeneratedClasses

/-- A generator of holder classes over a world. -/
def Generator (σ : Type) := List Record → σ → Reply σ GeneratedClasses

/-- Where a process sends its output: nowhere, or to pipes that are read to their end. -/
inductive Streams where
  | discarded
  | captured
  deriving DecidableEq, Repr

/-- A launched process: its number, what it writes to its two streams, and how it ends. Asking for
either of the latter may fail. -/
structure Child where
  pid : Int
  written : Except Raised (Option String × Option String)
  exit : Except Raised Int

/-- A launcher of processes over a world. What a process does not depend on is where its output
goes. -/
def Launcher (σ : Type) := ProcessSpec → σ → Reply σ Child

/-! ### Sharing state -/

/-- The flags of a machine, as they were answered. -/
structure SharingState where
  dumpingClassList : Bool
  dumpingArchive : Bool
  sharingEnabled : Bool
  deriving DecidableEq, Repr

namespace SharingState

/-- The name of the model. -/
def model : String := "SharingState"

/-- The names of the fields. -/
def names : List String := ["dumping_class_list", "dumping_archive", "sharing_enabled"]

/-- The state with the given fields. -/
def ofFields (fields : Entries) : Checked SharingState :=
  (fun c a s (_ : Unit) => ⟨c, a, s⟩) <$>
    Checked.optional fields "dumping_class_list" false Checked.bool <*>
    Checked.optional fields "dumping_archive" false Checked.bool <*>
    Checked.optional fields "sharing_enabled" false Checked.bool <*>
    Checked.only names fields

/-- The fields of a state. -/
def fields (s : SharingState) : List (String × Value) :=
  [("dumping_class_list", .bool s.dumpingClassList), ("dumping_archive", .bool s.dumpingArchive),
    ("sharing_enabled", .bool s.sharingEnabled)]

end SharingState

end ClassSharing
