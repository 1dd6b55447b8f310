import ClassSharing.Resolution.Batch

/-!
# Generation of holder classes

A batch of lines is handed to a generator only if every line is accepted. The generated classes are
returned as one list in which names and bytes alternate; bytes in a buffer are copied.
-/

namespace ClassSharing

/-- An item of the list of generated classes. -/
inductive ClassItem where
  | name (s : String)
  | bytes (b : ClassBytes)
  deriving DecidableEq, Repr

/-- The generated classes as one list. -/
def GeneratedClasses.flatten (classes : GeneratedClasses) : List ClassItem :=
  classes.entries.flatMap fun e => [.name e.1, .bytes e.2.fixed]

/-- The classes of a list in which names and bytes alternate; `none` for any other list. -/
def ClassItem.pairs? : List ClassItem → Option (List (String × List UInt8))
  | [] => some []
  | .name s :: .bytes b :: rest => (pairs? rest).map ((s, b.content) :: ·)
  | _ => none

namespace Batch

variable {σ : Type}

/-- Generates the holder classes of a batch of lines. -/
def generate (generator : Generator σ) (lines : Option (List String)) :
    Run σ (List ClassItem) := do
  match lines with
  | none => Run.fail (.domain (.argument "lines must not be None"))
  | some lines =>
    let records ← validate lines
    let classes ← Run.call (.generate records) (generator records)
    Run.log ⟨.info, "holder_classes_generated",
      [("lines", .int records.length), ("classes", .int classes.entries.length)]⟩
    return classes.flatten

end Batch

end ClassSharing
