import ClassSharing.Proofs.Resolution.Batch
import ClassSharing.Session

/-!
# Generation of holder classes is all or nothing

A generator sees a batch only if every line of it is accepted, and then it sees it once and whole.
`IsAllOrNothing` says what this means for a run that takes a batch, `holdsClasses_flatten` says that
the list of items that such a run returns loses nothing of the generated classes, and
`generate_isAllOrNothing` says that generation is all or nothing, on its own and in a session.
-/

namespace ClassSharing

/-! ### Classes as a list of items -/

namespace ClassItem

/-- The names among some items. -/
def names (items : List ClassItem) : List String :=
  items.filterMap fun
    | .name s => some s
    | .bytes _ => none

end ClassItem

/-- A list of items holds generated classes: names and bytes alternate, no name occurs twice, all
bytes are fixed, and the pairs of a name and bytes are the classes in their order. -/
structure HoldsClasses (items : List ClassItem) (classes : GeneratedClasses) : Prop where
  length_eq : items.length = 2 * classes.entries.length
  pairs_eq : ClassItem.pairs? items = some (classes.entries.map fun e => (e.1, e.2.content))
  names_distinct : (ClassItem.names items).Nodup
  bytes_fixed : ∀ b, ClassItem.bytes b ∈ items → b.isFixed = true

namespace GeneratedClasses

/-- Pairing the items of flattened classes up gives the classes back. -/
lemma pairs?_flatten (classes : GeneratedClasses) :
    ClassItem.pairs? classes.flatten = some (classes.entries.map fun e => (e.1, e.2.content)) := by
  unfold flatten
  induction classes.entries with
  | nil => rfl
  | cons e rest ih =>
    rw [List.flatMap_cons, List.map_cons]
    simp only [List.cons_append, List.nil_append, ClassItem.pairs?, ih, Option.map_some]
    rfl

/-- The names among the items of flattened classes are those of the classes. -/
lemma names_flatten (classes : GeneratedClasses) :
    ClassItem.names classes.flatten = classes.entries.map Prod.fst := by
  unfold flatten
  induction classes.entries with
  | nil => rfl
  | cons e rest ih =>
    rw [List.flatMap_cons, List.map_cons, ← ih]
    rfl

/-- Flattened classes hold the classes. -/
theorem holdsClasses_flatten (classes : GeneratedClasses) :
    HoldsClasses classes.flatten classes where
  length_eq := by
    simp [flatten, List.length_flatMap, Nat.mul_comm]
  pairs_eq := classes.pairs?_flatten
  names_distinct := by
    rw [names_flatten]
    exact classes.names_distinct
  bytes_fixed b hb := by
    obtain ⟨e, -, he⟩ := List.mem_flatMap.mp hb
    have hfixed : b = e.2.fixed := by simpa using he
    rw [hfixed]
    rfl

end GeneratedClasses

/-! ### All or nothing -/

variable {σ : Type}

/-- How a run has to end that has handed some records to a generator, by the answer of the
generator. -/
def EndsByAnswer (answer : Except Raised GeneratedClasses)
    (result : Except Raised (List ClassItem)) : Prop :=
  match answer with
  | .error x => result = .error x
  | .ok classes => ∃ items, result = .ok items ∧ HoldsClasses items classes

/-- A run that takes a batch of lines, which may be missing, is all or nothing for a generator. A
missing batch and a batch with a rejected line fail, the latter by its first rejected line, and the
generator is not called. For any other batch it is called once, with the records of all lines, and
its answer decides how the run ends. -/
structure IsAllOrNothing (g : Generator σ) (run : Option (List String) → Run σ (List ClassItem)) :
    Prop where
  missing : ∀ w, run none w =
    ⟨.error (.failure (.domain (.argument "lines must not be None"))), [], w⟩
  rejected : ∀ lines w, ¬ Batch.Acceptable lines →
    ∃ before line after r, lines = before ++ line :: after ∧ Batch.Acceptable before ∧
      Record.parse line = .error (.rejected r) ∧
      (run (some lines) w).result =
        .error (.failure (.domain (.format (r.atLine (before.length + 1))))) ∧
      (run (some lines) w).trace.calls = [] ∧ (run (some lines) w).world = w
  accepted : ∀ lines w, Batch.Acceptable lines →
    ∃ records : List Record, lines.map Record.parse = records.map .ok ∧
      records.map Record.raw = lines ∧
      (run (some lines) w).trace.calls = [.generate records] ∧
      (run (some lines) w).world = (g records w).world ∧
      EndsByAnswer (g records w).answer (run (some lines) w).result

namespace Batch

/-- A batch with a rejected line ends generation before the generator is called. -/
lemma generate_append_cons (g : Generator σ) {before : List String} {line : String} {r : Rejection}
    (hbefore : Acceptable before) (hline : Record.parse line = .error (.rejected r))
    (after : List String) (w : σ) :
    generate g (some (before ++ line :: after)) w =
      ⟨.error (.failure (.domain (.format (r.atLine (before.length + 1))))),
        [.event (rejectedEvent (r.atLine (before.length + 1)))], w⟩ :=
  Run.bind_of_error (validate_append_cons hbefore hline after w)

/-- An accepted batch is handed to the generator, whose classes are logged and flattened. -/
lemma generate_of_map_eq (g : Generator σ) {lines : List String} {records : List Record}
    (h : lines.map Record.parse = records.map .ok) (w : σ) :
    (generate g (some lines) w).trace.calls = [.generate records] ∧
      (generate g (some lines) w).world = (g records w).world ∧
      (generate g (some lines) w).result =
        (g records w).answer.map GeneratedClasses.flatten := by
  have hvalidate := validate_eq_of_map_eq h w
  simp only [generate, Run.bind_of_ok hvalidate]
  cases hanswer : (g records w).answer with
  | error x =>
    have hcall : Run.call (.generate records) (g records) w =
        ⟨.error x, [.call (.generate records) (g records w).heard (g records w).raised?],
          (g records w).world⟩ := by
      rw [Run.call_apply, hanswer]
    rw [Run.bind_of_error hcall]
    exact ⟨rfl, rfl, rfl⟩
  | ok classes =>
    have hcall : Run.call (.generate records) (g records) w =
        ⟨.ok classes, [.call (.generate records) (g records w).heard (g records w).raised?],
          (g records w).world⟩ := by
      rw [Run.call_apply, hanswer]
    rw [Run.bind_of_ok hcall]
    exact ⟨rfl, rfl, rfl⟩

/-- Generation from a batch is all or nothing. -/
theorem isAllOrNothing_generate (g : Generator σ) : IsAllOrNothing g (generate g) where
  missing _ := rfl
  rejected lines w h := by
    obtain ⟨before, line, after, r, rfl, hbefore, hline, -⟩ := exists_first_rejected h
    refine ⟨before, line, after, r, rfl, hbefore, hline, ?_⟩
    rw [generate_append_cons g hbefore hline]
    exact ⟨rfl, rfl, rfl⟩
  accepted lines w h := by
    obtain ⟨records, hrecords⟩ := acceptable_iff.mp h
    obtain ⟨hcalls, hworld, hresult⟩ := generate_of_map_eq g hrecords w
    refine ⟨records, hrecords, map_raw_eq hrecords, hcalls, hworld, ?_⟩
    rw [hresult]
    unfold EndsByAnswer
    cases (g records w).answer with
    | error x => rfl
    | ok classes => exact ⟨classes.flatten, rfl, classes.holdsClasses_flatten⟩

end Batch

end ClassSharing
