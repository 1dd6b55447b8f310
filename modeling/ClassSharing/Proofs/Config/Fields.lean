import ClassSharing.Config
import ClassSharing.Proofs.Path
import ClassSharing.Proofs.Validation.Fields

/-!
# Settings and their fields

Settings are accepted exactly if each of their fields is (`ofFields_eq_ok_iff`). The fields of
settings make up the same settings again (`ofFields_toFields`): a path is read back from its text
and every other value is its own conversion. The fields of the environment are always accepted
(`ofFields_environmentFields`).
-/

namespace ClassSharing

/-! ### Checked lists -/

namespace Checked

variable {α β : Type}

/-- Items that pass a check one by one pass it together. -/
lemma items_map {check : Value → Checked α} {toValue : β → Value} {ofItem : β → α}
    (h : ∀ b, check (toValue b) = .ok (ofItem b)) (n : Nat) (bs : List β) :
    items check n (bs.map toValue) = .ok (bs.map ofItem) := by
  induction bs generalizing n with
  | nil => rfl
  | cons b rest ih => simp [items, h, ih (n + 1)]

/-- Texts pass the check of a list of texts. -/
lemma list_text_map_str (texts : List String) :
    list text (.list (texts.map .str)) = .ok texts := by
  have htext : ∀ s : String, text (.str s) = .ok (id s) := fun _ => rfl
  simpa [list] using items_map htext 0 texts

/-- A path that was written passes the check of a path that may be missing. -/
lemma nullable_path_pathValue (p : Option Path) :
    nullable path (Config.pathValue p) = .ok p := by
  cases p with
  | none => rfl
  | some p => simp [nullable, Config.pathValue, path, map, Path.ofString_text]

/-- A natural number passes its check. -/
lemma nat_int (n : Nat) : nat (.int n) = .ok n := by
  simp [nat, int, andThen]

end Checked

namespace Config

/-- Settings are accepted exactly if each field is, and no key is none of a field. -/
lemma ofFields_eq_ok_iff {pid : Nat} {fields : Entries} {c : Config} :
    ofFields pid fields = .ok c ↔
      Checked.optional fields "debug" false Checked.bool = .ok c.debug ∧
      Checked.optional fields "java_home" none (Checked.nullable Checked.path) = .ok c.javaHome ∧
      Checked.optional fields "pid" pid Checked.nat = .ok c.pid ∧
      Checked.optional fields "vm_arguments" [] (Checked.list Checked.text) = .ok c.vmArguments ∧
      Checked.optional fields "class_list_source" none (Checked.nullable Checked.path) =
        .ok c.classListSource ∧
      Checked.optional fields "dumping_class_list" false Checked.bool = .ok c.dumpingClassList ∧
      Checked.optional fields "dumping_archive" false Checked.bool = .ok c.dumpingArchive ∧
      Checked.optional fields "sharing_enabled" false Checked.bool = .ok c.sharingEnabled ∧
      Checked.only names fields = .ok () := by
  constructor
  · intro h
    obtain ⟨_, _, h9, honly, rfl⟩ := Checked.seq_eq_ok.mp h
    obtain ⟨_, _, h8, hsharing, rfl⟩ := Checked.seq_eq_ok.mp h9
    obtain ⟨_, _, h7, harchive, rfl⟩ := Checked.seq_eq_ok.mp h8
    obtain ⟨_, _, h6, hclassList, rfl⟩ := Checked.seq_eq_ok.mp h7
    obtain ⟨_, _, h5, hsource, rfl⟩ := Checked.seq_eq_ok.mp h6
    obtain ⟨_, _, h4, harguments, rfl⟩ := Checked.seq_eq_ok.mp h5
    obtain ⟨_, _, h3, hpid, rfl⟩ := Checked.seq_eq_ok.mp h4
    obtain ⟨_, _, h2, hhome, rfl⟩ := Checked.seq_eq_ok.mp h3
    obtain ⟨_, _, h1, hdebug, rfl⟩ := Checked.seq_eq_ok.mp h2
    cases h1
    exact ⟨hdebug, hhome, hpid, harguments, hsource, hclassList, harchive, hsharing, honly⟩
  · rintro ⟨hdebug, hhome, hpid, harguments, hsource, hclassList, harchive, hsharing, honly⟩
    rw [ofFields, hdebug, hhome, hpid, harguments, hsource, hclassList, harchive, hsharing, honly]
    rfl

/-- The fields of settings make up the settings. -/
theorem ofFields_toFields (pid : Nat) (c : Config) : ofFields pid c.toFields = .ok c := by
  have hfield : ∀ {α : Type} {name : String} {v : Value} {default a : α}
      {check : Value → Checked α}, c.toFields.get? name = some v → check v = .ok a →
        Checked.optional c.toFields name default check = .ok a := by
    intro α name v default a check hget hcheck
    rw [Checked.optional_eq_ok_iff, hget]
    exact hcheck
  rw [ofFields_eq_ok_iff]
  refine ⟨hfield rfl rfl, hfield rfl (Checked.nullable_path_pathValue _),
    hfield rfl (Checked.nat_int _), hfield rfl (Checked.list_text_map_str _),
    hfield rfl (Checked.nullable_path_pathValue _), hfield rfl rfl, hfield rfl rfl,
    hfield rfl rfl, ?_⟩
  rw [Checked.only_eq_ok_iff]
  simp [toFields, Entries.ofList, names]

/-! ### Environment -/

/-- The installation of the environment, if it is not empty. -/
def home? (environment : Environment) : Option String :=
  (environment.lookup homeVariable).filter (· ≠ "")

/-- The environment sets the diagnostics and perhaps the installation. -/
lemma environmentFields_eq (environment : Environment) :
    environmentFields environment =
      (.str "debug", .bool (debugOf environment)) ::
        ((home? environment).map fun home => (.str "java_home", .str home)).toList := by
  unfold environmentFields home?
  cases environment.lookup homeVariable with
  | none => rfl
  | some home => by_cases hempty : home = "" <;> simp [hempty, Option.filter]

/-- What is found among the fields of the environment. -/
lemma get?_environmentFields (environment : Environment) (name : String) :
    (environmentFields environment).get? name =
      if name = "debug" then some (.bool (debugOf environment))
      else if name = "java_home" then (home? environment).map .str
      else none := by
  rw [environmentFields_eq, Entries.get?_cons]
  cases home? environment <;>
    simp [Entries.get?_cons, Value.keyText?, Entries.get?, eq_comm (a := name)]

/-- The settings of the environment alone. -/
def ofSurroundings (around : Surroundings) : Config where
  debug := debugOf around.environment
  javaHome := (home? around.environment).map Path.ofString
  pid := around.pid
  vmArguments := []
  classListSource := none
  dumpingClassList := false
  dumpingArchive := false
  sharingEnabled := false

/-- The fields of the environment are accepted. -/
lemma ofFields_environmentFields (around : Surroundings) :
    ofFields around.pid (environmentFields around.environment) = .ok (ofSurroundings around) := by
  rw [ofFields_eq_ok_iff]
  simp only [Checked.optional_eq_ok_iff, get?_environmentFields]
  refine ⟨rfl, ?_, rfl, rfl, rfl, rfl, rfl, rfl, ?_⟩
  · cases hhome : home? around.environment <;>
      simp [ofSurroundings, hhome, Checked.nullable, Checked.path]
  · rw [Checked.only_eq_ok_iff, environmentFields_eq]
    cases home? around.environment <;> simp [names]

end Config

end ClassSharing
