import ClassSharing.Archive.Request
import ClassSharing.Proofs.Validation.Fields

/-!
# Names of dumps

The names that dumps write to, and the requests they stand in. A default archive name tells the kind
of the archive and the process (`defaultArchiveName_inj`). A class list is named after its archive,
and the suffix tells it from all default archives. A mapping whose fields are accepted one by one
(`HasParts`) is accepted as a request exactly if it names a class list for a static archive and none
for a dynamic one (`exists_ofFields_iff`); so the fields of the request that is made for a dump are
always accepted (`ofFields_create`).
-/

namespace ClassSharing

/-! ### Default names -/

/-- A number is written without an underscore. -/
lemma underscore_not_mem_toString (n : Int) : '_' ∉ (toString n).toList := by
  rw [Int.toString_eq_repr, Int.repr_eq_if]
  split <;> simp

/-- The end of a default name, behind its last underscore, has none. -/
lemma underscore_not_mem_name_append (kind : ArchiveKind) :
    '_' ∉ (kind.name ++ ".jsa").toList := by
  cases kind <;> decide

/-- Kinds with the same name are the same. -/
lemma ArchiveKind.name_inj {k₁ k₂ : ArchiveKind} : k₁.name = k₂.name ↔ k₁ = k₂ := by
  cases k₁ <;> cases k₂ <;> decide

/-- In a default name the number of the process stands in front of the last underscore. -/
lemma toList_defaultArchiveName (kind : ArchiveKind) (pid : Int) :
    (defaultArchiveName kind pid).toList =
      "java_pid".toList ++ ((toString pid).toList ++ '_' :: (kind.name ++ ".jsa").toList) := by
  simp [defaultArchiveName]

/-- Default archives with the same name are of the same kind and of the same process. -/
theorem defaultArchiveName_inj {k₁ k₂ : ArchiveKind} {p₁ p₂ : Int} :
    defaultArchiveName k₁ p₁ = defaultArchiveName k₂ p₂ ↔ k₁ = k₂ ∧ p₁ = p₂ := by
  have hpid : (toString p₁).toList = (toString p₂).toList ↔ p₁ = p₂ := by
    rw [String.toList_inj, Int.toString_eq_repr, Int.toString_eq_repr, Int.repr_inj]
  have hkind : (k₁.name ++ ".jsa").toList = (k₂.name ++ ".jsa").toList ↔ k₁ = k₂ := by
    rw [String.toList_inj, String.append_left_inj, ArchiveKind.name_inj]
  rw [← String.toList_inj, toList_defaultArchiveName, toList_defaultArchiveName,
    List.append_cancel_left_eq]
  -- the number ends at the only underscore that is left
  rw [List.append_cons_inj_of_notMem (underscore_not_mem_toString p₁)
    (underscore_not_mem_name_append k₁), hpid, hkind]
  exact ⟨fun ⟨hp, _, hk⟩ => ⟨hk, hp⟩, fun ⟨hk, hp⟩ => ⟨hp, rfl, hk⟩⟩

/-- No class list has the name of a default archive. -/
lemma append_classListSuffix_ne_defaultArchiveName (archive : String) (kind : ArchiveKind)
    (pid : Int) : archive ++ classListSuffix ≠ defaultArchiveName kind pid := by
  intro h
  have hlist : (archive ++ classListSuffix).toList.getLast? = some 't' := by
    rw [String.toList_append, List.getLast?_append]
    rfl
  have harchive : (defaultArchiveName kind pid).toList.getLast? = some 'a' := by
    rw [defaultArchiveName, String.toList_append, List.getLast?_append]
    rfl
  rw [h, harchive] at hlist
  exact absurd hlist (by decide)

namespace DumpRequest

/-! ### Class lists -/

/-- Exactly static archives have a class list, named after them. -/
lemma classListOf_eq_some_iff {kind : ArchiveKind} {archive list : String} :
    classListOf kind archive = some list ↔ kind = .static ∧ list = archive ++ ".classlist" := by
  cases kind <;> simp [classListOf, classListSuffix, eq_comm]

/-- A class list does not have the name of its archive. -/
lemma classListOf_ne_self (kind : ArchiveKind) (archive : String) :
    classListOf kind archive ≠ some archive := by
  rw [Ne, classListOf_eq_some_iff]
  rintro ⟨-, h⟩
  exact absurd (String.append_eq_left_iff.mp h.symm) (by decide)

/-- Static archives with the same class list are the same. -/
lemma classListOf_static_inj {a b : String} :
    classListOf .static a = classListOf .static b ↔ a = b := by
  simp [classListOf]

/-- No class list is a default archive. -/
lemma classListOf_ne_defaultArchiveName (kind k : ArchiveKind) (archive : String) (pid : Int) :
    classListOf kind archive ≠ some (defaultArchiveName k pid) := by
  rw [Ne, classListOf_eq_some_iff]
  rintro ⟨-, h⟩
  exact append_classListSuffix_ne_defaultArchiveName archive k pid h.symm

/-! ### Checked fields -/

/-- The fields of a request, taken one by one: each is accepted and there are no others. Whether the
class list fits the kind is left open. -/
structure HasParts (fields : Entries) (kind : ArchiveKind) (archive : String)
    (classList : Option String) (debug : Bool) : Prop where
  kind_ok : Checked.required fields "kind" (Checked.oneOf ArchiveKind.choices) = .ok kind
  archive_ok : Checked.required fields "archive_file" Checked.text = .ok archive
  classList_ok : Checked.optional fields "class_list_file" none (Checked.nullable Checked.text) =
    .ok classList
  debug_ok : Checked.optional fields "debug" false Checked.bool = .ok debug
  only_ok : Checked.only names fields = .ok ()

section

variable {fields : Entries} {kind : ArchiveKind} {archive : String} {classList : Option String}
  {debug : Bool}

/-- A class list fits if it is there exactly for static archives. -/
lemma fitsKind_iff :
    fitsKind kind classList = true ↔ (classList.isSome = true ↔ kind = .static) := by
  cases kind <;> cases classList <;> simp [fitsKind]

/-- Once the fields are accepted one by one, the class list decides. -/
lemma HasParts.ofFields_eq (h : HasParts fields kind archive classList debug) :
    ofFields fields = checkFit kind archive classList debug := by
  rw [ofFields, h.kind_ok, h.archive_ok, h.classList_ok, h.debug_ok, h.only_ok]
  rfl

/-- The test of the class list hands on the given fields; every request passes it. -/
lemma checkFit_eq_ok_iff {r : DumpRequest} :
    checkFit kind archive classList debug = .ok r ↔
      r.kind = kind ∧ r.archive = archive ∧ r.classList = classList ∧ r.debug = debug := by
  unfold checkFit
  split
  · obtain ⟨k, a, c, d, -⟩ := r
    simp [eq_comm]
  · rename_i hfit
    constructor
    · intro h
      cases kind <;> simp [Checked.fail] at h
    · rintro ⟨rfl, -, rfl, -⟩
      exact absurd r.fits hfit

/-- A mapping is accepted as a request if its fields, taken one by one, are those of the request. -/
theorem ofFields_eq_ok_iff {r : DumpRequest} :
    ofFields fields = .ok r ↔ HasParts fields r.kind r.archive r.classList r.debug := by
  constructor
  · intro h
    obtain ⟨_, hparts, hfit⟩ := Checked.andThen_eq_ok_iff.mp h
    obtain ⟨_, _, h4, honly, rfl⟩ := Checked.seq_eq_ok.mp hparts
    obtain ⟨_, debug, h3, hdebug, rfl⟩ := Checked.seq_eq_ok.mp h4
    obtain ⟨_, classList, h2, hlist, rfl⟩ := Checked.seq_eq_ok.mp h3
    obtain ⟨_, archive, h1, harchive, rfl⟩ := Checked.seq_eq_ok.mp h2
    obtain ⟨_, kind, hmake, hkind, rfl⟩ := Checked.seq_eq_ok.mp h1
    cases hmake
    obtain ⟨rfl, rfl, rfl, rfl⟩ := checkFit_eq_ok_iff.mp hfit
    exact ⟨hkind, harchive, hlist, hdebug, honly⟩
  · intro h
    rw [h.ofFields_eq, checkFit_eq_ok_iff]
    exact ⟨rfl, rfl, rfl, rfl⟩

/-- Fields that are accepted one by one make up a request if the class list fits the kind. -/
theorem exists_ofFields_iff (h : HasParts fields kind archive classList debug) :
    (∃ r, ofFields fields = .ok r) ↔ (classList.isSome = true ↔ kind = .static) := by
  rw [h.ofFields_eq, ← fitsKind_iff]
  constructor
  · rintro ⟨r, hr⟩
    obtain ⟨rfl, -, rfl, -⟩ := checkFit_eq_ok_iff.mp hr
    exact r.fits
  · intro hfit
    exact ⟨⟨kind, archive, classList, debug, hfit⟩, checkFit_eq_ok_iff.mpr ⟨rfl, rfl, rfl, rfl⟩⟩

end

/-! ### Made requests -/

/-- The mapping of given fields. -/
def partFields (kind : ArchiveKind) (archive : String) (classList : Option String) (debug : Bool) :
    Entries :=
  .ofList [("kind", .str kind.name), ("archive_file", .str archive),
    ("class_list_file", (classList.map .str).getD .null), ("debug", .bool debug)]

/-- Given fields are accepted one by one as what they are. -/
lemma hasParts_partFields (kind : ArchiveKind) (archive : String) (classList : Option String)
    (debug : Bool) :
    HasParts (partFields kind archive classList debug) kind archive classList debug where
  kind_ok := by cases kind <;> rfl
  archive_ok := rfl
  classList_ok := by cases classList <;> rfl
  debug_ok := rfl
  only_ok := rfl

/-- The fields of the request that is made for a dump are accepted as this request. -/
theorem ofFields_create (kind : ArchiveKind) (fileName : Option String) (pid : Int) (debug : Bool) :
    let archive := fileName.getD (defaultArchiveName kind pid)
    ofFields (partFields kind archive (classListOf kind archive) debug) =
      .ok (create kind fileName pid debug) :=
  ofFields_eq_ok_iff.mpr (hasParts_partFields _ _ _ _)

/-- Dumps are kept apart by their names, and requests are consistent. Default names agree only for
the same kind and process. The request that is made for a dump is always accepted; it keeps a given
name, and it has a class list exactly if it is static, named after the archive. So no class list is
its own archive or a default archive, and static requests share a class list only if they share the
archive. However a request is given, it is accepted exactly if its fields are accepted one by one
and there is a class list exactly for a static archive. -/
theorem requests_kept_apart :
    (∀ (k₁ k₂ : ArchiveKind) (p₁ p₂ : Int),
      defaultArchiveName k₁ p₁ = defaultArchiveName k₂ p₂ ↔ k₁ = k₂ ∧ p₁ = p₂) ∧
    (∀ (kind : ArchiveKind) (fileName : Option String) (pid : Int) (debug : Bool),
      let archive := fileName.getD (defaultArchiveName kind pid)
      let r := create kind fileName pid debug
      ofFields (partFields kind archive (classListOf kind archive) debug) = .ok r ∧
      r.kind = kind ∧ r.archive = archive ∧ r.debug = debug ∧
      (∀ list, r.classList = some list ↔ kind = .static ∧ list = archive ++ ".classlist") ∧
      r.classList ≠ some r.archive ∧ ∀ k p, r.classList ≠ some (defaultArchiveName k p)) ∧
    (∀ (n₁ n₂ : Option String) (p₁ p₂ : Int) (d₁ d₂ : Bool),
      let r₁ := create .static n₁ p₁ d₁
      let r₂ := create .static n₂ p₂ d₂
      r₁.classList = r₂.classList ↔ r₁.archive = r₂.archive) ∧
    (∀ fields r, ofFields fields = .ok r →
      HasParts fields r.kind r.archive r.classList r.debug ∧
        (r.classList.isSome = true ↔ r.kind = .static)) ∧
    ∀ fields kind archive classList debug, HasParts fields kind archive classList debug →
      ((∃ r, ofFields fields = .ok r) ↔ (classList.isSome = true ↔ kind = .static)) := by
  refine ⟨fun k₁ k₂ p₁ p₂ => defaultArchiveName_inj, fun kind fileName pid debug => ?_,
    fun n₁ n₂ p₁ p₂ d₁ d₂ => classListOf_static_inj, fun fields r h => ?_,
    fun fields kind archive classList debug => exists_ofFields_iff⟩
  · exact ⟨ofFields_create kind fileName pid debug, rfl, rfl, rfl, fun _ => classListOf_eq_some_iff,
      classListOf_ne_self _ _, fun k => classListOf_ne_defaultArchiveName kind k _⟩
  · have hparts := ofFields_eq_ok_iff.mp h
    exact ⟨hparts, (exists_ofFields_iff hparts).mp ⟨r, h⟩⟩

/-- A static archive without a class list and a dynamic one with a class list are accepted field by
field but not as requests, and the default request of a process is accepted. -/
theorem requests_kept_apart_of_misfits :
    let bare : Entries :=
      .ofList [("kind", .str "static"), ("archive_file", .str "a.jsa"), ("debug", .str "yes")]
    let listed : Entries :=
      .ofList [("kind", .str "dynamic"), ("archive_file", .str "a.jsa"),
        ("class_list_file", .str "")]
    let named : Entries :=
      .ofList [("kind", .str "static"), ("archive_file", .str "java_pid42_static.jsa"),
        ("class_list_file", .str "java_pid42_static.jsa.classlist"), ("debug", .bool false)]
    (HasParts bare .static "a.jsa" none true ∧ ¬ ∃ r, ofFields bare = .ok r) ∧
      (HasParts listed .dynamic "a.jsa" (some "") false ∧ ¬ ∃ r, ofFields listed = .ok r) ∧
      ofFields named = .ok (create .static none 42 false) ∧
      HasParts named .static "java_pid42_static.jsa" (some "java_pid42_static.jsa.classlist")
        false := by
  intro bare listed named
  have hbare : HasParts bare .static "a.jsa" none true := ⟨rfl, rfl, rfl, rfl, rfl⟩
  have hlisted : HasParts listed .dynamic "a.jsa" (some "") false := ⟨rfl, rfl, rfl, rfl, rfl⟩
  obtain ⟨-, hmade, -, hparts, haccepted⟩ := requests_kept_apart
  have hnamed : ofFields named = .ok (create .static none 42 false) :=
    (hmade .static none 42 false).1
  exact ⟨⟨hbare, fun h => absurd ((haccepted _ _ _ _ _ hbare).mp h) (by decide)⟩,
    ⟨hlisted, fun h => absurd ((haccepted _ _ _ _ _ hlisted).mp h) (by decide)⟩,
    hnamed, (hparts named _ hnamed).1⟩

end DumpRequest

end ClassSharing
