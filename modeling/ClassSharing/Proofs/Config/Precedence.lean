import ClassSharing.Command.Dump
import ClassSharing.Proofs.Config.Fields
import ClassSharing.Proofs.Run.Laws
import ClassSharing.Proofs.Yaml.Document

/-!
# Where a setting comes from

A setting of a dump is that of its option or, without the option, that of the file, of the
environment, or its default (`FirstOf`, `IsLayered`).
-/

namespace ClassSharing

/-! ### Options -/

namespace DumpOptions

/-- Diagnostics, if they are asked for. They cannot be switched off. -/
def debug? (o : DumpOptions) : Option Bool := if o.debug then some true else none

/-- The installation, if it is given. -/
def javaHome? (o : DumpOptions) : Option (Option Path) :=
  o.javaHome.map fun s => some (Path.ofString s)

/-- The arguments of the machine, if there are any. -/
def vmArguments? (o : DumpOptions) : Option (List String) :=
  if o.vmArguments.isEmpty then none else some o.vmArguments

/-- The existing class list, if it is given. -/
def classListSource? (o : DumpOptions) : Option (Option Path) :=
  o.classList.map fun s => some (Path.ofString s)

/-- Settings with those of the options in their place. -/
def applyTo (o : DumpOptions) (c : Config) : Config where
  debug := o.debug?.getD c.debug
  javaHome := o.javaHome?.getD c.javaHome
  pid := c.pid
  vmArguments := o.vmArguments?.getD c.vmArguments
  classListSource := o.classListSource?.getD c.classListSource
  dumpingClassList := c.dumpingClassList
  dumpingArchive := c.dumpingArchive
  sharingEnabled := c.sharingEnabled

/-- A field that is given is found under its name only. -/
lemma get?_field (name : String) (v : Option Value) (other : String) :
    (field name v).get? other = if name = other then v else none := by
  cases v with
  | none => simp [field]
  | some v => simp [field, Entries.get?_cons, Value.keyText?, Entries.get?]

/-- The text of a field that may be given is its name. -/
lemma names_field_sublist (name : String) (v : Option Value) :
    (field name v).names.Sublist [name] := by
  cases v with
  | none => exact List.nil_sublist _
  | some v => exact List.Sublist.refl _

/-- No text is a key twice among the fields that options set. -/
lemma hasDistinctNames_overrides (o : DumpOptions) : o.overrides.HasDistinctNames := by
  have hsublist : o.overrides.names.Sublist
      ["java_home", "class_list_source", "vm_arguments", "debug"] := by
    simp only [overrides, Entries.names, List.filterMap_append]
    exact (((names_field_sublist _ _).append (names_field_sublist _ _)).append
      (names_field_sublist _ _)).append (names_field_sublist _ _)
  exact List.Nodup.sublist hsublist (by decide)

/-- What options set are settings. -/
lemma only_overrides (o : DumpOptions) : Checked.only Config.names o.overrides = .ok () := by
  rw [Checked.only_eq_ok_iff]
  have hfield : ∀ {name : String} (v : Option Value) {key : Value}, name ∈ Config.names →
      key ∈ (field name v).map Prod.fst → ∃ s ∈ Config.names, key = .str s := by
    rintro name (_ | v) key hname hkey
    · simp [field] at hkey
    · exact ⟨name, hname, by simpa [field] using hkey⟩
  intro key hkey
  simp only [overrides, List.map_append, List.mem_append] at hkey
  rcases hkey with ((hhome | hsource) | harguments) | hdebug
  · exact hfield _ (by decide) hhome
  · exact hfield _ (by decide) hsource
  · exact hfield _ (by decide) harguments
  · exact hfield _ (by decide) hdebug

/-- No option sets a field to nothing. -/
lemma ne_null_of_mem_overrides {o : DumpOptions} {e : Value × Value} (h : e ∈ o.overrides) :
    e.2 ≠ .null := by
  have hfield : ∀ {name : String} {v : Option Value}, v ≠ some .null → e ∈ field name v →
      e.2 ≠ .null := by
    rintro name (_ | v) hv he
    · simp [field] at he
    · obtain rfl : e = (.str name, v) := by simpa [field] using he
      simpa using hv
  simp only [overrides, List.mem_append] at h
  rcases h with ((hhome | hsource) | harguments) | hdebug
  · exact hfield (by simp) hhome
  · exact hfield (by simp) hsource
  · exact hfield (by split <;> simp) harguments
  · exact hfield (by split <;> simp) hdebug

/-- All fields that options set are laid over the environment. -/
lemma ofEnvironment_overrides (around : Surroundings) (o : DumpOptions) :
    Config.ofEnvironment around o.overrides = Config.overEnvironment around o.overrides := by
  rw [Config.ofEnvironment, List.filter_eq_self.mpr]
  intro e he
  have hne := ne_null_of_mem_overrides he
  split <;> simp_all

/-- Options that are laid over fields change the settings of the fields, and no fault. -/
theorem ofFields_overlay_overrides {pid : Nat} {base : Entries} {c : Config} (o : DumpOptions)
    (h : Config.ofFields pid base = .ok c) :
    Config.ofFields pid (base.overlay o.overrides) = .ok (o.applyTo c) := by
  rw [Config.ofFields_eq_ok_iff] at h ⊢
  obtain ⟨hdebug, hhome, hpid, harguments, hsource, hclassList, harchive, hsharing, honly⟩ := h
  have hfield : ∀ {α : Type} {name : String} {default b : α} {check : Value → Checked α}
      (a? : Option α), (o.overrides.get? name).map check = a?.map .ok →
        Checked.optional base name default check = .ok b →
          Checked.optional (base.overlay o.overrides) name default check = .ok (a?.getD b) :=
    fun a? => Checked.optional_overlay_eq_ok a? o.hasDistinctNames_overrides
  refine ⟨hfield o.debug? ?_ hdebug, hfield o.javaHome? ?_ hhome, hfield none ?_ hpid,
    hfield o.vmArguments? ?_ harguments, hfield o.classListSource? ?_ hsource,
    hfield none ?_ hclassList, hfield none ?_ harchive, hfield none ?_ hsharing,
    Checked.only_overlay honly o.only_overrides⟩
  all_goals simp only [overrides, Entries.get?_append, get?_field]
  · cases hd : o.debug <;> simp [debug?, hd, Checked.bool]
  · cases hj : o.javaHome <;> simp [javaHome?, hj, Checked.nullable, Checked.path]
  · simp
  · cases ha : o.vmArguments.isEmpty <;> simp [vmArguments?, ha, Checked.list_text_map_str]
  · cases hs : o.classList <;> simp [classListSource?, hs, Checked.nullable, Checked.path]
  all_goals simp

/-- Without options settings stay as they are. -/
lemma applyTo_of_overrides_eq_nil {o : DumpOptions} (h : o.overrides = []) (c : Config) :
    o.applyTo c = c := by
  have hnone : ∀ {name : String} {v : Option Value}, field name v = [] → v = none := by
    rintro name (_ | v) hv
    · rfl
    · exact absurd hv (List.cons_ne_nil _ _)
  simp only [overrides, List.append_eq_nil_iff] at h
  obtain ⟨⟨⟨hhome, hsource⟩, harguments⟩, hdebug⟩ := h
  have hj : o.javaHome = none := Option.map_eq_none_iff.mp (hnone hhome)
  have hs : o.classList = none := Option.map_eq_none_iff.mp (hnone hsource)
  have ha : o.vmArguments.isEmpty = true := by simpa using hnone harguments
  have hd : o.debug = false := by simpa using hnone hdebug
  simp [applyTo, debug?, javaHome?, vmArguments?, classListSource?, hj, hs, ha, hd]

end DumpOptions

/-! ### Layers -/

/-- A setting is that of an option or, without it, that of the file, if it can be converted; without
both it is that of the environment or its default. -/
def FirstOf {α : Type} (option : Option α) (file : Option (Checked α)) (environment : Option α)
    (default a : α) : Prop :=
  match option, file, environment with
  | some v, _, _ => a = v
  | none, some read, _ => read = .ok a
  | none, none, some v => a = v
  | none, none, none => a = default

/-- A field that is accepted over the environment, with an option in front. -/
lemma firstOf_getD {α : Type} {environment fields : Entries} {name : String} {default b : α}
    {check : Value → Checked α} {environment? : Option α} (a? : Option α)
    (hdistinct : fields.HasDistinctNames)
    (henvironment : (environment.get? name).map check = environment?.map .ok)
    (h : Checked.optional (environment.overlay fields) name default check = .ok b) :
    FirstOf a? ((fields.get? name).map check) environment? default (a?.getD b) := by
  rw [Checked.optional_eq_ok_iff, Entries.get?_overlay hdistinct] at h
  cases a? with
  | some a => rfl
  | none =>
    cases hfile : fields.get? name with
    | some v =>
      rw [hfile] at h
      exact h
    | none =>
      rw [hfile, Option.none_or] at h
      cases hget : environment.get? name with
      | some v =>
        rw [hget, Option.map_some, eq_comm, Option.map_eq_some_iff] at henvironment
        obtain ⟨a, rfl, heq⟩ := henvironment
        rw [hget] at h
        exact Checked.ok.inj (h.symm.trans heq.symm)
      | none =>
        rw [hget, Option.map_none, eq_comm, Option.map_eq_none_iff] at henvironment
        subst henvironment
        rw [hget] at h
        exact h.symm

/-- Settings of which each is that of the first source that has it: the options, the fields of the
file, the environment, the defaults. A field without a value hides the environment. -/
structure IsLayered (around : Surroundings) (o : DumpOptions) (fields : Entries) (c : Config) :
    Prop where
  debug : FirstOf o.debug? ((fields.get? "debug").map Checked.bool)
    (some (Config.debugOf around.environment)) false c.debug
  javaHome : FirstOf o.javaHome? ((fields.get? "java_home").map (Checked.nullable Checked.path))
    ((Config.home? around.environment).map fun s => some (Path.ofString s)) none c.javaHome
  pid : FirstOf none ((fields.get? "pid").map Checked.nat) none around.pid c.pid
  vmArguments : FirstOf o.vmArguments?
    ((fields.get? "vm_arguments").map (Checked.list Checked.text)) none [] c.vmArguments
  classListSource : FirstOf o.classListSource?
    ((fields.get? "class_list_source").map (Checked.nullable Checked.path)) none none
    c.classListSource
  dumpingClassList : FirstOf none ((fields.get? "dumping_class_list").map Checked.bool) none false
    c.dumpingClassList
  dumpingArchive : FirstOf none ((fields.get? "dumping_archive").map Checked.bool) none false
    c.dumpingArchive
  sharingEnabled : FirstOf none ((fields.get? "sharing_enabled").map Checked.bool) none false
    c.sharingEnabled

/-- Options on the settings of fields over the environment are layered. -/
theorem isLayered_applyTo {around : Surroundings} {fields : Entries} {base : Config}
    (o : DumpOptions) (hdistinct : fields.HasDistinctNames)
    (h : Config.overEnvironment around fields = .ok base) :
    IsLayered around o fields (o.applyTo base) := by
  rw [Config.overEnvironment, Config.ofFields_eq_ok_iff] at h
  obtain ⟨hdebug, hhome, hpid, harguments, hsource, hclassList, harchive, hsharing, -⟩ := h
  refine ⟨firstOf_getD _ hdistinct ?_ hdebug, firstOf_getD _ hdistinct ?_ hhome,
    firstOf_getD none hdistinct ?_ hpid, firstOf_getD _ hdistinct ?_ harguments,
    firstOf_getD _ hdistinct ?_ hsource, firstOf_getD none hdistinct ?_ hclassList,
    firstOf_getD none hdistinct ?_ harchive, firstOf_getD none hdistinct ?_ hsharing⟩
  all_goals rw [Config.get?_environmentFields]
  · rfl
  · cases hset : Config.home? around.environment <;>
      simp [Checked.nullable, Checked.path]
  all_goals rfl

/-! ### The settings of a dump -/

/-- The fields in a file of settings: those of its mapping, or none if it holds nothing. -/
def HoldsFields (files : FileTree) (file : String) (fields : Entries) : Prop :=
  ∃ document, (files.readExisting (Path.ofString file).text).bind Config.documentOf = .ok document ∧
    (document = .mapping fields ∨ document = .null ∧ fields = [])

/-- No text is a key twice in a file of settings. -/
lemma HoldsFields.hasDistinctNames {files : FileTree} {file : String} {fields : Entries}
    (h : HoldsFields files file fields) : fields.HasDistinctNames := by
  obtain ⟨document, hread, rfl | ⟨-, rfl⟩⟩ := h
  · cases hbytes : files.readExisting (Path.ofString file).text with
    | error f => simp [hbytes, Except.bind] at hread
    | ok bytes =>
      rw [hbytes] at hread
      exact Config.hasDistinctNames_documentOf hread
  · exact List.nodup_nil

/-- A file of settings is read as its fields over the environment. -/
lemma ofFile_of_holdsFields {σ : Type} {files : FileTree} {file : String} {fields : Entries}
    (around : Surroundings) (h : HoldsFields files file fields) :
    (Config.ofFile files around (Path.ofString file) : Run σ Config) =
      Run.ofChecked Config.model (Config.overEnvironment around fields) := by
  obtain ⟨document, hread, rfl | ⟨rfl, rfl⟩⟩ := h
  all_goals
    funext w
    rw [Config.ofFile, hread]
    rfl

/-- A document that is no mapping is refused, with its type in an event. -/
lemma ofFile_of_no_mapping {σ : Type} {files : FileTree} {around : Surroundings} {path : Path}
    {document : Value}
    (hread : (files.readExisting path.text).bind Config.documentOf = .ok document)
    (hmapping : ∀ fields, document ≠ .mapping fields) (hnull : document ≠ .null) (w : σ) :
    Config.ofFile files around path w =
      ⟨.error (.failure (.domain (Config.noMapping path.text))),
        ((Config.noMapping path.text).detailEvents (some (Config.documentType document))).map
          .event, w⟩ := by
  rw [Config.ofFile, hread]
  cases document with
  | mapping fields => exact absurd rfl (hmapping fields)
  | null => exact absurd rfl hnull
  | _ => simp [Run.bind_apply]

namespace DumpCommand

variable {σ : Type}

/-- The settings of the environment, with those of the options in their place. -/
lemma settings_of_config_eq_none {ctx : CommandContext} {files : FileTree} {o : DumpOptions}
    (h : o.config = none) (w : σ) :
    settings ctx files o w = ⟨.ok (o.applyTo (.ofSurroundings ctx.around)), [], w⟩ := by
  have hfields := o.ofFields_overlay_overrides (Config.ofFields_environmentFields ctx.around)
  simp only [settings, h, DumpOptions.ofEnvironment_overrides, Config.overEnvironment, hfields]
  rfl

/-- The settings of a file, with those of the options in their place. -/
lemma settings_of_ok {ctx : CommandContext} {files : FileTree} {o : DumpOptions}
    {file : String} {fields : Entries} {base : Config} (hconfig : o.config = some file)
    (hfile : HoldsFields files file fields)
    (hbase : Config.overEnvironment ctx.around fields = .ok base) (w : σ) :
    settings ctx files o w = ⟨.ok (o.applyTo base), [], w⟩ := by
  have hfields := o.ofFields_overlay_overrides (Config.ofFields_toFields ctx.around.pid base)
  have hread : (Config.ofFile files ctx.around (Path.ofString file) : Run σ Config) w =
      ⟨.ok base, [], w⟩ := by
    rw [ofFile_of_holdsFields ctx.around hfile, hbase]
    rfl
  simp only [settings, hconfig]
  exact (Run.bind_of_ok hread).trans (by rw [hfields]; rfl)

/-- The faults of a file are those of the settings, whatever the options. -/
lemma settings_of_faulty {ctx : CommandContext} {files : FileTree} {o : DumpOptions}
    {file : String} {fields : Entries} {issues : List Issue} (hconfig : o.config = some file)
    (hfile : HoldsFields files file fields)
    (hfaulty : Config.overEnvironment ctx.around fields = .faulty issues) (w : σ) :
    settings ctx files o w =
      ⟨.error (.failure (.validation ⟨Config.model, issues⟩)), [], w⟩ := by
  simp only [settings, hconfig, ofFile_of_holdsFields ctx.around hfile, hfaulty]
  exact Run.bind_of_error rfl

/-- Settings are found without a trace, and a failure to find them is at most logged. -/
lemma settings_ends (ctx : CommandContext) (files : FileTree) (o : DumpOptions) (w : σ) :
    (∃ c, settings ctx files o w = ⟨.ok c, [], w⟩) ∨
      ∃ (x : Raised) (events : List Event),
        settings ctx files o w = ⟨.error x, events.map .event, w⟩ := by
  cases hconfig : o.config with
  | none => exact .inl ⟨_, settings_of_config_eq_none hconfig w⟩
  | some file =>
    have hholds : ∀ fields, HoldsFields files file fields →
        (∃ c, settings ctx files o w = ⟨.ok c, [], w⟩) ∨
          ∃ (x : Raised) (events : List Event),
            settings ctx files o w = ⟨.error x, events.map .event, w⟩ := by
      intro fields hfile
      cases hbase : Config.overEnvironment ctx.around fields with
      | faulty issues => exact .inr ⟨_, [], settings_of_faulty hconfig hfile hbase w⟩
      | ok base => exact .inl ⟨_, settings_of_ok hconfig hfile hbase w⟩
    cases hread : (files.readExisting (Path.ofString file).text).bind Config.documentOf with
    | error f =>
      refine .inr ⟨.failure f, [], ?_⟩
      simp only [settings, hconfig, Config.ofFile, hread]
      rfl
    | ok document =>
      cases document with
      | mapping fields => exact hholds fields ⟨_, hread, .inl rfl⟩
      | null => exact hholds [] ⟨_, hread, .inr ⟨rfl, rfl⟩⟩
      | _ =>
        simp only [settings, hconfig]
        exact .inr ⟨_, _, Run.bind_of_error (ofFile_of_no_mapping hread (by simp) (by simp) w)⟩

/-- A failure to find settings calls nobody. -/
lemma settings_cases (ctx : CommandContext) (files : FileTree) (o : DumpOptions) (w : σ) :
    (∃ c, settings ctx files o w = ⟨.ok c, [], w⟩) ∨
      ∃ x t, settings ctx files o w = ⟨.error x, t, w⟩ ∧ t.calls = [] := by
  refine (settings_ends ctx files o w).imp_right ?_
  rintro ⟨x, events, hsettings⟩
  exact ⟨x, _, hsettings, Trace.calls_map_event events⟩

/-- Without a file there are always settings, and they are layered. With a file whose document is a
mapping or empty there are settings exactly if its fields are accepted over the environment;
otherwise its faults are reported, whatever the options. The settings are layered then, they are
those of the file itself if no option sets any, and those without a file if the file sets none. The
fields of settings always make up the same settings. -/
theorem settings_precedence (ctx : CommandContext) (files : FileTree) (o : DumpOptions) (w : σ) :
    (∀ c : Config, Config.ofFields ctx.around.pid c.toFields = .ok c) ∧
    match o.config with
    | none => ∃ c, settings ctx files o w = ⟨.ok c, [], w⟩ ∧ IsLayered ctx.around o [] c
    | some file => ∀ fields, HoldsFields files file fields →
      match Config.overEnvironment ctx.around fields with
      | .faulty issues => settings ctx files o w =
          ⟨.error (.failure (.validation ⟨Config.model, issues⟩)), [], w⟩
      | .ok base =>
        Config.ofFile files ctx.around (Path.ofString file) w = ⟨.ok base, [], w⟩ ∧
        ∃ c, settings ctx files o w = ⟨.ok c, [], w⟩ ∧ IsLayered ctx.around o fields c ∧
          (o.overrides = [] → c = base) ∧
          (fields = [] → settings ctx files { o with config := none } w = ⟨.ok c, [], w⟩) := by
  have halone : Config.overEnvironment ctx.around [] = .ok (.ofSurroundings ctx.around) :=
    Config.ofFields_environmentFields ctx.around
  refine ⟨Config.ofFields_toFields _, ?_⟩
  split
  · next hconfig =>
    exact ⟨_, settings_of_config_eq_none hconfig w, isLayered_applyTo o List.nodup_nil halone⟩
  · next file hconfig =>
    intro fields hfile
    cases hbase : Config.overEnvironment ctx.around fields with
    | faulty issues => exact settings_of_faulty hconfig hfile hbase w
    | ok base =>
      refine ⟨by rw [ofFile_of_holdsFields ctx.around hfile, hbase]; rfl, o.applyTo base,
        settings_of_ok hconfig hfile hbase w, isLayered_applyTo o hfile.hasDistinctNames hbase,
        fun hnil => DumpOptions.applyTo_of_overrides_eq_nil hnil base, ?_⟩
      rintro rfl
      obtain rfl : base = .ofSurroundings ctx.around := Checked.ok.inj (hbase.symm.trans halone)
      exact settings_of_config_eq_none rfl w

/-- A file that sets the number and hides the installation of the environment. -/
def numberFile : FileTree :=
  FileTree.empty.putFile ["cds.yaml"] (.file (Text.Utf8.encode "pid: 7\njava_home:\n".toList))

/-- What that file holds. -/
lemma holdsFields_numberFile :
    HoldsFields numberFile "cds.yaml" [(.str "pid", .int 7), (.str "java_home", .null)] := by
  have hread : numberFile.readExisting (Path.ofString "cds.yaml").text =
      .ok (Text.Utf8.encode "pid: 7\njava_home:\n".toList) := by decide +kernel
  refine ⟨_, ?_, .inl rfl⟩
  rw [hread]
  cbv

/-- Each setting comes from another source: the option, the file, which also hides the environment,
and the defaults. -/
theorem settings_numberFile :
    ∃ (ctx : CommandContext) (o : DumpOptions) (c : Config),
      ctx.around = ⟨[("JAVA_HOME", "/opt/jdk")], 1⟩ ∧ o.config = some "cds.yaml" ∧
      o.debug = true ∧ (settings ctx numberFile o : Run Unit Config) () = ⟨.ok c, [], ()⟩ ∧
      c.debug = true ∧ c.pid = 7 ∧ c.javaHome = none ∧ c.vmArguments = [] := by
  let around : Surroundings := ⟨[("JAVA_HOME", "/opt/jdk")], 1⟩
  let ctx : CommandContext :=
    ⟨around, "1", false, fun _ w => ⟨.ok ⟨1, .ok (none, none), .ok 0⟩, [], w⟩⟩
  let o : DumpOptions := ⟨true, none, some "cds.yaml", none, none, [], true, false⟩
  have hbase : Config.overEnvironment around [(.str "pid", .int 7), (.str "java_home", .null)] =
      .ok ⟨false, none, 7, [], none, false, false, false⟩ := rfl
  have h := (settings_precedence ctx numberFile o ()).2 _ holdsFields_numberFile
  rw [hbase] at h
  obtain ⟨-, c, hrun, hlayers, -⟩ := h
  exact ⟨ctx, o, c, rfl, rfl, rfl, hrun, hlayers.debug, (Checked.ok.inj hlayers.pid).symm,
    (Checked.ok.inj hlayers.javaHome).symm, hlayers.vmArguments⟩

end DumpCommand

end ClassSharing
