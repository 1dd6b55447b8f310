import ClassSharing.LocalHost
import ClassSharing.Proofs.Resolution.Generation

/-!
# Replaying what a session has traced

A session over the stand-alone host writes one line to the log of the host for each traced
resolution, and the log is read back when holder classes are generated.
`exists_parse_line_iff` says which resolutions survive: those that a line of the log can hold.
`replay_of_traces` says that whole runs of them survive, in the order in which they were traced.
-/

namespace ClassSharing

/-! ### Traced resolutions -/

/-- A resolution that is traced under the marker of its kind. The texts are whatever the machine
hands over. -/
inductive TraceCall where
  | lambdaForm (holder method descriptor : String)
  | species (name : String)

namespace TraceCall

/-- The operation that traces a resolution. -/
def operation : TraceCall → Session.Operation
  | lambdaForm holder method descriptor =>
    .traceLambdaForm "[LF_RESOLVE]" holder method descriptor
  | species name => .traceSpecies "[SPECIES_RESOLVE]" name

/-- The line of a traced resolution: its texts, with single spaces between them. -/
def line : TraceCall → String
  | lambdaForm holder method descriptor =>
    " ".intercalate ["[LF_RESOLVE]", holder, method, descriptor]
  | species name => " ".intercalate ["[SPECIES_RESOLVE]", name]

/-- The resolutions that a line of the log can hold. -/
def IsReplayable : TraceCall → Prop
  | lambdaForm holder method descriptor =>
    isHolderName holder = true ∧ ' ' ∉ method.toList ∧ isMethodType descriptor = true
  | species name => name ≠ "" ∧ ' ' ∉ name.toList

instance (t : TraceCall) : Decidable t.IsReplayable :=
  match t with
  | lambdaForm holder method descriptor =>
    inferInstanceAs (Decidable
      (isHolderName holder = true ∧ ' ' ∉ method.toList ∧ isMethodType descriptor = true))
  | species name => inferInstanceAs (Decidable (name ≠ "" ∧ ' ' ∉ name.toList))

/-- A record says exactly what was traced. -/
def IsSaidBy : TraceCall → Record → Prop
  | lambdaForm holder method descriptor, r =>
    r.fields.kind = .lambdaForm ∧ r.fields.holderName = some holder ∧
      r.fields.method = some method ∧ r.fields.type.map MethodType.text = some descriptor ∧
      r.fields.species = none
  | species name, r =>
    r.fields.kind = .species ∧ r.fields.holderName = none ∧ r.fields.method = none ∧
      r.fields.type = none ∧ r.fields.species = some name

/-! ### One line -/

/-- The names of the holder classes are the four of the format. -/
lemma isHolderName_iff {name : String} : isHolderName name = true ↔ name ∈ holderNames := by
  unfold isHolderName
  constructor
  · intro h
    by_contra hname
    simp [ofName?_eq_none hname] at h
  · intro h
    obtain ⟨c, hc, -⟩ := exists_ofName?_eq_some h
    simp [hc]

/-- The line of a replayable resolution has the fields of the resolution. -/
lemma exists_hasFields {t : TraceCall} (h : t.IsReplayable) :
    ∃ fields, HasFields t.line fields ∧ ∀ r : Record, r.fields = fields → t.IsSaidBy r := by
  cases t with
  | lambdaForm holder method descriptor =>
    obtain ⟨hholder, hmethod, hdescriptor⟩ := h
    obtain ⟨type, -, rfl⟩ := MethodType.exists_parse_eq_ok hdescriptor
    have hline : IsLambdaFormLine (line (.lambdaForm holder method type.text)) holder method
        type.text := by
      refine ⟨"", 0, ?_, by simp, hmethod, isHolderName_iff.mp hholder,
        isMethodType_iff.mp hdescriptor⟩
      simp only [line, String.intercalate_cons_cons, String.intercalate_singleton, spaces_zero,
        String.append_empty, String.append_assoc]
    refine ⟨_, .lambdaForm hline, fun r hr => ?_⟩
    simp only [IsSaidBy, hr, Option.map_some, and_self]
  | species name =>
    obtain ⟨hne, hspace⟩ := h
    have hline : IsSpeciesLine (line (.species name)) name := by
      refine ⟨"", 0, ?_, by simp, hspace, hne⟩
      simp only [line, String.intercalate_cons_cons, String.intercalate_singleton, spaces_zero,
        String.append_empty, String.append_assoc]
    refine ⟨_, .species hline, fun r hr => ?_⟩
    simp only [IsSaidBy, hr, and_self]

/-- A resolution is replayable if its line has the fields of the resolution. -/
lemma isReplayable_of_hasFields {t : TraceCall} {r : Record} (h : HasFields t.line r.fields)
    (hsaid : t.IsSaidBy r) : t.IsReplayable := by
  cases t with
  | lambdaForm holder method descriptor =>
    obtain ⟨hkind, hholder, hmethod, htype, -⟩ := hsaid
    generalize r.fields = fields at h hkind hholder hmethod htype
    cases h with
    | species _ => exact absurd hkind (by simp)
    | lambdaForm hline =>
      obtain ⟨-, -, -, -, hspace, hmem, hdescriptor⟩ := hline
      obtain rfl := Option.some.inj hholder
      obtain rfl := Option.some.inj hmethod
      obtain rfl := Option.some.inj htype
      exact ⟨isHolderName_iff.mpr hmem, hspace, isMethodType_iff.mpr hdescriptor⟩
  | species name =>
    obtain ⟨hkind, -, -, -, hname⟩ := hsaid
    generalize r.fields = fields at h hkind hname
    cases h with
    | lambdaForm _ => exact absurd hkind (by simp)
    | species hline =>
      obtain ⟨-, -, -, -, hspace, hne⟩ := hline
      obtain rfl := Option.some.inj hname
      exact ⟨hne, hspace⟩

/-- The line of a resolution is read as a record of it exactly if the resolution is replayable. -/
lemma exists_parse_line_iff {t : TraceCall} :
    (∃ r, Record.parse t.line = .ok r ∧ t.IsSaidBy r) ↔ t.IsReplayable := by
  constructor
  · rintro ⟨r, hparse, hsaid⟩
    rcases Record.parseAt_cases t.line with ⟨r', hfields, hok⟩ | ⟨reason, detail, -, herror⟩
    · obtain rfl : r' = r := Except.ok.inj ((hok none).symm.trans hparse)
      exact isReplayable_of_hasFields hfields hsaid
    · exact absurd ((herror none).symm.trans hparse) (by simp)
  · intro h
    obtain ⟨fields, hfields, hsaid⟩ := exists_hasFields h
    obtain ⟨r, hr, hok⟩ := Record.exists_parseAt_eq_ok hfields
    exact ⟨r, hok none, hsaid r hr⟩

end TraceCall

/-! ### A session over the stand-alone host -/

namespace Session

variable {host : Config} {version : Option String} {k : Collaborators LocalWorld}

/-- The flags that the stand-alone host answers are those of its settings. -/
lemma exists_query_eq (host : Config) (version : Option String) (w : LocalWorld) :
    ∃ t, SharingState.query (LocalHost.machine host version) w =
      ⟨.ok ⟨host.dumpingClassList, host.dumpingArchive, host.sharingEnabled⟩, t, w⟩ :=
  ⟨(SharingState.query (LocalHost.machine host version) w).trace, rfl⟩

/-- A session over the stand-alone host is started with the flags of the settings of the host. -/
lemma exists_start_eq (hk : k.machine = LocalHost.machine host version) (config : Config)
    (w : LocalWorld) :
    ∃ t, start k config w =
      ⟨.ok ⟨config, ⟨host.dumpingClassList, host.dumpingArchive, host.sharingEnabled⟩⟩, t, w⟩ := by
  obtain ⟨t, ht⟩ := exists_query_eq host version w
  rw [start, hk, Run.bind_of_ok ht]
  exact ⟨_, rfl⟩

/-- However a session over the stand-alone host is opened, its flags are those of the settings of
the host, and opening it changes nothing. -/
lemma openWith_of_ok (hk : k.machine = LocalHost.machine host version) {around : Surroundings}
    {given : Option Config} {w : LocalWorld} {s : Session}
    (h : (openWith k around given w).result = .ok s) :
    s.state = ⟨host.dumpingClassList, host.dumpingArchive, host.sharingEnabled⟩ ∧
      (openWith k around given w).world = w := by
  cases given with
  | some config =>
    obtain ⟨t, ht⟩ := exists_start_eq hk config w
    rw [openWith, ht] at h ⊢
    rw [← Except.ok.inj h]
    exact ⟨rfl, rfl⟩
  | none =>
    simp only [openWith, Run.ofChecked] at h ⊢
    cases hconfig : ((Config.ofEnvironment around []).titled Config.model).mapError
        Failure.validation with
    | error f =>
      rw [hconfig, Run.ofExcept_error, Run.bind_of_error (Run.fail_apply f w)] at h
      exact absurd h (by simp)
    | ok config =>
      obtain ⟨t, ht⟩ := exists_start_eq hk config w
      have hopen := Run.bind_of_ok (f := start k) (Run.pure_apply config w)
      rw [ht] at hopen
      rw [hconfig, Run.ofExcept_ok, hopen] at h
      rw [Run.ofExcept_ok, hopen, ← Except.ok.inj h]
      exact ⟨rfl, rfl⟩

/-- A resolution is traced by recording its line. -/
lemma perform_operation (s : Session) (call : TraceCall) :
    perform k s call.operation = do
      record k s call.line
      return .nothing := by
  cases call <;> rfl

/-- A traced resolution is answered with nothing, and its line is the last one of the log. -/
lemma exists_perform_operation (hk : k.machine = LocalHost.machine host version) {s : Session}
    (hs : s.state.dumpingClassList = true) (call : TraceCall) (w : LocalWorld) :
    ∃ t, perform k s call.operation w =
      ⟨.ok .nothing, t, { w with invokerLog := w.invokerLog ++ [call.line] }⟩ := by
  have hrecord : ∃ t, record k s call.line w =
      ⟨.ok (), t, { w with invokerLog := w.invokerLog ++ [call.line] }⟩ := by
    rw [record, if_pos hs, hk]
    exact ⟨_, rfl⟩
  obtain ⟨t, ht⟩ := hrecord
  rw [perform_operation, Run.bind_of_ok ht]
  exact ⟨_, rfl⟩

/-- A run of traced resolutions is answered with nothing each, and their lines are the last ones of
the log, in order. -/
lemma exists_performAll_operation (hk : k.machine = LocalHost.machine host version) {s : Session}
    (hs : s.state.dumpingClassList = true) (calls : List TraceCall) (w : LocalWorld) :
    ∃ t, performAll k s (calls.map TraceCall.operation) w =
      ⟨.ok (calls.map fun _ => .ok .nothing), t,
        { w with invokerLog := w.invokerLog ++ calls.map TraceCall.line }⟩ := by
  induction calls generalizing w with
  | nil => exact ⟨[], by simp [performAll]⟩
  | cons call rest ih =>
    obtain ⟨t, ht⟩ := exists_perform_operation hk hs call w
    obtain ⟨u, hu⟩ := ih { w with invokerLog := w.invokerLog ++ [call.line] }
    have houtcome : Run.outcome (perform k s call.operation) w =
        ⟨.ok (.ok .nothing), t, { w with invokerLog := w.invokerLog ++ [call.line] }⟩ := by
      rw [Run.outcome_apply, ht]
    refine ⟨t ++ u, ?_⟩
    rw [List.map_cons, performAll, Run.bind_of_ok houtcome, Run.bind_of_ok hu]
    simp

/-- The lines of replayable resolutions are read as records of them, in order. -/
lemma exists_records {calls : List TraceCall} (h : ∀ call ∈ calls, call.IsReplayable) :
    ∃ records : List Record,
      (calls.map TraceCall.line).map Record.parse = records.map .ok ∧
        List.Forall₂ TraceCall.IsSaidBy calls records := by
  induction calls with
  | nil => exact ⟨[], rfl, .nil⟩
  | cons call rest ih =>
    obtain ⟨r, hparse, hsaid⟩ := TraceCall.exists_parse_line_iff.mpr (h call List.mem_cons_self)
    obtain ⟨records, hrecords, hrest⟩ := ih fun other hmem => h other (List.mem_cons_of_mem _ hmem)
    refine ⟨r :: records, ?_, .cons hsaid hrest⟩
    rw [List.map_cons, List.map_cons, List.map_cons, hparse, hrecords]

end Session

end ClassSharing
