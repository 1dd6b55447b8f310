import ClassSharing.Proofs.Config.Precedence
import ClassSharing.Proofs.LocalHost

/-!
# The dry run of a dump

A dry run builds its request and its command line by itself, and it never copies a class list.
`dry_run_agrees` compares it with the dump that would be carried out from the same start: what it
tells is what the dump does, and the dump fails elsewhere only in the copy of the class list.
-/

namespace ClassSharing.DumpCommand

variable {ctx : CommandContext} {o : DumpOptions} {w : LocalWorld} {c : Config}

/-! ### The command around its work -/

/-- Work that has ended early is told of in messages, and never ends with the status 0. -/
lemma exists_handle_eq (o : DumpOptions) (x : Raised) :
    ∃ (exit : Exit) (messages : List Message), exit ≠ .status 0 ∧
      ∀ w : LocalWorld, handle o x w = ⟨.ok exit, messages.map .message, w⟩ := by
  unfold handle
  split
  · exact ⟨_, [_], by simp [systemStatus], fun _ => rfl⟩
  · exact ⟨_, [], by simp, fun _ => rfl⟩
  · exact ⟨_, [_], by simp [userStatus], fun _ => rfl⟩
  · exact ⟨_, [_], by simp [systemStatus], fun _ => rfl⟩
  · exact ⟨_, [_], by simp [userStatus], fun _ => rfl⟩
  · exact ⟨_, [], by simp, fun _ => rfl⟩

/-- A command whose work is done ends with the status 0. -/
lemma run_of_ok (h : (body ctx o w).result = .ok ()) :
    (run ctx o w).result = .ok (.status 0) ∧ (run ctx o w).trace = (body ctx o w).trace := by
  have houtcome : Run.outcome (body ctx o) w =
      ⟨.ok (.ok ()), (body ctx o w).trace, (body ctx o w).world⟩ := by
    rw [Run.outcome_apply, h]
  rw [run, Run.bind_of_ok houtcome]
  exact ⟨rfl, List.append_nil _⟩

/-- A command whose work has ended early ends as that is handled. -/
lemma run_of_error {x : Raised} (h : (body ctx o w).result = .error x) :
    (run ctx o w).result = (handle o x w).result ∧
      (run ctx o w).trace = (body ctx o w).trace ++ (handle o x w).trace := by
  have houtcome : Run.outcome (body ctx o) w =
      ⟨.ok (.error x), (body ctx o w).trace, (body ctx o w).world⟩ := by
    rw [Run.outcome_apply, h]
  obtain ⟨exit, messages, -, hhandle⟩ := exists_handle_eq o x
  rw [run, Run.bind_of_ok houtcome]
  simp only [hhandle, and_self]

/-- The command calls nobody behind its work. -/
lemma attempts_run (ctx : CommandContext) (o : DumpOptions) (w : LocalWorld) :
    (run ctx o w).trace.attempts = (body ctx o w).trace.attempts := by
  cases hbody : (body ctx o w).result with
  | ok a => rw [(run_of_ok hbody).2]
  | error x =>
    obtain ⟨exit, messages, -, hhandle⟩ := exists_handle_eq o x
    rw [(run_of_error hbody).2, hhandle w, Trace.attempts_append, Trace.attempts_map_message,
      List.append_nil]

/-- The calls of a command are those of its work. -/
lemma calls_run (ctx : CommandContext) (o : DumpOptions) (w : LocalWorld) :
    (run ctx o w).trace.calls = (body ctx o w).trace.calls := by
  rw [Trace.calls_eq_map_attempts, attempts_run, Trace.calls_eq_map_attempts]

/-! ### Dry runs -/

/-- A static dump is of the static kind. -/
lemma kind_of_isStatic (h : o.isStatic = true) : o.kind = .static := if_pos h

/-- Any other dump is of the dynamic kind. -/
lemma kind_of_not_isStatic (h : o.isStatic = false) : o.kind = .dynamic := if_neg (by simp [h])

/-- What a dry run of a static dump tells. -/
def planMessages (archive list : String) (spec : ProcessSpec) : List Message :=
  [.plain ("Archive: " ++ archive), .plain ("Class list: " ++ list), .plain "Command:",
    .plain (" ".intercalate spec.command)]

/-- With an installation a static dump is planned to its end. -/
lemma plan_of_launcher (ctx : CommandContext) (w : LocalWorld) {launcher : Path}
    (hstatic : o.isStatic = true) (hlauncher : c.launcher = .ok launcher) :
    (plan ctx c o w).result = .ok () ∧ (plan ctx c o w).trace.messages =
      planMessages (Dump.archiveOf c .static o.output) (Dump.classListOf c o.output)
        (Dump.hostProcess c o.output launcher) := by
  have hlist : (Dump.request c .static o.output).classList = some (Dump.classListOf c o.output) :=
    rfl
  rw [plan, kind_of_isStatic hstatic]
  simp only [hlist, Dump.process_of_launcher hlist hlauncher]
  exact ⟨rfl, rfl⟩

/-- Without an installation planning a static dump fails. -/
lemma plan_of_no_launcher (ctx : CommandContext) (w : LocalWorld) {e : DomainError}
    (hstatic : o.isStatic = true) (hlauncher : c.launcher = .error e) :
    (plan ctx c o w).result = .error (.failure (.domain e)) ∧ (plan ctx c o w).trace.messages =
      [.plain ("Archive: " ++ Dump.archiveOf c .static o.output),
        .plain ("Class list: " ++ Dump.classListOf c o.output), .plain "Command:"] := by
  have hlist : (Dump.request c .static o.output).classList = some (Dump.classListOf c o.output) :=
    rfl
  rw [plan, kind_of_isStatic hstatic]
  simp only [hlist, Dump.process_of_no_launcher hlist hlauncher]
  exact ⟨rfl, rfl⟩

/-! ### Dumps -/

/-- What is seen while the flags of the host are asked for. -/
def openingTrace (c : Config) : Trace :=
  [.call (.query .dumpingClassList) [] none, .call (.query .dumpingArchive) [] none,
    .call (.query .sharingEnabled) [] none,
    .event ⟨.debug, "sharing_state_initialized", Session.bound ++
      (⟨c.dumpingClassList, c.dumpingArchive, c.sharingEnabled⟩ : SharingState).fields⟩]

/-- What is seen at the end of a dump that has a result. -/
def closingTrace : Except Raised DumpResult → Trace
  | .ok r => (resultMessages r).map .message
  | .error _ => []

/-- The dump that is performed under given settings. -/
def dumped (ctx : CommandContext) (c : Config) (o : DumpOptions) (w : LocalWorld) :
    Ended LocalWorld DumpResult :=
  Dump.dump (LocalHost.machine c (some ctx.version)) ctx.launcher c o.kind o.output w

/-- Performing a dump asks for the flags of the host first, and tells the result at its end. -/
lemma perform_apply (ctx : CommandContext) (c : Config) (o : DumpOptions) (w : LocalWorld) :
    perform ctx c o w = ⟨(dumped ctx c o w).result.map fun _ => (),
      openingTrace c ++ ((dumped ctx c o w).trace ++ closingTrace (dumped ctx c o w).result),
      (dumped ctx c o w).world⟩ := by
  let state : SharingState := ⟨c.dumpingClassList, c.dumpingArchive, c.sharingEnabled⟩
  have hstart : Session.start (collaborators ctx c) c w = ⟨.ok ⟨c, state⟩, openingTrace c, w⟩ := rfl
  have hdump : Session.dump (collaborators ctx c) ⟨c, state⟩ o.isStatic o.output w =
      dumped ctx c o w := rfl
  rw [perform, Run.bind_of_ok hstart]
  cases hresult : (dumped ctx c o w).result with
  | ok r =>
    rw [Run.bind_of_ok (hdump.trans (by rw [← hresult]))]
    simp only [Run.sayAll_apply, closingTrace, Except.map]
  | error x =>
    rw [Run.bind_of_error (hdump.trans (by rw [← hresult]))]
    simp only [closingTrace, Except.map, List.append_nil]

/-- Performing a dump makes the calls of the dump behind its own. It fails if the dump does. -/
lemma perform_of_dump {e : Ended LocalWorld DumpResult}
    (he : Dump.dump (LocalHost.machine c (some ctx.version)) ctx.launcher c o.kind o.output w = e) :
    (perform ctx c o w).trace.calls =
        [.query .dumpingClassList, .query .dumpingArchive, .query .sharingEnabled] ++
          e.trace.calls ∧
      ∀ x, e.result = .error x → (perform ctx c o w).result = .error x := by
  have hdumped : dumped ctx c o w = e := he
  have hclosing : (closingTrace e.result).calls = [] := by
    cases e.result with
    | ok r => exact Trace.calls_map_message _
    | error x => rfl
  rw [perform_apply, hdumped]
  simp only [Trace.calls_append, hclosing, List.append_nil]
  exact ⟨rfl, fun x hx => Run.map_eq_error_iff.mpr hx⟩

/-- The processes that performing a dump tries to launch are those of the dump. -/
lemma spawned_perform : (perform ctx c o w).trace.spawned =
    (Dump.dump (LocalHost.machine c (some ctx.version)) ctx.launcher c o.kind o.output
      w).trace.spawned := by
  rw [Trace.spawned, (perform_of_dump rfl).1]
  rfl

/-- Only with settings, an installation and a class list does a dump launch a process, and it is
that of the settings. -/
lemma of_mem_spawned_perform {spec : ProcessSpec} (h : spec ∈ (perform ctx c o w).trace.spawned) :
    ∃ launcher, o.isStatic = true ∧ c.launcher = .ok launcher ∧
      spec = Dump.hostProcess c o.output launcher ∧
      .query (.dumpClassList (Dump.classListOf c o.output)) ∈ (perform ctx c o w).trace.calls := by
  rw [spawned_perform] at h
  cases hstatic : o.isStatic with
  | false =>
    rw [kind_of_not_isStatic hstatic, Dump.spawned_dump_dynamic] at h
    exact absurd h (List.not_mem_nil)
  | true =>
    have hkind := kind_of_isStatic hstatic
    rw [hkind] at h
    cases hlauncher : c.launcher with
    | error e =>
      rw [Dump.spawned_dump_static_of_no_launcher _ _ _ _ hlauncher] at h
      exact absurd h (List.not_mem_nil)
    | ok launcher =>
      rcases Dump.dump_static_cases (some ctx.version) ctx.launcher o.output w hlauncher with
        ⟨f, -, -, hspawned⟩ | ⟨hcalls, hspawned⟩
      · rw [hspawned] at h
        exact absurd h (List.not_mem_nil)
      · rw [hspawned, List.mem_singleton] at h
        refine ⟨launcher, rfl, rfl, h, ?_⟩
        rw [(perform_of_dump (by rw [hkind])).1]
        exact List.mem_append_right _ hcalls

/-- The processes that a command tries to launch are those of its work. -/
lemma spawned_run (ctx : CommandContext) (o : DumpOptions) (w : LocalWorld) :
    (run ctx o w).trace.spawned = (body ctx o w).trace.spawned := by
  rw [Trace.spawned, calls_run, Trace.spawned]

/-! ### The two runs -/

/-- The command that tells what it would do. -/
def dryRun (ctx : CommandContext) (o : DumpOptions) : Run LocalWorld Exit :=
  run ctx { o with dryRun := true }

/-- The command that does it. -/
def realRun (ctx : CommandContext) (o : DumpOptions) : Run LocalWorld Exit :=
  run ctx { o with dryRun := false }

/-- A command without settings ends as that is handled, and calls nobody. -/
lemma run_of_no_settings {x : Raised} {t : Trace} (b : Bool)
    (h : (settings ctx w.files o : Run LocalWorld Config) w = ⟨.error x, t, w⟩)
    (ht : t.calls = []) :
    run ctx { o with dryRun := b } w =
        ⟨(handle o x w).result, t ++ (handle o x w).trace, (handle o x w).world⟩ ∧
      (run ctx { o with dryRun := b } w).trace.spawned = [] := by
  have hbody : body ctx { o with dryRun := b } w = ⟨.error x, t, w⟩ := Run.bind_of_error h
  have houtcome : Run.outcome (body ctx { o with dryRun := b }) w = ⟨.ok (.error x), t, w⟩ := by
    rw [Run.outcome_apply, hbody]
  refine ⟨(Run.bind_of_ok houtcome).trans rfl, ?_⟩
  rw [spawned_run, hbody, Trace.spawned, ht]
  rfl

section

variable (hsettings : (settings ctx w.files o : Run LocalWorld Config) w = ⟨.ok c, [], w⟩)

include hsettings

/-- With an installation a dry run of a static dump tells its process. -/
lemma dryRun_of_launcher {launcher : Path} (hstatic : o.isStatic = true)
    (hlauncher : c.launcher = .ok launcher) :
    (dryRun ctx o w).result = .ok (.status 0) ∧ (dryRun ctx o w).trace.messages =
      planMessages (Dump.archiveOf c .static o.output) (Dump.classListOf c o.output)
        (Dump.hostProcess c o.output launcher) := by
  have hbody : body ctx { o with dryRun := true } w = plan ctx c o w := Run.bind_of_ok hsettings
  obtain ⟨hresult, hmessages⟩ := plan_of_launcher ctx w hstatic hlauncher
  rw [← hbody] at hresult hmessages
  obtain ⟨hrun, htrace⟩ := run_of_ok hresult
  exact ⟨hrun, by rw [dryRun, htrace, hmessages]⟩

/-- Without an installation a dry run of a static dump fails for the lack of it. -/
lemma dryRun_of_no_launcher {e : DomainError} (hstatic : o.isStatic = true)
    (hlauncher : c.launcher = .error e) :
    (dryRun ctx o w).result = .ok (.status 1) ∧ (dryRun ctx o w).trace.messages =
      [.plain ("Archive: " ++ Dump.archiveOf c .static o.output),
        .plain ("Class list: " ++ Dump.classListOf c o.output), .plain "Command:",
        .marked .failure e.message] := by
  have hbody : body ctx { o with dryRun := true } w = plan ctx c o w := Run.bind_of_ok hsettings
  obtain ⟨hresult, hmessages⟩ := plan_of_no_launcher ctx w hstatic hlauncher
  rw [← hbody] at hresult hmessages
  obtain ⟨hrun, htrace⟩ := run_of_error hresult
  refine ⟨hrun.trans rfl, ?_⟩
  rw [dryRun, htrace, Trace.messages_append, hmessages]
  rfl

/-- The dump makes the calls of its performance. -/
lemma calls_realRun : (realRun ctx o w).trace.calls = (perform ctx c o w).trace.calls := by
  have hbody : body ctx { o with dryRun := false } w = perform ctx c o w :=
    Run.bind_of_ok hsettings
  rw [realRun, calls_run, hbody]

/-- The processes that the dump tries to launch are those of its performance. -/
lemma spawned_realRun : (realRun ctx o w).trace.spawned = (perform ctx c o w).trace.spawned := by
  rw [Trace.spawned, calls_realRun hsettings, Trace.spawned]

/-- With an installation a static dump tries to launch its process, or it fails in the copy of the
class list before. -/
lemma realRun_cases {launcher : Path} (hstatic : o.isStatic = true)
    (hlauncher : c.launcher = .ok launcher) :
    (realRun ctx o w).trace.spawned = [Dump.hostProcess c o.output launcher] ∨ ∃ f,
      LocalHost.copyClassList c w.files (Dump.classListOf c o.output) = .error f ∧
      (realRun ctx o w).trace.spawned = [] ∧
      (realRun ctx o w).result = (handle o (.failure f) w).result := by
  have hbody : body ctx { o with dryRun := false } w = perform ctx c o w :=
    Run.bind_of_ok hsettings
  rw [spawned_realRun hsettings, spawned_perform, kind_of_isStatic hstatic]
  rcases Dump.dump_static_cases (some ctx.version) ctx.launcher o.output w hlauncher with
    ⟨f, hcopy, hresult, hnone⟩ | ⟨-, hone⟩
  · refine .inr ⟨f, hcopy, hnone, ?_⟩
    have hperform := (perform_of_dump (by rw [kind_of_isStatic hstatic])).2 _ hresult
    rw [← hbody] at hperform
    exact (run_of_error hperform).1
  · exact .inl hone

/-- The dry run tells the process that the dump tries to launch. -/
lemma dryRun_of_mem_spawned {spec : ProcessSpec} (hspec : spec ∈ (realRun ctx o w).trace.spawned) :
    ∃ launcher, c.launcher = .ok launcher ∧ spec = Dump.hostProcess c o.output launcher ∧
      .query (.dumpClassList (Dump.classListOf c o.output)) ∈ (realRun ctx o w).trace.calls ∧
      (dryRun ctx o w).result = .ok (.status 0) ∧ (dryRun ctx o w).trace.messages =
        planMessages (Dump.archiveOf c .static o.output) (Dump.classListOf c o.output) spec := by
  rw [spawned_realRun hsettings] at hspec
  obtain ⟨launcher, hstatic, hlauncher, rfl, hcalls⟩ := of_mem_spawned_perform hspec
  rw [← calls_realRun hsettings] at hcalls
  exact ⟨launcher, hlauncher, rfl, hcalls, dryRun_of_launcher hsettings hstatic hlauncher⟩

/-- The dump launches what a dry run has told, or it fails in the copy of the class list. -/
lemma realRun_of_dryRun (hstatic : o.isStatic = true)
    (hzero : (dryRun ctx o w).result = .ok (.status 0)) :
    ∃ spec, (dryRun ctx o w).trace.messages =
        planMessages (Dump.archiveOf c .static o.output) (Dump.classListOf c o.output) spec ∧
      ((realRun ctx o w).trace.spawned = [spec] ∨ ∃ f,
        LocalHost.copyClassList c w.files (Dump.classListOf c o.output) = .error f ∧
        LocalHost.IsCopyFailure f ∧ (realRun ctx o w).trace.spawned = [] ∧
        (realRun ctx o w).result = (handle o (.failure f) w).result) := by
  cases hlauncher : c.launcher with
  | error e =>
    rw [(dryRun_of_no_launcher hsettings hstatic hlauncher).1] at hzero
    exact absurd hzero (by simp)
  | ok launcher =>
    refine ⟨_, (dryRun_of_launcher hsettings hstatic hlauncher).2, ?_⟩
    refine (realRun_cases hsettings hstatic hlauncher).imp_right ?_
    rintro ⟨f, hcopy, hnone, hresult⟩
    exact ⟨f, hcopy, LocalHost.isCopyFailure_of_copyClassList hcopy, hnone, hresult⟩

/-- Without an installation the dry run fails for the lack of it, and the dump launches nothing. -/
lemma runs_of_no_home (hstatic : o.isStatic = true) (hhome : c.javaHome = none) :
    (dryRun ctx o w).result = .ok (.status 1) ∧ (dryRun ctx o w).trace.messages =
        [.plain ("Archive: " ++ Dump.archiveOf c .static o.output),
          .plain ("Class list: " ++ Dump.classListOf c o.output), .plain "Command:",
          .marked .failure
            "java_home is required to launch a static dump (field 'java_home')"] ∧
      (realRun ctx o w).trace.spawned = [] := by
  have hlauncher : c.launcher = .error (.configuration
      "java_home is required to launch a static dump" none (some "java_home")) := by
    rw [Config.launcher, hhome]
  have htext : (DomainError.configuration "java_home is required to launch a static dump" none
      (some "java_home")).message =
        "java_home is required to launch a static dump (field 'java_home')" := by decide
  obtain ⟨hresult, hmessages⟩ := dryRun_of_no_launcher hsettings hstatic hlauncher
  rw [htext] at hmessages
  refine ⟨hresult, hmessages, List.eq_nil_iff_forall_not_mem.mpr ?_⟩
  intro spec hspec
  obtain ⟨launcher, hok, -⟩ := dryRun_of_mem_spawned hsettings hspec
  rw [hlauncher] at hok
  exact absurd hok (by simp)

end

/-- The dry run tells the truth. Without settings both runs are the same. If the dump would try to
launch a process, the dry run ends with the status 0 and tells the names and the command line of
that very process. If the dry run of a static dump ends with the status 0, the dump tries to launch
what the dry run has told, or it fails in the copy of the class list and launches nothing. Without
an installation the dry run of a static dump fails for the lack of it, and the dump launches
nothing. -/
theorem dry_run_agrees (ctx : CommandContext) (o : DumpOptions) (w : LocalWorld) :
    (∀ x, ((settings ctx w.files o : Run LocalWorld Config) w).result = .error x →
      dryRun ctx o w = realRun ctx o w) ∧
    (∀ spec ∈ (realRun ctx o w).trace.spawned, ∃ c launcher,
      ((settings ctx w.files o : Run LocalWorld Config) w).result = .ok c ∧
      c.launcher = .ok launcher ∧ spec = Dump.hostProcess c o.output launcher ∧
      .query (.dumpClassList (Dump.classListOf c o.output)) ∈ (realRun ctx o w).trace.calls ∧
      (dryRun ctx o w).result = .ok (.status 0) ∧ (dryRun ctx o w).trace.messages =
        planMessages (Dump.archiveOf c .static o.output) (Dump.classListOf c o.output) spec) ∧
    (o.isStatic = true → (dryRun ctx o w).result = .ok (.status 0) → ∃ c spec,
      ((settings ctx w.files o : Run LocalWorld Config) w).result = .ok c ∧
      (dryRun ctx o w).trace.messages =
        planMessages (Dump.archiveOf c .static o.output) (Dump.classListOf c o.output) spec ∧
      ((realRun ctx o w).trace.spawned = [spec] ∨ ∃ f,
        LocalHost.copyClassList c w.files (Dump.classListOf c o.output) = .error f ∧
        LocalHost.IsCopyFailure f ∧ (realRun ctx o w).trace.spawned = [] ∧
        (realRun ctx o w).result = (handle o (.failure f) w).result)) ∧
    (o.isStatic = true → ∀ c, ((settings ctx w.files o : Run LocalWorld Config) w).result = .ok c →
      c.javaHome = none →
        (dryRun ctx o w).result = .ok (.status 1) ∧ (dryRun ctx o w).trace.messages =
          [.plain ("Archive: " ++ Dump.archiveOf c .static o.output),
            .plain ("Class list: " ++ Dump.classListOf c o.output), .plain "Command:",
            .marked .failure
              "java_home is required to launch a static dump (field 'java_home')"] ∧
        (realRun ctx o w).trace.spawned = []) := by
  rcases settings_cases ctx w.files o w with ⟨c, hsettings⟩ | ⟨x, t, hsettings, ht⟩
  · rw [hsettings]
    refine ⟨fun x hx => absurd hx (by simp), ?_, ?_, ?_⟩
    · intro spec hspec
      obtain ⟨launcher, htold⟩ := dryRun_of_mem_spawned hsettings hspec
      exact ⟨c, launcher, rfl, htold⟩
    · intro hstatic hzero
      obtain ⟨spec, htold⟩ := realRun_of_dryRun hsettings hstatic hzero
      exact ⟨c, spec, rfl, htold⟩
    · rintro hstatic _ ⟨rfl⟩ hhome
      exact runs_of_no_home hsettings hstatic hhome
  · obtain ⟨hdry, -⟩ := run_of_no_settings true hsettings ht
    obtain ⟨hreal, hspawned⟩ := run_of_no_settings false hsettings ht
    rw [hsettings]
    refine ⟨fun _ _ => hdry.trans hreal.symm, ?_, ?_, fun _ c hc => absurd hc (by simp)⟩
    · intro spec hspec
      rw [realRun, hspawned] at hspec
      exact absurd hspec List.not_mem_nil
    · intro hstatic hzero
      obtain ⟨exit, messages, hne, hhandle⟩ := exists_handle_eq o x
      rw [dryRun, hdry, hhandle] at hzero
      exact absurd (Except.ok.inj hzero) hne

/-- A dump that launches its process, with the dry run that tells it. -/
theorem dry_run_of_app :
    ∃ (ctx : CommandContext) (o : DumpOptions) (w : LocalWorld) (spec : ProcessSpec),
      (realRun ctx o w).trace.spawned = [spec] ∧
      spec.command = ["/opt/jdk/bin/java", "-Xlog:cds", "-Xshare:dump",
        "-XX:SharedClassListFile=app.jsa.classlist", "-XX:SharedArchiveFile=app.jsa", "-Xmx1g"] ∧
      (dryRun ctx o w).result = .ok (.status 0) ∧ (dryRun ctx o w).trace.messages =
        planMessages "app.jsa" "app.jsa.classlist" spec := by
  let ctx : CommandContext :=
    ⟨⟨[], 1⟩, "1", false, fun _ w => ⟨.ok ⟨1, .ok (none, none), .ok 0⟩, [], w⟩⟩
  let o : DumpOptions :=
    ⟨true, some "app.jsa", none, some "/opt/jdk", some "list", ["-Xmx1g"], false, false⟩
  let w : LocalWorld := ⟨FileTree.empty.putFile ["list"] (.file []), []⟩
  let spec : ProcessSpec := staticDumpProcess "/opt/jdk/bin/java" "app.jsa.classlist" "app.jsa"
    (some [some "-Xmx1g"])
  have hspawned : (realRun ctx o w).trace.spawned = [spec] := by decide +kernel
  obtain ⟨c, launcher, hsettings, -, -, -, hresult, hmessages⟩ :=
    (dry_run_agrees ctx o w).2.1 spec (by rw [hspawned]; exact List.mem_singleton_self spec)
  refine ⟨ctx, o, w, spec, hspawned, by decide +kernel, hresult, hmessages⟩

end ClassSharing.DumpCommand
