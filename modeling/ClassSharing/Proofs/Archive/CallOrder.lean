import ClassSharing.Archive.Dump
import ClassSharing.Proofs.Run.Calls

/-!
# The calls of a dump

A static dump asks the machine for a class list and for its arguments, launches a process and waits
for its end; a dynamic one asks the machine for the archive (`dump_makes`).
-/

namespace ClassSharing.Dump

variable {σ : Type} {m : Machine σ} {l : Launcher σ}

/-! ### The process -/

/-- The calls that run a process. Its output is read with diagnostics on only. -/
def processCalls (spec : ProcessSpec) (debug : Bool) : List Call :=
  if debug then [.spawn spec .captured, .communicate, .wait] else [.spawn spec .discarded, .wait]

/-- A process is launched, and the run ends with its status, whatever that is. -/
lemma makes_runProcess (s : Stage σ) (spec : ProcessSpec) (debug : Bool) :
    Makes m l (processCalls spec debug) s (runProcess l spec debug s.world) fun result s' =>
      ∃ exit, result = .ok exit ∧ ∃ child, s'.child = some child ∧ child.exit = .ok exit := by
  have hwait : ∀ (w : σ) (child : Child), Makes m l [.wait] ⟨w, some child⟩
      (Run.await .wait child.exit w) fun result s' =>
        ∃ exit, result = .ok exit ∧ ∃ child, s'.child = some child ∧ child.exit = .ok exit := by
    intro w child
    refine (makes_exit w child).imp ?_
    rintro result s' ⟨exit, hresult, hexit, rfl⟩
    exact ⟨exit, hresult, child, rfl, hexit⟩
  cases debug with
  | false =>
    refine (makes_launch spec .discarded).bind ?_
    rintro child s' rfl
    exact hwait _ child
  | true =>
    refine (makes_launch spec .captured).bind ?_
    rintro child s' rfl
    refine (makes_written _ child).bind ?_
    rintro ⟨out, err⟩ s' ⟨-, rfl⟩
    refine .after (Run.sayAll_apply _ _) (Trace.attempts_map_message _) ?_
    refine .after (Run.sayAll_apply _ _) (Trace.attempts_map_message _) ?_
    exact hwait _ child

/-! ### Static dumps -/

/-- The calls of a static dump that writes a class list and runs a process. Without an installation
it ends behind the first. -/
def staticCalls (c : Config) (list : String) (spec : ProcessSpec) : List Call :=
  .query (.dumpClassList list) ::
    match c.javaHome with
    | none => []
    | some _ => .query .arguments :: processCalls spec c.debug

/-- The process of a request is the launcher with the arguments of the machine. -/
lemma process_of_launcher {c : Config} {r : DumpRequest} {list : String} {launcher : Path}
    (hlist : r.classList = some list) (hlauncher : c.launcher = .ok launcher) :
    process m c r = do
      let arguments ← Run.ask m .arguments
      return staticDumpProcess launcher.text list r.archive arguments := by
  simp only [process, hlist, hlauncher]
  rfl

/-- Without an installation there is no process. -/
lemma process_of_no_launcher {c : Config} {r : DumpRequest} {list : String} {e : DomainError}
    (hlist : r.classList = some list) (hlauncher : c.launcher = .error e) :
    process m c r = Run.fail (.domain e) := by
  simp only [process, hlist, hlauncher]
  rfl

/-- With an installation the machine is asked for its arguments. -/
lemma makes_process (s : Stage σ) {c : Config} {r : DumpRequest} {list : String} {launcher : Path}
    {spec : ProcessSpec} (hlist : r.classList = some list) (hlauncher : c.launcher = .ok launcher)
    (hspec : ∀ arguments, (m .arguments s.world).answer = .ok arguments →
      spec = staticDumpProcess launcher.text list r.archive arguments) :
    Makes m l [.query .arguments] s (process m c r s.world) fun result _ =>
      ∃ p, result = .ok p ∧ p = spec := by
  rw [process_of_launcher hlist hlauncher]
  refine (makes_ask .arguments).bind_nil ?_
  rintro arguments s' ⟨harguments, rfl⟩
  exact makes_nil rfl rfl ⟨_, rfl, (hspec arguments harguments).symm⟩

/-- What is inside the span of a static dump makes all calls. -/
lemma makes_staticBody (s : Stage σ) {c : Config} {r : DumpRequest} {list : String}
    {launcher : Path} {spec : ProcessSpec} (hlist : r.classList = some list)
    (hlauncher : c.launcher = .ok launcher)
    (hspec : ∀ arguments,
      (m .arguments (m (.dumpClassList list) s.world).world).answer = .ok arguments →
        spec = staticDumpProcess launcher.text list r.archive arguments) :
    Makes m l (.query (.dumpClassList list) :: .query .arguments :: processCalls spec r.debug) s
      (staticBody m l c r list s.world) fun result s' => ∃ p, result = .ok p ∧ p.1 = spec ∧
        ∃ child, s'.child = some child ∧ child.exit = .ok p.2 := by
  have hrun : ∀ s' : Stage σ, Makes m l (processCalls spec r.debug) s'
      ((runProcess l spec r.debug >>= fun exit => pure (spec, exit)) s'.world)
      fun result s'' => ∃ p, result = .ok p ∧ p.1 = spec ∧
        ∃ child, s''.child = some child ∧ child.exit = .ok p.2 := by
    intro s'
    refine (makes_runProcess s' spec r.debug).bind_nil ?_
    intro exit s'' hexit
    exact makes_nil rfl rfl ⟨(spec, exit), rfl, rfl, hexit⟩
  refine (makes_ask (.dumpClassList list)).bind ?_
  rintro ⟨⟩ s' ⟨-, rfl⟩
  refine .after (Run.log_apply _ _) rfl ?_
  refine (makes_process _ hlist hlauncher hspec).bind ?_
  rintro p s'' rfl
  -- the command line is printed with diagnostics on only, and printing calls nobody
  cases hdebug : r.debug with
  | false =>
    rw [hdebug] at hrun
    exact hrun s''
  | true =>
    rw [hdebug] at hrun
    exact .after rfl rfl (.after rfl rfl (hrun s''))

/-- Without an installation what is inside the span ends behind the class list. -/
lemma makes_staticBody_of_no_launcher (s : Stage σ) {c : Config} {r : DumpRequest} {list : String}
    {e : DomainError} (hlist : r.classList = some list) (hlauncher : c.launcher = .error e) :
    Makes m l [.query (.dumpClassList list)] s (staticBody m l c r list s.world) fun result _ =>
      result = .error (.failure (.domain e)) := by
  rw [staticBody, process_of_no_launcher hlist hlauncher]
  refine (makes_ask (.dumpClassList list)).bind_nil ?_
  rintro ⟨⟩ s' -
  exact .after (Run.log_apply _ _) rfl (makes_nil rfl rfl rfl)

/-! ### Dumps -/

/-- No attribute of a dump is reserved. -/
lemma not_reserved_of_mem_spanAttributes {r : DumpRequest} :
    ∀ a ∈ spanAttributes r, a.1 ∉ Run.reservedAttributes := by
  simp [spanAttributes, Run.reservedAttributes]

/-- The archive of a dump: the one that is named, or the default. -/
def archiveOf (c : Config) (kind : ArchiveKind) (name : Option String) : String :=
  name.getD (defaultArchiveName kind c.pid)

/-- The class list of a static dump. -/
def classListOf (c : Config) (name : Option String) : String :=
  archiveOf c .static name ++ ".classlist"

section

variable (s : Stage σ) {c : Config} (name : Option String)

/-- Before a request is carried out nobody is called. -/
lemma makes_dump {calls : List Call} {kind : ArchiveKind}
    {holds : Except Raised DumpResult → Stage σ → Prop}
    (h : Makes m l calls s (carryOut m l c (request c kind name) s.world) holds) :
    Makes m l calls s (dump m l c kind name s.world) holds := by
  rw [dump]
  cases hdebug : (request c kind name).debug with
  | false => exact .after rfl rfl h
  | true => exact .after rfl rfl (.after rfl rfl h)

/-- A static dump with an installation makes all calls. -/
lemma makes_dump_static {launcher : Path} {spec : ProcessSpec}
    (hlauncher : c.launcher = .ok launcher)
    (hspec : ∀ arguments,
      (m .arguments (m (.dumpClassList (classListOf c name)) s.world).world).answer =
        .ok arguments →
          spec = staticDumpProcess launcher.text (classListOf c name) (archiveOf c .static name)
            arguments) :
    Makes m l
      (.query (.dumpClassList (classListOf c name)) :: .query .arguments ::
        processCalls spec c.debug) s
      (dump m l c .static name s.world) fun result s' =>
        ∃ child exit, s'.child = some child ∧ child.exit = .ok exit ∧
          result = .ok ⟨.static, archiveOf c .static name, some (classListOf c name),
            some spec.command, some exit⟩ := by
  have hbody := makes_staticBody (l := l) (r := request c .static name) s rfl hlauncher hspec
  refine makes_dump s name ((hbody.span not_reserved_of_mem_spanAttributes).bind_nil ?_)
  rintro ⟨_, exit⟩ s' ⟨rfl, child, hchild, hexit⟩
  exact .after (Run.log_apply _ _) rfl (makes_nil rfl rfl ⟨child, exit, hchild, hexit, rfl⟩)

/-- A static dump without an installation ends behind the class list. -/
lemma makes_dump_static_of_no_launcher {e : DomainError} (hlauncher : c.launcher = .error e) :
    Makes m l [.query (.dumpClassList (classListOf c name))] s (dump m l c .static name s.world)
      fun result _ => result = .error (.failure (.domain e)) :=
  makes_dump s name ((makes_staticBody_of_no_launcher s rfl hlauncher).span
    not_reserved_of_mem_spanAttributes).bind_error

/-- A dynamic dump makes one call. -/
lemma makes_dump_dynamic :
    Makes m l [.query (.dumpDynamic (archiveOf c .dynamic name))] s
      (dump m l c .dynamic name s.world) fun result _ =>
        result = .ok ⟨.dynamic, archiveOf c .dynamic name, none, none, none⟩ := by
  refine makes_dump s name (((makes_ask (.dumpDynamic (archiveOf c .dynamic name))).span
    not_reserved_of_mem_spanAttributes).bind_nil ?_)
  rintro ⟨⟩ s' -
  exact .after (Run.log_apply _ _) rfl (makes_nil rfl rfl rfl)

end

/-! ### The order of the calls -/

/-- A dump makes its calls in order and ends with what the first has raised that is not answered;
nothing else makes it fail but a missing installation, behind the class list of a static dump. If
all calls are answered the result of a static dump holds the command line that was launched and the
status of the process, whatever that is. A dynamic dump makes one call. -/
theorem dump_makes (m : Machine σ) (l : Launcher σ) (c : Config) (name : Option String) (w : σ) :
    (∃ spec : ProcessSpec, spec.environment = [("EnvP", "null")] ∧
      (∀ launcher arguments, c.launcher = .ok launcher →
        (m .arguments (m (.dumpClassList (classListOf c name)) w).world).answer = .ok arguments →
          spec = staticDumpProcess launcher.text (classListOf c name) (archiveOf c .static name)
            arguments) ∧
      Makes m l (staticCalls c (classListOf c name) spec) ⟨w, none⟩ (dump m l c .static name w)
        fun result s =>
          match c.javaHome with
          | none => result = .error (.failure (.domain (.configuration
              "java_home is required to launch a static dump" none (some "java_home"))))
          | some _ => ∃ child exit, s.child = some child ∧ child.exit = .ok exit ∧
              result = .ok ⟨.static, archiveOf c .static name, some (classListOf c name),
                some spec.command, some exit⟩) ∧
    Makes m l [.query (.dumpDynamic (archiveOf c .dynamic name))] ⟨w, none⟩
      (dump m l c .dynamic name w) fun result _ =>
        result = .ok ⟨.dynamic, archiveOf c .dynamic name, none, none, none⟩ := by
  refine ⟨?_, makes_dump_dynamic ⟨w, none⟩ name⟩
  cases hhome : c.javaHome with
  | none =>
    have hlauncher : c.launcher = .error (.configuration
        "java_home is required to launch a static dump" none (some "java_home")) := by
      rw [Config.launcher, hhome]
    refine ⟨staticDumpProcess "" (classListOf c name) (archiveOf c .static name) none, rfl, ?_, ?_⟩
    · intro launcher arguments h
      rw [hlauncher] at h
      exact absurd h (by simp)
    · simp only [staticCalls, hhome]
      exact makes_dump_static_of_no_launcher ⟨w, none⟩ name hlauncher
  | some home =>
    obtain ⟨launcher, hlauncher⟩ : ∃ launcher, c.launcher = .ok launcher := by
      rw [Config.launcher, hhome]
      exact ⟨_, rfl⟩
    -- without an answer no process is launched, and any arguments do
    obtain ⟨arguments, harguments⟩ : ∃ arguments, ∀ as,
        (m .arguments (m (.dumpClassList (classListOf c name)) w).world).answer = .ok as →
          arguments = as := by
      cases (m .arguments (m (.dumpClassList (classListOf c name)) w).world).answer with
      | ok as => exact ⟨as, fun _ h => Except.ok.inj h⟩
      | error x => exact ⟨none, by simp⟩
    refine ⟨staticDumpProcess launcher.text (classListOf c name) (archiveOf c .static name)
      arguments, rfl, ?_, ?_⟩
    · intro launcher' as h has
      obtain rfl : launcher = launcher' := Except.ok.inj (hlauncher.symm.trans h)
      rw [harguments as has]
    · simp only [staticCalls, hhome]
      exact makes_dump_static ⟨w, none⟩ name hlauncher fun as has => by rw [harguments as has]

/-- An interrupt while the end of the process is awaited leaves the dump as it is, behind all
calls. -/
theorem dump_makes_until_interrupt :
    ∃ (m : Machine Unit) (l : Launcher Unit) (c : Config) (spec : ProcessSpec),
      spec.command = ["/opt/jdk/bin/java", "-Xlog:cds", "-Xshare:dump",
        "-XX:SharedClassListFile=app.jsa.classlist", "-XX:SharedArchiveFile=app.jsa", "-Xmx1g"] ∧
      spec.environment = [("EnvP", "null")] ∧
      (dump m l c .static (some "app.jsa") ()).trace.attempts =
        [.answered (.query (.dumpClassList "app.jsa.classlist")), .answered (.query .arguments),
          .answered (.spawn spec .captured), .answered .communicate,
          ⟨.wait, some (.interrupt "stop")⟩] ∧
      (dump m l c .static (some "app.jsa") ()).result = .error (.interrupt "stop") := by
  let m : Machine Unit := fun
    | .arguments, w => ⟨.ok (some [some "-Xmx1g", none, some "-XX:+DumpSharedSpaces"]), [], w⟩
    | .dumpClassList _, w => ⟨.ok (), [], w⟩
    | _, w => ⟨.error (.interrupt "not asked"), [], w⟩
  let l : Launcher Unit := fun _ w =>
    ⟨.ok ⟨7, .ok (some "out", none), .error (.interrupt "stop")⟩, [], w⟩
  let c : Config := ⟨true, some (.ofString "/opt/jdk"), 1, [], none, false, false, false⟩
  obtain ⟨⟨spec, henvironment, hspec, -⟩, -⟩ := dump_makes m l c (some "app.jsa") ()
  obtain rfl := hspec _ _ rfl rfl
  exact ⟨m, l, c, _, by decide +kernel, henvironment, rfl, rfl⟩

/-! ### All calls -/

/-- The calls of a dump, if it makes all of them. -/
def dumpCalls (c : Config) (kind : ArchiveKind) (name : Option String) (spec : ProcessSpec) :
    List Call :=
  match kind with
  | .static =>
    .query (.dumpClassList (classListOf c name)) :: .query .arguments :: processCalls spec c.debug
  | .dynamic => [.query (.dumpDynamic (archiveOf c .dynamic name))]

/-- A static dump with an installation makes all calls, for a process that its machine makes up. -/
lemma exists_makes_dump_static {c : Config} {launcher : Path} (s : Stage σ) (name : Option String)
    (hlauncher : c.launcher = .ok launcher) :
    ∃ spec : ProcessSpec, Makes m l (dumpCalls c .static name spec) s
      (dump m l c .static name s.world) fun result s' =>
        ∃ child exit, s'.child = some child ∧ child.exit = .ok exit ∧
          result = .ok ⟨.static, archiveOf c .static name, some (classListOf c name),
            some spec.command, some exit⟩ := by
  -- the arguments that the machine answers, if it does
  let arguments : Option (List (Option String)) :=
    (m .arguments (m (.dumpClassList (classListOf c name)) s.world).world).answer.toOption.join
  have hspec : ∀ answered,
      (m .arguments (m (.dumpClassList (classListOf c name)) s.world).world).answer =
          .ok answered →
        staticDumpProcess launcher.text (classListOf c name) (archiveOf c .static name) arguments =
          staticDumpProcess launcher.text (classListOf c name) (archiveOf c .static name)
            answered := by
    intro answered hanswered
    have hsame : arguments = answered := by simp [arguments, hanswered, Except.toOption]
    rw [hsame]
  exact ⟨_, makes_dump_static s name hlauncher hspec⟩

/-- A dump makes no other calls, whatever its collaborators do. -/
lemma exists_calls_dump_prefix (m : Machine σ) (l : Launcher σ) (c : Config) (kind : ArchiveKind)
    (name : Option String) (w : σ) :
    ∃ spec, (dump m l c kind name w).trace.calls <+: dumpCalls c kind name spec := by
  cases kind with
  | dynamic =>
    have hmakes := makes_dump_dynamic (m := m) (l := l) (c := c) ⟨w, none⟩ name
    exact ⟨staticDumpProcess "" "" "" none, hmakes.calls_prefix⟩
  | static =>
    cases hlauncher : c.launcher with
    | error e =>
      have hmakes := makes_dump_static_of_no_launcher (m := m) (l := l) ⟨w, none⟩ name hlauncher
      exact ⟨staticDumpProcess "" "" "" none,
        hmakes.calls_prefix.trans (List.prefix_append [_] _)⟩
    | ok launcher =>
      obtain ⟨spec, hmakes⟩ := exists_makes_dump_static (m := m) (l := l) ⟨w, none⟩ name hlauncher
      exact ⟨spec, hmakes.calls_prefix⟩

/-- A static dump with a result was launched, and the result has the status of the process. -/
lemma exists_child_of_dump_static {c : Config} {name : Option String} {w : σ} {r : DumpResult}
    (h : (dump m l c .static name w).result = .ok r) :
    ∃ s child exit, AnswersAll m l ⟨w, none⟩ (dump m l c .static name w).trace.attempts s ∧
      s.child = some child ∧ child.exit = .ok exit ∧ r.exitCode = some exit := by
  cases hlauncher : c.launcher with
  | error e =>
    obtain ⟨-, -, -, ⟨_, _, _, x, -, -, hx⟩ | ⟨-, hx⟩⟩ :=
      makes_dump_static_of_no_launcher (m := m) (l := l) ⟨w, none⟩ name hlauncher
    · exact absurd (h.symm.trans hx) (by simp)
    · exact absurd (h.symm.trans hx) (by simp)
  | ok launcher =>
    obtain ⟨spec, s, hanswers, -, ⟨_, _, _, x, -, -, hx⟩ |
      ⟨-, child, exit, hchild, hexit, hr⟩⟩ :=
        exists_makes_dump_static (m := m) (l := l) ⟨w, none⟩ name hlauncher
    · exact absurd (h.symm.trans hx) (by simp)
    · obtain rfl := Except.ok.inj (h.symm.trans hr)
      exact ⟨s, child, exit, hanswers, hchild, hexit, rfl⟩

/-! ### Launched processes -/

/-- Of the calls that run a process the first launches it, and no other does. -/
lemma exists_processCalls_eq_cons (spec : ProcessSpec) (debug : Bool) :
    ∃ streams rest, processCalls spec debug = .spawn spec streams :: rest ∧
      rest.filterMap Call.spawned? = [] := by
  cases debug with
  | false => exact ⟨_, _, rfl, rfl⟩
  | true => exact ⟨_, _, rfl, rfl⟩

/-- A run of a process tries to launch it once. -/
lemma spawned_of_makes {α : Type} {s : Stage σ} {e : Ended σ α}
    {holds : Except Raised α → Stage σ → Prop} {spec : ProcessSpec} {debug : Bool}
    (h : Makes m l (processCalls spec debug) s e holds) : e.trace.spawned = [spec] := by
  obtain ⟨streams, rest, hcalls, hrest⟩ := exists_processCalls_eq_cons spec debug
  rw [hcalls] at h
  obtain ⟨made, hmade, hprefix⟩ := h.exists_calls_eq_cons
  have hnone : made.filterMap Call.spawned? = [] :=
    List.prefix_nil.mp (hrest ▸ hprefix.filterMap _)
  simp [Trace.spawned, hmade, Call.spawned?, hnone]

/-- Without an installation a static dump launches nothing. -/
lemma spawned_dump_static_of_no_launcher (m : Machine σ) (l : Launcher σ) {c : Config}
    {e : DomainError} (name : Option String) (w : σ) (hlauncher : c.launcher = .error e) :
    (dump m l c .static name w).trace.spawned = [] := by
  have hmakes := makes_dump_static_of_no_launcher (m := m) (l := l) ⟨w, none⟩ name hlauncher
  exact List.prefix_nil.mp (hmakes.calls_prefix.filterMap Call.spawned?)

/-- A dynamic dump launches nothing. -/
lemma spawned_dump_dynamic (m : Machine σ) (l : Launcher σ) (c : Config) (name : Option String)
    (w : σ) : (dump m l c .dynamic name w).trace.spawned = [] := by
  have hmakes := makes_dump_dynamic (m := m) (l := l) (c := c) ⟨w, none⟩ name
  exact List.prefix_nil.mp (hmakes.calls_prefix.filterMap Call.spawned?)

end ClassSharing.Dump
