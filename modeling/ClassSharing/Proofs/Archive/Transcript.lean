import ClassSharing.Proofs.Archive.Outcome
import ClassSharing.Proofs.Run.Script
import ClassSharing.Proofs.Text.Lines

/-!
# The transcript of a dump

With diagnostics on a static dump prints what it does: the archive, the command line in front of the
launch, and behind the reading of the output each line of it, first of the one stream and then of
the other. `transcript` is the script of its calls and messages, and `dump_follows_transcript` says
that the dump follows it up to its end or up to the first call that is not answered.
-/

namespace ClassSharing.Dump

variable {σ : Type}

/-! ### The script -/

/-- The texts that are printed for what a process has written to a stream: a heading and the lines,
if there are any. -/
def outputTexts (pid : Int) (stream : String) (output : Option String) : List String :=
  ("Dumping process " ++ toString pid ++ " " ++ stream ++ ": ") :: Text.lines (output.getD "")

/-- The script behind the reading of the output of a process. -/
def closingScript (pid : Int) (out err : Option String) : List Cue :=
  ((outputTexts pid "Stdout" out).map .plain).map .inr ++
    (((outputTexts pid "Stderr" err).map .plain).map .inr ++ [.inl .wait])

/-- The script of launching a process and waiting for its end. -/
def launchScript (spec : ProcessSpec) (pid : Int) (out err : Option String) : List Cue :=
  .inl (.spawn spec .captured) :: .inl .communicate :: closingScript pid out err

/-- The script of a static dump with diagnostics. Without an installation it ends behind the class
list. -/
def transcript (c : Config) (name : Option String) (spec : ProcessSpec) (pid : Int)
    (out err : Option String) : List Cue :=
  .inr (.plain ("Static dump to file " ++ archiveOf c .static name)) ::
    .inl (.query (.dumpClassList (classListOf c name))) ::
      match c.javaHome with
      | none => []
      | some _ => .inl (.query .arguments) :: .inr (.plain "Static dump cmd: ") ::
          .inr (.plain (" ".intercalate spec.command)) :: launchScript spec pid out err

/-- What the collaborators of a static dump supply, as far as they answer: the machine the arguments
of the process, the launcher the process that it has launched, and that what it has written. -/
structure IsSupplied (m : Machine σ) (l : Launcher σ) (c : Config) (name : Option String) (w : σ)
    (spec : ProcessSpec) (child : Child) (out err : Option String) : Prop where
  spec_eq : ∀ launcher arguments, c.launcher = .ok launcher →
    (m .arguments (m (.dumpClassList (classListOf c name)) w).world).answer = .ok arguments →
      spec = staticDumpProcess launcher.text (classListOf c name) (archiveOf c .static name)
        arguments
  child_eq : ∀ launched,
    (l spec (m .arguments (m (.dumpClassList (classListOf c name)) w).world).world).answer =
      .ok launched → launched = child
  written_eq : ∀ output, child.written = .ok output → output = (out, err)

/-- Something is supplied in any case. -/
lemma exists_isSupplied (m : Machine σ) (l : Launcher σ) (c : Config) (name : Option String)
    (w : σ) : ∃ spec child out err, IsSupplied m l c name w spec child out err := by
  obtain ⟨spec, hspec⟩ : ∃ spec, ∀ launcher arguments, c.launcher = .ok launcher →
      (m .arguments (m (.dumpClassList (classListOf c name)) w).world).answer = .ok arguments →
        spec = staticDumpProcess launcher.text (classListOf c name) (archiveOf c .static name)
          arguments := by
    cases hlauncher : c.launcher with
    | error e =>
      exact ⟨staticDumpProcess "" "" "" none, fun _ _ h => absurd h (by simp)⟩
    | ok launcher =>
      cases (m .arguments (m (.dumpClassList (classListOf c name)) w).world).answer with
      | error x => exact ⟨staticDumpProcess "" "" "" none, fun _ _ _ h => absurd h (by simp)⟩
      | ok arguments =>
        refine ⟨staticDumpProcess launcher.text (classListOf c name) (archiveOf c .static name)
          arguments, fun _ _ h h' => ?_⟩
        rw [Except.ok.inj h, Except.ok.inj h']
  obtain ⟨child, hchild⟩ : ∃ child, ∀ launched,
      (l spec (m .arguments (m (.dumpClassList (classListOf c name)) w).world).world).answer =
        .ok launched → launched = child := by
    cases (l spec (m .arguments (m (.dumpClassList (classListOf c name)) w).world).world).answer
      with
    | ok child => exact ⟨child, fun _ h => (Except.ok.inj h).symm⟩
    | error x => exact ⟨⟨0, .error x, .error x⟩, fun _ h => absurd h (by simp)⟩
  cases hwritten : child.written with
  | ok output =>
    refine ⟨spec, child, output.1, output.2, hspec, hchild, fun output' h => ?_⟩
    exact (Except.ok.inj (hwritten.symm.trans h)).symm
  | error x =>
    refine ⟨spec, child, none, none, hspec, hchild, fun output h => ?_⟩
    exact absurd (hwritten.symm.trans h) (by simp)

/-! ### Following the script -/

/-- A process that is launched with diagnostics. -/
lemma follows_runProcess (l : Launcher σ) {spec : ProcessSpec} {child : Child}
    {out err : Option String} {w : σ}
    (hchild : ∀ launched, (l spec w).answer = .ok launched → launched = child)
    (hwritten : ∀ output, child.written = .ok output → output = (out, err)) :
    Follows (launchScript spec child.pid out err) (runProcess l spec true w) fun result =>
      ∃ exit, result = .ok exit ∧ child.exit = .ok exit := by
  have hstream : ∀ (stream : String) (output : Option String) (w' : σ),
      Follows (((outputTexts child.pid stream output).map .plain).map .inr)
        ((Run.sayAll (streamMessages child.pid stream output) : Run σ Unit) w') fun result =>
          ∃ u, result = .ok u ∧ True := by
    intro stream output w'
    exact (follows_sayAll _ w').imp fun _ hresult => ⟨(), hresult, trivial⟩
  refine (follows_call (.spawn spec .captured) (l spec) w).bind fun launched hlaunched => ?_
  obtain rfl := hchild launched hlaunched
  refine (follows_call .communicate _ _).bind fun output houtput => ?_
  obtain rfl := hwritten output houtput
  refine (hstream "Stdout" out _).bind fun _ _ => (hstream "Stderr" err _).bind fun _ _ => ?_
  exact follows_call .wait _ _

/-- The machine is asked for the arguments of the process. -/
lemma follows_process {m : Machine σ} {c : Config} {name : Option String} {launcher : Path}
    {spec : ProcessSpec} (hlauncher : c.launcher = .ok launcher) {w : σ}
    (hspec : ∀ arguments, (m .arguments w).answer = .ok arguments →
      spec = staticDumpProcess launcher.text (classListOf c name) (archiveOf c .static name)
        arguments) :
    Follows [.inl (.query .arguments)] (process m c (request c .static name) w) (fun result =>
        ∃ p, result = .ok p ∧ p = spec) ∧
      (process m c (request c .static name) w).world = (m .arguments w).world := by
  rw [process_of_launcher rfl hlauncher]
  refine ⟨(follows_call (.query .arguments) (m .arguments) w).bind_nil
    fun arguments harguments => ?_, ?_⟩
  · exact follows_nil rfl ⟨_, rfl, (hspec arguments harguments).symm⟩
  · rw [Run.bind_pure_apply]
    rfl

/-- What is inside the span of a static dump with diagnostics and with an installation. -/
lemma follows_staticBody {m : Machine σ} {l : Launcher σ} {c : Config} {name : Option String}
    {w : σ} {spec : ProcessSpec} {child : Child} {out err : Option String}
    (h : IsSupplied m l c name w spec child out err) (hdebug : c.debug = true) {launcher : Path}
    (hlauncher : c.launcher = .ok launcher) :
    Follows (.inl (.query (.dumpClassList (classListOf c name))) :: .inl (.query .arguments) ::
        .inr (.plain "Static dump cmd: ") :: .inr (.plain (" ".intercalate spec.command)) ::
        launchScript spec child.pid out err)
      (staticBody m l c (request c .static name) (classListOf c name) w) fun result =>
        ∃ p, result = .ok p ∧ p.1 = spec ∧ child.exit = .ok p.2 := by
  have hrequest : (request c .static name).debug = true := hdebug
  have hsay : ∀ (s : String) (w' : σ), Follows [.inr (.plain s)] ((say s : Run σ Unit) w')
      fun result => ∃ u, result = .ok u ∧ True := fun _ _ => .inr ⟨rfl, (), rfl, trivial⟩
  have hlog : ∀ (e : Event) (w' : σ), Follows [] ((Run.log e : Run σ Unit) w') fun result =>
      ∃ u, result = .ok u ∧ True := fun _ _ => follows_nil rfl ⟨(), rfl, trivial⟩
  obtain ⟨hprocess, hworld⟩ := follows_process hlauncher (h.spec_eq launcher · hlauncher)
  rw [staticBody, hrequest]
  refine (follows_call (.query (.dumpClassList (classListOf c name))) _ w).bind fun _ _ => ?_
  refine (hlog _ _).bind fun _ _ => ?_
  refine hprocess.bind fun p hp => ?_
  rw [hp]
  refine (hsay _ _).bind fun _ _ => (hsay _ _).bind fun _ _ => ?_
  refine (follows_runProcess l ?_ h.written_eq).bind_nil fun exit hexit => ?_
  · exact hworld ▸ h.child_eq
  · exact follows_nil rfl ⟨_, rfl, rfl, hexit⟩

/-- Without an installation what is inside the span of a static dump ends behind the class list. -/
lemma follows_staticBody_of_no_launcher {m : Machine σ} {l : Launcher σ} {c : Config}
    {name : Option String} {w : σ} {e : DomainError} (hlauncher : c.launcher = .error e) :
    Follows [.inl (.query (.dumpClassList (classListOf c name)))]
      (staticBody m l c (request c .static name) (classListOf c name) w) fun result =>
        result = .error (.failure (.domain e)) := by
  rw [staticBody, process_of_no_launcher rfl hlauncher]
  refine (follows_call (.query (.dumpClassList (classListOf c name))) _ w).bind_nil fun _ _ => ?_
  exact follows_nil rfl rfl

/-- In front of the body of a dump with diagnostics its archive is printed. -/
lemma acts_prologue {r : DumpRequest} (hdebug : r.debug = true) :
    (prologue r).acts =
      [Message.plain (r.kind.label ++ " dump to file " ++ r.archive)].map .inr := by
  rw [prologue, announcement, hdebug]
  rfl

/-- Behind the body of a dump nobody is called and nothing is printed. -/
lemma acts_epilogue {α : Type} (r : DumpRequest) (done : α → Event) (result : Except Raised α) :
    (epilogue r done result).acts = [] := by
  rcases result with (f | s) | a <;> rfl

/-- How a static dump ends that has followed its script to its end: it lacks an installation, or its
process was launched and has ended. -/
def EndsTranscript (c : Config) (spec : ProcessSpec) (child : Child)
    (result : Except Raised DumpResult) : Prop :=
  match c.javaHome with
  | none => ∃ x, result = .error x ∧ LacksHome c x
  | some _ => ∃ exit r, child.exit = .ok exit ∧ result = .ok r ∧ r.command = some spec.command ∧
      r.exitCode = some exit

/-- A static dump with diagnostics follows its script. -/
lemma follows_dump {m : Machine σ} {l : Launcher σ} {c : Config} {name : Option String} {w : σ}
    {spec : ProcessSpec} {child : Child} {out err : Option String}
    (h : IsSupplied m l c name w spec child out err) (hdebug : c.debug = true) :
    Follows (transcript c name spec child.pid out err) (dump m l c .static name w)
      (EndsTranscript c spec child) := by
  have hprologue := acts_prologue (r := request c .static name) hdebug
  rw [dump_static_apply]
  cases hhome : c.javaHome with
  | none =>
    have hlauncher : c.launcher = .error (.configuration
        "java_home is required to launch a static dump" none (some "java_home")) := by
      rw [Config.launcher, hhome]
    rw [transcript, hhome]
    refine (follows_staticBody_of_no_launcher hlauncher).around hprologue (acts_epilogue _ _ _) ?_
    rintro _ rfl
    rw [EndsTranscript, hhome]
    exact ⟨_, rfl, hhome, rfl⟩
  | some home =>
    have hlauncher : c.launcher = .ok ((home.child "bin" rfl).child "java" rfl) := by
      rw [Config.launcher, hhome]
    rw [transcript, hhome]
    refine (follows_staticBody h hdebug hlauncher).around hprologue (acts_epilogue _ _ _) ?_
    rintro _ ⟨⟨spec, exit⟩, rfl, rfl, hexit⟩
    rw [EndsTranscript, hhome]
    exact ⟨exit, _, hexit, rfl, rfl, rfl⟩

/-! ### What is printed -/

/-- The texts that are printed before the process is launched. -/
def openingTexts (c : Config) (name : Option String) (spec : ProcessSpec) : List String :=
  ["Static dump to file " ++ archiveOf c .static name, "Static dump cmd: ",
    " ".intercalate spec.command]

/-- The script in front of the reading of the output. -/
def openingScript (c : Config) (name : Option String) (spec : ProcessSpec) : List Cue :=
  [.inr (.plain ("Static dump to file " ++ archiveOf c .static name)),
    .inl (.query (.dumpClassList (classListOf c name))), .inl (.query .arguments),
    .inr (.plain "Static dump cmd: "), .inr (.plain (" ".intercalate spec.command)),
    .inl (.spawn spec .captured)]

/-- With an installation the output is read between two parts of the script. -/
lemma transcript_of_home {c : Config} {home : Path} (hhome : c.javaHome = some home)
    (name : Option String) (spec : ProcessSpec) (pid : Int) (out err : Option String) :
    transcript c name spec pid out err =
      openingScript c name spec ++ .inl .communicate :: closingScript pid out err := by
  rw [transcript, hhome]
  rfl

/-- The messages of the script behind the reading of the output. -/
lemma filterMap_closingScript (pid : Int) (out err : Option String) :
    (closingScript pid out err).filterMap Cue.message? =
      (outputTexts pid "Stdout" out ++ outputTexts pid "Stderr" err).map .plain := by
  have htexts : ∀ texts : List String,
      ((texts.map Message.plain).map Sum.inr : List Cue).filterMap Cue.message? =
        texts.map .plain := by
    intro texts
    rw [List.filterMap_map]
    exact List.filterMap_some
  rw [closingScript, List.filterMap_append, List.filterMap_append, htexts, htexts, List.map_append]
  exact congrArg _ (List.append_nil _)

/-- A static dump with diagnostics follows the script of its calls and messages, for the process
that its machine makes up, the process that is launched, and what that has written, as far as they
are supplied: up to the first call that is not answered, or behind the class list for want of an
installation, or to the end. If it has a result, the archive, the command line, and both headings
with the lines behind them were printed in this order. Unless the output was read, nothing of it is
printed. The printed lines of a stream, joined again, are what was written with all breaks folded
and the last one left out. -/
theorem dump_follows_transcript (m : Machine σ) (l : Launcher σ) (c : Config) (name : Option String)
    (w : σ) (hdebug : c.debug = true) :
    (∃ spec child out err, IsSupplied m l c name w spec child out err) ∧
    ∀ spec child out err, IsSupplied m l c name w spec child out err →
      Follows (transcript c name spec child.pid out err) (dump m l c .static name w)
        (EndsTranscript c spec child) ∧
      (∀ r, (dump m l c .static name w).result = .ok r →
        (dump m l c .static name w).trace.messages =
          (openingTexts c name spec ++ outputTexts child.pid "Stdout" out ++
            outputTexts child.pid "Stderr" err).map .plain) ∧
      (.answered .communicate ∉ (dump m l c .static name w).trace.attempts →
        (dump m l c .static name w).trace.messages <+: (openingTexts c name spec).map .plain) ∧
      ∀ output ∈ [out, err], "\n".intercalate (Text.lines (output.getD "")) =
        String.ofList (Text.withoutLastFeed (Text.foldBreaks (output.getD "").toList)) := by
  refine ⟨exists_isSupplied m l c name w, fun spec child out err h => ?_⟩
  have hfollows := follows_dump h hdebug
  refine ⟨hfollows, fun r hr => ?_, fun hunread => ?_, fun _ _ => Text.intercalate_lines _⟩
  · obtain ⟨home, hhome⟩ : ∃ home, c.javaHome = some home := by
      obtain ⟨-, hends⟩ := hfollows.to_end hr
      rw [EndsTranscript, hr] at hends
      cases hhome : c.javaHome with
      | none => simp [hhome] at hends
      | some home => exact ⟨home, rfl⟩
    have hopening : (openingScript c name spec).filterMap Cue.message? =
        (openingTexts c name spec).map .plain := rfl
    rw [hfollows.messages_eq hr, transcript_of_home hhome, List.filterMap_append,
      List.filterMap_cons_none rfl, hopening, filterMap_closingScript, ← List.map_append,
      ← List.append_assoc]
  · cases hhome : c.javaHome with
    | none =>
      have hprefix := hfollows.messages_prefix
      rw [transcript, hhome] at hprefix
      exact hprefix.trans (List.prefix_append [_] _)
    | some home =>
      rw [transcript_of_home hhome] at hfollows
      exact hfollows.messages_prefix_of_not_answered hunread

/-- The transcript of a process that ends with a status of its own. A carriage return with its line
feed breaks its output once, and an output that is not there has its heading. -/
theorem dump_follows_transcript_of_failed_process :
    ∃ (m : Machine Unit) (l : Launcher Unit) (c : Config), c.debug = true ∧
      (dump m l c .static (some "app.jsa") ()).trace.messages.map Message.text =
        ["Static dump to file app.jsa", "Static dump cmd: ",
          "/opt/jdk/bin/java -Xlog:cds -Xshare:dump -XX:SharedClassListFile=app.jsa.classlist " ++
            "-XX:SharedArchiveFile=app.jsa",
          "Dumping process 7 Stdout: ", "a", "b", "Dumping process 7 Stderr: "] ∧
      (dump m l c .static (some "app.jsa") ()).result.toOption.bind DumpResult.exitCode = some 3 ∧
      ∃ spec child out err, IsSupplied m l c (some "app.jsa") () spec child out err ∧
        Follows (transcript c (some "app.jsa") spec child.pid out err)
          (dump m l c .static (some "app.jsa") ()) (EndsTranscript c spec child) := by
  let m : Machine Unit := fun
    | .arguments, w => ⟨.ok none, [], w⟩
    | .dumpClassList _, w => ⟨.ok (), [], w⟩
    | _, w => ⟨.error (.interrupt "not asked"), [], w⟩
  let l : Launcher Unit := fun _ w => ⟨.ok ⟨7, .ok (some "a\r\nb", none), .ok 3⟩, [], w⟩
  let c : Config := ⟨true, some (.ofString "/opt/jdk"), 1, [], none, false, false, false⟩
  obtain ⟨⟨spec, child, out, err, h⟩, hall⟩ :=
    dump_follows_transcript m l c (some "app.jsa") () rfl
  obtain ⟨hfollows, -⟩ := hall spec child out err h
  exact ⟨m, l, c, rfl, by decide +kernel, rfl, spec, child, out, err, h, hfollows⟩

end ClassSharing.Dump
