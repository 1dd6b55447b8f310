import ClassSharing.Proofs.Archive.CallOrder
import ClassSharing.Proofs.Run.Work

/-!
# The outcome of a dump

A dump announces itself, does its work inside a span, and logs at its end what it has done
(`dump_apply`, `dump_static_apply`, `dump_dynamic_apply`). Its work only calls collaborators and
prints (`works_launchPart`), apart from one event behind the class list. `dump_mirrors_outcome` says
that the span and the log of a dump tell how it has ended, whatever its collaborators do.
-/

namespace ClassSharing

namespace Dump

variable {σ : Type} {m : Machine σ} {l : Launcher σ} {c : Config}

/-! ### A dump in its parts -/

/-- The part of a static dump behind its class list. -/
def launchPart (m : Machine σ) (l : Launcher σ) (c : Config) (r : DumpRequest) :
    Run σ (ProcessSpec × Int) := do
  let spec ← process m c r
  if r.debug then
    say "Static dump cmd: "
    say spec.render
  let exit ← runProcess l spec r.debug
  return (spec, exit)

/-- The event of a class list that was written. -/
def listedEvent (list : String) : Event :=
  ⟨.info, "class_list_dumped",
    [("component", .str "dump_orchestrator"), ("class_list_file", .str list)]⟩

/-- The event of a dump that was asked for. -/
def requestedEvent (kind : ArchiveKind) (archive : String) : Event :=
  ⟨.info, "dump_requested", [("component", .str "dump_orchestrator"), ("kind", .str kind.name),
    ("archive_file", .str archive)]⟩

/-- What is seen of a dump before it is carried out. -/
def announcement (r : DumpRequest) : Trace :=
  (if r.debug then [r.kind.label ++ " dump to file " ++ r.archive] else []).map
    (fun s => .message (.plain s)) ++ [.event (requestedEvent r.kind r.archive)]

/-- A dump is announced and then carried out. -/
lemma dump_apply (m : Machine σ) (l : Launcher σ) (c : Config) (kind : ArchiveKind)
    (name : Option String) (w : σ) :
    dump m l c kind name w =
      ⟨(carryOut m l c (request c kind name) w).result,
        announcement (request c kind name) ++ (carryOut m l c (request c kind name) w).trace,
        (carryOut m l c (request c kind name) w).world⟩ := by
  cases hdebug : (request c kind name).debug with
  | false =>
    rw [dump, announcement, hdebug]
    rfl
  | true =>
    rw [dump, announcement, hdebug]
    rfl

/-- A machine that writes no class list ends what is inside the span of a static dump. -/
lemma staticBody_of_refused {r : DumpRequest} {list : String} {w : σ} {x : Raised}
    (h : (m (.dumpClassList list) w).answer = .error x) :
    staticBody m l c r list w =
      ⟨.error x, [.call (.query (.dumpClassList list)) (m (.dumpClassList list) w).heard (some x)],
        (m (.dumpClassList list) w).world⟩ := by
  have hraised : (m (.dumpClassList list) w).raised? = some x := Reply.raised?_eq_some_iff.mpr h
  exact Run.bind_of_error (by rw [Run.ask_apply, h, hraised])

/-- Behind the class list of a static dump, which is logged, its process is launched. -/
lemma staticBody_of_listed {r : DumpRequest} {list : String} {w : σ}
    (h : (m (.dumpClassList list) w).answer = .ok ()) :
    staticBody m l c r list w =
      ⟨(launchPart m l c r (m (.dumpClassList list) w).world).result,
        .call (.query (.dumpClassList list)) (m (.dumpClassList list) w).heard none ::
          .event (listedEvent list) ::
          (launchPart m l c r (m (.dumpClassList list) w).world).trace,
        (launchPart m l c r (m (.dumpClassList list) w).world).world⟩ := by
  have hraised : (m (.dumpClassList list) w).raised? = none :=
    Reply.raised?_eq_none_iff.mpr ⟨(), h⟩
  exact (Run.bind_of_ok (by rw [Run.ask_apply, h, hraised])).trans rfl

/-- The name of the span of a dump. -/
def spanName : ArchiveKind → String
  | .static => "dump_static_archive"
  | .dynamic => "dump_dynamic_archive"

/-- What is seen of a dump before its body. -/
def prologue (r : DumpRequest) : Trace :=
  announcement r ++ Run.spanOpening (spanName r.kind) (spanAttributes r)

/-- What is seen of a dump behind its body: the end of the span and, behind a result, an event. -/
def epilogue {α : Type} (r : DumpRequest) (done : α → Event) : Except Raised α → Trace
  | .ok a => Run.spanClosing (spanName r.kind) (spanAttributes r) (.ok a : Except Raised α) ++
      [.event (done a)]
  | .error x => Run.spanClosing (spanName r.kind) (spanAttributes r) (.error x : Except Raised α)

/-- A dump that is carried out by a body inside its span, with an event behind it. -/
lemma dump_apply_of_body {α : Type} {kind : ArchiveKind} {name : Option String} {body : Run σ α}
    {done : α → Event} {result : α → DumpResult}
    (hbody : carryOut m l c (request c kind name) = do
      let a ← Run.span (spanName kind) (spanAttributes (request c kind name)) body
      Run.log (done a)
      return result a) (w : σ) :
    dump m l c kind name w = ⟨(body w).result.map result,
      prologue (request c kind name) ++ (body w).trace ++
        epilogue (request c kind name) done (body w).result,
      (body w).world⟩ := by
  have hspan : Run.span (spanName kind) (spanAttributes (request c kind name)) body w = _ :=
    Run.span_apply not_reserved_of_mem_spanAttributes body w
  rw [dump_apply, hbody, prologue, List.append_assoc, List.append_assoc]
  cases hresult : (body w).result with
  | ok a =>
    rw [hresult] at hspan
    rw [Run.bind_of_ok hspan, List.append_assoc, List.append_assoc]
    rfl
  | error x =>
    rw [hresult] at hspan
    rw [Run.bind_of_error hspan, List.append_assoc]
    rfl

/-- A static dump runs its body inside its span. -/
lemma dump_static_apply (m : Machine σ) (l : Launcher σ) (c : Config) (name : Option String)
    (w : σ) :
    let body := staticBody m l c (request c .static name) (classListOf c name) w
    dump m l c .static name w =
      ⟨body.result.map fun p => ⟨.static, archiveOf c .static name, some (classListOf c name),
          some p.1.command, some p.2⟩,
        prologue (request c .static name) ++ body.trace ++
          epilogue (request c .static name) (fun p => staticEvent (request c .static name) p.2)
            body.result,
        body.world⟩ :=
  dump_apply_of_body rfl w

/-- The result of a static dump names its archive. -/
lemma archive_of_dump_static {name : Option String} {w : σ} {r : DumpResult}
    (h : (dump m l c .static name w).result = .ok r) : r.archive = archiveOf c .static name := by
  rw [dump_static_apply] at h
  obtain ⟨p, -, rfl⟩ := Run.map_eq_ok_iff.mp h
  rfl

/-- A dynamic dump asks the machine for the archive inside its span. -/
lemma dump_dynamic_apply (m : Machine σ) (l : Launcher σ) (c : Config) (name : Option String)
    (w : σ) :
    let body := Run.ask m (.dumpDynamic (archiveOf c .dynamic name)) w
    dump m l c .dynamic name w =
      ⟨body.result.map fun _ => ⟨.dynamic, archiveOf c .dynamic name, none, none, none⟩,
        prologue (request c .dynamic name) ++ body.trace ++
          epilogue (request c .dynamic name) (fun _ => event .info "dynamic_dump_completed"
            [("archive_file", .str (archiveOf c .dynamic name))]) body.result,
        body.world⟩ :=
  dump_apply_of_body rfl w

/-! ### Inside the span -/

/-- The reason of its own for which a static dump ends early: there is no installation. -/
def LacksHome (c : Config) (x : Raised) : Prop :=
  c.javaHome = none ∧ x = .failure (.domain (.configuration
    "java_home is required to launch a static dump" none (some "java_home")))

/-- A process that is run is only worked on. -/
lemma works_runProcess {own : Raised → Prop} (l : Launcher σ) (spec : ProcessSpec) (debug : Bool)
    (w : σ) : Works own (runProcess l spec debug w) := by
  cases debug with
  | false => exact (works_call _ _ w).bind fun child w' => works_call _ _ w'
  | true =>
    refine (works_call _ _ w).bind fun child w' => (works_call _ _ w').bind ?_
    rintro ⟨out, err⟩ w''
    have hmessages : ∀ stream output, streamMessages child.pid stream output =
        (streamHeading child.pid stream :: Text.lines (output.getD "")).map .plain :=
      fun _ _ => rfl
    simp only [hmessages]
    exact (works_sayAll _ w'').bind fun _ w₃ => (works_sayAll _ w₃).bind fun _ w₄ =>
      works_call _ _ w₄

/-- Behind the class list a static dump only works. -/
lemma works_launchPart (m : Machine σ) (l : Launcher σ) (c : Config) {r : DumpRequest}
    {list : String} (hlist : r.classList = some list) (w : σ) :
    Works (LacksHome c) (launchPart m l c r w) := by
  have hprocess : Works (LacksHome c) (process m c r w) := by
    cases hhome : c.javaHome with
    | none =>
      rw [process_of_no_launcher hlist (by rw [Config.launcher, hhome])]
      exact works_fail ⟨hhome, rfl⟩ w
    | some home =>
      rw [process_of_launcher hlist (by rw [Config.launcher, hhome])]
      exact (works_call _ _ w).bind fun _ w' => works_done _ w'
  refine hprocess.bind fun spec w' => ?_
  have hrun : ∀ w'', Works (LacksHome c)
      ((runProcess l spec r.debug >>= fun exit => pure (spec, exit)) w'') := fun w'' =>
    (works_runProcess l spec r.debug w'').bind fun exit w₃ => works_done (spec, exit) w₃
  cases hdebug : r.debug with
  | false =>
    rw [hdebug] at hrun
    exact hrun w'
  | true =>
    rw [hdebug] at hrun
    exact (works_sayAll ["Static dump cmd: "] w').bind fun _ w₂ =>
      (works_sayAll [spec.render] w₂).bind fun _ w₃ => hrun w₃

/-- What is inside the span of a dump: apart from some events it only works. -/
structure IsInner {α : Type} (events : List Event) (own : Raised → Prop) (e : Ended σ α) :
    Prop where
  events_eq : e.trace.ownEvents = events
  notes_eq : e.trace.spanNotes = []
  plain : ∀ message ∈ e.trace.messages, ∃ s, message = .plain s
  of_ok : ∀ a, e.result = .ok a → e.trace.raised = []
  of_error : ∀ x, e.result = .error x → e.trace.EndsRaising x ∨ e.trace.raised = [] ∧ own x

/-- Work is inside. -/
lemma isInner_of_works {α : Type} {own : Raised → Prop} {e : Ended σ α} (h : Works own e) :
    IsInner [] own e where
  events_eq := Trace.ownEvents_of_isWork h.shows
  notes_eq := Trace.spanNotes_of_isWork h.shows
  plain := fun _ => Trace.plain_of_isWork h.shows
  of_ok := h.of_ok
  of_error := h.of_error

/-- The event of the class list, if the machine has written it. -/
def listedEvents (m : Machine σ) (list : String) (w : σ) : List Event :=
  match (m (.dumpClassList list) w).answer with
  | .ok () => [listedEvent list]
  | .error _ => []

/-- Inside a static dump one event is logged, if the class list was written. -/
lemma isInner_staticBody (m : Machine σ) (l : Launcher σ) (c : Config) {r : DumpRequest}
    {list : String} (hlist : r.classList = some list) (w : σ) :
    IsInner (listedEvents m list w) (LacksHome c) (staticBody m l c r list w) := by
  cases hanswer : (m (.dumpClassList list) w).answer with
  | error x =>
    rw [listedEvents, hanswer, staticBody_of_refused hanswer]
    have hends : Trace.EndsRaising
        [.call (.query (.dumpClassList list)) (m (.dumpClassList list) w).heard (some x)] x :=
      ⟨[], _, _, rfl, rfl⟩
    refine ⟨rfl, rfl, fun _ h => absurd h List.not_mem_nil, fun _ h => absurd h (by simp), ?_⟩
    rintro _ ⟨rfl⟩
    exact .inl hends
  | ok u =>
    have hrest := isInner_of_works (works_launchPart m l c hlist (m (.dumpClassList list) w).world)
    rw [listedEvents, hanswer, staticBody_of_listed hanswer]
    refine ⟨congrArg (listedEvent list :: ·) hrest.events_eq, hrest.notes_eq, hrest.plain,
      hrest.of_ok, fun x hx => ?_⟩
    exact (hrest.of_error x hx).imp_left fun hends =>
      hends.append (s := [.call (.query (.dumpClassList list)) _ none,
        .event (listedEvent list)]) rfl

/-! ### The outcome -/

/-- The fields that the events of the span of a dump have. -/
def spanEventFields (kind : ArchiveKind) (archive : String) : List (String × Value) :=
  [("span", .str (spanName kind)), ("archive_file", .str archive)]

/-- The event behind the span of a dump that has a result. -/
def completedEvent (archive : String) : Option Int → Event
  | none => ⟨.info, "dynamic_dump_completed",
      [("component", .str "dump_orchestrator"), ("archive_file", .str archive)]⟩
  | some 0 => ⟨.info, "static_dump_completed",
      [("component", .str "dump_orchestrator"), ("archive_file", .str archive)]⟩
  | some n => ⟨.warning, "static_dump_process_exited",
      [("component", .str "dump_orchestrator"), ("exit_code", .int n),
        ("archive_file", .str archive)]⟩

/-- The events at the end of a dump. An interrupt is not logged. -/
def endEvents (kind : ArchiveKind) (archive : String) : Except Raised DumpResult → List Event
  | .ok r =>
    [⟨.debug, "span_completed", spanEventFields kind archive⟩, completedEvent archive r.exitCode]
  | .error (.failure f) =>
    [⟨.error, "span_failed", spanEventFields kind archive ++ [("error_type", .str f.name)]⟩]
  | .error (.interrupt _) => []

/-- What is noted on the span at the end of a dump: one status, and before it the failure, if there
is one. Of an interrupt nothing is noted. -/
def endNotes : Except Raised DumpResult → List SpanNote
  | .ok _ => [.succeeded]
  | .error (.failure f) => [.recorded f, .failed f.message]
  | .error (.interrupt _) => []

/-- The span and the log of a dump tell how it has ended. What is raised by a collaborator is what
the dump ends with, unless it ends for a reason of its own. -/
structure MirrorsOutcome (kind : ArchiveKind) (archive : String) (inner : List Event)
    (own : Raised → Prop) (e : Ended σ DumpResult) : Prop where
  /-- Nothing but a text comes before the first event. -/
  starts : ∃ (texts : List String) (rest : Trace), e.trace =
    (texts.map fun s => .message (.plain s)) ++ .event (requestedEvent kind archive) :: rest
  events_eq : e.trace.ownEvents = requestedEvent kind archive ::
    ⟨.debug, "span_started", spanEventFields kind archive⟩ ::
      (inner ++ endEvents kind archive e.result)
  /-- The span records neither failures nor a status by itself. -/
  notes_eq : e.trace.spanNotes =
    .started ⟨spanName kind, [("archive_file", .str archive)], false, false⟩ :: endNotes e.result
  of_ok : ∀ r, e.result = .ok r → e.trace.raised = [] ∧ r.kind = kind ∧
    (r.exitCode.isSome = true ↔ kind = .static)
  of_error : ∀ x, e.result = .error x → e.trace.raised = [x] ∨ e.trace.raised = [] ∧ own x
  /-- Behind an interrupt nothing is seen at all. -/
  of_interrupt : ∀ s, e.result = .error (.interrupt s) → e.trace.EndsRaising (.interrupt s)

/-- Two events are logged before the body of a dump. -/
lemma ownEvents_prologue (r : DumpRequest) : (prologue r).ownEvents =
    [requestedEvent r.kind r.archive,
      ⟨.debug, "span_started", spanEventFields r.kind r.archive⟩] := by
  cases hdebug : r.debug <;> simp only [prologue, announcement, hdebug] <;> rfl

/-- The span is started before the body of a dump. -/
lemma spanNotes_prologue (r : DumpRequest) : (prologue r).spanNotes =
    [.started ⟨spanName r.kind, [("archive_file", .str r.archive)], false, false⟩] := by
  cases hdebug : r.debug <;> simp only [prologue, announcement, hdebug] <;> rfl

/-- Nobody is called before the body of a dump. -/
lemma attempts_prologue (r : DumpRequest) : (prologue r).attempts = [] := by
  cases hdebug : r.debug <;> simp only [prologue, announcement, hdebug] <;> rfl

/-- Nobody is called behind the body of a dump. -/
lemma attempts_epilogue {α : Type} (r : DumpRequest) (done : α → Event)
    (result : Except Raised α) : (epilogue r done result).attempts = [] := by
  rcases result with (f | s) | a <;> rfl

/-- Around the body of a dump nothing is raised. -/
lemma raised_around_body {α : Type} (r : DumpRequest) (done : α → Event) (t : Trace)
    (result : Except Raised α) :
    Trace.raised (prologue r ++ t ++ epilogue r done result) = t.raised := by
  simp only [Trace.raised_eq_filterMap_attempts, Trace.attempts_append, attempts_prologue,
    attempts_epilogue, List.nil_append, List.append_nil]

/-- A dump whose body is inside its span. -/
lemma mirrorsOutcome_of_isInner {α : Type} {kind : ArchiveKind} {name : Option String}
    {events : List Event} {own : Raised → Prop} {body : Ended σ α} {done : α → Event}
    {result : α → DumpResult} (h : IsInner events own body) (hown : ∀ s, ¬ own (.interrupt s))
    (hresult : ∀ a, (result a).kind = kind ∧ ((result a).exitCode.isSome = true ↔ kind = .static) ∧
      done a = completedEvent (archiveOf c kind name) (result a).exitCode) (w : σ) :
    MirrorsOutcome kind (archiveOf c kind name) events own
      (⟨body.result.map result, prologue (request c kind name) ++ body.trace ++
        epilogue (request c kind name) done body.result, w⟩ : Ended σ DumpResult) where
  starts := ⟨_, _, by simp only [prologue, announcement, List.append_assoc]; rfl⟩
  events_eq := by
    simp only [Trace.ownEvents_append, ownEvents_prologue, h.events_eq]
    rcases body.result with (f | s) | a
    · rfl
    · rfl
    · obtain ⟨-, -, hdone⟩ := hresult a
      simp only [epilogue, Except.map, endEvents, ← hdone]
      rfl
  notes_eq := by
    simp only [Trace.spanNotes_append, spanNotes_prologue, h.notes_eq]
    rcases body.result with (f | s) | a <;> rfl
  of_ok := by
    intro r hr
    obtain ⟨a, ha, rfl⟩ := Run.map_eq_ok_iff.mp hr
    obtain ⟨hkind, hexit, -⟩ := hresult a
    exact ⟨(raised_around_body _ _ _ _).trans (h.of_ok a ha), hkind, hexit⟩
  of_error := by
    intro x hx
    simp only [raised_around_body]
    exact (h.of_error x (Run.map_eq_error_iff.mp hx)).imp_left Trace.EndsRaising.raised_eq
  of_interrupt := by
    intro s hs
    have hbody := Run.map_eq_error_iff.mp hs
    have hends := (h.of_error _ hbody).resolve_right fun hnone => hown s hnone.2
    have hprologue : (prologue (request c kind name)).raised = [] := by
      rw [Trace.raised_eq_filterMap_attempts, attempts_prologue]
      rfl
    simp only [hbody, epilogue, Run.spanClosing, List.append_nil]
    exact hends.append hprologue

/-- The span and the log of a static dump tell how it has ended. -/
lemma mirrorsOutcome_dump_static (m : Machine σ) (l : Launcher σ) (c : Config)
    (name : Option String) (w : σ) :
    MirrorsOutcome .static (archiveOf c .static name) (listedEvents m (classListOf c name) w)
      (LacksHome c) (dump m l c .static name w) := by
  rw [dump_static_apply]
  refine mirrorsOutcome_of_isInner (isInner_staticBody m l c rfl w) ?_ ?_ _
  · rintro s ⟨-, hs⟩
    exact absurd hs (by simp)
  · rintro ⟨spec, exit⟩
    refine ⟨rfl, by simp, ?_⟩
    obtain rfl | hexit := eq_or_ne exit 0
    · rfl
    · simp only [staticEvent, if_neg hexit, completedEvent]
      rfl

/-- The span and the log of a dynamic dump tell how it has ended. -/
lemma mirrorsOutcome_dump_dynamic (m : Machine σ) (l : Launcher σ) (c : Config)
    (name : Option String) (w : σ) :
    MirrorsOutcome .dynamic (archiveOf c .dynamic name) [] (fun _ => False)
      (dump m l c .dynamic name w) := by
  rw [dump_dynamic_apply]
  refine mirrorsOutcome_of_isInner (isInner_of_works (works_call _ _ w)) (fun _ h => h) ?_ _
  rintro ⟨⟩
  exact ⟨rfl, by simp, rfl⟩

/-- Around the body of a dump plain texts are printed, if anything is. -/
lemma plain_around_body {α : Type} {events : List Event} {own : Raised → Prop} {body : Ended σ α}
    (h : IsInner events own body) (r : DumpRequest) (done : α → Event) :
    ∀ message ∈ Trace.messages (prologue r ++ body.trace ++ epilogue r done body.result),
      ∃ s, message = .plain s := by
  have hprologue : ∀ message ∈ (prologue r).messages, ∃ s, message = .plain s := by
    cases hdebug : r.debug <;>
      simp [prologue, announcement, hdebug, Trace.messages, Run.spanOpening]
  have hepilogue : (epilogue r done body.result).messages = [] := by
    rcases body.result with (f | s) | a <;> rfl
  intro message hmessage
  simp only [Trace.messages_append, hepilogue, List.append_nil, List.mem_append] at hmessage
  exact hmessage.elim (hprologue message) (h.plain message)

/-- A dump prints plain texts only. -/
lemma plain_of_mem_messages_dump {kind : ArchiveKind} {name : Option String} {w : σ}
    {message : Message} (h : message ∈ (dump m l c kind name w).trace.messages) :
    ∃ s, message = .plain s := by
  cases kind with
  | static =>
    rw [dump_static_apply] at h
    exact plain_around_body (isInner_staticBody m l c rfl w) _ _ message h
  | dynamic =>
    rw [dump_dynamic_apply] at h
    have hinner : IsInner [] (fun _ => False)
        (Run.ask m (.dumpDynamic (archiveOf c .dynamic name)) w) :=
      isInner_of_works (works_call _ _ w)
    exact plain_around_body hinner _ _ message h

/-- The event of the class list stands behind the call that has written it, which is the first. -/
def LogsClassList (m : Machine σ) (list : String) (w : σ) (t : Trace) : Prop :=
  (m (.dumpClassList list) w).answer = .ok () → ∃ (front rest : Trace), t = front ++
    .call (.query (.dumpClassList list)) (m (.dumpClassList list) w).heard none ::
      .event (listedEvent list) :: rest ∧ front.attempts = []

/-- A static dump logs its class list as soon as this is written. -/
lemma logsClassList_dump_static (m : Machine σ) (l : Launcher σ) (c : Config)
    (name : Option String) (w : σ) :
    LogsClassList m (classListOf c name) w (dump m l c .static name w).trace := by
  intro hanswer
  rw [dump_static_apply]
  simp only [staticBody_of_listed hanswer, List.append_assoc, List.cons_append]
  exact ⟨prologue (request c .static name), _, rfl, attempts_prologue _⟩

/-- The span and the log of a dump tell how it has ended, whatever its collaborators do. A dump that
was asked for is logged first; one span is started, and it notes nothing by itself. If all calls are
answered the span succeeds, and one more event tells the end of the dump: of a static one by the
status that its process has ended with. A failure that leaves the span is recorded once, its text is
the description of the one status, and one event names its kind; it is the failure that the dump
ends with. Behind an interrupt nothing is seen. A static dump logs its class list exactly if the
machine has written it, and behind that call. -/
theorem dump_mirrors_outcome (m : Machine σ) (l : Launcher σ) (c : Config) (name : Option String)
    (w : σ) :
    MirrorsOutcome .static (archiveOf c .static name) (listedEvents m (classListOf c name) w)
        (LacksHome c) (dump m l c .static name w) ∧
      (∀ r, (dump m l c .static name w).result = .ok r → ∃ s child exit,
        AnswersAll m l ⟨w, none⟩ (dump m l c .static name w).trace.attempts s ∧
          s.child = some child ∧ child.exit = .ok exit ∧ r.exitCode = some exit) ∧
      LogsClassList m (classListOf c name) w (dump m l c .static name w).trace ∧
      MirrorsOutcome .dynamic (archiveOf c .dynamic name) [] (fun _ => False)
        (dump m l c .dynamic name w) := by
  have hchild : ∀ r, (dump m l c .static name w).result = .ok r → ∃ s child exit,
      AnswersAll m l ⟨w, none⟩ (dump m l c .static name w).trace.attempts s ∧
        s.child = some child ∧ child.exit = .ok exit ∧ r.exitCode = some exit :=
    fun r hr => exists_child_of_dump_static hr
  exact ⟨mirrorsOutcome_dump_static m l c name w, hchild, logsClassList_dump_static m l c name w,
    mirrorsOutcome_dump_dynamic m l c name w⟩

end Dump

end ClassSharing
