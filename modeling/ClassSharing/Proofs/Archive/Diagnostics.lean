import ClassSharing.Proofs.Archive.CallOrder

/-!
# Diagnostics only observe

With diagnostics on a dump prints more, lets its process write to pipes, and reads them. Nothing
else depends on it: `Mirrors` compares a run with diagnostics to one without, part by part, and
`diagnostics_observe` says that a dump with diagnostics does what it does without, as long as the
output of the process can be read.
-/

namespace ClassSharing

/-! ### Traces without diagnostics -/

/-- What is left of an entry without diagnostics: no message, no reading of the output of a process,
and a process whose output goes nowhere. -/
def Entry.undiagnosed? : Entry → Option Entry
  | .message _ => none
  | .call .communicate [] _ => none
  | .call (.spawn spec _) heard raised => some (.call (.spawn spec .discarded) heard raised)
  | e => some e

namespace Trace

/-- A trace without diagnostics. -/
def undiagnosed (t : Trace) : Trace := t.filterMap Entry.undiagnosed?

/-- What a machine was asked. -/
def queries (t : Trace) : List Query := t.filterMap fun
  | .call (.query q) _ _ => some q
  | _ => none

@[simp]
lemma undiagnosed_append (s t : Trace) : undiagnosed (s ++ t) = undiagnosed s ++ undiagnosed t :=
  List.filterMap_append

/-- Messages are diagnostics. -/
@[simp]
lemma undiagnosed_map_message (messages : List Message) :
    undiagnosed (messages.map .message) = [] := by
  induction messages with
  | nil => rfl
  | cons message rest ih => exact ih

/-- A view that is made up entry by entry sees the same without diagnostics, if it does so of each
entry. -/
lemma view_undiagnosed {α : Type} {view : Trace → List α} (hnil : view [] = [])
    (happend : ∀ s t, view (s ++ t) = view s ++ view t)
    (hentry : ∀ e, view (undiagnosed [e]) = view [e]) (t : Trace) :
    view t.undiagnosed = view t := by
  induction t with
  | nil => exact hnil ▸ rfl
  | cons e rest ih =>
    rw [← List.singleton_append, undiagnosed_append, happend, happend, hentry, ih]

/-- The machine is asked the same without diagnostics. -/
lemma queries_undiagnosed (t : Trace) : t.undiagnosed.queries = t.queries := by
  refine view_undiagnosed rfl (fun _ _ => List.filterMap_append) (fun e => ?_) t
  rcases e with ⟨_ | _ | _ | _ | _, _ | _, _⟩ | _ | _ | _ <;> rfl

/-- The same processes are launched without diagnostics. -/
lemma spawned_undiagnosed (t : Trace) : t.undiagnosed.spawned = t.spawned := by
  refine view_undiagnosed rfl (fun s t => by simp [spawned]) (fun e => ?_) t
  rcases e with ⟨_ | _ | _ | _ | _, _ | _, _⟩ | _ | _ | _ <;> rfl

/-- The same events are logged without diagnostics. -/
lemma events_undiagnosed (t : Trace) : t.undiagnosed.events = t.events := by
  refine view_undiagnosed rfl events_append (fun e => ?_) t
  rcases e with ⟨_ | _ | _ | _ | _, _ | _, _⟩ | _ | _ | _ <;> rfl

/-- The same is noted on spans without diagnostics. -/
lemma spanNotes_undiagnosed (t : Trace) : t.undiagnosed.spanNotes = t.spanNotes := by
  refine view_undiagnosed rfl spanNotes_append (fun e => ?_) t
  rcases e with ⟨_ | _ | _ | _ | _, _ | _, _⟩ | _ | _ | _ <;> rfl

/-- Nothing is printed without diagnostics. -/
lemma messages_undiagnosed (t : Trace) : t.undiagnosed.messages = [] := by
  induction t with
  | nil => rfl
  | cons e rest ih =>
    have hentry : (undiagnosed [e]).messages = [] := by
      rcases e with ⟨_ | _ | _ | _ | _, _ | _, _⟩ | _ | _ | _ <;> rfl
    rw [← List.singleton_append, undiagnosed_append, messages_append, hentry, ih, List.nil_append]

end Trace

/-! ### Two runs -/

section

variable {σ α β : Type} {w : σ}

/-- The output of a process has been read whenever that was tried. -/
def Trace.OutputIsRead (t : Trace) : Prop := ∀ x, ⟨.communicate, some x⟩ ∉ t.attempts

lemma Trace.outputIsRead_append {s t : Trace} :
    (s ++ t).OutputIsRead ↔ s.OutputIsRead ∧ t.OutputIsRead := by
  simp [OutputIsRead, not_or, forall_and]

/-- A run with diagnostics mirrors one without: unless the output of the process could not be read,
both end alike, in the same world, and what can be seen of them differs in the diagnostics only. -/
def Mirrors (on off : Ended σ α) : Prop :=
  on.trace.OutputIsRead →
    on.result = off.result ∧ on.world = off.world ∧ on.trace.undiagnosed = off.trace

/-- A part without diagnostics. -/
lemma mirrors_self {e : Ended σ α} (h : e.trace.undiagnosed = e.trace) : Mirrors e e :=
  fun _ => ⟨rfl, rfl, h⟩

/-- Two runs with a result, and behind each of them another. -/
lemma Mirrors.bind {r r' : Run σ α} {f f' : α → Run σ β} (h : Mirrors (r w) (r' w))
    (hnext : ∀ a w', Mirrors (f a w') (f' a w')) : Mirrors ((r >>= f) w) ((r' >>= f') w) := by
  intro hread
  cases hresult : (r w).result with
  | error x =>
    have hon : (r >>= f) w = ⟨.error x, (r w).trace, (r w).world⟩ :=
      Run.bind_of_error (by rw [← hresult])
    rw [hon] at hread ⊢
    obtain ⟨hresult', hworld, htrace⟩ := h hread
    have hoff : (r' >>= f') w = ⟨.error x, (r' w).trace, (r' w).world⟩ :=
      Run.bind_of_error (by rw [← hresult, hresult'])
    rw [hoff]
    exact ⟨rfl, hworld, htrace⟩
  | ok a =>
    have hon : (r >>= f) w = ⟨(f a (r w).world).result, (r w).trace ++ (f a (r w).world).trace,
        (f a (r w).world).world⟩ := Run.bind_of_ok (by rw [← hresult])
    rw [hon] at hread ⊢
    obtain ⟨hfirst, hsecond⟩ := Trace.outputIsRead_append.mp hread
    obtain ⟨hresult', hworld, htrace⟩ := h hfirst
    have hoff : (r' >>= f') w = ⟨(f' a (r w).world).result,
        (r' w).trace ++ (f' a (r w).world).trace, (f' a (r w).world).world⟩ :=
      Run.bind_of_ok (by rw [← hresult, hresult', hworld])
    obtain ⟨hend, hworld', hrest⟩ := hnext a (r w).world hsecond
    rw [hoff]
    exact ⟨hend, hworld', by rw [Trace.undiagnosed_append, htrace, hrest]⟩

/-- A run that only prints, and behind it another. -/
lemma Mirrors.skip {r : Run σ α} {f : α → Run σ β} {off : Ended σ β} {a : α} {t : Trace}
    (hfirst : r w = ⟨.ok a, t, w⟩) (ht : t.undiagnosed = []) (h : Mirrors (f a w) off) :
    Mirrors ((r >>= f) w) off := by
  intro hread
  rw [Run.bind_of_ok hfirst] at hread ⊢
  obtain ⟨hresult, hworld, htrace⟩ := h (Trace.outputIsRead_append.mp hread).2
  exact ⟨hresult, hworld, by rw [Trace.undiagnosed_append, ht, htrace, List.nil_append]⟩

/-- The reading of the output of a process, and behind it another run. -/
lemma Mirrors.read {written : Except Raised (Option String × Option String)}
    {f : Option String × Option String → Run σ β} {off : Ended σ β}
    (h : ∀ output, Mirrors (f output w) off) :
    Mirrors ((Run.await .communicate written >>= f) w) off := by
  cases written with
  | error x =>
    have hfirst : (Run.await .communicate (.error x) : Run σ (Option String × Option String)) w =
        ⟨.error x, [.call .communicate [] (some x)], w⟩ := rfl
    intro hread
    rw [Run.bind_of_error hfirst] at hread
    exact absurd (List.mem_singleton_self _) (hread x)
  | ok output =>
    have hfirst : (Run.await .communicate (.ok output) : Run σ (Option String × Option String)) w =
        ⟨.ok output, [.call .communicate [] none], w⟩ := rfl
    exact (h output).skip hfirst rfl

/-- Two runs, each inside a span. -/
lemma Mirrors.span {name : String} {attributes : List (String × Value)} {on off : Run σ α}
    (hattributes : ∀ a ∈ attributes, a.1 ∉ Run.reservedAttributes)
    (h : Mirrors (on w) (off w)) :
    Mirrors (Run.span name attributes on w) (Run.span name attributes off w) := by
  rw [Run.span_apply hattributes, Run.span_apply hattributes]
  intro hread
  have hbody := (Trace.outputIsRead_append.mp (Trace.outputIsRead_append.mp hread).1).2
  obtain ⟨hresult, hworld, htrace⟩ := h hbody
  have hclosing : (Run.spanClosing name attributes (on w).result).undiagnosed =
      Run.spanClosing name attributes (off w).result := by
    rw [hresult]
    unfold Run.spanClosing
    split <;> rfl
  refine ⟨hresult, hworld, ?_⟩
  rw [Trace.undiagnosed_append, Trace.undiagnosed_append, htrace, hclosing]
  rfl

end

/-! ### Dumps -/

namespace Dump

variable {σ : Type} (m : Machine σ) (l : Launcher σ) (c : Config)

/-- A process runs with diagnostics as it does without. -/
lemma mirrors_runProcess (spec : ProcessSpec) (w : σ) :
    Mirrors (runProcess l spec true w) (runProcess l spec false w) := by
  have hlaunch : Mirrors (Run.call (.spawn spec .captured) (l spec) w)
      (Run.call (.spawn spec .discarded) (l spec) w) := fun _ => ⟨rfl, rfl, rfl⟩
  refine hlaunch.bind fun child w' => .read ?_
  rintro ⟨out, err⟩
  have hwait : Mirrors (Run.await .wait child.exit w') (Run.await .wait child.exit w') :=
    mirrors_self rfl
  exact .skip (Run.sayAll_apply _ _) (Trace.undiagnosed_map_message _)
    (.skip (Run.sayAll_apply _ _) (Trace.undiagnosed_map_message _) hwait)

/-- The process of a request is found without diagnostics. -/
lemma mirrors_process (r : DumpRequest) (w : σ) :
    Mirrors (process m c r w) (process m c r w) := by
  cases hlist : r.classList with
  | none =>
    rw [process, hlist]
    exact mirrors_self rfl
  | some list =>
    cases hlauncher : c.launcher with
    | error e =>
      rw [process_of_no_launcher hlist hlauncher]
      exact mirrors_self rfl
    | ok launcher =>
      rw [process_of_launcher hlist hlauncher]
      exact .bind (mirrors_self rfl) fun _ _ => mirrors_self rfl

/-- What is inside the span of a static dump is the same with diagnostics as without. -/
lemma mirrors_staticBody (name : Option String) (list : String) (w : σ) :
    Mirrors
      (staticBody m l { c with debug := true } (request { c with debug := true } .static name) list
        w)
      (staticBody m l { c with debug := false } (request { c with debug := false } .static name)
        list w) := by
  have hon : (request { c with debug := true } .static name).debug = true := rfl
  have hoff : (request { c with debug := false } .static name).debug = false := rfl
  have hprocess :
      process m { c with debug := true } (request { c with debug := true } .static name) =
        process m { c with debug := false } (request { c with debug := false } .static name) := rfl
  rw [staticBody, staticBody, hon, hoff, hprocess]
  refine .bind (mirrors_self rfl) fun _ w₁ => .bind (mirrors_self rfl) fun _ w₂ => ?_
  refine (mirrors_process m _ _ w₂).bind fun spec w₃ => ?_
  -- the command line is printed in front of the process
  refine .skip rfl rfl (.skip rfl rfl ?_)
  exact (mirrors_runProcess l spec w₃).bind fun _ _ => mirrors_self rfl

/-- A request is carried out with diagnostics as it is without. -/
lemma mirrors_carryOut (kind : ArchiveKind) (name : Option String) (w : σ) :
    Mirrors
      (carryOut m l { c with debug := true } (request { c with debug := true } kind name) w)
      (carryOut m l { c with debug := false } (request { c with debug := false } kind name) w) := by
  cases kind with
  | static =>
    have hbody := mirrors_staticBody m l c name (classListOf c name) w
    refine (hbody.span not_reserved_of_mem_spanAttributes).bind ?_
    rintro ⟨spec, exit⟩ w'
    exact .bind (mirrors_self rfl) fun _ _ => mirrors_self rfl
  | dynamic =>
    have hask : Mirrors (Run.ask m (.dumpDynamic (archiveOf c .dynamic name)) w)
        (Run.ask m (.dumpDynamic (archiveOf c .dynamic name)) w) := mirrors_self rfl
    refine (hask.span not_reserved_of_mem_spanAttributes).bind fun _ _ => ?_
    exact .bind (mirrors_self rfl) fun _ _ => mirrors_self rfl

/-- A dump with diagnostics mirrors the one without. -/
lemma mirrors_dump (kind : ArchiveKind) (name : Option String) (w : σ) :
    Mirrors (dump m l { c with debug := true } kind name w)
      (dump m l { c with debug := false } kind name w) := by
  refine .skip rfl rfl ?_
  exact .bind (mirrors_self rfl) fun _ w' => mirrors_carryOut m l c kind name w'

/-- Diagnostics only observe. A dump with diagnostics, the output of whose process can be read if
there is any process, has the result of the dump without, or has raised the same, in the same world.
The machine was asked the same in the same order, the same process was tried to be launched, if any,
and the same events and notes on the span were made. Without diagnostics nothing is printed. What
can be seen of the two dumps differs only in messages, in where the output of the process goes, and
in the reading of it. -/
theorem diagnostics_observe (m : Machine σ) (l : Launcher σ) (c : Config) (kind : ArchiveKind)
    (name : Option String) (w : σ)
    (hread : ∀ x, ⟨.communicate, some x⟩ ∉
      (dump m l { c with debug := true } kind name w).trace.attempts) :
    let on := dump m l { c with debug := true } kind name w
    let off := dump m l { c with debug := false } kind name w
    on.result = off.result ∧ on.world = off.world ∧
      on.trace.queries = off.trace.queries ∧ on.trace.spawned = off.trace.spawned ∧
      on.trace.events = off.trace.events ∧ on.trace.spanNotes = off.trace.spanNotes ∧
      off.trace.messages = [] ∧ on.trace.undiagnosed = off.trace := by
  intro on off
  obtain ⟨hresult, hworld, htrace⟩ := mirrors_dump m l c kind name w hread
  have hsame : on.trace.undiagnosed = off.trace := htrace
  refine ⟨hresult, hworld, ?_, ?_, ?_, ?_, ?_, hsame⟩
  · rw [← hsame, Trace.queries_undiagnosed]
  · rw [← hsame, Trace.spawned_undiagnosed]
  · rw [← hsame, Trace.events_undiagnosed]
  · rw [← hsame, Trace.spanNotes_undiagnosed]
  · rw [← hsame, Trace.messages_undiagnosed]

/-- Diagnostics tell of a process that ends with a status of its own, which is the result with them
and without. -/
theorem diagnostics_observe_failed_process :
    ∃ (m : Machine Unit) (l : Launcher Unit) (c : Config),
      let on := dump m l { c with debug := true } .static (some "app.jsa") ()
      let off := dump m l { c with debug := false } .static (some "app.jsa") ()
      (∀ x, ⟨.communicate, some x⟩ ∉ on.trace.attempts) ∧
      on.trace.messages.map Message.text =
        ["Static dump to file app.jsa", "Static dump cmd: ",
          "/opt/jdk/bin/java -Xlog:cds -Xshare:dump -XX:SharedClassListFile=app.jsa.classlist " ++
            "-XX:SharedArchiveFile=app.jsa",
          "Dumping process 7 Stdout: ", "a", "b", "Dumping process 7 Stderr: "] ∧
      off.trace.messages = [] ∧ on.result = off.result ∧
      off.result.toOption.bind DumpResult.exitCode = some 3 ∧
      on.trace.events = off.trace.events := by
  let m : Machine Unit := fun
    | .arguments, w => ⟨.ok none, [⟨.debug, "asked", []⟩], w⟩
    | .dumpClassList _, w => ⟨.ok (), [], w⟩
    | _, w => ⟨.error (.interrupt "not asked"), [], w⟩
  let l : Launcher Unit := fun _ w => ⟨.ok ⟨7, .ok (some "a\r\nb", none), .ok 3⟩, [], w⟩
  let c : Config := ⟨false, some (.ofString "/opt/jdk"), 1, [], none, false, false, false⟩
  have hread : ∀ x, ⟨.communicate, some x⟩ ∉
      (dump m l { c with debug := true } .static (some "app.jsa") ()).trace.attempts := by
    have hattempts :
        (dump m l { c with debug := true } .static (some "app.jsa") ()).trace.attempts =
        [.answered (.query (.dumpClassList "app.jsa.classlist")), .answered (.query .arguments),
          .answered (.spawn (staticDumpProcess "/opt/jdk/bin/java" "app.jsa.classlist" "app.jsa"
            none) .captured), .answered .communicate, .answered .wait] := rfl
    rw [hattempts]
    simp [Attempt.answered]
  obtain ⟨hresult, -, -, -, hevents, -, hmessages, -⟩ :=
    diagnostics_observe m l c .static (some "app.jsa") () hread
  exact ⟨m, l, c, hread, by decide +kernel, hmessages, hresult, rfl, hevents⟩

end Dump

end ClassSharing
