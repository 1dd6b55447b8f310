import ClassSharing.Proofs.Archive.CallOrder
import ClassSharing.Proofs.Resolution.Generation
import ClassSharing.Proofs.Validation.Fields

/-!
# The flags of a session are frozen

A machine may answer differently every time it is asked. A session asks for its three flags when it
is opened and never again, and what it later answers, logs and leaves out is decided by the answers
of then. `openWith_asks` is about opening a session, `perform_keepsState` about one operation on it,
and `flags_frozen` about an opened session and any operations on it, those that fail included.
-/

namespace ClassSharing

/-! ### Asking for the flags -/

namespace SharingState

variable {σ : Type}

/-- The calls that ask for the flags of a machine, in their order. -/
def flagCalls : List Call :=
  [.query .dumpingClassList, .query .dumpingArchive, .query .sharingEnabled]

/-- The flags that a machine has answered to three queries, one after the other. -/
def IsAnswered (m : Machine σ) (w : σ) (state : SharingState) : Prop :=
  let afterFirst := (m .dumpingClassList w).world
  let afterSecond := (m .dumpingArchive afterFirst).world
  ∃ first second third,
    (m .dumpingClassList w).answer = .ok first ∧
    (m .dumpingArchive afterFirst).answer = .ok second ∧
    (m .sharingEnabled afterSecond).answer = .ok third ∧
    Checked.bool first = .ok state.dumpingClassList ∧
    Checked.bool second = .ok state.dumpingArchive ∧
    Checked.bool third = .ok state.sharingEnabled

/-- The flags of a state are those of its fields. -/
lemma ofFields_eq_ok {c a e : Value} {state : SharingState}
    (h : ofFields (.ofList [("dumping_class_list", c), ("dumping_archive", a),
      ("sharing_enabled", e)]) = .ok state) :
    Checked.bool c = .ok state.dumpingClassList ∧ Checked.bool a = .ok state.dumpingArchive ∧
      Checked.bool e = .ok state.sharingEnabled := by
  obtain ⟨_, _, h3, -, rfl⟩ := Checked.seq_eq_ok.mp h
  obtain ⟨_, _, h2, hsharing, rfl⟩ := Checked.seq_eq_ok.mp h3
  obtain ⟨_, _, h1, harchive, rfl⟩ := Checked.seq_eq_ok.mp h2
  obtain ⟨_, _, h0, hclassList, rfl⟩ := Checked.seq_eq_ok.mp h1
  cases h0
  rw [Checked.optional_eq_ok_iff] at hsharing harchive hclassList
  exact ⟨hclassList, harchive, hsharing⟩

/-- The flags are asked for in their order, and the state holds what was answered. -/
lemma query_asks (m : Machine σ) (w : σ) :
    (query m w).trace.calls <+: flagCalls ∧ ∀ state, (query m w).result = .ok state →
      (query m w).trace.calls = flagCalls ∧ IsAnswered m w state := by
  rw [query]
  rcases Run.ask_bind_cases m .dumpingClassList _ w with
    ⟨x, hresult, hcalls⟩ | ⟨c, hc, hresult, hcalls⟩
  · rw [hresult, hcalls]
    exact ⟨⟨_, rfl⟩, fun _ h => absurd h (by simp)⟩
  rw [hresult, hcalls]
  rcases Run.ask_bind_cases m .dumpingArchive _ _ with
    ⟨x, hresult, hcalls⟩ | ⟨a, ha, hresult, hcalls⟩
  · rw [hresult, hcalls]
    exact ⟨⟨_, rfl⟩, fun _ h => absurd h (by simp)⟩
  rw [hresult, hcalls]
  rcases Run.ask_bind_cases m .sharingEnabled _ _ with
    ⟨x, hresult, hcalls⟩ | ⟨e, he, hresult, hcalls⟩
  · rw [hresult, hcalls]
    exact ⟨⟨_, rfl⟩, fun _ h => absurd h (by simp)⟩
  rw [hresult, hcalls]
  rcases Run.ofChecked_cases model (ofFields (.ofList [("dumping_class_list", c),
    ("dumping_archive", a), ("sharing_enabled", e)]))
    (m .sharingEnabled (m .dumpingArchive (m .dumpingClassList w).world).world).world with
    ⟨state, hstate, hrun⟩ | ⟨x, hrun⟩
  · rw [hrun]
    refine ⟨⟨[], rfl⟩, fun state' h => ⟨rfl, c, a, e, hc, ha, he, ?_⟩⟩
    obtain rfl : state = state' := Except.ok.inj h
    exact ofFields_eq_ok hstate
  · rw [hrun]
    exact ⟨⟨[], rfl⟩, fun _ h => absurd h (by simp)⟩

end SharingState

namespace Session

variable {σ : Type}

/-- Opening a session asks for the flags and for nothing else. An open session holds what was
answered. -/
lemma openWith_asks (k : Collaborators σ) (around : Surroundings) (given : Option Config) (w : σ) :
    (openWith k around given w).trace.calls <+: SharingState.flagCalls ∧
      ∀ s, (openWith k around given w).result = .ok s →
        (openWith k around given w).trace.calls = SharingState.flagCalls ∧
          SharingState.IsAnswered k.machine w s.state := by
  have hstart : ∀ config, (start k config w).trace.calls <+: SharingState.flagCalls ∧
      ∀ s, (start k config w).result = .ok s →
        (start k config w).trace.calls = SharingState.flagCalls ∧
          SharingState.IsAnswered k.machine w s.state := by
    intro config
    have hasks := SharingState.query_asks k.machine w
    cases hresult : (SharingState.query k.machine w).result with
    | error x =>
      have hrun : start k config w = ⟨.error x, (SharingState.query k.machine w).trace,
          (SharingState.query k.machine w).world⟩ := Run.bind_of_error (by rw [← hresult])
      rw [hrun]
      exact ⟨hasks.1, fun _ h => absurd h (by simp)⟩
    | ok state =>
      obtain ⟨hcalls, hanswered⟩ := hasks.2 state hresult
      have hrun : start k config w = ⟨.ok ⟨config, state⟩,
          (SharingState.query k.machine w).trace ++
            [.event ⟨.debug, "sharing_state_initialized", bound ++ state.fields⟩],
          (SharingState.query k.machine w).world⟩ := Run.bind_of_ok (by rw [← hresult])
      have hsame : (start k config w).trace.calls = SharingState.flagCalls := by
        rw [hrun, Trace.calls_append, hcalls]
        rfl
      rw [hsame, hrun]
      refine ⟨List.prefix_rfl, fun s h => ⟨rfl, ?_⟩⟩
      obtain rfl : (⟨config, state⟩ : Session) = s := Except.ok.inj h
      exact hanswered
  cases given with
  | some config => exact hstart config
  | none =>
    rcases Run.ofChecked_cases Config.model (Config.ofEnvironment around []) w with
      ⟨config, -, hrun⟩ | ⟨x, hrun⟩
    · have hopen : openWith k around none w = start k config w :=
        (Run.bind_of_ok hrun).trans (by rw [List.nil_append])
      rw [hopen]
      exact hstart config
    · have hopen : openWith k around none w = ⟨.error x, [], w⟩ := Run.bind_of_error hrun
      rw [hopen]
      exact ⟨List.nil_prefix, fun _ h => absurd h (by simp)⟩

end Session

/-! ### What is seen of flags and lines -/

/-- A call that asks for a flag. -/
def Call.asksFlag : Call → Bool
  | .query .dumpingClassList | .query .dumpingArchive | .query .sharingEnabled => true
  | _ => false

/-- The line that a call appends to the log of a machine. -/
def Call.loggedLine? : Call → Option String
  | .query (.logInvoker line) => some line
  | _ => none

namespace Trace

/-- The calls that ask for a flag. -/
def flagQueries (t : Trace) : List Call := t.calls.filter Call.asksFlag

/-- The lines that are appended to the log of a machine. -/
def loggedLines (t : Trace) : List String := t.calls.filterMap Call.loggedLine?

@[simp]
lemma flagQueries_append (s t : Trace) : flagQueries (s ++ t) = flagQueries s ++ flagQueries t := by
  rw [flagQueries, calls_append, List.filter_append]
  rfl

@[simp]
lemma loggedLines_append (s t : Trace) : loggedLines (s ++ t) = loggedLines s ++ loggedLines t := by
  rw [loggedLines, calls_append, List.filterMap_append]
  rfl

/-- Neither flags nor lines are seen of a run that makes only some of given calls, none of which
is about them. -/
lemma silent_of_calls_prefix {t : Trace} {calls : List Call} (h : t.calls <+: calls)
    (hflags : calls.filter Call.asksFlag = []) (hlines : calls.filterMap Call.loggedLine? = []) :
    t.flagQueries = [] ∧ t.loggedLines = [] :=
  ⟨List.prefix_nil.mp (hflags ▸ h.filter _), List.prefix_nil.mp (hlines ▸ h.filterMap _)⟩

end Trace

namespace Session

variable {σ : Type}

/-! ### One operation -/

/-- The line of an operation that traces a resolution: its texts, with single spaces between
them. -/
def Operation.line? : Operation → Option String
  | .traceLambdaForm marker holder method descriptor =>
    some (marker ++ " " ++ holder ++ " " ++ method ++ " " ++ descriptor)
  | .traceSpecies marker species => some (marker ++ " " ++ species)
  | _ => none

/-- How setting the static fields of a class ends. A failure of the machine is told in one event and
does not end anything; what is no failure is passed on. -/
inductive InitEnds (target : Target) : Ended σ Answer → Prop
  | done (heard : List Event) (w : σ) :
    InitEnds target ⟨.ok .nothing, [.call (.query (.initStatics target)) heard none], w⟩
  | failed (heard : List Event) (f : Failure) (w : σ) :
    InitEnds target ⟨.ok .nothing,
      [.call (.query (.initStatics target)) heard (some (.failure f)),
        .event ⟨.debug, "archived_statics_not_initialized",
          [("component", .str "cds_runtime"), ("target", .str target.text),
            ("error_type", .str f.name)]⟩], w⟩
  | interrupted (heard : List Event) (message : String) (w : σ) :
    InitEnds target ⟨.error (.interrupt message),
      [.call (.query (.initStatics target)) heard (some (.interrupt message))], w⟩

/-- What one operation does by the flags that a session was opened with. No flag is asked for, an
operation that traces a resolution logs its line exactly if a class list was being recorded, the
flags are answered as they were, and static fields are set without failing. -/
structure KeepsState (s : Session) (op : Operation) (e : Ended σ Answer) : Prop where
  flagQueries_eq : e.trace.flagQueries = []
  loggedLines_eq : e.trace.loggedLines =
    if s.state.dumpingClassList then op.line?.toList else []
  flags : op = .flags → e.result = .ok (.flags s.state)
  initEnds : ∀ target, op = .initStatics target → InitEnds target e

variable (k : Collaborators σ) (s : Session)

/-- An operation that is only passed on keeps the state if no call of it is about flags or lines. -/
lemma keepsState_of_calls_prefix {α : Type} {op : Operation} {r : Run σ α} {g : α → Answer}
    {w : σ} {calls : List Call} (hcalls : (r w).trace.calls <+: calls)
    (hquiet : calls.filter Call.asksFlag = [] ∧ calls.filterMap Call.loggedLine? = [])
    (hline : op.line? = none) (hflags : op ≠ .flags) (hinit : ∀ target, op ≠ .initStatics target) :
    KeepsState s op ((r >>= fun a => pure (g a)) w) := by
  obtain ⟨hasked, hlogged⟩ := Trace.silent_of_calls_prefix hcalls hquiet.1 hquiet.2
  rw [Run.bind_pure_apply]
  refine ⟨hasked, ?_, fun h => absurd h hflags, fun target h => absurd h (hinit target)⟩
  rw [hline, hlogged, Option.toList_none, ite_self]

/-- A traced resolution keeps the state. -/
lemma keepsState_record {op : Operation} {line : String} (hline : op.line? = some line) (w : σ) :
    KeepsState s op ((record k s line >>= fun _ => pure .nothing) w) := by
  have hflags : op ≠ .flags := by rintro rfl; simp [Operation.line?] at hline
  have hinit : ∀ target, op ≠ .initStatics target := by
    rintro target rfl
    simp [Operation.line?] at hline
  rw [Run.bind_pure_apply, record]
  cases hrecording : s.state.dumpingClassList with
  | false =>
    refine ⟨rfl, ?_, fun h => absurd h hflags, fun target h => absurd h (hinit target)⟩
    rw [hrecording]
    rfl
  | true =>
    refine ⟨rfl, ?_, fun h => absurd h hflags, fun target h => absurd h (hinit target)⟩
    rw [hrecording, hline]
    rfl

/-- Setting static fields is not about flags or lines. -/
lemma InitEnds.silent {target : Target} {e : Ended σ Answer} (h : InitEnds target e) :
    e.trace.flagQueries = [] ∧ e.trace.loggedLines = [] := by
  cases h <;> exact ⟨rfl, rfl⟩

/-- Setting static fields ends in one of three ways. -/
lemma initEnds_perform (target : Target) (w : σ) :
    InitEnds target (perform k s (.initStatics target) w) := by
  rw [perform, Run.bind_pure_apply, initStatics]
  cases hanswer : (k.machine (.initStatics target) w).answer with
  | ok u =>
    have hrun := Run.outcome_apply (Run.ask k.machine (.initStatics target)) w
    rw [Run.ask_apply, hanswer] at hrun
    rw [Run.bind_of_ok hrun]
    simp only [Reply.raised?, hanswer]
    exact .done _ _
  | error x =>
    have hrun := Run.outcome_apply (Run.ask k.machine (.initStatics target)) w
    rw [Run.ask_apply, hanswer] at hrun
    rw [Run.bind_of_ok hrun]
    simp only [Reply.raised?, hanswer]
    cases x with
    | failure f => exact .failed _ f _
    | interrupt message => exact .interrupted _ message _

/-- Generation calls a generator once at most, and nobody else. -/
lemma exists_calls_generate_prefix (lines : Option (List String)) (w : σ) :
    ∃ records, (generate k lines w).trace.calls <+: [.generate records] := by
  have hbatch : ∀ g, ∃ records,
      (Batch.generate g lines w).trace.calls <+: [.generate records] := by
    intro g
    have hall := Batch.isAllOrNothing_generate g
    cases lines with
    | none => exact ⟨[], List.nil_prefix⟩
    | some lines =>
      by_cases hlines : Batch.Acceptable lines
      · obtain ⟨records, -, -, hcalls, -⟩ := hall.accepted lines w hlines
        exact ⟨records, by rw [hcalls]⟩
      · obtain ⟨_, _, _, _, -, -, -, -, hcalls, -⟩ := hall.rejected lines w hlines
        exact ⟨[], by rw [hcalls]; exact List.nil_prefix⟩
  unfold generate
  cases k.generator with
  | none => exact ⟨[], List.nil_prefix⟩
  | some g => exact hbatch g

/-- No call of a dump is about flags or lines. -/
lemma silent_dumpCalls (c : Config) (kind : ArchiveKind) (name : Option String)
    (spec : ProcessSpec) :
    (Dump.dumpCalls c kind name spec).filter Call.asksFlag = [] ∧
      (Dump.dumpCalls c kind name spec).filterMap Call.loggedLine? = [] := by
  cases kind with
  | dynamic => exact ⟨rfl, rfl⟩
  | static =>
    rw [Dump.dumpCalls]
    cases c.debug <;> exact ⟨rfl, rfl⟩

/-- Every operation keeps the state. -/
lemma perform_keepsState (op : Operation) (w : σ) : KeepsState s op (perform k s op w) := by
  cases op with
  | flags => exact ⟨rfl, (ite_self _).symm, fun _ => rfl, fun _ h => absurd h (by simp)⟩
  | traceLambdaForm marker holder method descriptor =>
    refine keepsState_record k s ?_ w
    simp only [Operation.line?, String.intercalate_cons_cons, String.intercalate_singleton,
      String.append_assoc]
  | traceSpecies marker species =>
    refine keepsState_record k s ?_ w
    simp only [Operation.line?, String.intercalate_cons_cons, String.intercalate_singleton,
      String.append_assoc]
  | initStatics target =>
    have hends := initEnds_perform k s target w
    refine ⟨hends.silent.1, ?_, fun h => absurd h (by simp), fun target' h => ?_⟩
    · exact hends.silent.2.trans (ite_self _).symm
    · cases h
      exact hends
  | defineModules platform system =>
    exact keepsState_of_calls_prefix s (List.prefix_refl _) ⟨rfl, rfl⟩ rfl (by simp) (by simp)
  | seed =>
    exact keepsState_of_calls_prefix s (List.prefix_refl _) ⟨rfl, rfl⟩ rfl (by simp) (by simp)
  | generate lines =>
    obtain ⟨records, hcalls⟩ := exists_calls_generate_prefix k lines w
    exact keepsState_of_calls_prefix s hcalls ⟨rfl, rfl⟩ rfl (by simp) (by simp)
  | dump isStatic fileName =>
    obtain ⟨spec, hcalls⟩ := Dump.exists_calls_dump_prefix k.machine k.launcher s.config
      (if isStatic then .static else .dynamic) fileName w
    exact keepsState_of_calls_prefix s hcalls (silent_dumpCalls _ _ _ _) rfl (by simp) (by simp)

/-! ### All operations -/

/-- Operations that are performed one after the other, each where the one in front of it has left
the collaborators, and how each of them ends. -/
inductive Performs : σ → List Operation → List (Ended σ Answer) → σ → Prop
  | nil (w : σ) : Performs w [] [] w
  | cons (op : Operation) {rest : List Operation} {w w' : σ} {ends : List (Ended σ Answer)}
      (others : Performs (perform k s op w).world rest ends w') :
    Performs w (op :: rest) (perform k s op w :: ends) w'

/-- Performing all operations gives what each of them gives. -/
lemma exists_performs (ops : List Operation) (w : σ) :
    ∃ ends w', Performs k s w ops ends w' ∧
      performAll k s ops w = ⟨.ok (ends.map Ended.result), ends.flatMap Ended.trace, w'⟩ := by
  induction ops generalizing w with
  | nil => exact ⟨[], w, .nil w, rfl⟩
  | cons op rest ih =>
    obtain ⟨ends, w', hperforms, hall⟩ := ih (perform k s op w).world
    refine ⟨perform k s op w :: ends, w', .cons op hperforms, ?_⟩
    rw [performAll, Run.bind_of_ok (Run.outcome_apply (perform k s op) w), Run.bind_of_ok hall]
    simp

/-- Every operation of a path keeps the state. -/
lemma Performs.keepsState {k : Collaborators σ} {s : Session} {w w' : σ} {ops : List Operation}
    {ends : List (Ended σ Answer)} (h : Performs k s w ops ends w') :
    List.Forall₂ (KeepsState s) ops ends := by
  induction h with
  | nil w => exact .nil
  | cons op others ih => exact .cons (perform_keepsState k s op _) ih

/-- What is seen of operations that all keep the state. -/
lemma views_of_keepsState {s : Session} {ops : List Operation} {ends : List (Ended σ Answer)}
    (h : List.Forall₂ (KeepsState s) ops ends) :
    Trace.flagQueries (ends.flatMap Ended.trace) = [] ∧
      Trace.loggedLines (ends.flatMap Ended.trace) =
        if s.state.dumpingClassList then ops.filterMap Operation.line? else [] := by
  induction h with
  | nil => exact ⟨rfl, (ite_self _).symm⟩
  | @cons op e rest ends hfirst hothers ih =>
    rw [List.flatMap_cons, Trace.flagQueries_append, Trace.loggedLines_append,
      hfirst.flagQueries_eq, hfirst.loggedLines_eq, ih.1, ih.2]
    refine ⟨rfl, ?_⟩
    cases s.state.dumpingClassList with
    | false => rfl
    | true => cases hline : op.line? <;> simp [hline]

/-- The flags of a session are frozen when it is opened, whatever its machine answers later. Opening
asks for each flag once, in order, and for nothing else; an open session holds the answers. Any
operations on it, those that fail included, are performed one after the other to the end, each as if
the others had not failed. None asks for a flag, the flags are always answered as they were, the
machine is given the lines of the traced resolutions, each once and in order, exactly if a class
list was being recorded, and setting static fields is only ended by an interrupt: a failure is told
in one event. -/
theorem flags_frozen (k : Collaborators σ) (around : Surroundings) (given : Option Config) (w : σ) :
    (openWith k around given w).trace.calls <+:
        [.query .dumpingClassList, .query .dumpingArchive, .query .sharingEnabled] ∧
      ∀ s, (openWith k around given w).result = .ok s →
        (openWith k around given w).trace.calls =
            [.query .dumpingClassList, .query .dumpingArchive, .query .sharingEnabled] ∧
          SharingState.IsAnswered k.machine w s.state ∧
          ∀ (ops : List Operation) (w' : σ), ∃ ends w'', Performs k s w' ops ends w'' ∧
            performAll k s ops w' =
              ⟨.ok (ends.map Ended.result), ends.flatMap Ended.trace, w''⟩ ∧
            List.Forall₂ (KeepsState s) ops ends ∧
            Trace.flagQueries (ends.flatMap Ended.trace) = [] ∧
            Trace.loggedLines (ends.flatMap Ended.trace) =
              if s.state.dumpingClassList then ops.filterMap Operation.line? else [] := by
  obtain ⟨hopening, hopened⟩ := openWith_asks k around given w
  refine ⟨hopening, fun s hs => ?_⟩
  obtain ⟨hcalls, hanswered⟩ := hopened s hs
  refine ⟨hcalls, hanswered, fun ops w' => ?_⟩
  obtain ⟨ends, w'', hperforms, hall⟩ := exists_performs k s ops w'
  exact ⟨ends, w'', hperforms, hall, hperforms.keepsState, views_of_keepsState hperforms.keepsState⟩

/-- A machine that records a class list when it is asked first and denies it ever after still gets
the lines of two species, around a failure and an interrupt. -/
theorem flags_frozen_of_turning_machine :
    ∃ (k : Collaborators Nat) (s : Session) (ends : List (Ended Nat Answer)) (w : Nat),
      (∀ n, (k.machine .dumpingClassList n).answer = .ok (.bool (n == 0))) ∧
      Performs k s 3
        [.traceSpecies "[SPECIES_RESOLVE]" "LL", .initStatics (.classNamed "java.lang.Module"),
          .dump false none, .flags, .traceSpecies "[SPECIES_RESOLVE]" "LI"] ends w ∧
      Trace.flagQueries (ends.flatMap Ended.trace) = [] ∧
      Trace.loggedLines (ends.flatMap Ended.trace) =
        ["[SPECIES_RESOLVE] LL", "[SPECIES_RESOLVE] LI"] := by
  let m : Machine Nat := fun
    | .dumpingClassList, n | .dumpingArchive, n | .sharingEnabled, n =>
      ⟨.ok (.bool (n == 0)), [], n + 1⟩
    | .arguments, n => ⟨.ok none, [], n⟩
    | .seed, n => ⟨.ok 0, [], n⟩
    | .initStatics _, n => ⟨.error (.failure (.general .runtime "no archive")), [], n⟩
    | .dumpDynamic _, n => ⟨.error (.interrupt "stop"), [], n⟩
    | .logInvoker _, n | .defineModules .., n | .dumpClassList _, n => ⟨.ok (), [], n⟩
  let k : Collaborators Nat :=
    ⟨m, fun _ n => ⟨.ok ⟨7, .ok (none, none), .ok 0⟩, [], n⟩, none⟩
  let c : Config := ⟨false, none, 1, [], none, false, false, false⟩
  let s : Session := ⟨c, ⟨true, false, false⟩⟩
  have hopen : (openWith k ⟨[], 1⟩ (some c) 0).result = .ok s := rfl
  obtain ⟨-, hopened⟩ := flags_frozen k ⟨[], 1⟩ (some c) 0
  obtain ⟨-, -, hall⟩ := hopened s hopen
  obtain ⟨ends, w, hperforms, -, -, hflags, hlines⟩ := hall
    [.traceSpecies "[SPECIES_RESOLVE]" "LL", .initStatics (.classNamed "java.lang.Module"),
      .dump false none, .flags, .traceSpecies "[SPECIES_RESOLVE]" "LI"] 3
  exact ⟨k, s, ends, w, fun _ => rfl, hperforms, hflags, hlines.trans (by decide +kernel)⟩

end Session

end ClassSharing
