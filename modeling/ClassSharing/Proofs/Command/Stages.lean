import ClassSharing.Proofs.Archive.Outcome
import ClassSharing.Proofs.Command.DryRun

/-!
# The stages of a dump command

A dump command makes up its settings, and then it plans a dump (`plan_spec`) or performs one
(`perform_apply`). What ends its work early was raised by one of these stages (`StageRaises`):
settings were not made up, a collaborator has not answered, or there is no installation.
`stageRaises_iff` says that the work ends with what a stage has raised, and with nothing else.
-/

namespace ClassSharing

/-- Plain texts. -/
def IsPlain (messages : List Message) : Prop := ∃ texts : List String, messages = texts.map .plain

/-- Messages are plain if each of them is. -/
lemma isPlain_of_forall {messages : List Message}
    (h : ∀ message ∈ messages, ∃ s, message = .plain s) : IsPlain messages := by
  have hrange : messages ∈ Set.range (List.map Message.plain) := by
    rw [Set.range_list_map]
    intro message hmessage
    obtain ⟨s, rfl⟩ := h message hmessage
    exact ⟨s, rfl⟩
  obtain ⟨texts, htexts⟩ := hrange
  exact ⟨texts, htexts.symm⟩

namespace DumpCommand

variable {ctx : CommandContext} {o : DumpOptions} {w : LocalWorld} {c : Config}

/-! ### The work of the command -/

/-- Without settings, the work ends with the reason for that. -/
lemma body_of_no_settings {x : Raised} {t : Trace}
    (h : (settings ctx w.files o : Run LocalWorld Config) w = ⟨.error x, t, w⟩) :
    body ctx o w = ⟨.error x, t, w⟩ :=
  Run.bind_of_error h

section

variable (h : (settings ctx w.files o : Run LocalWorld Config) w = ⟨.ok c, [], w⟩)

include h

/-- With settings, a dry run plans a dump. -/
lemma body_of_dryRun (hdry : o.dryRun = true) : body ctx o w = plan ctx c o w := by
  refine (Run.bind_of_ok h).trans ?_
  rw [if_pos hdry]
  rfl

/-- With settings, any other run performs a dump. -/
lemma body_of_realRun (hdry : o.dryRun = false) : body ctx o w = perform ctx c o w := by
  refine (Run.bind_of_ok h).trans ?_
  rw [if_neg (by simp [hdry])]
  rfl

end

/-- A plan changes nothing, launches nothing and prints plain texts, and everybody it calls answers.
It fails for the lack of an installation only. -/
lemma plan_spec (ctx : CommandContext) (c : Config) (o : DumpOptions) (w : LocalWorld) :
    (plan ctx c o w).world = w ∧ (plan ctx c o w).trace.spawned = [] ∧
      (plan ctx c o w).trace.raised = [] ∧ IsPlain (plan ctx c o w).trace.messages ∧
      (plan ctx c o w).result = match o.isStatic, c.launcher with
        | true, .error e => .error (.failure (.domain e))
        | _, _ => .ok () := by
  have hlist : (Dump.request c .static o.output).classList = some (Dump.classListOf c o.output) :=
    rfl
  cases hstatic : o.isStatic with
  | false =>
    rw [plan, kind_of_not_isStatic hstatic]
    exact ⟨rfl, rfl, rfl, ⟨[_, _], rfl⟩, rfl⟩
  | true =>
    rw [plan, kind_of_isStatic hstatic]
    cases hlauncher : c.launcher with
    | ok launcher =>
      simp only [hlist, Dump.process_of_launcher hlist hlauncher]
      exact ⟨rfl, rfl, rfl, ⟨[_, _, _, _], rfl⟩, rfl⟩
    | error e =>
      simp only [hlist, Dump.process_of_no_launcher hlist hlauncher]
      exact ⟨rfl, rfl, rfl, ⟨[_, _, _], rfl⟩, rfl⟩

/-- The host answers when its flags are asked for, and nothing changes. -/
lemma answersAll_openingTrace (l : Launcher LocalWorld) (c : Config) (version : Option String)
    (s : Stage LocalWorld) :
    AnswersAll (LocalHost.machine c version) l s (openingTrace c).attempts s :=
  .cons (.query s .dumpingClassList) (.cons (.query s .dumpingArchive)
    (.cons (.query s .sharingEnabled) (.nil s)))

/-- Performing a dump calls collaborators for the flags, and then as the dump does. -/
lemma attempts_perform (ctx : CommandContext) (c : Config) (o : DumpOptions) (w : LocalWorld) :
    (perform ctx c o w).trace.attempts =
      (openingTrace c).attempts ++ (dumped ctx c o w).trace.attempts := by
  have hclosing : (closingTrace (dumped ctx c o w).result).attempts = [] := by
    cases (dumped ctx c o w).result with
    | ok r => exact Trace.attempts_map_message _
    | error x => rfl
  rw [perform_apply]
  simp only [Trace.attempts_append, hclosing, List.append_nil]

/-- Performing a dump raises what the dump does. -/
lemma raised_perform (ctx : CommandContext) (c : Config) (o : DumpOptions) (w : LocalWorld) :
    (perform ctx c o w).trace.raised = (dumped ctx c o w).trace.raised := by
  rw [Trace.raised_eq_filterMap_attempts, attempts_perform, List.filterMap_append,
    ← Trace.raised_eq_filterMap_attempts, ← Trace.raised_eq_filterMap_attempts]
  rfl

/-- Performing a dump prints what the dump does, and the result. -/
lemma messages_perform (ctx : CommandContext) (c : Config) (o : DumpOptions) (w : LocalWorld) :
    (perform ctx c o w).trace.messages = (dumped ctx c o w).trace.messages ++
      (closingTrace (dumped ctx c o w).result).messages := by
  have hopening : (openingTrace c).messages = [] := rfl
  rw [perform_apply]
  simp only [Trace.messages_append, hopening, List.nil_append]

/-- A dump prints plain texts only. -/
lemma isPlain_dumped (ctx : CommandContext) (c : Config) (o : DumpOptions) (w : LocalWorld) :
    IsPlain (dumped ctx c o w).trace.messages :=
  isPlain_of_forall fun _ => Dump.plain_of_mem_messages_dump

/-! ### What stages raise -/

/-- What one of the stages of a command raises. -/
inductive StageRaises (ctx : CommandContext) (o : DumpOptions) (w : LocalWorld) : Raised → Prop
  /-- The settings are not made up. -/
  | settings {x : Raised}
      (h : ((settings ctx w.files o : Run LocalWorld Config) w).result = .error x) :
      StageRaises ctx o w x
  /-- A collaborator that was called does not answer. -/
  | collaborator {x : Raised} (h : x ∈ (run ctx o w).trace.raised) : StageRaises ctx o w x
  /-- There is no installation for a static dump, whose class list was written. -/
  | launcher {c : Config} {e : DomainError}
      (hsettings : ((settings ctx w.files o : Run LocalWorld Config) w).result = .ok c)
      (hstatic : o.isStatic = true) (hlauncher : c.launcher = .error e)
      (hraised : (run ctx o w).trace.raised = []) : StageRaises ctx o w (.failure (.domain e))

/-- A command raises what its work does. -/
lemma raised_run (ctx : CommandContext) (o : DumpOptions) (w : LocalWorld) :
    (run ctx o w).trace.raised = (body ctx o w).trace.raised := by
  rw [Trace.raised_eq_filterMap_attempts, attempts_run, Trace.raised_eq_filterMap_attempts]

/-- Without an installation there is no launcher, and that is what a dump fails with. -/
lemma exists_launcher_eq_error {x : Raised} (h : Dump.LacksHome c x) :
    ∃ e, c.launcher = .error e ∧ x = .failure (.domain e) := by
  obtain ⟨hhome, rfl⟩ := h
  exact ⟨_, by rw [Config.launcher, hhome], rfl⟩

/-- A dump with a result raises nothing. -/
lemma raised_dumped_of_ok {r : DumpResult} (h : (dumped ctx c o w).result = .ok r) :
    (dumped ctx c o w).trace.raised = [] := by
  unfold dumped at h ⊢
  cases hkind : o.kind with
  | static =>
    rw [hkind] at h
    exact ((Dump.mirrorsOutcome_dump_static _ _ c o.output w).of_ok r h).1
  | dynamic =>
    rw [hkind] at h
    exact ((Dump.mirrorsOutcome_dump_dynamic _ _ c o.output w).of_ok r h).1

/-- A dump ends early with what was raised, or without an installation. -/
lemma raised_dumped_of_error {x : Raised} (h : (dumped ctx c o w).result = .error x) :
    (dumped ctx c o w).trace.raised = [x] ∨
      (dumped ctx c o w).trace.raised = [] ∧ o.isStatic = true ∧ Dump.LacksHome c x := by
  unfold dumped at h ⊢
  cases hstatic : o.isStatic with
  | true =>
    rw [kind_of_isStatic hstatic] at h ⊢
    refine ((Dump.mirrorsOutcome_dump_static _ _ c o.output w).of_error x h).imp_right ?_
    exact fun ⟨hraised, hlacks⟩ => ⟨hraised, rfl, hlacks⟩
  | false =>
    rw [kind_of_not_isStatic hstatic] at h ⊢
    refine ((Dump.mirrorsOutcome_dump_dynamic _ _ c o.output w).of_error x h).imp_right ?_
    exact fun ⟨_, hfalse⟩ => hfalse.elim

/-- A static dump without an installation fails for the lack of it, if everybody answers. -/
lemma dumped_of_no_launcher {e : DomainError} (hstatic : o.isStatic = true)
    (hlauncher : c.launcher = .error e) (hraised : (dumped ctx c o w).trace.raised = []) :
    (dumped ctx c o w).result = .error (.failure (.domain e)) := by
  have hfails : ∃ x, (dumped ctx c o w).result = .error x := by
    obtain ⟨-, -, -, ⟨_, _, _, x, -, -, hx⟩ | ⟨-, hx⟩⟩ :=
      Dump.makes_dump_static_of_no_launcher (m := LocalHost.machine c (some ctx.version))
        (l := ctx.launcher) ⟨w, none⟩ o.output hlauncher
    · exact ⟨x, by rw [dumped, kind_of_isStatic hstatic]; exact hx⟩
    · exact ⟨_, by rw [dumped, kind_of_isStatic hstatic]; exact hx⟩
  obtain ⟨x, hx⟩ := hfails
  rcases raised_dumped_of_error hx with hsome | ⟨-, -, hlacks⟩
  · rw [hraised] at hsome
    exact absurd hsome (by simp)
  · obtain ⟨e', he', rfl⟩ := exists_launcher_eq_error hlacks
    obtain rfl : e = e' := Except.error.inj (hlauncher.symm.trans he')
    exact hx

/-- With settings, planning or performing a dump ends early with what a collaborator has raised, or
without an installation if nobody has raised anything. -/
lemma body_eq_error_iff {x : Raised}
    (h : (settings ctx w.files o : Run LocalWorld Config) w = ⟨.ok c, [], w⟩) :
    (body ctx o w).result = .error x ↔ x ∈ (body ctx o w).trace.raised ∨
      (body ctx o w).trace.raised = [] ∧ o.isStatic = true ∧
        ∃ e, c.launcher = .error e ∧ x = .failure (.domain e) := by
  cases hdry : o.dryRun with
  | true =>
    obtain ⟨-, -, hraised, -, hresult⟩ := plan_spec ctx c o w
    rw [body_of_dryRun h hdry, hraised, hresult]
    cases o.isStatic with
    | false => simp
    | true => cases c.launcher <;> simp [eq_comm]
  | false =>
    rw [body_of_realRun h hdry, raised_perform, perform_apply, Run.map_eq_error_iff]
    constructor
    · intro hx
      rcases raised_dumped_of_error hx with hsome | ⟨hnone, hstatic, hlacks⟩
      · exact .inl (by rw [hsome]; exact List.mem_singleton_self x)
      · exact .inr ⟨hnone, hstatic, exists_launcher_eq_error hlacks⟩
    · rintro (hx | ⟨hnone, hstatic, e, hlauncher, rfl⟩)
      · cases hresult : (dumped ctx c o w).result with
        | ok r =>
          rw [raised_dumped_of_ok hresult] at hx
          exact absurd hx List.not_mem_nil
        | error y =>
          rcases raised_dumped_of_error hresult with hsome | ⟨hnone, -⟩
          · rw [hsome, List.mem_singleton] at hx
            rw [hx]
          · rw [hnone] at hx
            exact absurd hx List.not_mem_nil
      · exact dumped_of_no_launcher hstatic hlauncher hnone

/-- The work of a command ends early with what a stage has raised. -/
lemma stageRaises_iff {x : Raised} :
    StageRaises ctx o w x ↔ (body ctx o w).result = .error x := by
  rcases settings_ends ctx w.files o w with ⟨c, hsettings⟩ | ⟨y, events, hsettings⟩
  · rw [body_eq_error_iff hsettings, ← raised_run]
    constructor
    · intro hx
      cases hx with
      | settings h => exact absurd h (by rw [hsettings]; simp)
      | collaborator h => exact .inl h
      | launcher hok hstatic hlauncher hnone =>
        rw [hsettings] at hok
        obtain rfl := Except.ok.inj hok
        exact .inr ⟨hnone, hstatic, _, hlauncher, rfl⟩
    · rintro (h | ⟨hnone, hstatic, e, hlauncher, rfl⟩)
      · exact .collaborator h
      · exact .launcher (by rw [hsettings]) hstatic hlauncher hnone
  · have hbody := body_of_no_settings hsettings
    rw [hbody]
    constructor
    · intro hx
      cases hx with
      | settings h =>
        rw [hsettings] at h
        rw [Except.error.inj h]
      | collaborator h =>
        rw [raised_run, hbody, Trace.raised_map_event] at h
        exact absurd h List.not_mem_nil
      | launcher hok => exact absurd hok (by rw [hsettings]; simp)
    · rintro ⟨rfl⟩
      exact .settings (by rw [hsettings])

end DumpCommand

end ClassSharing
