import ClassSharing.Proofs.Command.Stages

/-!
# The status of a dump command

What a stage of a dump command raises is told in a message, with a status for whoever has to act on
it, or it leaves the command as it is (`Told`). `status_of_stages` says that this depends on what
was raised and not on the stage, that one message at most tells of it, and that a command that no
stage has stopped ends well, whatever its process has ended with.
-/

namespace ClassSharing

namespace DumpCommand

variable {ctx : CommandContext} {o : DumpOptions} {w : LocalWorld} {c : Config}

/-! ### What is told -/

/-- What is told of the reason for which a command has ended early: a status and a text. A missing
file is told in its own words, and every issue of settings in a line of its own. -/
inductive Told (o : DumpOptions) : Raised → Nat → String → Prop
  | missing (text : String) : Told o (.failure (.system ⟨.notFound, text⟩)) 2 text
  | system (e : SystemError) (h : e.kind ≠ .notFound) :
      Told o (.failure (.system e)) 2 ("Dump failed: " ++ e.message)
  | validation (e : ValidationError) : Told o (.failure (.validation e)) 1
      ("Invalid configuration in " ++ source o ++ ":\n" ++
        "\n".intercalate ("Validation failed:" :: e.issues.map Issue.line))
  | domain (e : DomainError) : Told o (.failure (.domain e)) 1 e.message
  | document : Told o (.failure .document) 1
      ("Invalid YAML in " ++ o.config.getD "None" ++ ": " ++ Failure.document.message)

/-- What is printed by a command, with the message of an error that it leaves to be shown. -/
def printed (e : Ended LocalWorld Exit) : List Message :=
  e.trace.messages ++
    match e.result with
    | .ok (.refused error) => [error.shown]
    | _ => []

/-- A fault of the system has the status 2. -/
lemma exists_told_two_iff {x : Raised} :
    (∃ text, Told o x 2 text) ↔ ∃ e, x = .failure (.system e) := by
  constructor
  · rintro ⟨text, h⟩
    cases h with
    | missing => exact ⟨_, rfl⟩
    | system e => exact ⟨e, rfl⟩
  · rintro ⟨⟨kind, text⟩, rfl⟩
    by_cases hkind : kind = .notFound
    · subst hkind
      exact ⟨text, .missing text⟩
    · exact ⟨_, .system ⟨kind, text⟩ hkind⟩

/-- A fault that the user can mend has the status 1. -/
lemma exists_told_one_iff {x : Raised} :
    (∃ text, Told o x 1 text) ↔ (∃ e, x = .failure (.validation e)) ∨
      (∃ e, x = .failure (.domain e)) ∨ x = .failure .document := by
  constructor
  · rintro ⟨text, h⟩
    cases h with
    | validation e => exact .inl ⟨e, rfl⟩
    | domain e => exact .inr (.inl ⟨e, rfl⟩)
    | document => exact .inr (.inr rfl)
  · rintro (⟨e, rfl⟩ | ⟨e, rfl⟩ | rfl)
    · exact ⟨_, .validation e⟩
    · exact ⟨_, .domain e⟩
    · exact ⟨_, .document⟩

/-- There are two statuses. -/
lemma Told.code_eq {x : Raised} {code : Nat} {text : String} (h : Told o x code text) :
    code = 1 ∨ code = 2 := by
  cases h with
  | missing | system => exact .inr rfl
  | validation | domain | document => exact .inl rfl

/-- A reason is told, and then in one way, or it leaves the command. -/
lemma handle_cases (o : DumpOptions) (x : Raised) (w : LocalWorld) :
    (∃ exit code text, Told o x code text ∧ (handle o x w).result = .ok exit ∧
      exit.code? = some code ∧ printed (handle o x w) = [.marked .failure text]) ∨
    (∀ code text, ¬ Told o x code text) ∧ handle o x w = ⟨.ok (.escaped x), [], w⟩ := by
  rcases x with f | message
  · cases f with
    | system e =>
      obtain ⟨kind, text⟩ := e
      cases kind with
      | notFound => exact .inl ⟨_, _, _, .missing text, rfl, rfl, rfl⟩
      | _ => exact .inl ⟨_, _, _, .system ⟨_, text⟩ (by simp), rfl, rfl, rfl⟩
    | domain e => exact .inl ⟨_, _, _, .domain e, rfl, rfl, rfl⟩
    | validation e => exact .inl ⟨_, _, _, .validation e, rfl, rfl, rfl⟩
    | document => exact .inl ⟨_, _, _, .document, rfl, rfl, rfl⟩
    | undecodable fault => exact .inr ⟨fun _ _ h => (nomatch h), rfl⟩
    | general kind message => exact .inr ⟨fun _ _ h => (nomatch h), rfl⟩
  · exact .inr ⟨fun _ _ h => (nomatch h), rfl⟩

/-- There is one way to tell of a reason. -/
lemma Told.unique {x : Raised} {code code' : Nat} {text text' : String} (h : Told o x code text)
    (h' : Told o x code' text') : code = code' ∧ text = text' := by
  cases h with
  | missing =>
    cases h' with
    | missing => exact ⟨rfl, rfl⟩
    | system e hkind => exact absurd rfl hkind
  | system e hkind =>
    cases h' with
    | missing => exact absurd rfl hkind
    | system => exact ⟨rfl, rfl⟩
  | validation => cases h'; exact ⟨rfl, rfl⟩
  | domain => cases h'; exact ⟨rfl, rfl⟩
  | document => cases h'; exact ⟨rfl, rfl⟩

/-! ### What is printed -/

/-- Work that has ended early has printed plain texts only. -/
lemma isPlain_of_body_eq_error {x : Raised} (h : (body ctx o w).result = .error x) :
    IsPlain (body ctx o w).trace.messages := by
  rcases settings_ends ctx w.files o w with ⟨c, hsettings⟩ | ⟨y, events, hsettings⟩
  · cases hdry : o.dryRun with
    | true =>
      obtain ⟨-, -, -, hplain, -⟩ := plan_spec ctx c o w
      rw [body_of_dryRun hsettings hdry]
      exact hplain
    | false =>
      rw [body_of_realRun hsettings hdry] at h ⊢
      obtain ⟨texts, htexts⟩ := isPlain_dumped ctx c o w
      rw [perform_apply, Run.map_eq_error_iff] at h
      refine ⟨texts, ?_⟩
      rw [messages_perform, h, htexts]
      exact List.append_nil _
  · rw [body_of_no_settings hsettings]
    exact ⟨[], Trace.messages_map_event events⟩

/-- A command that is not stopped prints what its work does. -/
lemma printed_of_body_eq_ok (h : (body ctx o w).result = .ok ()) :
    printed (run ctx o w) = (body ctx o w).trace.messages := by
  obtain ⟨hresult, htrace⟩ := run_of_ok h
  rw [printed, hresult, htrace]
  exact List.append_nil _

/-- A command that is stopped prints what is told of the reason behind what its work has printed. -/
lemma printed_of_body_eq_error {x : Raised} (h : (body ctx o w).result = .error x) :
    printed (run ctx o w) = (body ctx o w).trace.messages ++ printed (handle o x w) := by
  obtain ⟨hresult, htrace⟩ := run_of_error h
  rw [printed, hresult, htrace, Trace.messages_append, List.append_assoc, printed]

/-- On the stand-alone host only a static dump has a result. -/
lemma isStatic_of_dumped_eq_ok {r : DumpResult} (h : (dumped ctx c o w).result = .ok r) :
    o.isStatic = true := by
  cases hstatic : o.isStatic with
  | true => rfl
  | false =>
    rw [dumped, kind_of_not_isStatic hstatic, Dump.dump_dynamic_apply] at h
    exact absurd h (by simp [LocalHost.machine, LocalHost.refuse, Except.map])

/-- What is printed at the end of a dump: a caution if its process has failed, and the archive. -/
def endMessages (exit : Int) (archive : String) : List Message :=
  (if exit = 0 then []
    else [.marked .caution ("Dump process exited with status " ++ toString exit)]) ++
  [.marked .success ("Archive dump finished: " ++ archive)]

/-- The messages for the result of a dump. -/
lemma resultMessages_eq {r : DumpResult} {exit : Int} (h : r.exitCode = some exit) :
    resultMessages r = endMessages exit r.archive := by
  unfold resultMessages endMessages
  rw [h]
  by_cases hexit : exit = 0
  · subst hexit
    rfl
  · rw [if_neg hexit]
    split <;> simp_all

/-- A dump that is not stopped has launched a process and waited for its end. What that was is
printed right before the archive, which is the last thing that is printed. -/
lemma exists_child_of_realRun (hdry : o.dryRun = false) (h : (body ctx o w).result = .ok ()) :
    ∃ (c : Config) (s : Stage LocalWorld) (child : Child) (exit : Int) (texts : List String),
      ((settings ctx w.files o : Run LocalWorld Config) w).result = .ok c ∧ o.isStatic = true ∧
      AnswersAll (LocalHost.machine c (some ctx.version)) ctx.launcher ⟨w, none⟩
        (run ctx o w).trace.attempts s ∧
      s.child = some child ∧ child.exit = .ok exit ∧
      printed (run ctx o w) =
        texts.map .plain ++ endMessages exit (Dump.archiveOf c .static o.output) := by
  rcases settings_ends ctx w.files o w with ⟨c, hsettings⟩ | ⟨y, events, hsettings⟩
  · have hprinted := printed_of_body_eq_ok h
    rw [attempts_run]
    rw [body_of_realRun hsettings hdry] at h hprinted ⊢
    obtain ⟨texts, htexts⟩ := isPlain_dumped ctx c o w
    rw [perform_apply, Run.map_eq_ok_iff] at h
    obtain ⟨r, hr, -⟩ := h
    have hstatic := isStatic_of_dumped_eq_ok hr
    rw [messages_perform, htexts, hr] at hprinted
    rw [dumped, kind_of_isStatic hstatic] at hr
    obtain ⟨s, child, exit, hanswers, hchild, hexit, hcode⟩ := Dump.exists_child_of_dump_static hr
    refine ⟨c, s, child, exit, texts, by rw [hsettings], hstatic, ?_, hchild, hexit, ?_⟩
    · rw [attempts_perform, dumped, kind_of_isStatic hstatic]
      exact (answersAll_openingTrace _ c _ _).append hanswers
    · rw [hprinted, closingTrace, Trace.messages_map_message, resultMessages_eq hcode,
        Dump.archive_of_dump_static hr]
  · rw [body_of_no_settings hsettings] at h
    exact absurd h (by simp)

/-! ### The status -/

/-- A command asks for a status. -/
def AsksFor (e : Ended LocalWorld Exit) (code : Nat) : Prop :=
  ∃ exit : Exit, e.result = .ok exit ∧ exit.code? = some code

/-- How a command ends that was stopped by what a stage has raised. -/
structure IsStoppedBy (o : DumpOptions) (x : Raised) (e : Ended LocalWorld Exit) : Prop where
  asks_two_iff : AsksFor e 2 ↔ ∃ err, x = .failure (.system err)
  asks_one_iff : AsksFor e 1 ↔ (∃ err, x = .failure (.validation err)) ∨
    (∃ err, x = .failure (.domain err)) ∨ x = .failure .document
  /-- What asks for no status leaves the command as it is. -/
  escaped_iff : e.result = .ok (.escaped x) ↔ ¬ AsksFor e 1 ∧ ¬ AsksFor e 2
  /-- A status comes with one message that tells the reason, and with no other but plain texts. -/
  tells : ∀ code, AsksFor e code → ∃ (texts : List String) (text : String), Told o x code text ∧
    printed e = texts.map .plain ++ [.marked .failure text]

section

variable {x : Raised} (h : StageRaises ctx o w x)

include h

/-- A command that a stage has stopped tells of it, or is left by it. -/
lemma exists_exit_of_stageRaises :
    ∃ (exit : Exit) (texts : List String), (run ctx o w).result = .ok exit ∧
      ((∃ code text, Told o x code text ∧ exit.code? = some code ∧
        printed (run ctx o w) = texts.map .plain ++ [.marked .failure text]) ∨
      (∀ code text, ¬ Told o x code text) ∧ exit = .escaped x) := by
  have hbody := stageRaises_iff.mp h
  obtain ⟨texts, htexts⟩ := isPlain_of_body_eq_error hbody
  obtain ⟨hresult, -⟩ := run_of_error hbody
  rcases handle_cases o x w with ⟨exit, code, text, htold, hexit, hcode, htext⟩ | ⟨hnone, hhandle⟩
  · have hprinted := printed_of_body_eq_error hbody
    rw [htexts, htext] at hprinted
    exact ⟨exit, texts, hresult.trans hexit, .inl ⟨code, text, htold, hcode, hprinted⟩⟩
  · rw [hhandle] at hresult
    exact ⟨.escaped x, texts, hresult, .inr ⟨hnone, rfl⟩⟩

/-- A status is asked for exactly if the reason is told with it. -/
lemma asksFor_iff {code : Nat} : AsksFor (run ctx o w) code ↔ ∃ text, Told o x code text := by
  obtain ⟨exit, -, hresult, ⟨code', text, htold, hcode, -⟩ | ⟨hnone, rfl⟩⟩ :=
    exists_exit_of_stageRaises h
  · constructor
    · rintro ⟨exit', hexit', hcode'⟩
      obtain rfl := Except.ok.inj (hresult.symm.trans hexit')
      obtain rfl := Option.some.inj (hcode.symm.trans hcode')
      exact ⟨text, htold⟩
    · rintro ⟨text', htold'⟩
      obtain ⟨rfl, -⟩ := htold.unique htold'
      exact ⟨exit, hresult, hcode⟩
  · constructor
    · rintro ⟨exit', hexit', hcode'⟩
      obtain rfl := Except.ok.inj (hresult.symm.trans hexit')
      exact absurd hcode' (by simp [Exit.code?])
    · rintro ⟨text, htold⟩
      exact absurd htold (hnone code text)

/-- A reason that is not told is what leaves the command. -/
lemma escaped_iff_not_told :
    (run ctx o w).result = .ok (.escaped x) ↔ ∀ code text, ¬ Told o x code text := by
  obtain ⟨exit, -, hresult, ⟨code, text, htold, hcode, -⟩ | ⟨hnone, rfl⟩⟩ :=
    exists_exit_of_stageRaises h
  · constructor
    · intro hescaped
      obtain rfl := Except.ok.inj (hresult.symm.trans hescaped)
      exact absurd hcode (by simp [Exit.code?])
    · intro hnone
      exact absurd htold (hnone code text)
  · exact ⟨fun _ => hnone, fun _ => hresult⟩

/-- A command is stopped by what a stage has raised. -/
lemma isStoppedBy_of_stageRaises : IsStoppedBy o x (run ctx o w) where
  asks_two_iff := (asksFor_iff h).trans exists_told_two_iff
  asks_one_iff := (asksFor_iff h).trans exists_told_one_iff
  escaped_iff := by
    rw [escaped_iff_not_told h, asksFor_iff h, asksFor_iff h]
    constructor
    · intro hnone
      exact ⟨fun ⟨text, htold⟩ => hnone 1 text htold, fun ⟨text, htold⟩ => hnone 2 text htold⟩
    · rintro ⟨hone, htwo⟩ code text htold
      rcases htold.code_eq with rfl | rfl
      · exact hone ⟨text, htold⟩
      · exact htwo ⟨text, htold⟩
  tells := by
    intro code hcode
    obtain ⟨text, htold⟩ := (asksFor_iff h).mp hcode
    obtain ⟨exit, texts, -, ⟨code', text', htold', -, hprinted⟩ | ⟨hnone, -⟩⟩ :=
      exists_exit_of_stageRaises h
    · obtain ⟨rfl, rfl⟩ := htold'.unique htold
      exact ⟨texts, text', htold', hprinted⟩
    · exact absurd htold (hnone code text)

end

end DumpCommand

end ClassSharing
