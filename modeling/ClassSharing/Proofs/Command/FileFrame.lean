import ClassSharing.Proofs.Command.Stages
import ClassSharing.Proofs.FileTree

/-!
# The files of a dump

On the stand-alone host a dump writes one file, the class list of its archive, which is a copy of
the one in the settings (`IsCopied`). Everything else that the host does, and a launcher that
touches no file, leaves the files as they are (`files_of_answersAll`). `files_framed` says what a
dump and the command around it do to the files: all or nothing is copied, before a process is
launched, and nothing else changes.
-/

namespace ClassSharing

namespace LocalHost

/-! ### The copy of a class list -/

/-- A class list is a copy of the one in the settings, which stands elsewhere. -/
structure IsCopied (c : Config) (before after : FileTree) (list : String) (source : Path)
    (bytes : List UInt8) : Prop where
  source_eq : c.classListSource = some source
  read_source : before.read source.text = .ok bytes
  apart : ¬ before.SamePlace source.text list
  written : before.write list bytes = .ok after

/-- What prevents the copy of a class list. -/
inductive PreventsCopy (c : Config) (files : FileTree) (list : String) : Prop
  | noSource (h : c.classListSource = none)
  | sourceMissing {source : Path} (hsource : c.classListSource = some source)
      (h : ∀ entry, files.find source.text ≠ .ok entry)
  | sourceDirectory {source : Path} (hsource : c.classListSource = some source)
      (h : files.find source.text = .ok .directory)
  | targetDirectory (h : files.find list = .ok .directory)
  /-- The directory of the class list is missing, or it is a file. -/
  | noDirectory {directory name : String} (hlist : list = directory ++ "/" ++ name)
      (hdirectory : directory ≠ "") (hname : '/' ∉ name.toList) (hne : name ≠ "")
      (h : files.find directory ≠ .ok .directory)
  /-- The class list cannot be anywhere. -/
  | noPlace (h : ∀ p, files.place list ≠ .ok p)
  | sameFile {source : Path} (hsource : c.classListSource = some source)
      (h : files.SamePlace source.text list)

/-- A file that is copied is read, and written elsewhere. -/
lemma exists_of_copy_eq_ok {files files' : FileTree} {source target : String}
    (h : copy files source target = .ok files') :
    ∃ bytes, files.read source = .ok bytes ∧ ¬ files.SamePlace source target ∧
      files.write target bytes = .ok files' := by
  unfold copy at h
  obtain ⟨-, h⟩ := refuse_eq_ok_iff.mp h
  obtain ⟨hsame, h⟩ := refuse_eq_ok_iff.mp h
  split at h
  · exact absurd h (by simp)
  · rename_i bytes hread
    have hfind := FileTree.read_eq_ok_iff.mp hread
    have hapart : ¬ files.SamePlace source target :=
      fun hplace => hsame (FileTree.same_of_samePlace hplace hfind)
    split at h
    · rename_i written hwrite
      obtain rfl := Except.ok.inj h
      exact ⟨bytes, hread, hapart, hwrite⟩
    · exact absurd h (by simp)

/-- A class list that is copied is a copy of the one in the settings. -/
lemma exists_of_copyClassList_eq_ok {c : Config} {files files' : FileTree} {list name : String}
    (h : copyClassList c files list = .ok (name, files')) :
    ∃ source bytes, IsCopied c files files' list source bytes := by
  unfold copyClassList at h
  split at h
  · exact absurd h (by simp)
  · rename_i source hsource
    obtain ⟨_, -, h⟩ := bind_eq_ok_iff.mp h
    obtain ⟨-, h⟩ := refuse_eq_ok_iff.mp h
    obtain ⟨copied, hcopy, hpair⟩ := bind_eq_ok_iff.mp h
    obtain ⟨-, rfl⟩ := Prod.mk.inj (Except.ok.inj hpair)
    obtain ⟨bytes, hread, hapart, hwrite⟩ := exists_of_copy_eq_ok hcopy
    exact ⟨source, bytes, hsource, hread, hapart, hwrite⟩

section

variable {c : Config} {before after : FileTree} {list : String} {source : Path}
  {bytes : List UInt8} (h : IsCopied c before after list source bytes)

include h

/-- The copy has the bytes of the class list. -/
lemma IsCopied.read_list : after.read list = .ok bytes := by
  obtain ⟨names, hplace, hnames, rfl⟩ := FileTree.exists_of_write_eq_ok h.written
  exact FileTree.read_eq_ok_iff.mpr (FileTree.find_put_self hnames bytes hplace)

/-- Nothing but the copy changes. -/
lemma IsCopied.differsOnlyAt : before.DiffersOnlyAt after list := by
  obtain ⟨names, hplace, hnames, rfl⟩ := FileTree.exists_of_write_eq_ok h.written
  exact FileTree.differsOnlyAt_put hnames bytes hplace

/-- The class list in the settings is kept. -/
lemma IsCopied.read_source_after : after.read source.text = .ok bytes := by
  have hfind := FileTree.read_eq_ok_iff.mp h.read_source
  exact FileTree.read_eq_ok_iff.mpr ((h.differsOnlyAt _ h.apart _).mpr hfind)

/-- Nothing has prevented the copy. -/
lemma IsCopied.not_preventsCopy : ¬ PreventsCopy c before list := by
  obtain ⟨names, hplace, hnames, -⟩ := FileTree.exists_of_write_eq_ok h.written
  have hfind := FileTree.read_eq_ok_iff.mp h.read_source
  have hsource : ∀ other, c.classListSource = some other → other = source := fun other hother =>
    Option.some.inj (hother.symm.trans h.source_eq)
  intro hprevents
  cases hprevents with
  | noSource hnone => exact absurd (hnone.symm.trans h.source_eq) (by simp)
  | sourceMissing hother hmissing =>
    obtain rfl := hsource _ hother
    exact hmissing _ hfind
  | sourceDirectory hother hdirectory =>
    obtain rfl := hsource _ hother
    exact absurd (hdirectory.symm.trans hfind) (by simp)
  | targetDirectory hdirectory =>
    obtain ⟨p, hp, hentry⟩ := FileTree.find_eq_ok_iff.mp hdirectory
    obtain rfl := Except.ok.inj (hplace.symm.trans hp)
    exact hnames hentry
  | noDirectory hlist hdirectory hname hne hnone =>
    subst hlist
    exact hnone (FileTree.find_of_place_eq_ok hdirectory hname hne hplace)
  | noPlace hnone => exact hnone _ hplace
  | sameFile hother hsame =>
    obtain rfl := hsource _ hother
    exact h.apart hsame

end

/-! ### The host among its collaborators -/

section

variable {c : Config} {version : Option String} {list : String} {w : LocalWorld}

/-- The host fails to copy a class list and changes nothing, or it has copied it. -/
lemma dumpClassList_cases (c : Config) (version : Option String) (list : String)
    (w : LocalWorld) :
    (∃ f, (machine c version (.dumpClassList list) w).answer = .error (.failure f) ∧
      (machine c version (.dumpClassList list) w).world = w) ∨
    ∃ source bytes, (machine c version (.dumpClassList list) w).answer = .ok () ∧
      IsCopied c w.files (machine c version (.dumpClassList list) w).world.files list source
        bytes := by
  cases hcopy : copyClassList c w.files list with
  | error f =>
    left
    simp only [machine, hcopy]
    exact ⟨f, rfl, rfl⟩
  | ok p =>
    obtain ⟨name, files⟩ := p
    obtain ⟨source, bytes, hcopied⟩ := exists_of_copyClassList_eq_ok hcopy
    right
    simp only [machine, hcopy]
    exact ⟨source, bytes, trivial, hcopied⟩

/-- A prevented copy fails. -/
lemma exists_failure_of_preventsCopy (h : PreventsCopy c w.files list) :
    ∃ f, (machine c version (.dumpClassList list) w).answer = .error (.failure f) := by
  rcases dumpClassList_cases c version list w with ⟨f, hf, -⟩ | ⟨source, bytes, -, hcopied⟩
  · exact ⟨f, hf⟩
  · exact absurd h hcopied.not_preventsCopy

/-- A copy that was answered is one. -/
lemma exists_isCopied_of_answer_eq_ok {u : Unit}
    (h : (machine c version (.dumpClassList list) w).answer = .ok u) : ∃ source bytes,
      IsCopied c w.files (machine c version (.dumpClassList list) w).world.files list source
        bytes := by
  rcases dumpClassList_cases c version list w with ⟨f, hf, -⟩ | ⟨source, bytes, -, hcopied⟩
  · exact absurd (hf.symm.trans h) (by simp)
  · exact ⟨source, bytes, hcopied⟩

/-- A copy that has failed has changed nothing. -/
lemma world_of_dumpClassList_eq_error {x : Raised}
    (h : (machine c version (.dumpClassList list) w).answer = .error x) :
    (machine c version (.dumpClassList list) w).world = w := by
  rcases dumpClassList_cases c version list w with ⟨f, -, hworld⟩ | ⟨source, bytes, hok, -⟩
  · exact hworld
  · exact absurd (hok.symm.trans h) (by simp)

end

/-- A call by which no class list is copied. -/
def CopiesNothing (call : Call) : Prop := ∀ list, call ≠ .query (.dumpClassList list)

section

variable {c : Config} {version : Option String} {l : Launcher LocalWorld}
  (hl : ∀ spec w, (l spec w).world.files = w.files)

include hl

/-- With a launcher that touches no file, a call by which no class list is copied leaves the files
as they are. -/
lemma files_of_answers {s s' : Stage LocalWorld} {a : Attempt}
    (h : Answers (machine c version) l s a s') (ha : CopiesNothing a.call) :
    s'.world.files = s.world.files := by
  cases h with
  | query _ q =>
    cases q with
    | dumpClassList list => exact absurd rfl (ha list)
    | _ => rfl
  | spawn _ spec => exact hl spec s.world
  | written => rfl
  | exit => rfl

/-- So do any number of such calls. -/
lemma files_of_answersAll {s s' : Stage LocalWorld} {attempts : List Attempt}
    (h : AnswersAll (machine c version) l s attempts s')
    (hattempts : ∀ a ∈ attempts, CopiesNothing a.call) : s'.world.files = s.world.files := by
  induction h with
  | nil => rfl
  | cons hfirst _ ih =>
    have hrest := ih fun a ha => hattempts a (List.mem_cons_of_mem _ ha)
    exact hrest.trans (files_of_answers hl hfirst (hattempts _ List.mem_cons_self))

/-- When a process is launched behind the copy of a class list, the files are as the copy has left
them. -/
lemma exists_stage_of_launched {list : String} {w : LocalWorld} {u : Unit} {s' : Stage LocalWorld}
    {others before after : List Attempt} {spec : ProcessSpec} {streams : Streams}
    {x : Option Raised} (hok : (machine c version (.dumpClassList list) w).answer = .ok u)
    (h : AnswersAll (machine c version) l
      ⟨(machine c version (.dumpClassList list) w).world, none⟩ others s')
    (hothers : ∀ a ∈ others, CopiesNothing a.call)
    (hsplit : .answered (.query (.dumpClassList list)) :: others =
      before ++ ⟨.spawn spec streams, x⟩ :: after) :
    ∃ s, AnswersAll (machine c version) l ⟨w, none⟩ before s ∧
      s.world.files = (machine c version (.dumpClassList list) w).world.files := by
  cases before with
  | nil => exact absurd (List.cons.inj hsplit).1 (by simp [Attempt.answered])
  | cons first before =>
    obtain ⟨rfl, hrest⟩ := List.cons.inj hsplit
    subst hrest
    obtain ⟨s, hbefore, -⟩ := h.of_append
    have hkept := files_of_answersAll hl hbefore fun a ha => hothers a (List.mem_append_left _ ha)
    have hfirst := Answers.query (m := machine c version) (l := l) ⟨w, none⟩ (.dumpClassList list)
    rw [Reply.raised?_eq_none_iff.mpr ⟨u, hok⟩] at hfirst
    exact ⟨s, .cons hfirst hbefore, hkept⟩

end

end LocalHost

/-! ### Frames -/

/-- What a run does to the files that may copy a class list and then launches processes. -/
structure IsFramed {α : Type} (c : Config) (version : Option String) (l : Launcher LocalWorld)
    (list : String) (w : LocalWorld) (e : Ended LocalWorld α) : Prop where
  /-- One file changes at most. -/
  others : w.files.DiffersOnlyAt e.world.files list
  /-- The class list in the settings is kept, wherever it stands. -/
  source_kept : ∀ source bytes, c.classListSource = some source →
    w.files.read source.text = .ok bytes → e.world.files.read source.text = .ok bytes
  /-- All is copied, or nothing is. -/
  copied : e.world.files = w.files ∨ ∃ source bytes, c.classListSource = some source ∧
    w.files.read source.text = .ok bytes ∧ e.world.files.read list = .ok bytes
  /-- If the class list is not copied, nothing changes. -/
  refused : ∀ x, (LocalHost.machine c version (.dumpClassList list) w).answer = .error x →
    e.world = w
  /-- When a process is launched, the class list is a copy of the one in the settings, as this was
  at the start. -/
  launched : ∀ before after spec streams x,
    e.trace.attempts = before ++ ⟨.spawn spec streams, x⟩ :: after →
      ∃ s source bytes, AnswersAll (LocalHost.machine c version) l ⟨w, none⟩ before s ∧
        c.classListSource = some source ∧ w.files.read source.text = .ok bytes ∧
        s.world.files.read list = .ok bytes

section

variable {α : Type} {c : Config} {version : Option String} {l : Launcher LocalWorld}
  {list : String} {w : LocalWorld} {e : Ended LocalWorld α}

/-- Among attempted calls, those that launch a process are seen. -/
lemma mem_spawned_of_attempts_eq {t : Trace} {before after : List Attempt} {spec : ProcessSpec}
    {streams : Streams} {x : Option Raised}
    (h : t.attempts = before ++ ⟨.spawn spec streams, x⟩ :: after) : spec ∈ t.spawned := by
  rw [Trace.spawned, Trace.calls_eq_map_attempts, h]
  refine List.mem_filterMap.mpr ⟨.spawn spec streams, ?_, rfl⟩
  simp

/-- A run that changes nothing and launches nothing. -/
lemma isFramed_of_unchanged (hworld : e.world = w) (hspawned : e.trace.spawned = []) :
    IsFramed c version l list w e where
  others := by
    rw [hworld]
    exact FileTree.differsOnlyAt_self _ _
  source_kept := by
    rw [hworld]
    exact fun _ _ _ hread => hread
  copied := .inl (by rw [hworld])
  refused := fun _ _ => hworld
  launched := by
    intro before after spec streams x hattempts
    have hspec := mem_spawned_of_attempts_eq hattempts
    rw [hspawned] at hspec
    exact absurd hspec List.not_mem_nil

/-- Calls in front of a run, which change nothing and launch nothing, do not matter. -/
lemma IsFramed.behind {β : Type} {e' : Ended LocalWorld β} {front : List Attempt}
    (h : IsFramed c version l list w e)
    (hfront : AnswersAll (LocalHost.machine c version) l ⟨w, none⟩ front ⟨w, none⟩)
    (hspawned : ∀ a ∈ front, a.call.spawned? = none) (hworld : e'.world = e.world)
    (hattempts : e'.trace.attempts = front ++ e.trace.attempts) :
    IsFramed c version l list w e' where
  others := by
    rw [hworld]
    exact h.others
  source_kept := by
    rw [hworld]
    exact h.source_kept
  copied := by
    rw [hworld]
    exact h.copied
  refused := by
    rw [hworld]
    exact h.refused
  launched := by
    intro before after spec streams x hsplit
    rw [hattempts] at hsplit
    rcases List.append_eq_append_iff.mp hsplit with ⟨rest, rfl, hrest⟩ | ⟨rest, rfl, hrest⟩
    · obtain ⟨s, source, bytes, hanswers, hcopied⟩ := h.launched rest after spec streams x hrest
      exact ⟨s, source, bytes, hfront.append hanswers, hcopied⟩
    · cases rest with
      | nil =>
        obtain ⟨s, source, bytes, hanswers, hcopied⟩ :=
          h.launched [] after spec streams x hrest.symm
        rw [List.append_nil] at hfront
        exact ⟨s, source, bytes, by simpa using hfront.append hanswers, hcopied⟩
      | cons a rest =>
        obtain ⟨rfl, -⟩ := List.cons.inj hrest
        have hnone := hspawned _ (List.mem_append_right before List.mem_cons_self)
        exact absurd hnone (by simp [Call.spawned?])

/-- A run that asks for a copy of the class list first, and for no other. -/
lemma isFramed_of_makes (hl : ∀ spec w, (l spec w).world.files = w.files) {calls : List Call}
    {holds : Except Raised α → Stage LocalWorld → Prop}
    (hcalls : ∀ call ∈ calls, LocalHost.CopiesNothing call)
    (h : Makes (LocalHost.machine c version) l (.query (.dumpClassList list) :: calls) ⟨w, none⟩ e
      holds) : IsFramed c version l list w e := by
  rcases h.cases_attempts with ⟨x, hx, -, hattempts, hworld⟩ |
    ⟨_, e', hok, -, hworld, hattempts, hrest⟩
  · refine isFramed_of_unchanged ?_ ?_
    · exact hworld.trans (LocalHost.world_of_dumpClassList_eq_error hx)
    · rw [Trace.spawned, Trace.calls_eq_map_attempts, hattempts]
      rfl
  · obtain ⟨source, bytes, hcopied⟩ := LocalHost.exists_isCopied_of_answer_eq_ok hok
    have hmade := hrest.calls_prefix
    obtain ⟨s', hanswers, hend, -⟩ := hrest
    have hnone : ∀ a ∈ e'.trace.attempts, LocalHost.CopiesNothing a.call := by
      intro a ha
      refine hcalls _ (hmade.subset ?_)
      rw [Trace.calls_eq_map_attempts]
      exact List.mem_map_of_mem ha
    have hfiles : e.world.files =
        (LocalHost.machine c version (.dumpClassList list) w).world.files := by
      rw [← hworld, hend]
      exact LocalHost.files_of_answersAll hl hanswers hnone
    refine ⟨?_, ?_, ?_, ?_, ?_⟩
    · rw [hfiles]
      exact hcopied.differsOnlyAt
    · intro other bytes' hother hread
      obtain rfl := Option.some.inj (hcopied.source_eq.symm.trans hother)
      obtain rfl := Except.ok.inj (hcopied.read_source.symm.trans hread)
      rw [hfiles]
      exact hcopied.read_source_after
    · rw [hfiles]
      exact .inr ⟨source, bytes, hcopied.source_eq, hcopied.read_source, hcopied.read_list⟩
    · intro x hx
      exact absurd (hok.symm.trans hx) (by simp)
    · intro before after spec streams x hsplit
      rw [hattempts] at hsplit
      obtain ⟨s, hbefore, hkept⟩ :=
        LocalHost.exists_stage_of_launched hl hok hanswers hnone hsplit
      refine ⟨s, source, bytes, hbefore, hcopied.source_eq, hcopied.read_source, ?_⟩
      rw [hkept]
      exact hcopied.read_list

end

/-! ### Dumps -/

namespace Dump

/-- The calls of a static dump behind that for the class list copy nothing. -/
lemma copiesNothing_of_mem {spec : ProcessSpec} {debug : Bool} {call : Call}
    (h : call ∈ .query .arguments :: processCalls spec debug) : LocalHost.CopiesNothing call := by
  intro list hcall
  subst hcall
  cases debug <;> simp [processCalls] at h

section

variable {l : Launcher LocalWorld} (hl : ∀ spec w, (l spec w).world.files = w.files)
  (c : Config) (version : Option String) (name : Option String) (w : LocalWorld)

include hl

/-- A static dump writes its class list only. -/
lemma isFramed_dump_static : IsFramed c version l (classListOf c name) w
    (dump (LocalHost.machine c version) l c .static name w) := by
  cases hlauncher : c.launcher with
  | error e =>
    have hmakes := makes_dump_static_of_no_launcher (m := LocalHost.machine c version) (l := l)
      ⟨w, none⟩ name hlauncher
    exact isFramed_of_makes hl (fun call hcall => absurd hcall List.not_mem_nil) hmakes
  | ok launcher =>
    obtain ⟨spec, hmakes⟩ := exists_makes_dump_static (m := LocalHost.machine c version) (l := l)
      ⟨w, none⟩ name hlauncher
    exact isFramed_of_makes hl (fun call => copiesNothing_of_mem) hmakes

omit hl in
/-- A dynamic dump changes nothing. -/
lemma world_dump_dynamic : (dump (LocalHost.machine c version) l c .dynamic name w).world = w := by
  rw [dump_dynamic_apply]
  rfl

end

end Dump

/-! ### The command -/

namespace DumpCommand

variable {ctx : CommandContext} {o : DumpOptions} {w : LocalWorld} {c : Config}

/-- A command leaves the world that its work does. -/
lemma world_run (ctx : CommandContext) (o : DumpOptions) (w : LocalWorld) :
    (run ctx o w).world = (body ctx o w).world := by
  have houtcome := Run.outcome_apply (body ctx o) w
  cases hbody : (body ctx o w).result with
  | ok a =>
    rw [hbody] at houtcome
    rw [run, Run.bind_of_ok houtcome]
    rfl
  | error x =>
    obtain ⟨exit, messages, -, hhandle⟩ := exists_handle_eq o x
    rw [hbody] at houtcome
    rw [run, Run.bind_of_ok houtcome]
    simp only [hhandle]

/-- A dry run changes nothing. -/
lemma world_body_of_dryRun (hdry : o.dryRun = true) : (body ctx o w).world = w := by
  rcases settings_ends ctx w.files o w with ⟨c, hsettings⟩ | ⟨x, events, hsettings⟩
  · obtain ⟨hworld, -⟩ := plan_spec ctx c o w
    rw [body_of_dryRun hsettings hdry]
    exact hworld
  · rw [body_of_no_settings hsettings]

/-- A dynamic dump changes nothing. -/
lemma world_dumped_of_dynamic (hdynamic : o.isStatic = false) : (dumped ctx c o w).world = w := by
  rw [dumped, kind_of_not_isStatic hdynamic]
  exact Dump.world_dump_dynamic c _ o.output w

/-- With settings, the work of a command writes the class list of its archive only. -/
lemma isFramed_body (hl : ∀ spec w, (ctx.launcher spec w).world.files = w.files)
    (hsettings : (settings ctx w.files o : Run LocalWorld Config) w = ⟨.ok c, [], w⟩) :
    IsFramed c (some ctx.version) ctx.launcher (Dump.classListOf c o.output) w (body ctx o w) := by
  cases hdry : o.dryRun with
  | true =>
    obtain ⟨hworld, hspawned, -⟩ := plan_spec ctx c o w
    rw [body_of_dryRun hsettings hdry]
    exact isFramed_of_unchanged hworld hspawned
  | false =>
    have hdumped : IsFramed c (some ctx.version) ctx.launcher (Dump.classListOf c o.output) w
        (dumped ctx c o w) := by
      cases hstatic : o.isStatic with
      | true =>
        rw [dumped, kind_of_isStatic hstatic]
        exact Dump.isFramed_dump_static hl c _ o.output w
      | false =>
        refine isFramed_of_unchanged (world_dumped_of_dynamic hstatic) ?_
        rw [dumped, kind_of_not_isStatic hstatic]
        exact Dump.spawned_dump_dynamic _ _ c o.output w
    have hworld : (perform ctx c o w).world = (dumped ctx c o w).world := by
      rw [perform_apply]
    have hopening : ∀ a ∈ (openingTrace c).attempts, a.call.spawned? = none := by
      simp [openingTrace, Trace.attempts, Call.spawned?]
    rw [body_of_realRun hsettings hdry]
    exact hdumped.behind (answersAll_openingTrace _ c _ _) hopening hworld
      (attempts_perform ctx c o w)

/-- A command that does not perform a static dump changes nothing. -/
lemma world_run_of_no_static (h : o.isStatic = false ∨ o.dryRun = true ∨
      ∃ x, ((settings ctx w.files o : Run LocalWorld Config) w).result = .error x) :
    (run ctx o w).world = w := by
  rw [world_run]
  cases hdry : o.dryRun with
  | true => exact world_body_of_dryRun hdry
  | false =>
    rcases settings_ends ctx w.files o w with ⟨c, hsettings⟩ | ⟨x, events, hsettings⟩
    · have hdynamic : o.isStatic = false := by
        rw [hdry, hsettings] at h
        simpa using h
      rw [body_of_realRun hsettings hdry, perform_apply]
      exact world_dumped_of_dynamic hdynamic
    · rw [body_of_no_settings hsettings]

end DumpCommand

/-- What a dump on the stand-alone host does to the files, with a launcher that touches none. A
static dump writes the class list of its archive at most. If this cannot be copied, for whatever
reason, nothing at all changes; if a process is launched, the copy has been made before, of what was
there at the start. A dynamic dump changes nothing. So it is with the command around a dump: under
its settings it writes the class list of its archive at most, and it changes nothing without
settings, on a dry run, and for a dynamic archive. -/
theorem files_framed (ctx : CommandContext)
    (hl : ∀ spec w, (ctx.launcher spec w).world.files = w.files) (c : Config)
    (version : Option String) (name : Option String) (o : DumpOptions) (w : LocalWorld) :
    (∀ list, LocalHost.PreventsCopy c w.files list →
      ∃ f, (LocalHost.machine c version (.dumpClassList list) w).answer = .error (.failure f)) ∧
    IsFramed c version ctx.launcher (Dump.classListOf c name) w
      (Dump.dump (LocalHost.machine c version) ctx.launcher c .static name w) ∧
    (Dump.dump (LocalHost.machine c version) ctx.launcher c .dynamic name w).world = w ∧
    (∀ c', ((DumpCommand.settings ctx w.files o : Run LocalWorld Config) w).result = .ok c' →
      IsFramed c' (some ctx.version) ctx.launcher (Dump.classListOf c' o.output) w
        (DumpCommand.run ctx o w)) ∧
    (o.isStatic = false ∨ o.dryRun = true ∨
      (∃ x, ((DumpCommand.settings ctx w.files o : Run LocalWorld Config) w).result = .error x) →
        (DumpCommand.run ctx o w).world = w) := by
  refine ⟨fun list h => LocalHost.exists_failure_of_preventsCopy h,
    Dump.isFramed_dump_static hl c version name w, Dump.world_dump_dynamic c version name w, ?_,
    DumpCommand.world_run_of_no_static⟩
  intro c' hc'
  rcases DumpCommand.settings_ends ctx w.files o w with
    ⟨c, hsettings⟩ | ⟨x, events, hsettings⟩
  · rw [hsettings] at hc'
    obtain rfl := Except.ok.inj hc'
    exact (DumpCommand.isFramed_body hl hsettings).behind (.nil _) (by simp)
      (DumpCommand.world_run ctx o w) (DumpCommand.attempts_run ctx o w)
  · exact absurd hc' (by rw [hsettings]; simp)

/-- A dump that copies its class list leaves two other files as they are. -/
theorem files_framed_of_app :
    ∃ (l : Launcher LocalWorld) (c : Config) (w : LocalWorld),
      (∀ spec w, (l spec w).world.files = w.files) ∧
      w.files.read "list" = .ok [65] ∧ w.files.read "other" = .ok [66] ∧
      w.files.read "app.jsa.classlist" = .error .notFound ∧
      let after := (Dump.dump (LocalHost.machine c none) l c .static (some "app.jsa") w).world.files
      after.read "app.jsa.classlist" = .ok [65] ∧ after.read "list" = .ok [65] ∧
        ∀ entry, after.find "other" = .ok entry ↔ entry = .file [66] := by
  let l : Launcher LocalWorld := fun _ w => ⟨.ok ⟨1, .ok (none, none), .ok 0⟩, [], w⟩
  let c : Config :=
    ⟨false, some (.ofString "/opt/jdk"), 1, [], some (.ofString "list"), false, false, false⟩
  let o : DumpOptions := ⟨true, none, none, none, none, [], false, false⟩
  let w : LocalWorld := ⟨⟨[(["list"], .file [65]), (["other"], .file [66])]⟩, []⟩
  have hl : ∀ spec w, (l spec w).world.files = w.files := fun _ _ => rfl
  obtain ⟨-, hframed, -⟩ := files_framed ⟨⟨[], 1⟩, "1", false, l⟩ hl c none (some "app.jsa") o w
  have hsource : (Path.ofString "list").text = "list" := by decide +kernel
  have hlist : Dump.classListOf c (some "app.jsa") = "app.jsa.classlist" := by decide +kernel
  have hapart : ¬ w.files.SamePlace "other" "app.jsa.classlist" := by
    rintro ⟨p, hother, hplace⟩
    have hother' : w.files.place "other" = .ok (.inside ["other"]) := by decide +kernel
    have hplace' : w.files.place "app.jsa.classlist" = .ok (.inside ["app.jsa.classlist"]) := by
      decide +kernel
    rw [← Except.ok.inj (hother'.symm.trans hother)] at hplace
    exact absurd (hplace'.symm.trans hplace) (by simp)
  have hfind : w.files.find "other" = .ok (.file [66]) := by decide +kernel
  rw [hlist] at hframed
  refine ⟨l, c, w, hl, by decide +kernel, by decide +kernel, by decide +kernel, by decide +kernel,
    ?_, fun entry => ?_⟩
  · have hkept := hframed.source_kept (.ofString "list") [65] rfl
    rw [hsource] at hkept
    exact hkept (by decide +kernel)
  · rw [hframed.others "other" hapart entry, hfind]
    simp [eq_comm]

end ClassSharing
