import ClassSharing.LocalHost
import ClassSharing.Proofs.Archive.CallOrder

/-!
# Dumps on the stand-alone host

The stand-alone host copies a class list (`isCopyFailure_of_copyClassList` says why that may fail)
and always answers with the arguments of its settings. A static dump on it hence fails in the copy
or tries to launch one process, which the settings determine (`dump_static_cases`).
-/

namespace ClassSharing

namespace LocalHost

/-! ### Copying the class list -/

/-- The copy of a class list fails because none is set, because of the system, or because a name
holds a null character. -/
def IsCopyFailure (f : Failure) : Prop :=
  f = .domain (.configuration "class_list_source is required to dump a class list" none
    (some "class_list_source")) ∨ (∃ e, f = .system e) ∨ f = .embeddedNull

/-- Only the system makes it fail to find out whether something is there. -/
lemma isSystem_of_isThere {files : FileTree} {address : String} {f : Failure}
    (h : files.isThere address = .error f) : ∃ e, f = .system e := by
  unfold FileTree.isThere at h
  split at h
  · exact absurd h (by simp)
  · split at h
    · exact absurd h (by simp)
    · exact ⟨_, (Except.error.inj h).symm⟩
    · exact absurd h (by simp)

/-- A file is not copied because of the system, or because the target holds a null character. -/
lemma isCopyFailure_of_copy {files : FileTree} {source target : String} {f : Failure}
    (h : copy files source target = .error f) : IsCopyFailure f := by
  by_cases hnull : target.toList.contains '\x00' = true
  · simp only [copy, hnull, if_true] at h
    exact .inr (.inr (Except.error.inj h).symm)
  by_cases hsame : files.same source target = true
  · simp only [copy, hnull, hsame, if_true] at h
    exact .inr (.inl ⟨_, (Except.error.inj h).symm⟩)
  simp only [copy, hnull, hsame] at h
  cases hread : files.read source with
  | error fault =>
    rw [hread] at h
    exact .inr (.inl ⟨_, (Except.error.inj h).symm⟩)
  | ok bytes =>
    cases hwrite : files.write target bytes with
    | error fault =>
      simp only [hread, hwrite] at h
      exact .inr (.inl ⟨_, (Except.error.inj h).symm⟩)
    | ok files' =>
      simp only [hread, hwrite] at h
      exact absurd h (by simp [pure, Except.pure])

/-- Nothing else makes the copy of a class list fail. -/
lemma isCopyFailure_of_copyClassList {c : Config} {files : FileTree} {target : String} {f : Failure}
    (h : copyClassList c files target = .error f) : IsCopyFailure f := by
  cases hsource : c.classListSource with
  | none =>
    simp only [copyClassList, hsource] at h
    exact .inl (Except.error.inj h).symm
  | some source =>
    simp only [copyClassList, hsource] at h
    cases hthere : files.isThere source.text with
    | error g =>
      rw [hthere] at h
      obtain rfl : g = f := Except.error.inj h
      exact .inr (.inl (isSystem_of_isThere hthere))
    | ok isThere =>
      rw [hthere] at h
      cases isThere with
      | false => exact .inr (.inl ⟨_, (Except.error.inj h).symm⟩)
      | true =>
        cases hcopy : copy files source.text target with
        | error g =>
          rw [hcopy] at h
          obtain rfl : g = f := Except.error.inj h
          exact isCopyFailure_of_copy hcopy
        | ok files' =>
          rw [hcopy] at h
          exact absurd h (by simp [bind, Except.bind, pure, Except.pure])

end LocalHost

namespace Dump

/-! ### Static dumps -/

/-- The process of a static dump on the stand-alone host. -/
def hostProcess (c : Config) (name : Option String) (launcher : Path) : ProcessSpec :=
  staticDumpProcess launcher.text (classListOf c name) (archiveOf c .static name)
    (some (c.vmArguments.map some))

section

variable {c : Config} (version : Option String) (l : Launcher LocalWorld) (name : Option String)
  (w : LocalWorld)

/-- A static dump on the stand-alone host fails in the copy of the class list, or it tries to launch
its process. -/
lemma dump_static_cases {launcher : Path} (hlauncher : c.launcher = .ok launcher) :
    (∃ f, LocalHost.copyClassList c w.files (classListOf c name) = .error f ∧
      (dump (LocalHost.machine c version) l c .static name w).result = .error (.failure f) ∧
      (dump (LocalHost.machine c version) l c .static name w).trace.spawned = []) ∨
    (Call.query (.dumpClassList (classListOf c name)) ∈
        (dump (LocalHost.machine c version) l c .static name w).trace.calls ∧
      (dump (LocalHost.machine c version) l c .static name w).trace.spawned =
        [hostProcess c name launcher]) := by
  have hspec : ∀ arguments, (LocalHost.machine c version .arguments
      (LocalHost.machine c version (.dumpClassList (classListOf c name)) w).world).answer =
        .ok arguments → hostProcess c name launcher = staticDumpProcess launcher.text
          (classListOf c name) (archiveOf c .static name) arguments := by
    rintro _ ⟨rfl⟩
    rfl
  have hmakes := makes_dump_static (l := l) ⟨w, none⟩ name hlauncher hspec
  rcases hmakes.cases_query with ⟨x, hx, hresult, hcalls⟩ | ⟨-, e, -, -, hcalls, hmakes⟩
  · left
    cases hcopy : LocalHost.copyClassList c w.files (classListOf c name) with
    | ok p => exact absurd hx (by simp [LocalHost.machine, hcopy])
    | error f =>
      obtain rfl : .failure f = x := by simpa [LocalHost.machine, hcopy, LocalHost.refuse] using hx
      exact ⟨f, rfl, hresult, by rw [Trace.spawned, hcalls]; rfl⟩
  · right
    refine ⟨by rw [hcalls]; exact List.mem_cons_self, ?_⟩
    rcases hmakes.cases_query with ⟨x, hx, -⟩ | ⟨-, e', -, -, hcalls', hmakes⟩
    · exact absurd hx (by simp [LocalHost.machine, LocalHost.answer])
    · rw [Trace.spawned, hcalls, hcalls']
      exact spawned_of_makes hmakes

end

end Dump

end ClassSharing
