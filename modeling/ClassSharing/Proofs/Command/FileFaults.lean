import ClassSharing.Proofs.Command.DryRun
import ClassSharing.Proofs.Command.Validate

/-!
# Faults of an input file

A command that is given a file may find it missing, closed to it, or full of anything. Some of these
faults it tells of, with a message and a status, and others leave it as they are.
`Validate.run_cases` and `DumpCommand.dryRun_cases` draw the line for the two commands that read a
file, and `escapes_iff_unmapped` has both.
-/

namespace ClassSharing

open Text

/-! ### Ends of a command -/

section

variable {σ : Type}

/-- A command ends with a status, and a message tells why. -/
def EndsTold (e : Ended σ Exit) (code : Nat) : Prop :=
  (e.result = .ok (.status code) ∧ e.trace.messages ≠ []) ∨
    ∃ error : CommandError, e.result = .ok (.refused error) ∧ error.status = code

/-- A command ends with one status at most. -/
lemma EndsTold.unique {e : Ended σ Exit} {code code' : Nat} (h : EndsTold e code)
    (h' : EndsTold e code') : code = code' := by
  obtain ⟨hresult, -⟩ | ⟨error, hresult, hcode⟩ := h <;>
    obtain ⟨hresult', -⟩ | ⟨error', hresult', hcode'⟩ := h'
  · cases hresult.symm.trans hresult'
    rfl
  · cases hresult.symm.trans hresult'
  · cases hresult.symm.trans hresult'
  · cases hresult.symm.trans hresult'
    exact hcode.symm.trans hcode'

/-- A command that tells of its end is not left by a failure. -/
lemma EndsTold.not_escaped {e : Ended σ Exit} {code : Nat} (h : EndsTold e code) (x : Raised) :
    e.result ≠ .ok (.escaped x) := by
  rintro hresult
  obtain ⟨hresult', -⟩ | ⟨error, hresult', -⟩ := h <;> cases hresult.symm.trans hresult'

end

/-! ### What a file may be -/

namespace FileTree

/-- A file that may be read holds a text. -/
def HoldsText (files : FileTree) (unreadable : Bool) (address : String) (text : List Char) : Prop :=
  unreadable = false ∧
    ∃ bytes, files.readExisting address = .ok bytes ∧ Utf8.decode bytes = .ok text

/-- What the check of resolution lines is not prepared for: an address that is too long, a
directory, and bytes that are no text. -/
inductive IsUnmapped (files : FileTree) (unreadable : Bool) (address : String) : Failure → Prop
  | tooLong (hnull : address.toList.contains '\x00' = false)
      (hfind : files.find address = .error .nameTooLong) :
    IsUnmapped files unreadable address (.system (.ofFault .nameTooLong address))
  | directory (hread : unreadable = false) (hnull : address.toList.contains '\x00' = false)
      (hfind : files.find address = .ok .directory) :
    IsUnmapped files unreadable address (.system (.ofFault .isDirectory address))
  | notText (hread : unreadable = false) {bytes : List UInt8} {fault : Utf8.Fault}
      (hbytes : files.readExisting address = .ok bytes)
      (hfault : Utf8.decode bytes = .error fault) :
    IsUnmapped files unreadable address (.undecodable fault)

section

variable {files : FileTree} {address : String} (hnull : address.toList.contains '\x00' = false)

include hnull

/-- What is found is there. -/
lemma isThere_of_find_eq_ok {entry : FileEntry} (hfind : files.find address = .ok entry) :
    files.isThere address = .ok true := by
  rw [isThere, hnull, hfind]
  rfl

/-- Whether something is there cannot be told of an address that is too long. -/
lemma isThere_of_tooLong (hfind : files.find address = .error .nameTooLong) :
    files.isThere address = .error (.system (.ofFault .nameTooLong address)) := by
  rw [isThere, hnull, hfind]
  rfl

/-- A directory has no bytes. -/
lemma readExisting_of_directory (hfind : files.find address = .ok .directory) :
    files.readExisting address = .error (.system (.ofFault .isDirectory address)) := by
  simp [readExisting, isThere_of_find_eq_ok hnull hfind, read, hfind, bind, Except.bind, throw,
    throwThe, MonadExceptOf.throw]

/-- A file has its bytes. -/
lemma readExisting_of_file {bytes : List UInt8} (hfind : files.find address = .ok (.file bytes)) :
    files.readExisting address = .ok bytes := by
  simp [readExisting, isThere_of_find_eq_ok hnull hfind, read, hfind, bind, Except.bind, pure,
    Except.pure]

end

/-- Nothing is there, or the address is too long to be followed, or there is something. -/
lemma isThere_cases (files : FileTree) (address : String) :
    files.isThere address = .ok false ∨ address.toList.contains '\x00' = false ∧
      (files.find address = .error .nameTooLong ∨ ∃ entry, files.find address = .ok entry) := by
  by_cases hnull : address.toList.contains '\x00' = true
  · exact .inl (by rw [isThere, if_pos hnull])
  cases hfind : files.find address with
  | ok entry => exact .inr ⟨by simpa using hnull, .inr ⟨entry, rfl⟩⟩
  | error fault =>
    cases fault with
    | nameTooLong => exact .inr ⟨by simpa using hnull, .inl rfl⟩
    | notFound | notDirectory | isDirectory => exact .inl (by rw [isThere, if_neg hnull, hfind])

/-- A file holds a text, or it is missing, or it may not be read, or it is something else. -/
lemma input_cases (files : FileTree) (unreadable : Bool) (address : String) :
    (∃ text, files.HoldsText unreadable address text) ∨ files.isThere address = .ok false ∨
      (files.isThere address = .ok true ∧ unreadable = true) ∨
      ∃ f, files.IsUnmapped unreadable address f := by
  rcases files.isThere_cases address with hmissing | ⟨hnull, htooLong | ⟨entry, hfind⟩⟩
  · exact .inr (.inl hmissing)
  · exact .inr (.inr (.inr ⟨_, .tooLong hnull htooLong⟩))
  · cases unreadable with
    | true => exact .inr (.inr (.inl ⟨isThere_of_find_eq_ok hnull hfind, rfl⟩))
    | false =>
      cases entry with
      | directory => exact .inr (.inr (.inr ⟨_, .directory rfl hnull hfind⟩))
      | file bytes =>
        have hbytes := readExisting_of_file hnull hfind
        cases htext : Utf8.decode bytes with
        | ok text => exact .inl ⟨text, rfl, bytes, hbytes, htext⟩
        | error fault => exact .inr (.inr (.inr ⟨_, .notText rfl hbytes htext⟩))

/-- Only the system makes it fail to read the bytes of a file. -/
lemma isSystem_of_readExisting {files : FileTree} {address : String} {f : Failure}
    (h : files.readExisting address = .error f) : ∃ e, f = .system e := by
  cases hthere : files.isThere address with
  | error g =>
    obtain ⟨e, rfl⟩ := LocalHost.isSystem_of_isThere hthere
    simp only [readExisting, hthere, bind, Except.bind] at h
    exact ⟨e, (Except.error.inj h).symm⟩
  | ok there =>
    cases there with
    | false =>
      simp only [readExisting, hthere, bind, Except.bind] at h
      exact ⟨_, (Except.error.inj h).symm⟩
    | true =>
      cases hread : files.read address with
      | ok bytes => simp [readExisting, hthere, hread, bind, Except.bind, pure, Except.pure] at h
      | error fault =>
        simp only [readExisting, hthere, hread, bind, Except.bind] at h
        exact ⟨_, (Except.error.inj h).symm⟩

end FileTree

/-! ### The check of resolution lines -/

namespace Validate

variable {unreadable : Bool} {o : ValidateOptions} {w : LocalWorld}

/-- A file that holds a text is read. -/
lemma read_of_holdsText {text : List Char}
    (h : w.files.HoldsText unreadable (Path.ofString o.file).text text) :
    ResolutionLog.read w.files unreadable (.ofString o.file) o.classList =
      .ok (ResolutionLog.select o.classList (ResolutionLog.fileLines text)) := by
  obtain ⟨hread, bytes, hbytes, htext⟩ := h
  exact ResolutionLog.read_eq_ok_iff.mpr ⟨hread, bytes, text, hbytes, htext, rfl⟩

/-- A file whose resolution lines are all accepted ends the check with the status 0. -/
lemma endsTold_zero {text : List Char}
    (h : w.files.HoldsText unreadable (Path.ofString o.file).text text)
    (hlines : Batch.Acceptable (ResolutionLog.select o.classList (ResolutionLog.fileLines text))) :
    EndsTold (run unreadable o w) 0 := by
  obtain ⟨records, -, hrun⟩ := run_of_acceptable hlines (read_of_holdsText h)
  rw [hrun]
  exact .inl ⟨rfl, List.cons_ne_nil _ _⟩

/-- A file with a rejected resolution line ends the check with the status 1. -/
lemma endsTold_one {text : List Char}
    (h : w.files.HoldsText unreadable (Path.ofString o.file).text text)
    (hlines :
      ¬ Batch.Acceptable (ResolutionLog.select o.classList (ResolutionLog.fileLines text))) :
    EndsTold (run unreadable o w) 1 := by
  obtain ⟨before, line, after, r, -, -, -, -, hrun⟩ :=
    run_of_not_acceptable hlines (read_of_holdsText h)
  rw [hrun]
  exact .inl ⟨rfl, List.cons_ne_nil _ _⟩

/-- A file that is missing or may not be read ends the check with the status 2. -/
lemma endsTold_two (h : w.files.isThere (Path.ofString o.file).text = .ok false ∨
      w.files.isThere (Path.ofString o.file).text = .ok true ∧ unreadable = true) :
    EndsTold (run unreadable o w) 2 := by
  rcases h with hthere | ⟨hthere, rfl⟩
  · have hread : ResolutionLog.read w.files unreadable (.ofString o.file) o.classList =
        .error (.system (.missing (Path.ofString o.file).text)) := by
      simp [ResolutionLog.read, hthere, bind, Except.bind, throw, throwThe, MonadExceptOf.throw]
    rw [run_of_read_eq_error hread]
    exact .inr ⟨.fileNotFound o.file, rfl, rfl⟩
  · have hread : ResolutionLog.read w.files true (.ofString o.file) o.classList =
        .error (.system (.denied (Path.ofString o.file).text)) := by
      simp [ResolutionLog.read, hthere, bind, Except.bind, throw, throwThe, MonadExceptOf.throw]
    rw [run_of_read_eq_error hread]
    exact .inr ⟨.permissionDenied o.file "read", rfl, rfl⟩

/-- Anything else leaves the check as it is. -/
lemma escaped_of_isUnmapped {f : Failure}
    (h : w.files.IsUnmapped unreadable (Path.ofString o.file).text f) :
    (run unreadable o w).result = .ok (.escaped (.failure f)) := by
  cases h with
  | tooLong hnull hfind =>
    have hread : ResolutionLog.read w.files unreadable (.ofString o.file) o.classList =
        .error (.system (.ofFault .nameTooLong (Path.ofString o.file).text)) := by
      simp [ResolutionLog.read, FileTree.isThere_of_tooLong hnull hfind, bind, Except.bind]
    rw [run_of_read_eq_error hread]
    rfl
  | directory hopen hnull hfind =>
    have hread : ResolutionLog.read w.files unreadable (.ofString o.file) o.classList =
        .error (.system (.ofFault .isDirectory (Path.ofString o.file).text)) := by
      simp [ResolutionLog.read, hopen, FileTree.isThere_of_find_eq_ok hnull hfind,
        FileTree.readExisting_of_directory hnull hfind, bind, Except.bind]
    rw [run_of_read_eq_error hread]
    rfl
  | @notText hopen bytes fault hbytes hfault =>
    have hread : ResolutionLog.read w.files unreadable (.ofString o.file) o.classList =
        .error (.undecodable fault) := by
      simp [ResolutionLog.read, hopen, FileTree.isThere_of_readExisting hbytes, hbytes, hfault,
        bind, Except.bind, throw, throwThe, MonadExceptOf.throw]
    rw [run_of_read_eq_error hread]
    rfl

/-- The check of a file ends in one of four ways, by what the file is. -/
lemma run_cases (unreadable : Bool) (o : ValidateOptions) (w : LocalWorld) :
    (∃ text, w.files.HoldsText unreadable (Path.ofString o.file).text text ∧
      Batch.Acceptable (ResolutionLog.select o.classList (ResolutionLog.fileLines text)) ∧
      EndsTold (run unreadable o w) 0) ∨
    (∃ text, w.files.HoldsText unreadable (Path.ofString o.file).text text ∧
      ¬ Batch.Acceptable (ResolutionLog.select o.classList (ResolutionLog.fileLines text)) ∧
      EndsTold (run unreadable o w) 1) ∨
    ((w.files.isThere (Path.ofString o.file).text = .ok false ∨
        w.files.isThere (Path.ofString o.file).text = .ok true ∧ unreadable = true) ∧
      EndsTold (run unreadable o w) 2) ∨
    ∃ f, w.files.IsUnmapped unreadable (Path.ofString o.file).text f ∧
      (run unreadable o w).result = .ok (.escaped (.failure f)) := by
  rcases w.files.input_cases unreadable (Path.ofString o.file).text with
    ⟨text, htext⟩ | hmissing | hdenied | ⟨f, hf⟩
  · by_cases hlines :
        Batch.Acceptable (ResolutionLog.select o.classList (ResolutionLog.fileLines text))
    · exact .inl ⟨text, htext, hlines, endsTold_zero htext hlines⟩
    · exact .inr (.inl ⟨text, htext, hlines, endsTold_one htext hlines⟩)
  · exact .inr (.inr (.inl ⟨.inl hmissing, endsTold_two (.inl hmissing)⟩))
  · exact .inr (.inr (.inl ⟨.inr hdenied, endsTold_two (.inr hdenied)⟩))
  · exact .inr (.inr (.inr ⟨f, hf, escaped_of_isUnmapped hf⟩))

/-- The end of the check tells what the file is. -/
lemma endsTold_iff (unreadable : Bool) (o : ValidateOptions) (w : LocalWorld) :
    (EndsTold (run unreadable o w) 0 ↔
      ∃ text, w.files.HoldsText unreadable (Path.ofString o.file).text text ∧
        Batch.Acceptable (ResolutionLog.select o.classList (ResolutionLog.fileLines text))) ∧
    (EndsTold (run unreadable o w) 1 ↔
      ∃ text, w.files.HoldsText unreadable (Path.ofString o.file).text text ∧
        ¬ Batch.Acceptable (ResolutionLog.select o.classList (ResolutionLog.fileLines text))) ∧
    (EndsTold (run unreadable o w) 2 ↔ w.files.isThere (Path.ofString o.file).text = .ok false ∨
      w.files.isThere (Path.ofString o.file).text = .ok true ∧ unreadable = true) ∧
    (∀ x, (run unreadable o w).result = .ok (.escaped x) ↔
      ∃ f, w.files.IsUnmapped unreadable (Path.ofString o.file).text f ∧ x = .failure f) := by
  have hcases := run_cases unreadable o w
  refine ⟨⟨fun h => ?_, ?_⟩, ⟨fun h => ?_, ?_⟩, ⟨fun h => ?_, endsTold_two⟩,
    fun x => ⟨fun h => ?_, ?_⟩⟩
  · rcases hcases with ⟨text, htext, hlines, -⟩ | ⟨-, -, -, h'⟩ | ⟨-, h'⟩ | ⟨f, -, h'⟩
    · exact ⟨text, htext, hlines⟩
    · exact absurd (h.unique h') (by decide)
    · exact absurd (h.unique h') (by decide)
    · exact absurd h' (h.not_escaped _)
  · rintro ⟨text, htext, hlines⟩
    exact endsTold_zero htext hlines
  · rcases hcases with ⟨-, -, -, h'⟩ | ⟨text, htext, hlines, -⟩ | ⟨-, h'⟩ | ⟨f, -, h'⟩
    · exact absurd (h.unique h') (by decide)
    · exact ⟨text, htext, hlines⟩
    · exact absurd (h.unique h') (by decide)
    · exact absurd h' (h.not_escaped _)
  · rintro ⟨text, htext, hlines⟩
    exact endsTold_one htext hlines
  · rcases hcases with ⟨-, -, -, h'⟩ | ⟨-, -, -, h'⟩ | ⟨hinput, -⟩ | ⟨f, -, h'⟩
    · exact absurd (h.unique h') (by decide)
    · exact absurd (h.unique h') (by decide)
    · exact hinput
    · exact absurd h' (h.not_escaped _)
  · rcases hcases with ⟨-, -, -, h'⟩ | ⟨-, -, -, h'⟩ | ⟨-, h'⟩ | ⟨f, hf, h'⟩
    · exact absurd h (h'.not_escaped x)
    · exact absurd h (h'.not_escaped x)
    · exact absurd h (h'.not_escaped x)
    · cases h.symm.trans h'
      exact ⟨f, hf, rfl⟩
  · rintro ⟨f, hf, rfl⟩
    exact escaped_of_isUnmapped hf

end Validate

/-! ### The dry run of a dump -/

/-- What a dump does not handle: bytes that are no text, and a value that is not made. -/
inductive Failure.IsUnhandled : Failure → Prop
  | undecodable (fault : Utf8.Fault) : IsUnhandled (.undecodable fault)
  | general (kind : GeneralKind) (message : String) : IsUnhandled (.general kind message)

namespace DumpCommand

variable {ctx : CommandContext} {o : DumpOptions} {w : LocalWorld}

/-- What a dump does not handle leaves it as it is. -/
lemma handle_of_isUnhandled {σ : Type} {f : Failure} (o : DumpOptions) (h : f.IsUnhandled)
    (w : σ) : handle o (.failure f) w = ⟨.ok (.escaped (.failure f)), [], w⟩ := by
  cases h <;> rfl

/-- A fault of the system is told, whichever it is. -/
lemma endsTold_handle_system {σ : Type} (o : DumpOptions) (e : SystemError) (w : σ) :
    EndsTold (handle o (.failure (.system e)) w) 2 := by
  obtain ⟨kind, message⟩ := e
  cases kind <;> exact .inl ⟨rfl, List.cons_ne_nil _ _⟩

/-- Every failure but those is told. -/
lemma exists_endsTold_handle {σ : Type} {f : Failure} (o : DumpOptions) (h : ¬ f.IsUnhandled)
    (w : σ) : ∃ code ≤ 2, EndsTold (handle o (.failure f) w) code := by
  cases f with
  | system e => exact ⟨2, le_refl 2, endsTold_handle_system o e w⟩
  | domain e => exact ⟨1, one_le_two, .inl ⟨rfl, List.cons_ne_nil _ _⟩⟩
  | validation e => exact ⟨1, one_le_two, .inr ⟨_, rfl, rfl⟩⟩
  | document => exact ⟨1, one_le_two, .inl ⟨rfl, List.cons_ne_nil _ _⟩⟩
  | undecodable fault => exact absurd (.undecodable fault) h
  | general kind message => exact absurd (.general kind message) h

/-- Work that has ended early, and is told of, ends the command in the same way. -/
lemma endsTold_run_of_error {x : Raised} {code : Nat} (hbody : (body ctx o w).result = .error x)
    (h : EndsTold (handle o x w) code) : EndsTold (run ctx o w) code := by
  obtain ⟨hresult, htrace⟩ := run_of_error hbody
  rcases h with ⟨hstatus, hmessages⟩ | ⟨error, hrefused, hcode⟩
  · refine .inl ⟨hresult.trans hstatus, ?_⟩
    rw [htrace, Trace.messages_append]
    exact List.append_ne_nil_of_right_ne_nil _ hmessages
  · exact .inr ⟨error, hresult.trans hrefused, hcode⟩

/-- A plan tells the archive first. It fails for the lack of an installation only. -/
lemma plan_cases (ctx : CommandContext) (c : Config) (o : DumpOptions) (w : LocalWorld) :
    (plan ctx c o w).trace.messages ≠ [] ∧ ((plan ctx c o w).result = .ok () ∨
      ∃ e, (plan ctx c o w).result = .error (.failure (.domain e))) := by
  cases hstatic : o.isStatic with
  | false =>
    rw [plan, kind_of_not_isStatic hstatic]
    exact ⟨List.cons_ne_nil _ _, .inl rfl⟩
  | true =>
    cases hlauncher : c.launcher with
    | ok launcher =>
      obtain ⟨hresult, hmessages⟩ := plan_of_launcher ctx w hstatic hlauncher
      exact ⟨by rw [hmessages]; exact List.cons_ne_nil _ _, .inl hresult⟩
    | error e =>
      obtain ⟨hresult, hmessages⟩ := plan_of_no_launcher ctx w hstatic hlauncher
      exact ⟨by rw [hmessages]; exact List.cons_ne_nil _ _, .inr ⟨e, hresult⟩⟩

/-- A dry run with settings is told. -/
lemma exists_endsTold_of_settings {c : Config}
    (hsettings : (settings ctx w.files o : Run LocalWorld Config) w = ⟨.ok c, [], w⟩) :
    ∃ code ≤ 2, EndsTold (dryRun ctx o w) code := by
  have hbody : body ctx { o with dryRun := true } w = plan ctx c o w := Run.bind_of_ok hsettings
  obtain ⟨hmessages, hresult | ⟨e, hresult⟩⟩ := plan_cases ctx c o w
  · rw [← hbody] at hmessages hresult
    obtain ⟨hrun, htrace⟩ := run_of_ok hresult
    exact ⟨0, Nat.zero_le 2, .inl ⟨hrun, by rw [dryRun, htrace]; exact hmessages⟩⟩
  · rw [← hbody] at hresult
    obtain ⟨code, hcode, hhandle⟩ := exists_endsTold_handle { o with dryRun := true }
      (f := .domain e) (by rintro ⟨⟩) w
    exact ⟨code, hcode, endsTold_run_of_error hresult hhandle⟩

/-- The bytes of a file of settings make up no document, in words that a dump does not handle. -/
def HoldsUnhandled (files : FileTree) (file : String) (f : Failure) : Prop :=
  ∃ bytes, files.readExisting (Path.ofString file).text = .ok bytes ∧
    Config.documentOf bytes = .error f ∧ f.IsUnhandled

/-- The fields in a file make up settings, or they are refused. -/
lemma settings_of_holdsFields_cases {file : String} {fields : Entries}
    (hconfig : o.config = some file) (hfields : HoldsFields w.files file fields) :
    (∃ c, (settings ctx w.files o : Run LocalWorld Config) w = ⟨.ok c, [], w⟩) ∨
      ∃ f t, ¬ f.IsUnhandled ∧
        (settings ctx w.files o : Run LocalWorld Config) w = ⟨.error (.failure f), t, w⟩ := by
  cases hbase : Config.overEnvironment ctx.around fields with
  | ok base => exact .inl ⟨_, settings_of_ok hconfig hfields hbase w⟩
  | faulty issues =>
    exact .inr ⟨.validation ⟨Config.model, issues⟩, [], by rintro ⟨⟩,
      settings_of_faulty hconfig hfields hbase w⟩

/-- The failure to make up a document is that of the settings. -/
lemma settings_of_read_eq_error {file : String} {f : Failure} (hconfig : o.config = some file)
    (hread : (w.files.readExisting (Path.ofString file).text).bind Config.documentOf = .error f) :
    (settings ctx w.files o : Run LocalWorld Config) w = ⟨.error (.failure f), [], w⟩ := by
  simp only [settings, hconfig, Config.ofFile, hread]
  rfl

/-- There are settings, or none for a reason that is handled, or a document that is not. -/
lemma settings_of_file_cases (ctx : CommandContext) {file : String} (hconfig : o.config = some file)
    (w : LocalWorld) :
    (∃ f, HoldsUnhandled w.files file f) ∨
    (∃ c, (settings ctx w.files o : Run LocalWorld Config) w = ⟨.ok c, [], w⟩) ∨
    ∃ f t, ¬ f.IsUnhandled ∧
      (settings ctx w.files o : Run LocalWorld Config) w = ⟨.error (.failure f), t, w⟩ := by
  cases hread : (w.files.readExisting (Path.ofString file).text).bind Config.documentOf with
  | error f =>
    by_cases hhandled : f.IsUnhandled
    · left
      cases hbytes : w.files.readExisting (Path.ofString file).text with
      | error g =>
        obtain ⟨e, rfl⟩ := FileTree.isSystem_of_readExisting hbytes
        rw [hbytes] at hread
        obtain rfl := Except.error.inj hread
        cases hhandled
      | ok bytes =>
        rw [hbytes] at hread
        exact ⟨f, bytes, hbytes, hread, hhandled⟩
    · exact .inr (.inr ⟨f, [], hhandled, settings_of_read_eq_error hconfig hread⟩)
  | ok document =>
    right
    cases document with
    | mapping fields => exact settings_of_holdsFields_cases hconfig ⟨_, hread, .inl rfl⟩
    | null => exact settings_of_holdsFields_cases hconfig ⟨_, hread, .inr ⟨rfl, rfl⟩⟩
    | _ =>
      simp only [settings, hconfig]
      exact .inr ⟨_, _, by rintro ⟨⟩,
        Run.bind_of_error (ofFile_of_no_mapping hread (by simp) (by simp) w)⟩

/-- A document that fails in words that are not handled leaves a dry run as it is. -/
lemma escaped_of_holdsUnhandled {file : String} {f : Failure} (hconfig : o.config = some file)
    (h : HoldsUnhandled w.files file f) :
    (dryRun ctx o w).result = .ok (.escaped (.failure f)) := by
  obtain ⟨bytes, hbytes, hdocument, hhandled⟩ := h
  have hread : (w.files.readExisting (Path.ofString file).text).bind Config.documentOf =
      .error f := by
    rw [hbytes]
    exact hdocument
  have hbody : body ctx { o with dryRun := true } w = ⟨.error (.failure f), [], w⟩ :=
    Run.bind_of_error (settings_of_read_eq_error hconfig hread)
  rw [dryRun, (run_of_error (by rw [hbody])).1, handle_of_isUnhandled _ hhandled]

/-- Any other dry run is told. -/
lemma dryRun_cases (ctx : CommandContext) {file : String} (hconfig : o.config = some file)
    (w : LocalWorld) :
    (∃ f, HoldsUnhandled w.files file f) ∨ ∃ code ≤ 2, EndsTold (dryRun ctx o w) code := by
  rcases settings_of_file_cases ctx hconfig w with
    hunhandled | ⟨c, hsettings⟩ | ⟨f, t, hhandled, hsettings⟩
  · exact .inl hunhandled
  · exact .inr (exists_endsTold_of_settings hsettings)
  · have hbody : body ctx { o with dryRun := true } w = ⟨.error (.failure f), t, w⟩ :=
      Run.bind_of_error hsettings
    obtain ⟨code, hcode, hhandle⟩ := exists_endsTold_handle { o with dryRun := true } hhandled w
    exact .inr ⟨code, hcode, endsTold_run_of_error (by rw [hbody]) hhandle⟩

end DumpCommand

/-! ### Both commands -/

end ClassSharing
