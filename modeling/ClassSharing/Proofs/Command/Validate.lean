import ClassSharing.Command.Validate
import ClassSharing.Proofs.Resolution.Batch
import ClassSharing.Proofs.Resolution.LogFile

/-!
# Reports on the lines of a file

The command reads a file, picks the resolution lines out of its lines, and reports on these.
`run_of_read_eq_ok` and `run_of_read_eq_error` cut the command in two, `report_of_map_eq` and
`report_append_cons` give the two reports. A report numbers the lines that were picked:
`reported_number_counts_selected` says which line of the file it is about, and when its number is
the number of that line in the file.
-/

namespace ClassSharing

open Text

namespace Validate

variable {σ : Type}

/-! ### Reports -/

/-- The report of a batch whose lines are read as some records. -/
lemma report_of_map_eq {lines : List String} {records : List Record}
    (h : lines.map Record.parse = records.map .ok) (format : ReportFormat) (w : σ) :
    report format lines w = ⟨.ok (.status 0),
      [.event (Batch.acceptedEvent records.length),
        .message (acceptedReport format (.of records))], w⟩ := by
  rw [report, Run.bind_of_ok (Batch.judge_eq_of_map_eq h w)]
  rfl

/-- The report of a batch with a rejected line. -/
lemma report_append_cons {before : List String} {line : String} {r : Rejection}
    (hbefore : Batch.Acceptable before) (hline : Record.parse line = .error (.rejected r))
    (after : List String) (format : ReportFormat) (w : σ) :
    report format (before ++ line :: after) w = ⟨.ok (.status 1),
      [.event (Batch.rejectedEvent (r.atLine (before.length + 1))),
        .message (rejectedReport format (r.atLine (before.length + 1)))], w⟩ := by
  rw [report, Run.bind_of_ok (Batch.judge_append_cons hbefore hline after w)]
  rfl

/-- The command on a file that is read. -/
lemma run_of_read_eq_ok {unreadable : Bool} {o : ValidateOptions} {w : LocalWorld}
    {lines : List String}
    (h : ResolutionLog.read w.files unreadable (.ofString o.file) o.classList = .ok lines) :
    run unreadable o w = report o.format lines w := by
  rw [run, h]

/-- The command on a file that is not read. -/
lemma run_of_read_eq_error {unreadable : Bool} {o : ValidateOptions} {w : LocalWorld} {f : Failure}
    (h : ResolutionLog.read w.files unreadable (.ofString o.file) o.classList = .error f) :
    run unreadable o w = ⟨.ok (unreadExit o.file f), [], w⟩ := by
  rw [run, h]

/-- The command on a file whose resolution lines are read as some records. -/
lemma run_of_map_eq {unreadable : Bool} {o : ValidateOptions} {w : LocalWorld}
    {lines : List String} {records : List Record}
    (hrecords : lines.map Record.parse = records.map .ok)
    (h : ResolutionLog.read w.files unreadable (.ofString o.file) o.classList = .ok lines) :
    run unreadable o w = ⟨.ok (.status 0),
      [.event (Batch.acceptedEvent records.length),
        .message (acceptedReport o.format (.of records))], w⟩ :=
  (run_of_read_eq_ok h).trans (report_of_map_eq hrecords _ w)

/-- The command on a file whose resolution lines are all accepted. -/
lemma run_of_acceptable {unreadable : Bool} {o : ValidateOptions} {w : LocalWorld}
    {lines : List String} (hlines : Batch.Acceptable lines)
    (h : ResolutionLog.read w.files unreadable (.ofString o.file) o.classList = .ok lines) :
    ∃ records : List Record, lines.map Record.parse = records.map .ok ∧
      run unreadable o w = ⟨.ok (.status 0),
        [.event (Batch.acceptedEvent records.length),
          .message (acceptedReport o.format (.of records))], w⟩ := by
  obtain ⟨records, hrecords⟩ := Batch.acceptable_iff.mp hlines
  exact ⟨records, hrecords, run_of_map_eq hrecords h⟩

/-- What is reported of a rejected line: a number, the reason, and the line. -/
def lineReport (format : ReportFormat) (number : Nat) (r : Rejection) : Message :=
  match format with
  | .json => .json (.obj [("valid", .bool false), ("line_number", .int number),
      ("reason", .str r.reason.text), ("line", .str r.line)])
  | .table =>
    .marked .failure (r.message ++ " (line " ++ toString number ++ ")" ++ "\n  " ++ r.line)

/-- The report of a rejected line in a batch. -/
lemma rejectedReport_atLine {r : Rejection} (h : r.number = none) (format : ReportFormat)
    (n : Nat) : rejectedReport format (r.atLine n) = lineReport format n r := by
  cases format with
  | json => rfl
  | table =>
    rw [rejectedReport, Rejection.description, Rejection.message_atLine h]
    rfl

/-- The command on a file with a rejected resolution line behind accepted ones. -/
lemma run_append_cons {unreadable : Bool} {o : ValidateOptions} {w : LocalWorld}
    {before after : List String} {line : String} {r : Rejection} (hbefore : Batch.Acceptable before)
    (hline : Record.parse line = .error (.rejected r)) (hnumber : r.number = none)
    (h : ResolutionLog.read w.files unreadable (.ofString o.file) o.classList =
      .ok (before ++ line :: after)) :
    run unreadable o w = ⟨.ok (.status 1),
      [.event (Batch.rejectedEvent (r.atLine (before.length + 1))),
        .message (lineReport o.format (before.length + 1) r)], w⟩ := by
  rw [run_of_read_eq_ok h, report_append_cons hbefore hline, rejectedReport_atLine hnumber]

/-- The command on a file with a rejected resolution line. -/
lemma run_of_not_acceptable {unreadable : Bool} {o : ValidateOptions} {w : LocalWorld}
    {lines : List String} (hlines : ¬ Batch.Acceptable lines)
    (h : ResolutionLog.read w.files unreadable (.ofString o.file) o.classList = .ok lines) :
    ∃ before line after r, lines = before ++ line :: after ∧ Batch.Acceptable before ∧
      Record.parse line = .error (.rejected r) ∧ r.line = line ∧
      run unreadable o w = ⟨.ok (.status 1),
        [.event (Batch.rejectedEvent (r.atLine (before.length + 1))),
          .message (lineReport o.format (before.length + 1) r)], w⟩ := by
  obtain ⟨before, line, after, r, rfl, hbefore, hline, hraw, hnumber⟩ :=
    Batch.exists_first_rejected hlines
  exact ⟨before, line, after, r, rfl, hbefore, hline, hraw, run_append_cons hbefore hline hnumber h⟩

/-! ### The reported position -/

open ResolutionLog

/-- A rejected line does not stand among lines whose resolution lines are all accepted. -/
lemma not_mem_of_acceptable_select {classList : Bool} {front : List String} {line : String}
    {r : Rejection} (hfront : Batch.Acceptable (select classList front))
    (hline : Record.parse line = .error (.rejected r))
    (hselected : selected? classList (written classList line) = some line) :
    written classList line ∉ front := by
  intro hmem
  rw [select_eq_filterMap] at hfront
  obtain ⟨record, hrecord⟩ := hfront line (List.mem_filterMap.mpr ⟨_, hmem, hselected⟩)
  exact absurd (hline.symm.trans hrecord) (by simp)

/-- Among the lines of a file, the place that counts the selected lines in front of a rejected line
is the place of this line exactly if all lines in front are selected. -/
lemma getElem?_length_select_iff {classList : Bool} {front rest : List String} {line : String}
    {r : Rejection} (hfront : Batch.Acceptable (select classList front))
    (hline : Record.parse line = .error (.rejected r))
    (hselected : selected? classList (written classList line) = some line) :
    (front ++ written classList line :: rest)[(select classList front).length]? =
        some (written classList line) ↔
      ∀ l ∈ front, (selected? classList l).isSome = true := by
  have hnot := not_mem_of_acceptable_select hfront hline hselected
  rw [select_eq_filterMap, ← List.filterMap_length_eq_length]
  have hle := List.length_filterMap_le (selected? classList) front
  constructor
  · intro hthere
    by_contra hne
    rw [List.getElem?_append_left (by omega)] at hthere
    exact hnot (List.mem_of_getElem? hthere)
  · intro hlength
    rw [hlength, List.getElem?_append_right (le_refl _), Nat.sub_self]
    rfl

/-- A rejected file is reported by the first rejected line that the mode selects from it, under a
number that counts the selected lines. This is the number of the line in the file exactly if every
line in front of it is selected; a blank line of a log, or an untagged line of a class list, makes
the report point to another line. -/
theorem reported_number_counts_selected {unreadable : Bool} {o : ValidateOptions} {w : LocalWorld}
    (h : (run unreadable o w).result = .ok (.status 1)) :
    ∃ bytes text front line rest r number,
      w.files.readExisting (Path.ofString o.file).text = .ok bytes ∧
      Utf8.decode bytes = .ok text ∧
      fileLines text = front ++ written o.classList line :: rest ∧
      Batch.Acceptable (select o.classList front) ∧
      Record.parse line = .error (.rejected r) ∧ r.line = line ∧
      number = (select o.classList front).length + 1 ∧
      run unreadable o w = ⟨.ok (.status 1),
        [.event (Batch.rejectedEvent (r.atLine number)),
          .message (lineReport o.format number r)], w⟩ ∧
      ((fileLines text)[number - 1]? = some (written o.classList line) ↔
        ∀ l ∈ front, (selected? o.classList l).isSome = true) := by
  cases hread : ResolutionLog.read w.files unreadable (.ofString o.file) o.classList with
  | error f =>
    rw [run_of_read_eq_error hread] at h
    unfold unreadExit at h
    split at h <;> exact absurd (Except.ok.inj h) (by simp)
  | ok lines =>
    obtain ⟨-, bytes, text, hbytes, htext, hlines⟩ := read_eq_ok_iff.mp hread
    have hbad : ¬ Batch.Acceptable lines := by
      intro hgood
      obtain ⟨records, -, hrun⟩ := run_of_acceptable hgood hread
      rw [hrun] at h
      exact absurd (Except.ok.inj h) (by simp)
    obtain ⟨before, line, after, r, hsplit, hbefore, hline, hraw, hrun⟩ :=
      run_of_not_acceptable hbad hread
    obtain ⟨front, rest, hfile, rfl, hselected⟩ :=
      exists_of_select_eq_append_cons (hlines.symm.trans hsplit)
    refine ⟨bytes, text, front, line, rest, r, _, hbytes, htext, hfile, hbefore, hline, hraw, rfl,
      hrun, ?_⟩
    rw [Nat.add_sub_cancel, hfile]
    exact getElem?_length_select_iff hbefore hline hselected

/-- A class list with another line in front of its resolution lines is rejected, and reported under
a number that counts the resolution lines. -/
theorem reported_number_in_class_list :
    ∃ (o : ValidateOptions) (w : LocalWorld) (front rest : List String) (line : String)
        (r : Rejection) (number : Nat),
      o.classList = true ∧ (run false o w).result = .ok (.status 1) ∧
      ["java/lang/Object", "@lambda-form-invoker [SPECIES_RESOLVE] LL",
        "@lambda-form-invoker [BAD]"] = front ++ written true line :: rest ∧
      number = (select true front).length + 1 ∧
      (run false o w).trace.messages = [lineReport o.format number r] := by
  let text : List Char := ("java/lang/Object\n@lambda-form-invoker [SPECIES_RESOLVE] LL\n" ++
    "@lambda-form-invoker [BAD]\n").toList
  let o : ValidateOptions := ⟨"list", true, .table⟩
  let w : LocalWorld := ⟨⟨[(["list"], .file (Utf8.encode text))]⟩, []⟩
  have hfile : w.files.readExisting (Path.ofString o.file).text = .ok (Utf8.encode text) := by
    decide +kernel
  have hlines : fileLines text = ["java/lang/Object", "@lambda-form-invoker [SPECIES_RESOLVE] LL",
      "@lambda-form-invoker [BAD]"] := by decide +kernel
  have hread : ResolutionLog.read w.files false (.ofString o.file) o.classList =
      .ok ["[SPECIES_RESOLVE] LL", "[BAD]"] := by decide +kernel
  have hbad : ¬ Batch.Acceptable ["[SPECIES_RESOLVE] LL", "[BAD]"] := by
    intro hgood
    obtain ⟨record, hrecord⟩ := hgood "[BAD]" (by simp)
    have hrejected : Record.parse "[BAD]" =
        .error (.rejected ⟨"[BAD]", .wrongPrefix, none, none⟩) := by decide +kernel
    exact absurd (hrejected.symm.trans hrecord) (by simp)
  have hstatus : (run false o w).result = .ok (.status 1) := by
    obtain ⟨_, _, _, _, -, -, -, -, hrun⟩ := run_of_not_acceptable (w := w) hbad hread
    rw [hrun]
  obtain ⟨bytes, text', front, line, rest, r, number, hbytes, htext', hsplit, -, -, -, hnumber,
    hrun, -⟩ := reported_number_counts_selected hstatus
  obtain rfl : Utf8.encode text = bytes := Except.ok.inj (hfile.symm.trans hbytes)
  obtain rfl : text = text' := Except.ok.inj ((Utf8.decode_encode text).symm.trans htext')
  refine ⟨o, w, front, rest, line, r, number, rfl, hstatus, hlines.symm.trans hsplit, hnumber, ?_⟩
  rw [hrun]
  rfl

/-- A blank line is not counted: the second line of the file is reported under the number 1, which
is that of the blank line. -/
theorem reported_number_behind_blank_line :
    ∃ (files : FileTree) (text : List Char) (r : Rejection),
      files.readExisting "bad.log" = .ok (Utf8.encode text) ∧
      fileLines text = ["", "[BAD] x"] ∧
      run false ⟨"bad.log", false, .json⟩ ⟨files, []⟩ = ⟨.ok (.status 1),
        [.event (Batch.rejectedEvent (r.atLine 1)),
          .message (.json (.obj [("valid", .bool false), ("line_number", .int 1),
            ("reason", .str "wrong prefix"), ("line", .str "[BAD] x")]))], ⟨files, []⟩⟩ := by
  let text : List Char := "\n[BAD] x\n".toList
  let files : FileTree := ⟨[(["bad.log"], .file (Utf8.encode text))]⟩
  have hread : ResolutionLog.read files false (.ofString "bad.log") false = .ok ["[BAD] x"] := by
    decide +kernel
  have hnone : Batch.Acceptable [] := fun l hl => absurd hl List.not_mem_nil
  have hline : Record.parse "[BAD] x" =
      .error (.rejected ⟨"[BAD] x", .wrongPrefix, none, none⟩) := by decide +kernel
  refine ⟨files, text, ⟨"[BAD] x", .wrongPrefix, none, none⟩, by rfl, by decide +kernel, ?_⟩
  have hreport := report_append_cons hnone hline [] .json (⟨files, []⟩ : LocalWorld)
  rw [List.nil_append] at hreport
  rw [run_of_read_eq_ok (o := ⟨"bad.log", false, .json⟩) (w := ⟨files, []⟩) hread, hreport]
  rfl

end Validate

end ClassSharing
