import Mathlib
import ClassSharing.Proofs.Command.Validate
import ClassSharing.Proofs.Json.RoundTrip

/-!
# Reports in JSON are read back

What a command reports in JSON passes an encoder and the console. `report_reads_back` says that no
value is changed on this way, and what the value is for a file that is rejected: the line that it
names is the rejected line, whatever characters it is made of.
-/

namespace ClassSharing

open Text

namespace Json

/-- A value that is reported in JSON is read back from the console. -/
lemma ofText?_shown (v : Json) : ofText? (Message.json v).shown = some v := by
  have hfeed : ∀ c ∈ ['\n'], isGap c = true := List.forall_mem_singleton.mpr rfl
  rw [shown_json]
  exact ofText?_print v 0 hfeed

end Json

namespace Validate

open ResolutionLog

/-- A file that cannot be read is not told by a status of the command itself. -/
lemma unreadExit_ne_status (file : String) (f : Failure) (n : Nat) :
    unreadExit file f ≠ .status n := by
  unfold unreadExit
  split <;> simp

/-- If the command ends with the status 1, it has read a file with a rejected resolution line, and
it has reported the first one. -/
lemma exists_first_rejected_of_status_one {unreadable : Bool} {o : ValidateOptions} {w : LocalWorld}
    (h : (run unreadable o w).result = .ok (.status 1)) :
    ∃ lines before line after r,
      ResolutionLog.read w.files unreadable (.ofString o.file) o.classList = .ok lines ∧
      lines = before ++ line :: after ∧ Batch.Acceptable before ∧
      Record.parse line = .error (.rejected r) ∧ r.line = line ∧
      (run unreadable o w).trace.messages = [lineReport o.format (before.length + 1) r] := by
  cases hread : ResolutionLog.read w.files unreadable (.ofString o.file) o.classList with
  | error f =>
    rw [run_of_read_eq_error hread] at h
    exact absurd (Except.ok.inj h) (unreadExit_ne_status _ _ _)
  | ok lines =>
    have hbad : ¬ Batch.Acceptable lines := by
      intro hgood
      obtain ⟨records, -, hrun⟩ := run_of_acceptable hgood hread
      rw [hrun] at h
      exact absurd (Except.ok.inj h) (by simp)
    obtain ⟨before, line, after, r, hsplit, hbefore, hline, hraw, hrun⟩ :=
      run_of_not_acceptable hbad hread
    exact ⟨lines, before, line, after, r, rfl, hsplit, hbefore, hline, hraw, by rw [hrun]; rfl⟩

/-- Every value that is reported in JSON is read back from what stands on the console. If a file is
rejected, a single value is reported in JSON, and it is read back: a number, a reason, and as the
line the first rejected one of those that the mode selects from the file, character for
character. -/
theorem report_reads_back :
    (∀ v : Json, Json.ofText? (Message.json v).shown = some v) ∧
    ∀ (unreadable : Bool) (o : ValidateOptions) (w : LocalWorld), o.format = .json →
      (run unreadable o w).result = .ok (.status 1) →
      ∃ bytes text front line rest r value,
        w.files.readExisting (Path.ofString o.file).text = .ok bytes ∧
        Utf8.decode bytes = .ok text ∧
        fileLines text = front ++ written o.classList line :: rest ∧
        Batch.Acceptable (select o.classList front) ∧
        Record.parse line = .error (.rejected r) ∧
        value = Json.obj [("valid", .bool false),
          ("line_number", .int ((select o.classList front).length + 1 : Nat)),
          ("reason", .str r.reason.text), ("line", .str line)] ∧
        (run unreadable o w).trace.messages = [.json value] ∧
        Json.ofText? (Message.json value).shown = some value := by
  refine ⟨Json.ofText?_shown, fun unreadable o w hformat h => ?_⟩
  obtain ⟨lines, before, line, after, r, hread, hsplit, hbefore, hline, hraw, hmessages⟩ :=
    exists_first_rejected_of_status_one h
  obtain ⟨-, bytes, text, hbytes, htext, hlines⟩ := read_eq_ok_iff.mp hread
  obtain ⟨front, rest, hfile, rfl, -⟩ :=
    exists_of_select_eq_append_cons (hlines.symm.trans hsplit)
  refine ⟨bytes, text, front, line, rest, r, _, hbytes, htext, hfile, hbefore, hline, rfl, ?_,
    Json.ofText?_shown _⟩
  rw [hmessages, hformat, lineReport, hraw]

/-- A rejected line with a tab, quotes, a backslash and a bell stands on the console with escapes,
and is read back with the characters themselves. -/
theorem report_reads_back_of_controls :
    ∃ (o : ValidateOptions) (w : LocalWorld) (value : Json),
      (run false o w).trace.messages = [.json value] ∧
      value = .obj [("valid", .bool false), ("line_number", .int 1),
        ("reason", .str "wrong prefix"), ("line", .str "[BAD]\t\"a\\b\"\x07")] ∧
      (Message.json value).shown = "\x7b\n  \"valid\": false,\n  \"line_number\": 1,\n" ++
        "  \"reason\": \"wrong prefix\",\n  \"line\": \"[BAD]\\t\\\"a\\\\b\\\"\\u0007\"\n\x7d\n" ∧
      Json.ofText? (Message.json value).shown = some value := by
  let bad : String := "[BAD]\t\"a\\b\"\x07"
  let text : List Char := (bad ++ "\n").toList
  let o : ValidateOptions := ⟨"bad.log", false, .json⟩
  let w : LocalWorld := ⟨⟨[(["bad.log"], .file (Utf8.encode text))]⟩, []⟩
  have hfile : w.files.readExisting (Path.ofString o.file).text = .ok (Utf8.encode text) := by
    decide +kernel
  have hlines : fileLines text = [bad] := by decide +kernel
  have hread : ResolutionLog.read w.files false (.ofString o.file) o.classList = .ok [bad] := by
    decide +kernel
  have hrejected : Record.parse bad = .error (.rejected ⟨bad, .wrongPrefix, none, none⟩) := by
    decide +kernel
  have hbad : ¬ Batch.Acceptable [bad] := by
    intro hgood
    obtain ⟨record, hrecord⟩ := hgood _ List.mem_cons_self
    exact absurd (hrejected.symm.trans hrecord) (by simp)
  have hstatus : (run false o w).result = .ok (.status 1) := by
    obtain ⟨_, _, _, _, -, -, -, -, hrun⟩ := run_of_not_acceptable (w := w) hbad hread
    rw [hrun]
  obtain ⟨bytes, text', front, line, rest, r, value, hbytes, htext', hsplit, -, hline, hvalue,
    hmessages, hback⟩ := report_reads_back.2 false o w rfl hstatus
  obtain rfl : Utf8.encode text = bytes := Except.ok.inj (hfile.symm.trans hbytes)
  obtain rfl : text = text' := Except.ok.inj ((Utf8.decode_encode text).symm.trans htext')
  rw [hlines] at hsplit
  obtain rfl : front = [] := by
    cases front with
    | nil => rfl
    | cons _ _ => simp at hsplit
  obtain rfl : bad = line := (List.cons.inj hsplit).1
  obtain rfl : ⟨bad, .wrongPrefix, none, none⟩ = r :=
    LineFault.rejected.inj (Except.error.inj (hrejected.symm.trans hline))
  refine ⟨o, w, value, hmessages, hvalue, ?_, hback⟩
  rw [hvalue, Json.shown_json]
  decide +kernel

end Validate

end ClassSharing
