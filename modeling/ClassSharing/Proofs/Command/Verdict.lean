import ClassSharing.Proofs.Command.FileFaults

/-!
# The verdict on a file

The command that checks resolution lines accepts a file exactly if each selected line is accepted on
its own. `countP_kind_eq` counts the records of a kind by the markers of the lines, which are what a
reader of the file can count; `run_decides_file` says that a report in either form is made up from
these numbers, or from the first rejected line.
-/

namespace ClassSharing

open Text

/-! ### Markers and kinds -/

namespace Record

/-- The line of a record starts with the marker of its kind. -/
lemma startsWithMarker_kind {line : String} {r : Record} (h : parse line = .ok r) :
    StartsWithMarker line r.kind := by
  have hfields : HasFields line r.fields := by
    rcases parseAt_cases line with ⟨r', hfields, hok⟩ | ⟨reason, detail, -, herror⟩
    · obtain rfl : r' = r := Except.ok.inj ((hok none).symm.trans h)
      exact hfields
    · exact absurd ((herror none).symm.trans h) (by simp)
  unfold fields at hfields
  unfold kind
  split at hfields
  · cases hfields with
    | lambdaForm hline => exact (isLambdaFormLine_iff.mp hline).1
  · cases hfields with
    | species hline => exact (isSpeciesLine_iff.mp hline).1

/-- A line has one kind, by its marker. -/
lemma startsWithMarker_iff_kind_eq {line : String} {r : Record} (h : parse line = .ok r)
    {kind : ResolveKind} : StartsWithMarker line kind ↔ r.kind = kind := by
  have hkind := startsWithMarker_kind h
  constructor
  · intro hmarker
    exact Option.some.inj ((ofLine?_eq_some hkind).symm.trans (ofLine?_eq_some hmarker))
  · rintro rfl
    exact hkind

end Record

/-! ### Counts -/

namespace Validate

/-- The number of lines that start with a marker. -/
def markedCount (marker : String) (lines : List String) : Nat :=
  lines.countP fun line => marker.toList.isPrefixOf line.toList

/-- The records of a kind are as many as the lines with its marker. -/
lemma countP_kind_eq {lines : List String} {records : List Record}
    (h : lines.map Record.parse = records.map .ok) (kind : ResolveKind) :
    records.countP (fun r => r.kind == kind) = markedCount kind.marker lines := by
  induction lines generalizing records with
  | nil =>
    cases records with
    | nil => rfl
    | cons r records => simp at h
  | cons line rest ih =>
    cases records with
    | nil => simp at h
    | cons r records =>
      simp only [List.map_cons, List.cons.injEq] at h
      obtain ⟨hline, hrest⟩ := h
      have hmarker : (r.kind == kind) = kind.marker.toList.isPrefixOf line.toList := by
        rw [Bool.eq_iff_iff, beq_iff_eq, List.isPrefixOf_iff_prefix, ← startsWithMarker_iff]
        exact (Record.startsWithMarker_iff_kind_eq hline).symm
      rw [List.countP_cons, ih hrest, hmarker, markedCount, markedCount, List.countP_cons]

/-- Every record is of one of the two kinds. -/
lemma countP_kinds_eq_length (records : List Record) :
    records.countP (fun r => r.kind == .lambdaForm) +
      records.countP (fun r => r.kind == .species) = records.length := by
  have hspecies : ∀ r : Record, (r.kind == .species) = !(r.kind == .lambdaForm) := by
    intro r
    cases r.kind <;> rfl
  rw [List.length_eq_countP_add_countP fun r : Record => r.kind == .lambdaForm]
  simp only [hspecies, Bool.not_eq_true, Bool.decide_eq_false]

/-- Numbers that tell of lines: how many there are, and how many with each of the two markers. No
line is left out, and none is counted twice. -/
structure CountsLines (n : Counts) (lines : List String) : Prop where
  total_eq : n.total = lines.length
  lambdaForms_eq : n.lambdaForms = markedCount "[LF_RESOLVE]" lines
  species_eq : n.species = markedCount "[SPECIES_RESOLVE]" lines
  sum_eq : n.lambdaForms + n.species = n.total

/-- The numbers of records tell of the lines that they were read from. -/
lemma countsLines_of_map_eq {lines : List String} {records : List Record}
    (h : lines.map Record.parse = records.map .ok) : CountsLines (.of records) lines where
  total_eq := by
    have hlength := congrArg List.length h
    rw [List.length_map, List.length_map] at hlength
    exact hlength.symm
  lambdaForms_eq := countP_kind_eq h .lambdaForm
  species_eq := countP_kind_eq h .species
  sum_eq := countP_kinds_eq_length records

/-! ### Verdicts -/

/-- A line that is not acceptable is rejected for the first check that it fails. -/
lemma failsFirst_of_rejected {line : String} {r : Rejection}
    (h : Record.parse line = .error (.rejected r)) :
    r = ⟨line, r.reason, r.detail, none⟩ ∧ FailsFirst line r.reason r.detail := by
  rcases Record.parseAt_cases line with ⟨record, -, hok⟩ | ⟨reason, detail, hfails, herror⟩
  · exact absurd (h.symm.trans (hok none)) (by simp)
  · obtain rfl : r = ⟨line, reason, detail, none⟩ := by simpa using h.symm.trans (herror none)
    exact ⟨rfl, hfails⟩

/-- What is printed of a file in one of the two forms. -/
def reported (unreadable : Bool) (o : ValidateOptions) (w : LocalWorld) (format : ReportFormat) :
    List Message :=
  (run unreadable { o with format := format } w).trace.messages

/-- A file that holds a text is decided by its selected lines, in either form of the report. It ends
the command with the status 0 exactly if each of them is accepted on its own, and with the status 1
otherwise. The report is made up from the numbers of the lines and of those with each marker; or
from the first line that is rejected, the number of this line among the selected lines, and the
first check that it fails. -/
theorem run_decides_file {unreadable : Bool} {o : ValidateOptions} {w : LocalWorld}
    {text : List Char} (h : w.files.HoldsText unreadable (Path.ofString o.file).text text) :
    let lines := ResolutionLog.select o.classList (ResolutionLog.fileLines text)
    (∀ format, ((run unreadable { o with format := format } w).result = .ok (.status 0) ↔
        ∀ line ∈ lines, ∃ r, Record.parse line = .ok r) ∧
      ((run unreadable { o with format := format } w).result = .ok (.status 1) ↔
        ¬ ∀ line ∈ lines, ∃ r, Record.parse line = .ok r)) ∧
    ((∀ line ∈ lines, ∃ r, Record.parse line = .ok r) → ∃ n : Counts, CountsLines n lines ∧
      reported unreadable o w .table = [.marked .success ("Resolution lines valid: " ++
        toString n.total ++ " (" ++ toString n.lambdaForms ++ " LF_RESOLVE, " ++
        toString n.species ++ " SPECIES_RESOLVE)")] ∧
      reported unreadable o w .json = [.json (.obj [("valid", .bool true), ("lines", .int n.total),
        ("lf_resolve", .int n.lambdaForms), ("species_resolve", .int n.species)])]) ∧
    ((¬ ∀ line ∈ lines, ∃ r, Record.parse line = .ok r) →
      ∃ before line after reason detail, lines = before ++ line :: after ∧
        (∀ l ∈ before, ∃ r, Record.parse l = .ok r) ∧ FailsFirst line reason detail ∧
        Record.parse line = .error (.rejected ⟨line, reason, detail, none⟩) ∧
        reported unreadable o w .table = [.marked .failure
          (capitalize reason.text ++ ": " ++ detail.getD line ++
            " (line " ++ toString (before.length + 1) ++ ")" ++ "\n  " ++ line)] ∧
        reported unreadable o w .json = [.json (.obj [("valid", .bool false),
          ("line_number", .int (before.length + 1 : Nat)), ("reason", .str reason.text),
          ("line", .str line)])]) := by
  intro lines
  have hread : ∀ format, ResolutionLog.read w.files unreadable
      (.ofString ({ o with format := format } : ValidateOptions).file) o.classList = .ok lines :=
    fun format => read_of_holdsText (o := { o with format := format }) h
  by_cases hlines : Batch.Acceptable lines
  · obtain ⟨records, hrecords⟩ := Batch.acceptable_iff.mp hlines
    have hrun : ∀ format, run unreadable { o with format := format } w = _ :=
      fun format => run_of_map_eq hrecords (hread format)
    refine ⟨fun format => ?_, fun _ => ⟨.of records, countsLines_of_map_eq hrecords, ?_, ?_⟩,
      fun hbad => absurd hlines hbad⟩
    · rw [hrun]
      exact ⟨⟨fun _ => hlines, fun _ => rfl⟩,
        ⟨fun hone => absurd (Except.ok.inj hone) (by simp), fun hbad => absurd hlines hbad⟩⟩
    · rw [reported, hrun]
      rfl
    · rw [reported, hrun]
      rfl
  · obtain ⟨before, line, after, r, hsplit, hbefore, hline, -, hnumber⟩ :=
      Batch.exists_first_rejected hlines
    have hrun : ∀ format, run unreadable { o with format := format } w = _ :=
      fun format => run_append_cons hbefore hline hnumber ((hread format).trans (by rw [hsplit]))
    obtain ⟨hr, hfails⟩ := failsFirst_of_rejected hline
    refine ⟨fun format => ?_, fun hgood => absurd hgood hlines, fun _ =>
      ⟨before, line, after, r.reason, r.detail, hsplit, hbefore, hfails, hr ▸ hline, ?_, ?_⟩⟩
    · rw [hrun]
      exact ⟨⟨fun hzero => absurd (Except.ok.inj hzero) (by simp),
        fun hgood => absurd hgood hlines⟩, ⟨fun _ => hlines, fun _ => rfl⟩⟩
    · rw [reported, hrun, hr]
      rfl
    · rw [reported, hrun, hr]
      rfl

/-- A log with a blank line between two others is accepted, and both reports count the others. -/
theorem run_decides_log_with_blank_line :
    ∃ (w : LocalWorld) (text : List Char),
      text = ("[LF_RESOLVE] java.lang.invoke.Invokers$Holder invoker L_L\n\n" ++
        "[SPECIES_RESOLVE] LL\n").toList ∧
      w.files.HoldsText false "resolve.log" text ∧
      (run false ⟨"resolve.log", false, .json⟩ w).result = .ok (.status 0) ∧
      reported false ⟨"resolve.log", false, .table⟩ w .table = [.marked .success
        "Resolution lines valid: 2 (1 LF_RESOLVE, 1 SPECIES_RESOLVE)"] ∧
      reported false ⟨"resolve.log", false, .table⟩ w .json = [.json (.obj [("valid", .bool true),
        ("lines", .int 2), ("lf_resolve", .int 1), ("species_resolve", .int 1)])] := by
  let text : List Char := ("[LF_RESOLVE] java.lang.invoke.Invokers$Holder invoker L_L\n\n" ++
    "[SPECIES_RESOLVE] LL\n").toList
  let o : ValidateOptions := ⟨"resolve.log", false, .table⟩
  let w : LocalWorld := ⟨⟨[(["resolve.log"], .file (Utf8.encode text))]⟩, []⟩
  have hpath : (Path.ofString o.file).text = "resolve.log" := by decide +kernel
  have hfile : w.files.readExisting "resolve.log" = .ok (Utf8.encode text) := by rfl
  have htext : w.files.HoldsText false "resolve.log" text :=
    ⟨rfl, _, hfile, Utf8.decode_encode text⟩
  have hlines : ResolutionLog.select o.classList (ResolutionLog.fileLines text) =
      ["[LF_RESOLVE] java.lang.invoke.Invokers$Holder invoker L_L", "[SPECIES_RESOLVE] LL"] := by
    decide +kernel
  have hgood : ∀ line ∈ ResolutionLog.select o.classList (ResolutionLog.fileLines text),
      ∃ r, Record.parse line = .ok r := by
    have hall : ∀ line ∈ ["[LF_RESOLVE] java.lang.invoke.Invokers$Holder invoker L_L",
        "[SPECIES_RESOLVE] LL"], (Record.parse line).isOk = true := by decide +kernel
    intro line hline
    have hline := hall line (hlines ▸ hline)
    cases hparse : Record.parse line with
    | ok r => exact ⟨r, rfl⟩
    | error fault =>
      rw [hparse] at hline
      exact absurd hline Bool.false_ne_true
  obtain ⟨hdecides, haccepted, -⟩ := run_decides_file (o := o) (hpath ▸ htext)
  obtain ⟨n, hn, htable, hjson⟩ := haccepted hgood
  obtain ⟨lambdaForms, species, total⟩ := n
  obtain rfl : total = 2 := hn.total_eq.trans (by rw [hlines]; rfl)
  obtain rfl : lambdaForms = 1 := hn.lambdaForms_eq.trans (by rw [hlines]; decide)
  obtain rfl : species = 1 := hn.species_eq.trans (by rw [hlines]; decide)
  exact ⟨w, text, rfl, htext, (hdecides .json).1.mpr hgood, htable, hjson⟩

end Validate

end ClassSharing
