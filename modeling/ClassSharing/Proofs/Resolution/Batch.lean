import ClassSharing.Proofs.Resolution.LineFormat
import ClassSharing.Resolution.Batch

/-!
# The verdict on a batch

A batch is judged line by line: its verdict is made up from the verdicts on its lines, each taken on
its own. `parseFrom_eq_ok_iff` says this of an accepted batch, `parseFrom_append_cons` of one with a
rejected line, and `validate_verdict` says what the judge returns, what it logs, and that nothing
behind the first rejected line has a part in it.
-/

namespace ClassSharing

/-! ### A line in a batch -/

/-- A rejection with the position of its line in a batch. -/
def Rejection.atLine (r : Rejection) (n : Nat) : Rejection := { r with number := some n }

/-- The message of a rejection tells the position behind the message of the line on its own. -/
lemma Rejection.message_atLine {r : Rejection} (h : r.number = none) (n : Nat) :
    (r.atLine n).message = r.message ++ " (line " ++ toString n ++ ")" := by
  simp only [Rejection.message, Rejection.atLine, h]
  rfl

namespace Record

/-- One of the fields of a record is its line. -/
lemma fields_raw (r : Record) : r.fields.raw = r.raw := by
  unfold fields
  split <;> rfl

/-- A line is read as a record, which keeps it, or it is rejected. In a batch the outcome is the
same, but for the position in the rejection. -/
theorem parse_cases (line : String) :
    (∃ r, parse line = .ok r ∧ r.raw = line ∧ ∀ number, parseAt number line = .ok r) ∨
      ∃ r : Rejection, parse line = .error (.rejected r) ∧ r.line = line ∧ r.number = none ∧
        ∀ number, parseAt number line = .error (.rejected { r with number := number }) := by
  rcases parseAt_cases line with ⟨r, hfields, hok⟩ | ⟨reason, detail, -, herror⟩
  · exact .inl ⟨r, hok none, r.fields_raw ▸ hfields.raw_eq, hok⟩
  · exact .inr ⟨⟨line, reason, detail, none⟩, herror none, rfl, rfl, herror⟩

/-- The position of a line does not decide whether it is accepted. -/
lemma parseAt_eq_ok_iff {number : Option Int} {line : String} {r : Record} :
    parseAt number line = .ok r ↔ parse line = .ok r := by
  rcases parse_cases line with ⟨r', hparse, -, hok⟩ | ⟨r', hparse, -, -, herror⟩
  · rw [hparse, hok]
  · simp [hparse, herror]

/-- A record keeps the line that it was read from. -/
lemma raw_eq_of_parse_eq_ok {line : String} {r : Record} (h : parse line = .ok r) :
    r.raw = line := by
  rcases parse_cases line with ⟨r', hparse, hraw, -⟩ | ⟨r', hparse, -⟩
  · rw [← Except.ok.inj (hparse.symm.trans h)]
    exact hraw
  · exact absurd (hparse.symm.trans h) (by simp)

/-- In a batch, the rejection of a line gets the position of the line. -/
lemma parseAt_eq_rejected {line : String} {r : Rejection} (h : parse line = .error (.rejected r))
    (number : Option Int) :
    parseAt number line = .error (.rejected { r with number := number }) := by
  rcases parse_cases line with ⟨r', hparse, -⟩ | ⟨r', hparse, -, -, herror⟩
  · exact absurd (hparse.symm.trans h) (by simp)
  · have hr : r' = r := by simpa using hparse.symm.trans h
    rw [← hr]
    exact herror number

end Record

/-! ### The lines of a batch -/

namespace Batch

variable {σ : Type}

/-- Every line of a batch is accepted on its own. -/
def Acceptable (lines : List String) : Prop := ∀ line ∈ lines, ∃ r, Record.parse line = .ok r

/-- The first line of a batch, and all others. -/
lemma acceptable_cons {line : String} {rest : List String} :
    Acceptable (line :: rest) ↔ (∃ r, Record.parse line = .ok r) ∧ Acceptable rest := by
  simp [Acceptable]

/-- A batch is acceptable exactly if its lines, one by one, are read as some records. -/
lemma acceptable_iff {lines : List String} :
    Acceptable lines ↔ ∃ records : List Record, lines.map Record.parse = records.map .ok := by
  induction lines with
  | nil => exact ⟨fun _ => ⟨[], rfl⟩, fun _ => by simp [Acceptable]⟩
  | cons line rest ih =>
    rw [acceptable_cons, ih]
    constructor
    · rintro ⟨⟨r, hr⟩, records, hrecords⟩
      exact ⟨r :: records, by simp [hr, hrecords]⟩
    · rintro ⟨records, hrecords⟩
      cases records with
      | nil => simp at hrecords
      | cons r records =>
        simp only [List.map_cons, List.cons.injEq] at hrecords
        exact ⟨⟨r, hrecords.1⟩, records, hrecords.2⟩

/-- A batch that is not acceptable has a first line that is rejected. -/
lemma exists_first_rejected {lines : List String} (h : ¬ Acceptable lines) :
    ∃ before line after r, lines = before ++ line :: after ∧ Acceptable before ∧
      Record.parse line = .error (.rejected r) ∧ r.line = line ∧ r.number = none := by
  induction lines with
  | nil => exact absurd (fun line hline => absurd hline List.not_mem_nil) h
  | cons line rest ih =>
    rcases Record.parse_cases line with ⟨r, hparse, -⟩ | ⟨r, hparse, hline, hnumber, -⟩
    · have hrest : ¬ Acceptable rest := fun hrest => h (acceptable_cons.mpr ⟨⟨r, hparse⟩, hrest⟩)
      obtain ⟨before, bad, after, r', rfl, hbefore, hbad⟩ := ih hrest
      exact ⟨line :: before, bad, after, r', rfl, acceptable_cons.mpr ⟨⟨r, hparse⟩, hbefore⟩, hbad⟩
    · exact ⟨[], line, rest, r, rfl, fun l hl => absurd hl List.not_mem_nil, hparse, hline, hnumber⟩

/-- The lines from a position on are accepted with some records exactly if each line, on its own, is
read as its record. -/
theorem parseFrom_eq_ok_iff {n : Nat} {lines : List String} {records : List Record} :
    parseFrom n lines = .ok records ↔ lines.map Record.parse = records.map .ok := by
  induction lines generalizing n records with
  | nil => cases records <;> simp [parseFrom]
  | cons line rest ih =>
    unfold parseFrom
    rcases Record.parse_cases line with ⟨r, hparse, -, hok⟩ | ⟨r, hparse, -, -, herror⟩
    · rw [hok, List.map_cons, hparse]
      cases hrest : parseFrom (n + 1) rest with
      | error fault =>
        have hnone : ∀ rs : List Record, rest.map Record.parse ≠ rs.map .ok := by
          intro rs hrs
          exact absurd (hrest.symm.trans (ih.mpr hrs)) (by simp)
        cases records <;> simp [hnone]
      | ok rs =>
        have hrs := ih.mp hrest
        cases records <;> simp [hrs, List.map_inj_right (fun _ _ h => Except.ok.inj h)]
    · rw [herror, List.map_cons, hparse]
      cases records <;> simp

/-- A batch is rejected at its first rejected line, at the position of this line, whatever stands
behind it. -/
theorem parseFrom_append_cons {before : List String} {line : String} {r : Rejection}
    (hbefore : Acceptable before) (hline : Record.parse line = .error (.rejected r)) (n : Nat)
    (after : List String) :
    parseFrom n (before ++ line :: after) =
      .error (.rejected (r.atLine (n + before.length))) := by
  induction before generalizing n with
  | nil => simp [parseFrom, Record.parseAt_eq_rejected hline, Rejection.atLine]
  | cons first before ih =>
    obtain ⟨⟨record, hfirst⟩, hrest⟩ := acceptable_cons.mp hbefore
    have hnext : n + 1 + before.length = n + (before.length + 1) := by omega
    rw [List.cons_append, parseFrom, Record.parseAt_eq_ok_iff.mpr hfirst]
    simp only [ih hrest (n + 1), hnext, List.length_cons]

/-! ### The verdict -/

/-- The judge of a batch whose lines are read as some records. -/
lemma judge_eq_of_map_eq {lines : List String} {records : List Record}
    (h : lines.map Record.parse = records.map .ok) (w : σ) :
    judge lines w = ⟨.ok (.ok records), [.event (acceptedEvent records.length)], w⟩ := by
  have hparse : parse lines = .ok records := parseFrom_eq_ok_iff.mpr h
  rw [judge, hparse, Run.bind_of_ok (Run.logAll_apply _ w)]
  rfl

/-- The judge of a batch with a rejected line: the verdict and the one event have the position of
the line, and what stands behind the line is not looked at. -/
lemma judge_append_cons {before : List String} {line : String} {r : Rejection}
    (hbefore : Acceptable before) (hline : Record.parse line = .error (.rejected r))
    (after : List String) (w : σ) :
    judge (before ++ line :: after) w =
      ⟨.ok (.error (.rejected (r.atLine (before.length + 1)))),
        [.event (rejectedEvent (r.atLine (before.length + 1)))], w⟩ := by
  have hparse : parse (before ++ line :: after) =
      .error (.rejected (r.atLine (before.length + 1))) := by
    rw [parse, parseFrom_append_cons hbefore hline, Nat.add_comm 1 before.length]
  rw [judge, hparse, Run.bind_of_ok (Run.logAll_apply _ w)]
  rfl

/-- The verdict on a batch whose lines are read as some records. -/
theorem validate_eq_of_map_eq {lines : List String} {records : List Record}
    (h : lines.map Record.parse = records.map .ok) (w : σ) :
    validate lines w = ⟨.ok records, [.event (acceptedEvent records.length)], w⟩ := by
  rw [validate, Run.bind_of_ok (judge_eq_of_map_eq h w)]
  rfl

/-- The verdict on a batch with a rejected line is a failure. -/
theorem validate_append_cons {before : List String} {line : String} {r : Rejection}
    (hbefore : Acceptable before) (hline : Record.parse line = .error (.rejected r))
    (after : List String) (w : σ) :
    validate (before ++ line :: after) w =
      ⟨.error (.failure (.domain (.format (r.atLine (before.length + 1))))),
        [.event (rejectedEvent (r.atLine (before.length + 1)))], w⟩ := by
  rw [validate, Run.bind_of_ok (judge_append_cons hbefore hline after w)]
  rfl

/-- A batch is accepted with some records exactly if its lines are read as these records. -/
theorem validate_result_eq_ok_iff {lines : List String} {records : List Record} {w : σ} :
    (validate lines w).result = .ok records ↔ lines.map Record.parse = records.map .ok := by
  constructor
  · intro hresult
    by_cases h : Acceptable lines
    · obtain ⟨records', hrecords'⟩ := acceptable_iff.mp h
      rw [validate_eq_of_map_eq hrecords'] at hresult
      rw [← Except.ok.inj hresult]
      exact hrecords'
    · obtain ⟨before, line, after, r, rfl, hbefore, hline, -⟩ := exists_first_rejected h
      rw [validate_append_cons hbefore hline] at hresult
      exact absurd hresult (by simp)
  · intro h
    rw [validate_eq_of_map_eq h]

/-- The records of an accepted batch keep its lines. -/
lemma map_raw_eq {lines : List String} {records : List Record}
    (h : lines.map Record.parse = records.map .ok) : records.map Record.raw = lines := by
  induction lines generalizing records with
  | nil =>
    cases records with
    | nil => rfl
    | cons r records => simp at h
  | cons line rest ih =>
    cases records with
    | nil => simp at h
    | cons r records =>
      simp only [List.map_cons, List.cons.injEq] at h
      rw [List.map_cons, Record.raw_eq_of_parse_eq_ok h.1, ih h.2]

/-- The lines of an accepted batch are accepted in any choice, order and number. -/
lemma Acceptable.subset {lines others : List String} (h : Acceptable lines)
    (hsub : others ⊆ lines) : Acceptable others :=
  fun line hline => h line (hsub hline)

end Batch

end ClassSharing
