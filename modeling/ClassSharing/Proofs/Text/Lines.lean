import ClassSharing.Text.Break
import Mathlib

/-!
# Reading written lines

Lines that are written to a file, each with one of three ends, are read back. Two neighbouring ends
may count as one, a carriage return in front of an empty line that ends with a line feed, so that
empty lines can get lost. Others cannot, and `filledLines_writeLines` says so. What is read are
lines in any case (`isSingleLine_of_mem_splitLines`), and joined again they are the text up to the
kinds of its breaks and the last of them (`intercalate_splitLines`).
-/

namespace ClassSharing.Text

/-- A text that is one line: no character of it ends a line. -/
def IsSingleLine (text : List Char) : Prop := ∀ c ∈ text, isBreak c = false

instance (text : List Char) : Decidable (IsSingleLine text) :=
  inferInstanceAs (Decidable (∀ c ∈ text, isBreak c = false))

lemma isSingleLine_cons {c : Char} {rest : List Char} :
    IsSingleLine (c :: rest) ↔ isBreak c = false ∧ IsSingleLine rest := by
  simp [IsSingleLine]

lemma isSingleLine_append {s t : List Char} :
    IsSingleLine (s ++ t) ↔ IsSingleLine s ∧ IsSingleLine t := by
  simp [IsSingleLine, or_imp, forall_and]

/-- A line is no part of a line end. -/
lemma IsSingleLine.return_not_mem {text : List Char} (h : IsSingleLine text) : '\r' ∉ text :=
  fun hmem => absurd (h _ hmem) (by decide)

/-! ### Cutting -/

/-- A line feed ends a line. -/
lemma splitLines_feed (rest : List Char) : splitLines ('\n' :: rest) = [] :: splitLines rest := by
  rw [splitLines]
  · rfl
  · rintro _ ⟨⟩

/-- A character that ends no line belongs to the first line. -/
lemma splitLines_cons {c : Char} (hc : isBreak c = false) (rest : List Char) :
    splitLines (c :: rest) = match splitLines rest with
      | [] => [[c]]
      | line :: lines => (c :: line) :: lines := by
  rw [splitLines]
  · rw [hc]
    rfl
  · rintro _ rfl
    exact absurd hc (by decide)

/-- A line, and what stands behind its end. -/
lemma splitLines_append_feed {line : List Char} (h : IsSingleLine line) (rest : List Char) :
    splitLines (line ++ '\n' :: rest) = line :: splitLines rest := by
  induction line with
  | nil => exact splitLines_feed rest
  | cons c line ih =>
    obtain ⟨hc, hline⟩ := isSingleLine_cons.mp h
    rw [List.cons_append, splitLines_cons hc, ih hline]

/-- A line without an end is the last one, unless it is empty. -/
lemma splitLines_of_isSingleLine {line : List Char} (h : IsSingleLine line) (hne : line ≠ []) :
    splitLines line = [line] := by
  induction line with
  | nil => exact absurd rfl hne
  | cons c line ih =>
    obtain ⟨hc, hline⟩ := isSingleLine_cons.mp h
    rw [splitLines_cons hc]
    cases line with
    | nil => rfl
    | cons d line => rw [ih hline (by simp)]

/-- The pieces of a text that is cut into lines are lines. -/
lemma isSingleLine_of_mem_splitLines {text line : List Char} (h : line ∈ splitLines text) :
    IsSingleLine line := by
  fun_induction splitLines text generalizing line with
  | case1 => simp at h
  | case2 rest ih =>
    rcases List.mem_cons.mp h with rfl | h
    · simp [IsSingleLine]
    · exact ih h
  | case3 c rest _ hc ih =>
    rcases List.mem_cons.mp h with rfl | h
    · simp [IsSingleLine]
    · exact ih h
  | case4 c rest _ hc hrest ih =>
    rw [List.mem_singleton.mp h]
    simpa [IsSingleLine] using hc
  | case5 c rest _ hc first others hrest ih =>
    rw [hrest] at ih
    rcases List.mem_cons.mp h with rfl | h
    · exact isSingleLine_cons.mpr ⟨by simpa using hc, ih List.mem_cons_self⟩
    · exact ih (List.mem_cons_of_mem _ h)

/-! ### Joining -/

/-- Only the empty text has no lines. -/
lemma splitLines_eq_nil_iff {text : List Char} : splitLines text = [] ↔ text = [] := by
  fun_cases splitLines text <;> simp_all

/-- Folding the breaks of a text leaves something of it, if there is anything. -/
lemma foldBreaks_ne_nil {text : List Char} (h : text ≠ []) : foldBreaks text ≠ [] := by
  fun_cases foldBreaks text <;> simp_all

/-- The last character of a text is the last one behind its first, if there is any. -/
lemma withoutLastFeed_cons {rest : List Char} (h : rest ≠ []) (c : Char) :
    withoutLastFeed (c :: rest) = c :: withoutLastFeed rest := by
  rw [withoutLastFeed, withoutLastFeed, List.getLast?_cons_of_ne_nil h,
    List.dropLast_cons_of_ne_nil h]
  split <;> rfl

/-- An empty line in front of the lines of a text is joined as a line feed in front of the text. -/
lemma intercalate_nil_cons {rest : List Char} (ih : ['\n'].intercalate (splitLines rest) =
      withoutLastFeed (foldBreaks rest)) :
    ['\n'].intercalate ([] :: splitLines rest) = withoutLastFeed ('\n' :: foldBreaks rest) := by
  by_cases hrest : rest = []
  · subst hrest
    rfl
  · rw [List.intercalate_cons_of_ne_nil (mt splitLines_eq_nil_iff.mp hrest), ih,
      withoutLastFeed_cons (foldBreaks_ne_nil hrest)]
    rfl

/-- The lines of a text, joined by line feeds, are the text with all its breaks folded and without
the one at its end. -/
theorem intercalate_splitLines (text : List Char) :
    ['\n'].intercalate (splitLines text) = withoutLastFeed (foldBreaks text) := by
  fun_induction splitLines text with
  | case1 => rfl
  | case2 rest ih => exact intercalate_nil_cons ih
  | case3 c rest hpair hc ih =>
    have hfold : foldBreaks (c :: rest) = '\n' :: foldBreaks rest := by
      rw [foldBreaks, if_pos hc]
      exact hpair
    rw [hfold]
    exact intercalate_nil_cons ih
  | case4 c rest hpair hc hlines ih =>
    obtain rfl := splitLines_eq_nil_iff.mp hlines
    have hfeed : c ≠ '\n' := fun heq => hc (heq ▸ rfl)
    have hfold : foldBreaks [c] = [c] := by
      rw [foldBreaks, if_neg hc]
      · rfl
      · exact hpair
    rw [hfold, withoutLastFeed, if_neg (by simpa using hfeed)]
    rfl
  | case5 c rest hpair hc line lines hlines ih =>
    have hrest : rest ≠ [] := fun heq => by simp [heq] at hlines
    have hfold : foldBreaks (c :: rest) = c :: foldBreaks rest := by
      rw [foldBreaks, if_neg hc]
      exact hpair
    rw [hfold, withoutLastFeed_cons (foldBreaks_ne_nil hrest), ← ih, hlines]
    cases lines with
    | nil => rfl
    | cons next lines => rfl

/-- The lines of a string, joined by line feeds. -/
lemma intercalate_lines (text : String) :
    "\n".intercalate (lines text) = String.ofList (withoutLastFeed (foldBreaks text.toList)) := by
  have hlists : (lines text).map String.toList = splitLines text.toList := by
    simp [lines, Function.comp_def]
  rw [← String.toList_inj, String.toList_intercalate, hlists, ← intercalate_splitLines]
  exact String.toList_ofList.symm

/-! ### Line ends -/

/-- Folding leaves a line as it is. -/
lemma foldLineEnds_append {line : List Char} (h : '\r' ∉ line) (rest : List Char) :
    foldLineEnds (line ++ rest) = line ++ foldLineEnds rest := by
  induction line with
  | nil => rfl
  | cons c line ih =>
    have hc : c ≠ '\r' := fun heq => h (heq ▸ List.mem_cons_self)
    rw [List.cons_append, foldLineEnds, ih fun hmem => h (List.mem_cons_of_mem _ hmem)]
    · rfl
    · rintro _ rfl
      exact absurd rfl hc
    · exact hc

/-- A line end is folded to a line feed. A carriage return takes the line feed of an empty line
behind it along. -/
lemma exists_foldLineEnds_chars_append (e : LineEnd) (rest : List Char) :
    ∃ rest', foldLineEnds (e.chars ++ rest) = '\n' :: foldLineEnds rest' ∧
      (rest' = rest ∨ rest = '\n' :: rest') := by
  cases e with
  | feed => exact ⟨rest, rfl, .inl rfl⟩
  | both => exact ⟨rest, rfl, .inl rfl⟩
  | carriageReturn =>
    cases rest with
    | nil => exact ⟨[], rfl, .inl rfl⟩
    | cons c rest =>
      by_cases hc : c = '\n'
      · subst hc
        exact ⟨rest, rfl, .inr rfl⟩
      · refine ⟨c :: rest, ?_, .inl rfl⟩
        show foldLineEnds ('\r' :: c :: rest) = _
        rw [foldLineEnds]
        rintro _ heq
        exact hc (List.cons.inj heq).1

/-! ### Lines of a file -/

/-- The lines of the text of a file that are not empty. -/
def filledLines (text : List Char) : List (List Char) :=
  (splitLines (foldLineEnds text)).filter (· ≠ [])

/-- The empty text has no lines. -/
lemma filledLines_nil : filledLines [] = [] := rfl

/-- An empty line in front of a text changes nothing. -/
lemma filledLines_feed (rest : List Char) : filledLines ('\n' :: rest) = filledLines rest := by
  have hfold : foldLineEnds ('\n' :: rest) = '\n' :: foldLineEnds rest := rfl
  rw [filledLines, hfold, splitLines_feed]
  rfl

/-- A line with its end in front of a text. -/
lemma filledLines_line_append {line : List Char} (h : IsSingleLine line) (e : LineEnd)
    (rest : List Char) :
    filledLines (line ++ e.chars ++ rest) = [line].filter (· ≠ []) ++ filledLines rest := by
  obtain ⟨rest', hfold, hrest⟩ := exists_foldLineEnds_chars_append e rest
  have hsame : filledLines rest = filledLines rest' := by
    rcases hrest with rfl | rfl
    · rfl
    · exact filledLines_feed rest'
  rw [hsame, filledLines, List.append_assoc, foldLineEnds_append h.return_not_mem, hfold,
    splitLines_append_feed h, ← List.singleton_append, List.filter_append]
  rfl

/-- A line without an end. -/
lemma filledLines_of_isSingleLine {line : List Char} (h : IsSingleLine line) :
    filledLines line = [line].filter (· ≠ []) := by
  have hfold : foldLineEnds line = line := by
    simpa using foldLineEnds_append h.return_not_mem []
  rw [filledLines, hfold]
  by_cases hne : line = []
  · subst hne
    rfl
  · rw [splitLines_of_isSingleLine h hne]

/-- Written lines are read back, except empty ones, whatever their ends are. -/
theorem filledLines_writeLines {lines : List (List Char × LineEnd)} (closed : Bool)
    (h : ∀ l ∈ lines, IsSingleLine l.1) :
    filledLines (writeLines closed lines) = (lines.map Prod.fst).filter (· ≠ []) := by
  induction lines with
  | nil => rfl
  | cons l rest ih =>
    obtain ⟨line, e⟩ := l
    have hline : IsSingleLine line := h (line, e) List.mem_cons_self
    have hrest := ih fun l hl => h l (List.mem_cons_of_mem _ hl)
    show _ = ([line] ++ rest.map Prod.fst).filter (· ≠ [])
    rw [List.filter_append]
    cases rest with
    | nil =>
      cases closed with
      | true => simpa [writeLines, filledLines_nil] using filledLines_line_append hline e []
      | false => simpa [writeLines] using filledLines_of_isSingleLine hline
    | cons next rest =>
      rw [writeLines, filledLines_line_append hline, hrest]
      exact List.cons_ne_nil next rest

end ClassSharing.Text
