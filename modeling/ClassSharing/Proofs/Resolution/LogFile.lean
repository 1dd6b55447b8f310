import ClassSharing.Proofs.Text.Lines
import ClassSharing.Proofs.Text.Utf8
import ClassSharing.Resolution.Log

/-!
# Resolution logs are read back

Resolution lines that are written to a class list or to a log of their own are read back from it.
A class list loses none of them exactly if each is one line; a log of their own loses the blank ones
besides. `read_written_records` says both, for all ways in which the lines of the files end.
-/

namespace ClassSharing

open Text

/-! ### Files of lines -/

namespace FileTree

/-- A file holds lines, each with its end. The end of the last line may be missing. -/
def HoldsLines (files : FileTree) (path : Path) (closed : Bool)
    (lines : List (List Char × LineEnd)) : Prop :=
  files.readExisting path.text = .ok (Utf8.encode (writeLines closed lines))

/-- A file whose bytes are read is there. -/
lemma isThere_of_readExisting {files : FileTree} {address : String} {bytes : List UInt8}
    (h : files.readExisting address = .ok bytes) : files.isThere address = .ok true := by
  unfold readExisting at h
  cases hthere : files.isThere address with
  | error f =>
    rw [hthere] at h
    exact absurd h (by simp [bind, Except.bind])
  | ok there =>
    cases there with
    | true => rfl
    | false =>
      rw [hthere] at h
      exact absurd h (by simp [bind, Except.bind, throw, throwThe, MonadExceptOf.throw])

end FileTree

namespace ResolutionLog

/-- A file is read if it may be, is there, and holds a text. -/
lemma read_eq_ok_iff {files : FileTree} {unreadable : Bool} {path : Path} {classList : Bool}
    {lines : List String} :
    read files unreadable path classList = .ok lines ↔
      unreadable = false ∧ ∃ bytes text, files.readExisting path.text = .ok bytes ∧
        Utf8.decode bytes = .ok text ∧ lines = select classList (fileLines text) := by
  cases hread : files.readExisting path.text with
  | error f =>
    cases hthere : files.isThere path.text with
    | error g => simp [read, hthere, bind, Except.bind]
    | ok there =>
      cases there <;> cases unreadable <;>
        simp [read, hthere, hread, bind, Except.bind, throw, throwThe, MonadExceptOf.throw]
  | ok bytes =>
    have hthere := FileTree.isThere_of_readExisting hread
    cases unreadable with
    | true => simp [read, hthere, bind, Except.bind, throw, throwThe, MonadExceptOf.throw]
    | false =>
      cases hdecode : Utf8.decode bytes with
      | error fault =>
        simp [read, hthere, hread, hdecode, bind, Except.bind, throw, throwThe,
          MonadExceptOf.throw]
      | ok text =>
        simp [read, hthere, hread, hdecode, bind, Except.bind, pure, Except.pure, eq_comm]

/-- What is read of a file that holds lines. -/
lemma read_of_holdsLines {files : FileTree} {path : Path} {closed : Bool}
    {lines : List (List Char × LineEnd)} (h : files.HoldsLines path closed lines)
    (classList : Bool) :
    read files false path classList =
      .ok (select classList (fileLines (writeLines closed lines))) :=
  read_eq_ok_iff.mpr ⟨rfl, _, _, h, Utf8.decode_encode _, rfl⟩

/-! ### Class lists -/

namespace ClassListLine

/-- The lines of a class list with the given records. Each record stands behind the tag. All other
texts are lines, and none of them has the tag. -/
def AreOf (records : List String) (lines : List ClassListLine) : Prop :=
  resolutionLines lines = records.map String.toList ∧
    ∀ text, other text ∈ lines → IsSingleLine text ∧ ¬ tag.toList <+: text

end ClassListLine

/-- The tag does not end a line. -/
lemma isSingleLine_tag : IsSingleLine tag.toList := by
  simp [IsSingleLine, tag, isBreak, lineBreaks]

/-- A text behind the tag is found. -/
lemma untag?_tagged (line : List Char) :
    untag? (ClassListLine.tagged line).text = some line := by
  simp [untag?, ClassListLine.text]

/-- A text without the tag is passed over. -/
lemma untag?_eq_none {text : List Char} (h : ¬ tag.toList <+: text) : untag? text = none := by
  simp [untag?, List.isPrefixOf_iff_prefix, h]

/-- What is found is a part of the text that it is found in. -/
lemma isSingleLine_of_untag? {text line : List Char} (h : untag? text = some line)
    (hline : IsSingleLine text) : IsSingleLine line := by
  unfold untag? at h
  split at h
  · rw [← Option.some.inj h]
    exact fun c hc => hline c (List.mem_of_mem_drop hc)
  · exact absurd h (by simp)

/-- The lines of a class list are lines if its records are. -/
lemma isSingleLine_text {records : List String} {lines : List ClassListLine}
    (h : ClassListLine.AreOf records lines) (hrecords : ∀ r ∈ records, IsSingleLine r.toList)
    {l : ClassListLine} (hl : l ∈ lines) : IsSingleLine l.text := by
  cases l with
  | other text => exact (h.2 text hl).1
  | tagged line =>
    have hmem : line ∈ records.map String.toList := by
      rw [← h.1]
      exact List.mem_filterMap.mpr ⟨.tagged line, hl, rfl⟩
    obtain ⟨r, hr, rfl⟩ := List.mem_map.mp hmem
    exact isSingleLine_append.mpr ⟨isSingleLine_tag, hrecords r hr⟩

/-- Among the lines of a class list, the records are found. -/
lemma filterMap_untag?_text {records : List String} {lines : List ClassListLine}
    (h : ClassListLine.AreOf records lines) :
    (lines.map ClassListLine.text).filterMap untag? = records.map String.toList := by
  rw [← h.1, List.filterMap_map, ClassListLine.resolutionLines]
  refine List.filterMap_congr fun l hl => ?_
  cases l with
  | tagged line => exact untag?_tagged line
  | other text => exact untag?_eq_none (h.2 text hl).2

/-! ### Lines one by one -/

/-- The resolution line that a line of a file holds, if it holds one. -/
def selected? (classList : Bool) (line : String) : Option String :=
  if classList then (untag? line.toList).map String.ofList
  else if isBlankText line.toList then none else some line

/-- A resolution line as it is written to a file. -/
def written (classList : Bool) (line : String) : String :=
  if classList then tag ++ line else line

/-- Lines are picked one by one. -/
lemma select_eq_filterMap (classList : Bool) (lines : List String) :
    select classList lines = lines.filterMap (selected? classList) := by
  cases classList with
  | true => rfl
  | false =>
    rw [select, filled, ← List.filterMap_eq_filter]
    refine List.filterMap_congr fun line _ => ?_
    by_cases hblank : isBlankText line.toList <;> simp [selected?, hblank, Option.guard]

/-- A line that holds a resolution line is that line as it is written. -/
lemma eq_written_of_selected? {classList : Bool} {text line : String}
    (h : selected? classList text = some line) : text = written classList line := by
  cases classList with
  | false =>
    by_cases hblank : isBlankText text.toList = true
    · simp [selected?, hblank] at h
    · simpa [selected?, hblank, written] using h
  | true =>
    obtain ⟨chars, hchars, rfl⟩ := Option.map_eq_some_iff.mp h
    obtain ⟨rest, hrest⟩ : tag.toList <+: text.toList := by
      by_contra hprefix
      rw [untag?_eq_none hprefix] at hchars
      exact absurd hchars (by simp)
    have huntag : untag? (tag.toList ++ rest) = some rest := untag?_tagged rest
    rw [← hrest, huntag] at hchars
    obtain rfl := Option.some.inj hchars
    rw [← String.ofList_toList (s := text), ← hrest, String.ofList_append, String.ofList_toList]
    rfl

/-- The lines of a file around one that is picked. -/
lemma exists_of_select_eq_append_cons {classList : Bool} {lines before after : List String}
    {line : String} (h : select classList lines = before ++ line :: after) :
    ∃ front rest, lines = front ++ written classList line :: rest ∧
      select classList front = before ∧
      selected? classList (written classList line) = some line := by
  rw [select_eq_filterMap] at h
  obtain ⟨front, others, rfl, hfront, hothers⟩ := List.filterMap_eq_append_iff.mp h
  obtain ⟨skipped, text, rest, rfl, hskipped, htext, -⟩ := List.filterMap_eq_cons_iff.mp hothers
  obtain rfl := eq_written_of_selected? htext
  refine ⟨front ++ skipped, rest, by rw [List.append_assoc], ?_, htext⟩
  rw [select_eq_filterMap, List.filterMap_append, hfront, List.filterMap_eq_nil_iff.mpr hskipped,
    List.append_nil]

/-! ### Selected lines -/

/-- An empty line has no tag. -/
lemma filterMap_untag?_filter (lines : List (List Char)) :
    (lines.filter (· ≠ [])).filterMap untag? = lines.filterMap untag? := by
  have hempty : untag? [] = none := by decide
  rw [List.filterMap_filter]
  refine List.filterMap_congr fun line _ => ?_
  by_cases hne : line = []
  · simp [hne, hempty]
  · simp [hne]

/-- An empty line is blank. -/
lemma filter_isBlankText_filter (lines : List (List Char)) :
    (lines.filter (· ≠ [])).filter (fun line => !isBlankText line) =
      lines.filter fun line => !isBlankText line := by
  rw [List.filter_filter]
  refine List.filter_congr fun line _ => ?_
  by_cases hne : line = []
  · simp [hne, isBlankText]
  · simp [hne]

/-- The resolution lines of a class list are found among its lines that are not empty. -/
lemma select_true (text : List Char) :
    select true (fileLines text) =
      ((filledLines text).filterMap untag?).map String.ofList := by
  rw [filledLines, filterMap_untag?_filter, List.map_filterMap]
  simp [select, extract, fileLines, List.filterMap_map]

/-- The resolution lines of a log are found among its lines that are not empty. -/
lemma select_false (text : List Char) :
    select false (fileLines text) =
      ((filledLines text).filter fun line => !isBlankText line).map String.ofList := by
  rw [filledLines, filter_isBlankText_filter]
  simp [select, filled, fileLines, List.filter_map, Function.comp_def]

/-- What is read of a class list are lines. -/
lemma isSingleLine_of_mem_select {text : List Char} {r : String}
    (h : r ∈ select true (fileLines text)) : IsSingleLine r.toList := by
  rw [select_true] at h
  obtain ⟨line, hline, rfl⟩ := List.mem_map.mp h
  obtain ⟨text', htext', huntag⟩ := List.mem_filterMap.mp hline
  rw [String.toList_ofList]
  exact isSingleLine_of_untag? huntag
    (isSingleLine_of_mem_splitLines (List.mem_of_mem_filter htext'))

/-- The records of a class list are read if they are lines. -/
lemma select_classList {records : List String} {lines : List (ClassListLine × LineEnd)}
    (h : ClassListLine.AreOf records (lines.map Prod.fst))
    (hrecords : ∀ r ∈ records, IsSingleLine r.toList) (closed : Bool) :
    select true (fileLines (writeLines closed (lines.map fun l => (l.1.text, l.2)))) =
      records := by
  have hlines : ∀ l ∈ lines.map fun l => (l.1.text, l.2), IsSingleLine l.1 := by
    intro written hwritten
    obtain ⟨l, hl, rfl⟩ := List.mem_map.mp hwritten
    exact isSingleLine_text h hrecords (List.mem_map_of_mem hl)
  have htexts : (lines.map fun l => (l.1.text, l.2)).map Prod.fst =
      (lines.map Prod.fst).map ClassListLine.text := by
    simp [Function.comp_def]
  rw [select_true, filledLines_writeLines closed hlines, htexts, filterMap_untag?_filter,
    filterMap_untag?_text h]
  simp [Function.comp_def]

/-- The lines of a log are read, except the blank ones. -/
lemma select_log {lines : List (String × LineEnd)}
    (h : ∀ r ∈ lines.map Prod.fst, IsSingleLine r.toList) (closed : Bool) :
    select false (fileLines (writeLines closed (lines.map fun l => (l.1.toList, l.2)))) =
      (lines.map Prod.fst).filter fun r => !isBlankText r.toList := by
  have hlines : ∀ l ∈ lines.map fun l => (l.1.toList, l.2), IsSingleLine l.1 := by
    intro written hwritten
    obtain ⟨l, hl, rfl⟩ := List.mem_map.mp hwritten
    exact h l.1 (List.mem_map_of_mem hl)
  have htexts : (lines.map fun l => (l.1.toList, l.2)).map Prod.fst =
      (lines.map Prod.fst).map String.toList := by
    simp [Function.comp_def]
  rw [select_false, filledLines_writeLines closed hlines, htexts, filter_isBlankText_filter,
    List.filter_map, List.map_map]
  simp [Function.comp_def]

/-- Resolution lines are written to a class list, each behind the tag on a line of its own, among
other lines that are not tagged. They are read back exactly if each is one line. Then they are also
read back from a log of their own, except the blank ones. Neither depends on how the lines of the
files end, nor on whether the last one ends. -/
theorem read_written_records (records : List String) :
    (∀ (files : FileTree) (path : Path) (closed : Bool) (lines : List (ClassListLine × LineEnd)),
      ClassListLine.AreOf records (lines.map Prod.fst) →
      files.HoldsLines path closed (lines.map fun l => (l.1.text, l.2)) →
      (read files false path true = .ok records ↔ ∀ r ∈ records, IsSingleLine r.toList)) ∧
    ((∀ r ∈ records, IsSingleLine r.toList) →
      ∀ (files : FileTree) (path : Path) (closed : Bool) (lines : List (String × LineEnd)),
        lines.map Prod.fst = records →
        files.HoldsLines path closed (lines.map fun l => (l.1.toList, l.2)) →
        read files false path false =
          .ok (records.filter fun r => !isBlankText r.toList)) := by
  constructor
  · intro files path closed lines hlines hfile
    rw [read_of_holdsLines hfile]
    constructor
    · intro hread r hr
      rw [← Except.ok.inj hread] at hr
      exact isSingleLine_of_mem_select hr
    · intro hrecords
      rw [select_classList hlines hrecords]
  · rintro hrecords files path closed lines rfl hfile
    rw [read_of_holdsLines hfile, select_log hrecords]

/-- Of two records among the lines of a class list the empty one is lost in a log. The lines of the
class list end in three ways, and two of the ends meet. -/
theorem read_mixed_records :
    ∃ (files : FileTree) (classList log : Path),
      read files false classList true = .ok ["[SPECIES_RESOLVE] LL", ""] ∧
      read files false log false = .ok ["[SPECIES_RESOLVE] LL"] := by
  let lines : List (ClassListLine × LineEnd) :=
    [(.tagged "[SPECIES_RESOLVE] LL".toList, .carriageReturn), (.other [], .feed),
      (.other "@lambda-form".toList, .both), (.tagged [], .feed)]
  let records : List (String × LineEnd) := [("[SPECIES_RESOLVE] LL", .carriageReturn), ("", .feed)]
  let files : FileTree :=
    ⟨[(["a"], .file (Utf8.encode (writeLines false (lines.map fun l => (l.1.text, l.2))))),
      (["b"], .file (Utf8.encode (writeLines true (records.map fun l => (l.1.toList, l.2)))))]⟩
  obtain ⟨hclassList, hlog⟩ := read_written_records ["[SPECIES_RESOLVE] LL", ""]
  have hrecords : ∀ r ∈ ["[SPECIES_RESOLVE] LL", ""], IsSingleLine r.toList := by
    simp [IsSingleLine, isBreak, lineBreaks]
  have hlines : ClassListLine.AreOf ["[SPECIES_RESOLVE] LL", ""] (lines.map Prod.fst) := by
    refine ⟨rfl, fun text htext => ?_⟩
    have htext' : text = [] ∨ text = "@lambda-form".toList := by simpa [lines] using htext
    rcases htext' with rfl | rfl <;> simp [IsSingleLine, isBreak, lineBreaks, tag]
  have hfile : files.HoldsLines (.ofString "a") false (lines.map fun l => (l.1.text, l.2)) := by
    rw [FileTree.HoldsLines]
    rfl
  have hfile' : files.HoldsLines (.ofString "b") true (records.map fun l => (l.1.toList, l.2)) := by
    rw [FileTree.HoldsLines]
    rfl
  refine ⟨files, .ofString "a", .ofString "b", ?_, ?_⟩
  · exact (hclassList files _ false lines hlines hfile).mpr hrecords
  · rw [hlog hrecords files _ true records rfl hfile']
    decide +kernel

end ResolutionLog

end ClassSharing
