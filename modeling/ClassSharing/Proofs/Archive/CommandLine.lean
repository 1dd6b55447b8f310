import ClassSharing.Archive.Launch
import ClassSharing.Proofs.Text.Occurrence

/-!
# Excluded flags in a command line

The process of a static dump repeats the arguments of the machine, but none that asks for another
kind of dump. `map_some_keptArguments` says which arguments are repeated, and `occurs_render_iff`
that an excluded flag stands in the whole command line only where one of the three given names has
it: neither the joining of the words nor the flags of the command line itself make one up.
-/

namespace ClassSharing

open Text

/-! ### Repeated arguments -/

/-- An argument is repeated if it is there and no excluded flag occurs in it. -/
def IsRepeated : Option String → Prop
  | none => False
  | some argument => ∀ flag ∈ excludedFlags, ¬ Occurs flag argument

instance : DecidablePred IsRepeated
  | none => .isFalse id
  | some argument => inferInstanceAs (Decidable (∀ flag ∈ excludedFlags, ¬ Occurs flag argument))

/-- The test for excluded flags looks at every place of a text. -/
lemma containsExcludedFlag_iff {text : String} :
    containsExcludedFlag text = true ↔ ∃ flag ∈ excludedFlags, Occurs flag text := by
  simp only [containsExcludedFlag, List.any_eq_true, occursIn_iff, Occurs]

/-- An argument that is there is repeated unless the test finds an excluded flag in it. -/
lemma isRepeated_some_iff {argument : String} :
    IsRepeated (some argument) ↔ ¬ containsExcludedFlag argument = true := by
  rw [containsExcludedFlag_iff]
  simp [IsRepeated]

/-- The arguments that are repeated, in order and as often as they are given. -/
theorem map_some_keptArguments (arguments : List (Option String)) :
    (keptArguments arguments).map some = arguments.filter IsRepeated := by
  rw [keptArguments, List.map_filterMap, ← List.filterMap_eq_filter]
  congr 1
  funext argument?
  cases argument? with
  | none => rfl
  | some argument =>
    by_cases hflag : containsExcludedFlag argument = true
    · have hnot : ¬ IsRepeated (some argument) := fun h => isRepeated_some_iff.mp h hflag
      simp [hflag, hnot, Option.guard]
    · have his : IsRepeated (some argument) := isRepeated_some_iff.mpr hflag
      simp [hflag, his, Option.guard]

/-- An argument is among those that are repeated if it is given and no excluded flag occurs in
it. -/
lemma mem_keptArguments_iff {argument : String} {arguments : List (Option String)} :
    argument ∈ keptArguments arguments ↔
      some argument ∈ arguments ∧ IsRepeated (some argument) := by
  rw [← List.mem_map_of_injective (Option.some_injective String), map_some_keptArguments,
    List.mem_filter, decide_eq_true_iff]

/-- No excluded flag occurs in an argument that is repeated. -/
lemma isRepeated_of_mem_filterArguments {argument : String}
    {arguments : Option (List (Option String))} (h : argument ∈ filterArguments arguments) :
    IsRepeated (some argument) := by
  cases arguments with
  | none => exact absurd h List.not_mem_nil
  | some as => exact (mem_keptArguments_iff.mp h).2

/-- What is repeated is repeated again. -/
lemma filterArguments_filterArguments (arguments : Option (List (Option String))) :
    filterArguments (some ((filterArguments arguments).map some)) = filterArguments arguments := by
  apply List.map_injective_iff.mpr (Option.some_injective String)
  rw [filterArguments, map_some_keptArguments, List.filter_eq_self]
  intro argument? hargument
  obtain ⟨argument, hmem, rfl⟩ := List.mem_map.mp hargument
  exact decide_eq_true (isRepeated_of_mem_filterArguments hmem)

/-- Arguments that are given one behind the other are repeated one behind the other. -/
lemma filterArguments_append (first rest : List (Option String)) :
    filterArguments (some (first ++ rest)) =
      filterArguments (some first) ++ filterArguments (some rest) :=
  List.filterMap_append

/-! ### The whole command line -/

/-- The words of the command line that are the same for all dumps. -/
def fixedWords : List String := ["-Xlog:cds", "-Xshare:dump"]

/-- What stands in front of a name in the command line. -/
def nameFlags : List String := ["-XX:SharedClassListFile=", "-XX:SharedArchiveFile="]

/-- An excluded flag has no space, and it is not empty. -/
lemma space_not_mem_of_mem_excludedFlags {flag : String} (h : flag ∈ excludedFlags) :
    ' ' ∉ flag.toList ∧ flag.toList ≠ [] := by
  have hall : ∀ flag ∈ excludedFlags, ' ' ∉ flag.toList ∧ flag.toList ≠ [] := by decide +kernel
  exact hall flag h

/-- No excluded flag occurs in the words that are always the same. -/
lemma not_occurs_fixedWords {flag word : String} (h : flag ∈ excludedFlags)
    (hword : word ∈ fixedWords) : ¬ Occurs flag word := by
  have hall : ∀ flag ∈ excludedFlags, ∀ word ∈ fixedWords, ¬ Occurs flag word := by decide +kernel
  exact hall flag h word hword

/-- Behind the flag that names a class list or an archive, an excluded flag occurs only in the
name. -/
lemma occurs_nameFlags_append_iff {flag nameFlag : String} (h : flag ∈ excludedFlags)
    (hname : nameFlag ∈ nameFlags) (name : String) :
    Occurs flag (nameFlag ++ name) ↔ Occurs flag name := by
  have hall : ∀ flag ∈ excludedFlags, ∀ nameFlag ∈ nameFlags, ¬ Occurs flag nameFlag ∧
      NoOverlap flag.toList nameFlag.toList := by decide +kernel
  obtain ⟨hnot, hoverlap⟩ := hall flag h nameFlag hname
  rw [Occurs, String.toList_append]
  exact infix_append_iff_of_noOverlap hnot hoverlap

/-- A text without a space occurs in a command line if it occurs in one of its words. -/
lemma occurs_render_iff_exists {flag : String} (h : flag ∈ excludedFlags) (p : ProcessSpec) :
    Occurs flag p.render ↔ ∃ word ∈ p.command, Occurs flag word := by
  obtain ⟨hspace, hne⟩ := space_not_mem_of_mem_excludedFlags h
  rw [Occurs, ProcessSpec.render, String.toList_intercalate,
    show " ".toList = [' '] from rfl, infix_intercalate_iff hspace hne]
  simp [Occurs]

/-- An excluded flag occurs in the command line of a static dump only where one of the given names
has it. -/
theorem occurs_render_iff {flag : String} (h : flag ∈ excludedFlags)
    (launcher classList archive : String) (arguments : Option (List (Option String))) :
    Occurs flag (staticDumpProcess launcher classList archive arguments).render ↔
      Occurs flag launcher ∨ Occurs flag classList ∨ Occurs flag archive := by
  have hlog : ¬ Occurs flag "-Xlog:cds" := not_occurs_fixedWords h (by decide)
  have hshare : ¬ Occurs flag "-Xshare:dump" := not_occurs_fixedWords h (by decide)
  have hlist : Occurs flag ("-XX:SharedClassListFile=" ++ classList) ↔ Occurs flag classList :=
    occurs_nameFlags_append_iff h (by decide) classList
  have harchive : Occurs flag ("-XX:SharedArchiveFile=" ++ archive) ↔ Occurs flag archive :=
    occurs_nameFlags_append_iff h (by decide) archive
  have harguments : ¬ ∃ word ∈ filterArguments arguments, Occurs flag word := by
    rintro ⟨word, hword, hoccurs⟩
    exact isRepeated_of_mem_filterArguments hword flag h hoccurs
  rw [occurs_render_iff_exists h, staticDumpProcess]
  simp only [List.cons_append, List.nil_append, List.exists_mem_cons_iff, hlog, hshare, hlist,
    harchive, harguments, false_or, or_false]

/-- No excluded flag reaches the process of a static dump through the arguments of the machine, and
nothing else is lost. Its command line is the launcher, the flags of the dump with the two names,
and the arguments that are there and in which no excluded flag occurs, in order and as often as they
are given. Repeating them again changes nothing, and arguments given one behind the other are
repeated one behind the other. In the command line as one text an excluded flag occurs exactly if it
does so in the launcher or in one of the two names. -/
theorem staticDumpProcess_repeats (launcher classList archive : String)
    (arguments : Option (List (Option String))) :
    (staticDumpProcess launcher classList archive arguments).command =
      [launcher, "-Xlog:cds", "-Xshare:dump", "-XX:SharedClassListFile=" ++ classList,
        "-XX:SharedArchiveFile=" ++ archive] ++ filterArguments arguments ∧
    (filterArguments arguments).map some = (arguments.getD []).filter IsRepeated ∧
    filterArguments (some ((filterArguments arguments).map some)) = filterArguments arguments ∧
    (∀ first rest, filterArguments (some (first ++ rest)) =
      filterArguments (some first) ++ filterArguments (some rest)) ∧
    ∀ flag ∈ excludedFlags,
      (Occurs flag (staticDumpProcess launcher classList archive arguments).render ↔
        Occurs flag launcher ∨ Occurs flag classList ∨ Occurs flag archive) := by
  have hrepeated : (filterArguments arguments).map some =
      (arguments.getD []).filter IsRepeated := by
    cases arguments with
    | none => rfl
    | some as => exact map_some_keptArguments as
  exact ⟨rfl, hrepeated, filterArguments_filterArguments arguments, filterArguments_append,
    fun flag h => occurs_render_iff h launcher classList archive arguments⟩

/-- An argument that is given twice is repeated twice, one with an excluded flag inside is left out,
and the flag still occurs in the command line because the class list is named after it. -/
theorem staticDumpProcess_repeats_doubled :
    let p := staticDumpProcess "java" "a-XX:+DumpSharedSpaces.classlist" "a.jsa"
      (some [some "-Xmx1g", none, some "x-XX:+DumpSharedSpacesy", some "-Xmx1g"])
    "-XX:+DumpSharedSpaces" ∈ excludedFlags ∧
      p.command = ["java", "-Xlog:cds", "-Xshare:dump",
        "-XX:SharedClassListFile=a-XX:+DumpSharedSpaces.classlist", "-XX:SharedArchiveFile=a.jsa",
        "-Xmx1g", "-Xmx1g"] ∧
      Occurs "-XX:+DumpSharedSpaces" p.render := by
  intro p
  have hflag : "-XX:+DumpSharedSpaces" ∈ excludedFlags := by decide
  have hname : Occurs "-XX:+DumpSharedSpaces" "a-XX:+DumpSharedSpaces.classlist" := by
    decide +kernel
  have hrepeated : filterArguments (some [some "-Xmx1g", none, some "x-XX:+DumpSharedSpacesy",
      some "-Xmx1g"]) = ["-Xmx1g", "-Xmx1g"] := by decide +kernel
  obtain ⟨hcommand, -, -, -, hoccurs⟩ := staticDumpProcess_repeats "java"
    "a-XX:+DumpSharedSpaces.classlist" "a.jsa"
    (some [some "-Xmx1g", none, some "x-XX:+DumpSharedSpacesy", some "-Xmx1g"])
  rw [hrepeated] at hcommand
  exact ⟨hflag, hcommand, (hoccurs _ hflag).mpr (.inr (.inl hname))⟩

end ClassSharing
