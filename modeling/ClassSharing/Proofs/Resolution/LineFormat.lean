import ClassSharing.Proofs.Resolution.MethodType
import ClassSharing.Proofs.Resolution.Tokens
import ClassSharing.Resolution.Record

/-!
# The format of a line

The lines of a resolution log as a format of their own, told without cutting a line: what a line
looks like that has fields (`HasFields`), and which check is the first that any other line fails
(`FailsFirst`). Every line is of one of the two sorts, and reading a line finds out which:
`parseAt_follows_format` says that a line is read as a record with exactly the fields of the format,
and that the only other outcome is its rejection by the first check that it fails.
-/

namespace ClassSharing

/-! ### The format -/

/-- The names of the four holder classes. -/
def holderNames : List String :=
  ["java.lang.invoke.DirectMethodHandle$Holder", "java.lang.invoke.DelegatingMethodHandle$Holder",
    "java.lang.invoke.LambdaForm$Holder", "java.lang.invoke.Invokers$Holder"]

/-- A line that records a lambda form: the marker, perhaps with a text glued to it, a holder class,
a method, a descriptor, and spaces at the end. The method may be empty. -/
def IsLambdaFormLine (line holder method descriptor : String) : Prop :=
  ∃ glued k,
    line = "[LF_RESOLVE]" ++ glued ++ " " ++ holder ++ " " ++ method ++ " " ++ descriptor ++
      spaces k ∧
    ' ' ∉ glued.toList ∧ ' ' ∉ method.toList ∧ holder ∈ holderNames ∧ IsDescriptorText descriptor

/-- A line that records a species: the marker, perhaps with a text glued to it, a species, and
spaces at the end. -/
def IsSpeciesLine (line species : String) : Prop :=
  ∃ glued k, line = "[SPECIES_RESOLVE]" ++ glued ++ " " ++ species ++ spaces k ∧
    ' ' ∉ glued.toList ∧ ' ' ∉ species.toList ∧ species ≠ ""

/-- The fields that a line has by the format. -/
inductive HasFields (line : String) : RecordFields → Prop
  | lambdaForm {holder method : String} {type : MethodType}
      (h : IsLambdaFormLine line holder method type.text) :
      HasFields line ⟨.lambdaForm, line, some holder, some method, some type, none⟩
  | species {name : String} (h : IsSpeciesLine line name) :
      HasFields line ⟨.species, line, none, none, none, some name⟩

/-- One of the fields of a line is the line itself. -/
lemma HasFields.raw_eq {line : String} {fields : RecordFields} (h : HasFields line fields) :
    fields.raw = line := by
  cases h <;> rfl

/-- A line starts with the marker of a kind. -/
def StartsWithMarker (line : String) (kind : ResolveKind) : Prop :=
  ∃ rest, line = kind.marker ++ rest

/-- The first check of the format that a line fails, and the part of the line that is shown for it.
The checks are those of the marker, the number of items, the holder class and the descriptor, and
each of them is only made on lines that pass those before it. -/
inductive FailsFirst (line : String) : Reason → Option String → Prop
  | wrongPrefix (h : ∀ kind, ¬ StartsWithMarker line kind) : FailsFirst line .wrongPrefix none
  | itemCount {kind : ResolveKind} {items : List String} (hkind : StartsWithMarker line kind)
      (hitems : IsWrittenWith line items) (hcount : items.length ≠ kind.tokenCount) :
      FailsFirst line .itemCount (some (toString items.length))
  | holderName {first holder method descriptor : String}
      (hkind : StartsWithMarker line .lambdaForm)
      (hitems : IsWrittenWith line [first, holder, method, descriptor])
      (hholder : holder ∉ holderNames) : FailsFirst line .holderName (some holder)
  | methodType {first holder method descriptor : String}
      (hkind : StartsWithMarker line .lambdaForm)
      (hitems : IsWrittenWith line [first, holder, method, descriptor])
      (hholder : holder ∈ holderNames) (hdescriptor : ¬ IsDescriptorText descriptor) :
      FailsFirst line .methodType (some descriptor)

/-! ### Holder classes and kinds -/

/-- The names of the holder classes are the four of the format. -/
lemma HolderClass.name_mem_holderNames (h : HolderClass) : h.name ∈ holderNames := by
  cases h <;> decide

/-- Every name of the format is the name of a holder class. -/
lemma exists_ofName?_eq_some {holder : String} (h : holder ∈ holderNames) :
    ∃ c, HolderClass.ofName? holder = some c ∧ c.name = holder := by
  simp only [holderNames, List.mem_cons, List.not_mem_nil, or_false] at h
  rcases h with rfl | rfl | rfl | rfl
  · exact ⟨.direct, HolderClass.ofName?_name .direct, rfl⟩
  · exact ⟨.delegating, HolderClass.ofName?_name .delegating, rfl⟩
  · exact ⟨.basicForms, HolderClass.ofName?_name .basicForms, rfl⟩
  · exact ⟨.invokers, HolderClass.ofName?_name .invokers, rfl⟩

/-- Any other name is the name of none. -/
lemma ofName?_eq_none {holder : String} (h : holder ∉ holderNames) :
    HolderClass.ofName? holder = none := by
  cases hc : HolderClass.ofName? holder with
  | none => rfl
  | some c =>
    have hmem := c.name_mem_holderNames
    rw [HolderClass.name_of_ofName? hc] at hmem
    exact absurd hmem h

/-- No holder name has a space. -/
lemma space_not_mem_holderName {holder : String} (h : holder ∈ holderNames) :
    ' ' ∉ holder.toList := by
  simp only [holderNames, List.mem_cons, List.not_mem_nil, or_false] at h
  rcases h with rfl | rfl | rfl | rfl <;> decide

/-- A marker stands in front of a line if its characters do. -/
lemma startsWithMarker_iff {line : String} {kind : ResolveKind} :
    StartsWithMarker line kind ↔ kind.marker.toList <+: line.toList := by
  constructor
  · rintro ⟨rest, rfl⟩
    exact ⟨rest.toList, by simp⟩
  · rintro ⟨rest, hrest⟩
    refine ⟨String.ofList rest, ?_⟩
    rw [← String.toList_inj, ← hrest]
    simp

/-- The kind of a line is the one whose marker it starts with. -/
lemma ofLine?_eq_some {line : String} {kind : ResolveKind} (h : StartsWithMarker line kind) :
    ResolveKind.ofLine? line = some kind := by
  obtain ⟨rest, rfl⟩ := h
  cases kind with
  | lambdaForm => simp [ResolveKind.ofLine?, ResolveKind.all, ResolveKind.marker, ResolveKind.name]
  | species => simp [ResolveKind.ofLine?, ResolveKind.all, ResolveKind.marker, ResolveKind.name]

/-- A line without a marker has no kind. -/
lemma ofLine?_eq_none {line : String} (h : ∀ kind, ¬ StartsWithMarker line kind) :
    ResolveKind.ofLine? line = none := by
  simp only [startsWithMarker_iff] at h
  simp only [ResolveKind.ofLine?, List.find?_eq_none, List.isPrefixOf_iff_prefix]
  exact fun kind _ => h kind

/-! ### Markers and items -/

/-- A text without a separator that stands in front of a separated list stands in front of its first
item. -/
lemma prefix_of_prefix_append_cons {p a b : List Char} {c : Char} (h : p <+: a ++ c :: b)
    (hc : c ∉ p) : p <+: a := by
  rcases List.prefix_or_prefix_of_prefix h (List.prefix_append a (c :: b)) with hpa | ⟨t, rfl⟩
  · exact hpa
  · rw [List.prefix_append_right_inj] at h
    cases t with
    | nil => simp
    | cons d t =>
      obtain ⟨rfl, -⟩ := List.cons_prefix_cons.mp h
      exact absurd (List.mem_append_right a List.mem_cons_self) hc

/-- A marker has no space. -/
lemma space_not_mem_marker (kind : ResolveKind) : ' ' ∉ kind.marker.toList := by
  cases kind <;> decide

/-- In a line of several items that starts with a marker, the first item does. -/
lemma exists_glued {line first second : String} {more : List String} {kind : ResolveKind}
    (hkind : StartsWithMarker line kind) (hitems : IsWrittenWith line (first :: second :: more)) :
    ∃ glued, first = kind.marker ++ glued ∧ ' ' ∉ glued.toList := by
  obtain ⟨⟨k, hline⟩, hfree, -⟩ := hitems
  rw [startsWithMarker_iff, hline] at hkind
  have hfirst : kind.marker.toList <+: first.toList := by
    refine prefix_of_prefix_append_cons (c := ' ')
      (b := (" ".intercalate (second :: more) ++ spaces k).toList) ?_ (space_not_mem_marker kind)
    simpa [String.toList_intercalate] using hkind
  obtain ⟨rest, hrest⟩ := hfirst
  refine ⟨String.ofList rest, ?_, ?_⟩
  · rw [← String.toList_inj, ← hrest]
    simp
  · have hspace := hfree first List.mem_cons_self
    rw [← hrest, List.mem_append, not_or] at hspace
    simpa using hspace.2

/-- A line of a lambda form starts with the marker and is written with four items, the last three
of which are its holder class, its method and its descriptor. -/
lemma isLambdaFormLine_iff {line holder method descriptor : String} :
    IsLambdaFormLine line holder method descriptor ↔
      StartsWithMarker line .lambdaForm ∧
        (∃ first, IsWrittenWith line [first, holder, method, descriptor]) ∧
        holder ∈ holderNames ∧ IsDescriptorText descriptor := by
  constructor
  · rintro ⟨glued, k, rfl, hglued, hmethod, hholder, hdescriptor⟩
    refine ⟨⟨glued ++ " " ++ holder ++ " " ++ method ++ " " ++ descriptor ++ spaces k, ?_⟩,
      ⟨"[LF_RESOLVE]" ++ glued, ⟨⟨k, rfl⟩, ?_, ?_⟩⟩, hholder, hdescriptor⟩
    · simp only [ResolveKind.marker, ResolveKind.name, String.append_assoc]
      rfl
    · simp [hglued, hmethod, space_not_mem_holderName hholder, hdescriptor.space_not_mem]
    · simp [hdescriptor.ne_empty]
  · rintro ⟨hkind, ⟨first, hitems⟩, hholder, hdescriptor⟩
    obtain ⟨glued, rfl, hglued⟩ := exists_glued hkind hitems
    obtain ⟨⟨k, rfl⟩, hfree, -⟩ := hitems
    exact ⟨glued, k, rfl, hglued, hfree method (by simp), hholder, hdescriptor⟩

/-- A line of a species starts with the marker and is written with two items, the last of which is
the species. -/
lemma isSpeciesLine_iff {line species : String} :
    IsSpeciesLine line species ↔
      StartsWithMarker line .species ∧ ∃ first, IsWrittenWith line [first, species] := by
  constructor
  · rintro ⟨glued, k, rfl, hglued, hspecies, hne⟩
    refine ⟨⟨glued ++ " " ++ species ++ spaces k, ?_⟩,
      ⟨"[SPECIES_RESOLVE]" ++ glued, ⟨⟨k, rfl⟩, ?_, ?_⟩⟩⟩
    · simp only [ResolveKind.marker, ResolveKind.name, String.append_assoc]
      rfl
    · simp [hglued, hspecies]
    · simpa using hne
  · rintro ⟨hkind, first, hitems⟩
    obtain ⟨glued, rfl, hglued⟩ := exists_glued hkind hitems
    obtain ⟨⟨k, rfl⟩, hfree, hlast⟩ := hitems
    exact ⟨glued, k, rfl, hglued, hfree species (by simp), by simpa using hlast⟩

/-- The lines that have fields are those of lambda forms and of species: every descriptor is that of
a method type. -/
lemma exists_hasFields_iff {line : String} :
    (∃ fields, HasFields line fields) ↔
      (∃ holder method descriptor, IsLambdaFormLine line holder method descriptor) ∨
        ∃ name, IsSpeciesLine line name := by
  constructor
  · rintro ⟨fields, h⟩
    cases h with
    | lambdaForm h => exact .inl ⟨_, _, _, h⟩
    | species h => exact .inr ⟨_, h⟩
  · rintro (⟨holder, method, descriptor, h⟩ | ⟨name, h⟩)
    · obtain ⟨-, -, -, -, -, -, hdescriptor⟩ := id h
      obtain ⟨type, -, rfl⟩ := MethodType.exists_parse_eq_ok (isMethodType_iff.mpr hdescriptor)
      exact ⟨_, .lambdaForm h⟩
    · exact ⟨_, .species h⟩

/-- Every line either has fields or fails a check. -/
lemma hasFields_or_failsFirst (line : String) :
    (∃ fields, HasFields line fields) ∨ ∃ reason detail, FailsFirst line reason detail := by
  by_cases hkind : ∃ kind, StartsWithMarker line kind
  · obtain ⟨kind, hkind⟩ := hkind
    have hitems : IsWrittenWith line (tokens line) := tokens_eq_iff.mp rfl
    by_cases hcount : (tokens line).length = kind.tokenCount
    · cases kind with
      | lambdaForm =>
        obtain ⟨first, holder, method, descriptor, hfour⟩ := List.length_eq_four.mp hcount
        rw [hfour] at hitems
        by_cases hholder : holder ∈ holderNames
        · by_cases hdescriptor : IsDescriptorText descriptor
          · have hline := isLambdaFormLine_iff.mpr ⟨hkind, ⟨first, hitems⟩, hholder, hdescriptor⟩
            exact .inl (exists_hasFields_iff.mpr (.inl ⟨_, _, _, hline⟩))
          · exact .inr ⟨_, _, .methodType hkind hitems hholder hdescriptor⟩
        · exact .inr ⟨_, _, .holderName hkind hitems hholder⟩
      | species =>
        obtain ⟨first, name, htwo⟩ := List.length_eq_two.mp hcount
        rw [htwo] at hitems
        exact .inl ⟨_, .species (isSpeciesLine_iff.mpr ⟨hkind, first, hitems⟩)⟩
    · exact .inr ⟨_, _, .itemCount hkind hitems hcount⟩
  · exact .inr ⟨_, _, .wrongPrefix (not_exists.mp hkind)⟩

/-! ### Reading a line -/

namespace Record

variable {number : Option Int} {line : String}

/-- A line that starts with a marker is not empty. -/
lemma ne_empty_of_startsWithMarker {kind : ResolveKind} (h : StartsWithMarker line kind) :
    line ≠ "" := by
  obtain ⟨rest, rfl⟩ := h
  cases kind <;> simp [ResolveKind.marker]

/-- The record of a line that starts with a marker is built without an issue. -/
lemma parseAt_eq_ok {kind : ResolveKind} {resolved : Resolved} (hkind : StartsWithMarker line kind)
    (hresolved : resolvedOf (reject number line) kind (tokens line) = .ok resolved) :
    parseAt number line = .ok ⟨line, resolved, ne_empty_of_startsWithMarker hkind⟩ := by
  have hline : ofLine line resolved = .ok ⟨line, resolved, ne_empty_of_startsWithMarker hkind⟩ :=
    dif_neg (ne_empty_of_startsWithMarker hkind)
  simp only [parseAt, ofLine?_eq_some hkind, hresolved, hline]
  rfl

/-- What is wrong with the items of a line is wrong with the line. -/
lemma parseAt_eq_error {kind : ResolveKind} {fault : LineFault} (hkind : StartsWithMarker line kind)
    (hfault : resolvedOf (reject number line) kind (tokens line) = .error fault) :
    parseAt number line = .error fault := by
  simp only [parseAt, ofLine?_eq_some hkind, hfault]

/-- A wrong number of items is a fault of any kind of line. -/
lemma resolvedOf_eq_itemCount {f : Reason → Option String → LineFault} {kind : ResolveKind}
    {items : List String} (h : items.length ≠ kind.tokenCount) :
    resolvedOf f kind items = .error (f .itemCount (some (toString items.length))) := by
  cases kind with
  | lambdaForm =>
    match items with
    | [] | [_] | [_, _] | [_, _, _] | _ :: _ :: _ :: _ :: _ :: _ => rfl
    | [_, _, _, _] => exact absurd rfl h
  | species =>
    match items with
    | [] | [_] | _ :: _ :: _ :: _ => rfl
    | [_, _] => exact absurd rfl h

/-- The items of a lambda form are read without an issue once they have passed their checks. -/
lemma exists_resolvedOf_eq_ok (first method : String) {holder descriptor : String}
    (hholder : holder ∈ holderNames) (hdescriptor : IsDescriptorText descriptor) :
    ∃ c t, c.name = holder ∧ t.text = descriptor ∧
      ∀ f, resolvedOf f .lambdaForm [first, holder, method, descriptor] =
        .ok (.lambdaForm c method t) := by
  obtain ⟨c, hc, hname⟩ := exists_ofName?_eq_some hholder
  have hpass := isMethodType_iff.mpr hdescriptor
  obtain ⟨t, ht, htext⟩ := MethodType.exists_parse_eq_ok hpass
  refine ⟨c, t, hname, htext, fun f => ?_⟩
  simp [resolvedOf, hc, hpass, ht, Checked.titled]

/-- A line with fields is read as a record with these fields, wherever it stands. -/
lemma exists_parseAt_eq_ok {fields : RecordFields} (h : HasFields line fields) :
    ∃ r : Record, r.fields = fields ∧ ∀ number, parseAt number line = .ok r := by
  cases h with
  | @lambdaForm holder method type hline =>
    obtain ⟨hkind, ⟨first, hitems⟩, hholder, hdescriptor⟩ := isLambdaFormLine_iff.mp hline
    obtain ⟨c, t, rfl, htext, hresolved⟩ :=
      exists_resolvedOf_eq_ok first method hholder hdescriptor
    obtain rfl : t = type := MethodType.text_injective htext
    rw [← tokens_eq_iff.mpr hitems] at hresolved
    exact ⟨⟨line, .lambdaForm c method t, ne_empty_of_startsWithMarker hkind⟩, rfl,
      fun number => parseAt_eq_ok hkind (hresolved _)⟩
  | @species name hline =>
    obtain ⟨hkind, first, hitems⟩ := isSpeciesLine_iff.mp hline
    refine ⟨⟨line, .species name, ne_empty_of_startsWithMarker hkind⟩, rfl, fun number => ?_⟩
    refine parseAt_eq_ok hkind ?_
    rw [tokens_eq_iff.mpr hitems]
    rfl

/-- A line that fails a check is rejected by it, with the line as it is and the position where it
stands. -/
lemma parseAt_eq_error_of_failsFirst {reason : Reason} {detail : Option String}
    (h : FailsFirst line reason detail) (number : Option Int) :
    parseAt number line = .error (.rejected ⟨line, reason, detail, number⟩) := by
  cases h with
  | wrongPrefix hnone => simp [parseAt, ofLine?_eq_none hnone, reject]
  | itemCount hkind hitems hcount =>
    refine parseAt_eq_error hkind ?_
    rw [tokens_eq_iff.mpr hitems]
    exact resolvedOf_eq_itemCount hcount
  | holderName hkind hitems hholder =>
    refine parseAt_eq_error hkind ?_
    rw [tokens_eq_iff.mpr hitems]
    simp [resolvedOf, ofName?_eq_none hholder, reject]
  | methodType hkind hitems hholder hdescriptor =>
    refine parseAt_eq_error hkind ?_
    obtain ⟨c, hc, -⟩ := exists_ofName?_eq_some hholder
    rw [tokens_eq_iff.mpr hitems]
    simp [resolvedOf, hc, mt isMethodType_iff.mp hdescriptor, reject]

/-- What reading a line gives. Neither the record nor the check that rejects the line depends on
where the line stands. -/
theorem parseAt_cases (line : String) :
    (∃ r : Record, HasFields line r.fields ∧ ∀ number, parseAt number line = .ok r) ∨
      ∃ reason detail, FailsFirst line reason detail ∧
        ∀ number, parseAt number line = .error (.rejected ⟨line, reason, detail, number⟩) := by
  rcases hasFields_or_failsFirst line with ⟨fields, hfields⟩ | ⟨reason, detail, hfails⟩
  · obtain ⟨r, rfl, hr⟩ := exists_parseAt_eq_ok hfields
    exact .inl ⟨r, hfields, hr⟩
  · exact .inr ⟨reason, detail, hfails, parseAt_eq_error_of_failsFirst hfails⟩

end Record

end ClassSharing
