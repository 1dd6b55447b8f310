import ClassSharing.Resolution.MethodType
import Mathlib

/-!
# Descriptors of method types

The two readings of a descriptor against its grammar. `isMethodType_iff` says that the pass over the
characters accepts exactly the texts of the grammar (`IsDescriptorText`), and
`exists_parse_eq_ok` says that the cut at the underscore reads every such text as a method type
with that very descriptor.
-/

namespace ClassSharing

/-! ### The grammar -/

/-- The letters of the basic types. -/
def basicTypeLetters : List Char := "LIJFDV".toList

/-- The letters of the basic types and the digits. -/
def parameterLetters : List Char := "LIJFDV0123456789".toList

/-- The texts `[LIJFDV][LIJFDV0-9]*_[LIJFDV]`: the first parameter, the parameters and counts behind
it, an underscore, and the result. -/
def IsDescriptorText (text : String) : Prop :=
  ∃ first rest result, text.toList = first :: rest ++ ['_', result] ∧
    first ∈ basicTypeLetters ∧ (∀ c ∈ rest, c ∈ parameterLetters) ∧ result ∈ basicTypeLetters

/-- The test for a basic type is membership in the list of letters. -/
lemma isBasicType_iff {c : Char} : isBasicType c = true ↔ c ∈ basicTypeLetters := by
  simp [isBasicType, basicTypeLetters]

/-- A character from `0` to `9` is one of the ten digits. -/
lemma mem_digits_iff {c : Char} :
    ('0' ≤ c ∧ c ≤ '9') ↔ c ∈ ['0', '1', '2', '3', '4', '5', '6', '7', '8', '9'] := by
  constructor
  · rintro ⟨hlow, hhigh⟩
    have hlow' : 48 ≤ c.toNat := hlow
    have hhigh' : c.toNat ≤ 57 := hhigh
    have hc : c = Char.ofNat c.toNat := (Char.ofNat_toNat c).symm
    generalize c.toNat = n at hc hlow' hhigh'
    subst hc
    interval_cases n <;> decide
  · intro h
    simp only [List.mem_cons, List.not_mem_nil, or_false] at h
    rcases h with rfl | rfl | rfl | rfl | rfl | rfl | rfl | rfl | rfl | rfl <;> decide

/-- The test for a parameter or a count is membership in the list of letters and digits. -/
lemma isParameterChar_iff {c : Char} : isParameterChar c = true ↔ c ∈ parameterLetters := by
  have hsplit : parameterLetters =
      basicTypeLetters ++ ['0', '1', '2', '3', '4', '5', '6', '7', '8', '9'] := by decide
  rw [hsplit, List.mem_append, ← isBasicType_iff, ← mem_digits_iff]
  simp [isParameterChar]

/-- The underscore is neither a parameter nor a count. -/
lemma ne_underscore_of_isParameterChar {c : Char} (h : isParameterChar c = true) : c ≠ '_' := by
  rintro rfl
  exact absurd h (by decide)

/-- A descriptor is not empty. -/
lemma IsDescriptorText.ne_empty {text : String} (h : IsDescriptorText text) : text ≠ "" := by
  rintro rfl
  obtain ⟨first, rest, result, htext, -⟩ := h
  simp at htext

/-- A descriptor has no space. -/
lemma IsDescriptorText.space_not_mem {text : String} (h : IsDescriptorText text) :
    ' ' ∉ text.toList := by
  obtain ⟨first, rest, result, htext, hfirst, hrest, hresult⟩ := h
  have hletter : ' ' ∉ basicTypeLetters := by decide
  have hparameter : ' ' ∉ parameterLetters := by decide
  rw [htext]
  simp only [List.cons_append, List.mem_cons, List.mem_append, List.not_mem_nil, or_false, not_or]
  refine ⟨?_, fun hmem => hparameter (hrest _ hmem), by decide, ?_⟩
  · rintro rfl
    exact hletter hfirst
  · rintro rfl
    exact hletter hresult

/-! ### The pass over the characters -/

/-- Behind the first parameter a descriptor goes on with parameters and counts, and ends with an
underscore and a result. -/
lemma isDescriptorTail_iff {text : List Char} :
    isDescriptorTail text = true ↔
      ∃ rest result, text = rest ++ ['_', result] ∧
        (∀ c ∈ rest, isParameterChar c = true) ∧ isBasicType result = true := by
  induction text with
  | nil => simp [isDescriptorTail]
  | cons c more ih =>
    constructor
    · intro h
      unfold isDescriptorTail at h
      split at h
      · rename_i hc
        subst hc
        split at h
        · rename_i r
          exact ⟨[], r, rfl, by simp, h⟩
        · exact absurd h (by simp)
      · rw [Bool.and_eq_true] at h
        obtain ⟨rest, result, rfl, hrest, hresult⟩ := ih.mp h.2
        refine ⟨c :: rest, result, rfl, ?_, hresult⟩
        simpa [h.1] using hrest
    · rintro ⟨rest, result, htext, hrest, hresult⟩
      unfold isDescriptorTail
      cases rest with
      | nil =>
        obtain ⟨rfl, rfl⟩ := List.cons.inj htext
        simpa using hresult
      | cons p rest =>
        obtain ⟨rfl, rfl⟩ := List.cons.inj htext
        have hp : isParameterChar c = true := hrest c List.mem_cons_self
        have htail := ih.mpr
          ⟨rest, result, rfl, fun d hd => hrest d (List.mem_cons_of_mem c hd), hresult⟩
        rw [if_neg (ne_underscore_of_isParameterChar hp), hp, Bool.true_and]
        exact htail

/-- The pass over the characters accepts exactly the texts of the grammar. -/
theorem isMethodType_iff {text : String} : isMethodType text = true ↔ IsDescriptorText text := by
  unfold isMethodType IsDescriptorText
  simp only [← isBasicType_iff, ← isParameterChar_iff]
  constructor
  · intro h
    cases htext : text.toList with
    | nil => simp [htext, isDescriptor] at h
    | cons c more =>
      rw [htext, isDescriptor, Bool.and_eq_true, isDescriptorTail_iff] at h
      obtain ⟨hc, rest, result, rfl, hrest, hresult⟩ := h
      exact ⟨c, rest, result, rfl, hc, hrest, hresult⟩
  · rintro ⟨first, rest, result, htext, hfirst, hrest, hresult⟩
    rw [htext, List.cons_append, isDescriptor, hfirst, Bool.true_and, isDescriptorTail_iff]
    exact ⟨rest, result, rfl, hrest, hresult⟩

/-! ### The cut at the underscore -/

namespace MethodType

/-- A text is cut at its first underscore. -/
lemma cut_append_underscore {parameters result : List Char} (h : '_' ∉ parameters) :
    cut (parameters ++ '_' :: result) = (parameters, result) := by
  have hpass : ∀ c ∈ parameters, (decide (c ≠ '_')) = true := by
    intro c hc
    exact decide_eq_true fun heq => h (heq ▸ hc)
  rw [cut, List.takeWhile_append_of_pos hpass, List.dropWhile_append_of_pos hpass]
  simp

/-- The two parts of a descriptor as fields. -/
def partFields (parameters result : String) : Entries :=
  .ofList [("parameters", .str parameters), ("return_type", .str result)]

/-- Two parts that pass their checks make up a method type. -/
lemma ofFields_eq_ok {parameters : String} {result : Char}
    (hp : isParameters parameters.toList = true) (hr : isBasicType result = true) :
    ofFields (partFields parameters (String.ofList [result])) =
      .ok ⟨parameters, result, hp, hr⟩ := by
  have hparameters :
      Checked.required (partFields parameters (String.ofList [result])) "parameters"
        (fun v => (Checked.text v).andThen checkParameters) = .ok ⟨parameters, hp⟩ := by
    simp [partFields, Checked.required, Entries.ofList, Entries.get?, Checked.text, Checked.textOf?,
      Checked.andThen, checkParameters, hp]
  have hresult :
      Checked.required (partFields parameters (String.ofList [result])) "return_type"
        (fun v => (Checked.text v).andThen checkResult) = .ok ⟨result, hr⟩ := by
    simp [partFields, Checked.required, Entries.ofList, Entries.get?, Checked.text, Checked.textOf?,
      Checked.andThen, checkResult, hr]
  have honly : Checked.only fieldNames (partFields parameters (String.ofList [result])) = .ok () :=
    rfl
  rw [ofFields, hparameters, hresult, honly]
  rfl

/-- The cut at the underscore reads every descriptor as a method type with that descriptor. -/
theorem exists_parse_eq_ok {text : String} (h : isMethodType text = true) :
    ∃ t, parse text = .ok t ∧ t.text = text := by
  obtain ⟨first, rest, result, htext, hfirst, hrest, hresult⟩ := isMethodType_iff.mp h
  rw [← isBasicType_iff] at hfirst hresult
  simp only [← isParameterChar_iff] at hrest
  have hp : isParameters (String.ofList (first :: rest)).toList = true := by
    simpa [isParameters, hfirst] using hrest
  have hfree : '_' ∉ first :: rest := by
    intro hmem
    rcases List.mem_cons.mp hmem with hmem | hmem
    · exact absurd (hmem ▸ hfirst) (by decide)
    · exact ne_underscore_of_isParameterChar (hrest _ hmem) rfl
  refine ⟨⟨String.ofList (first :: rest), result, hp, hresult⟩, ?_, ?_⟩
  · have hcut : cut text.toList = (first :: rest, [result]) := by
      rw [htext]
      exact cut_append_underscore hfree
    rw [parse, hcut]
    exact ofFields_eq_ok hp hresult
  · rw [← String.toList_inj, htext]
    simp [MethodType.text]

/-- The descriptor of a method type is a descriptor. -/
lemma isMethodType_text (t : MethodType) : isMethodType t.text = true := by
  have hp := t.parameters_ok
  rw [isMethodType_iff]
  cases hparameters : t.parameters.toList with
  | nil => simp [hparameters, isParameters] at hp
  | cons first rest =>
    rw [hparameters, isParameters, Bool.and_eq_true, List.all_eq_true] at hp
    refine ⟨first, rest, t.result, ?_, isBasicType_iff.mp hp.1,
      fun c hc => isParameterChar_iff.mp (hp.2 c hc), isBasicType_iff.mp t.result_ok⟩
    simp [text, hparameters]

/-- A method type is determined by its descriptor. -/
lemma text_injective {s t : MethodType} (h : s.text = t.text) : s = t := by
  obtain ⟨sp, sr, _, _⟩ := s
  obtain ⟨tp, tr, _, _⟩ := t
  have hlist : sp.toList ++ ['_', sr] = tp.toList ++ ['_', tr] := by
    have h' := congrArg String.toList h
    simpa [text] using h'
  obtain ⟨hparameters, hresult⟩ := List.append_inj' hlist rfl
  obtain rfl : sp = tp := String.toList_inj.mp hparameters
  obtain rfl : sr = tr := by simpa using hresult
  rfl

end MethodType

end ClassSharing
