import ClassSharing.Proofs.Resolution.MethodType
import ClassSharing.Proofs.Validation.Fields

/-!
# Reading and writing descriptors

A method type is written as its descriptor and read back from it. `parse_eq_ok_iff` says that
reading is exactly the inverse of writing: a text is read as a method type if and only if it is the
descriptor of that type. `readings_agree` puts this beside the pass over the characters: the two
readings of a descriptor accept the same texts.
-/

namespace ClassSharing.MethodType

/-! ### The fields -/

/-- Parameters that pass their check are kept. -/
lemma checkParameters_eq_ok_iff {s : String} {p : { s : String // isParameters s.toList = true }} :
    checkParameters s = .ok p ↔ p.1 = s := by
  obtain ⟨p, hp⟩ := p
  unfold checkParameters
  constructor
  · intro h
    split at h
    · exact (congrArg Subtype.val (Checked.ok.inj h)).symm
    · exact absurd h (by simp [Checked.fail])
  · rintro rfl
    rw [dif_pos hp]

/-- A result that passes its check is a single character. -/
lemma checkResult_eq_ok_iff {s : String} {r : { c : Char // isBasicType c = true }} :
    checkResult s = .ok r ↔ s.toList = [r.1] := by
  obtain ⟨r, hr⟩ := r
  unfold checkResult
  constructor
  · intro h
    split at h
    · rename_i c hs
      split at h
      · rw [hs, ← congrArg Subtype.val (Checked.ok.inj h)]
      · exact absurd h (by simp [Checked.fail])
    · exact absurd h (by simp [Checked.fail])
  · intro hs
    have hs' : s.toList = [r] := hs
    rw [hs']
    exact dif_pos hr

/-- Two texts are accepted as the fields of a method type if they are its parameters and its
result. -/
theorem ofFields_partFields_eq_ok_iff {parameters result : String} {t : MethodType} :
    ofFields (partFields parameters result) = .ok t ↔
      t.parameters = parameters ∧ result.toList = [t.result] := by
  constructor
  · intro h
    have hparts : Checked.seq (Checked.seq (Checked.seq
        (.ok fun p r (_ : Unit) => (⟨p.1, r.1, p.2, r.2⟩ : MethodType))
        (Checked.under (.field "parameters") (checkParameters parameters)))
        (Checked.under (.field "return_type") (checkResult result))) (.ok ()) = .ok t := h
    obtain ⟨_, -, hmake, -, rfl⟩ := Checked.seq_eq_ok.mp hparts
    obtain ⟨_, r, hfirst, hr, rfl⟩ := Checked.seq_eq_ok.mp hmake
    obtain ⟨_, p, hfun, hp, rfl⟩ := Checked.seq_eq_ok.mp hfirst
    obtain rfl := Checked.ok.inj hfun
    rw [Checked.under_eq_ok_iff] at hp hr
    exact ⟨checkParameters_eq_ok_iff.mp hp, checkResult_eq_ok_iff.mp hr⟩
  · rintro ⟨rfl, hresult⟩
    obtain rfl : result = String.ofList [t.result] := by
      rw [← hresult, String.ofList_toList]
    exact ofFields_eq_ok t.parameters_ok t.result_ok

/-! ### The codec -/

/-- A text with something behind its first underscore is put together from its two parts. -/
lemma eq_of_cut {text parameters result : List Char} (h : cut text = (parameters, result))
    (hne : result ≠ []) : text = parameters ++ '_' :: result := by
  obtain ⟨rfl, rfl⟩ := Prod.mk.inj h
  cases hrest : text.dropWhile (· ≠ '_') with
  | nil => exact absurd (by rw [hrest]; rfl) hne
  | cons c rest =>
    have hc : c = '_' := by
      have hhead := List.head?_dropWhile_not (fun c : Char => decide (c ≠ '_')) text
      rw [hrest] at hhead
      simpa using hhead
    have hsplit := List.takeWhile_append_dropWhile (p := fun c => decide (c ≠ '_')) (l := text)
    rw [hrest, hc] at hsplit
    rw [List.drop_one, List.tail_cons]
    exact hsplit.symm

/-- A text is read as a method type if and only if it is the descriptor of that type. -/
theorem parse_eq_ok_iff {s : String} {t : MethodType} : parse s = .ok t ↔ t.text = s := by
  constructor
  · intro h
    have hfields : ofFields (partFields (String.ofList (cut s.toList).1)
        (String.ofList (cut s.toList).2)) = .ok t := h
    obtain ⟨hparameters, hresult⟩ := ofFields_partFields_eq_ok_iff.mp hfields
    rw [String.toList_ofList] at hresult
    have hcut : cut s.toList = (t.parameters.toList, [t.result]) := by
      rw [hparameters, String.toList_ofList, ← hresult]
    rw [← String.toList_inj, eq_of_cut hcut (by simp)]
    simp [text]
  · rintro rfl
    obtain ⟨t', ht', htext⟩ := exists_parse_eq_ok (isMethodType_text t)
    rwa [text_injective htext] at ht'

/-- No parameter is an underscore. -/
lemma underscore_not_mem_parameters (t : MethodType) : '_' ∉ t.parameters.toList := by
  have hp := t.parameters_ok
  intro hmem
  cases hlist : t.parameters.toList with
  | nil => simp [hlist] at hmem
  | cons first rest =>
    rw [hlist, isParameters, Bool.and_eq_true, List.all_eq_true] at hp
    rw [hlist] at hmem
    rcases List.mem_cons.mp hmem with heq | hrest
    · exact absurd (heq ▸ hp.1) (by decide)
    · exact ne_underscore_of_isParameterChar (hp.2 _ hrest) rfl

/-- No result is an underscore. -/
lemma result_ne_underscore (t : MethodType) : t.result ≠ '_' := by
  intro heq
  exact absurd (heq ▸ t.result_ok) (by decide)

/-- A descriptor has one underscore. -/
lemma count_underscore_text (t : MethodType) : t.text.toList.count '_' = 1 := by
  have hparameters := List.count_eq_zero_of_not_mem t.underscore_not_mem_parameters
  have hresult : [t.result].count '_' = 0 :=
    List.count_eq_zero_of_not_mem (by simpa using t.result_ne_underscore.symm)
  simp only [text, String.toList_append, String.toList_singleton, List.count_append, hparameters,
    hresult]
  rfl

/-- Two texts are accepted as the fields of a method type if and only if they make up a descriptor
with an underscore between them. -/
theorem exists_ofFields_partFields_iff {parameters result : String} :
    (∃ t, ofFields (partFields parameters result) = .ok t) ↔
      isMethodType (parameters ++ "_" ++ result) = true := by
  simp only [ofFields_partFields_eq_ok_iff]
  constructor
  · rintro ⟨t, rfl, hresult⟩
    have htext : t.text = t.parameters ++ "_" ++ result := by
      rw [← String.toList_inj]
      simp [text, hresult]
    exact htext ▸ isMethodType_text t
  · intro h
    obtain ⟨t, -, htext⟩ := exists_parse_eq_ok h
    -- the one underscore of the descriptor is the one between the two texts
    have hcount := htext ▸ count_underscore_text t
    have hfree : '_' ∉ parameters.toList := by
      rw [← List.count_eq_zero]
      simp only [String.toList_append, List.count_append] at hcount
      have hone : "_".toList.count '_' = 1 := by decide
      omega
    have hlist : t.parameters.toList ++ '_' :: [t.result] =
        parameters.toList ++ '_' :: result.toList := by
      have h' := congrArg String.toList htext
      simpa [text] using h'
    have hcut := congrArg cut hlist
    rw [cut_append_underscore t.underscore_not_mem_parameters, cut_append_underscore hfree] at hcut
    obtain ⟨hparameters, hresult⟩ := Prod.mk.inj hcut
    exact ⟨t, String.toList_inj.mp hparameters, hresult.symm⟩

/-- The two readings of a descriptor accept the same texts, those of the grammar, and reading is the
inverse of writing. A text is cut into parameters and a result of one character, neither of which
has an underscore, and the method type is written as that text again. Two texts are accepted as
fields if and only if they make up a descriptor; what they are accepted as is read back from its own
descriptor. -/
theorem readings_agree :
    (∀ s, (isMethodType s = true ↔ IsDescriptorText s) ∧
      (isMethodType s = true ↔ ∃ t, parse s = .ok t) ∧
      ∀ t, parse s = .ok t → t.text = s ∧ cut s.toList = (t.parameters.toList, [t.result]) ∧
        '_' ∉ t.parameters.toList ∧ t.result ≠ '_') ∧
    ∀ parameters result, ((∃ t, ofFields (partFields parameters result) = .ok t) ↔
        isMethodType (parameters ++ "_" ++ result) = true) ∧
      ∀ t, ofFields (partFields parameters result) = .ok t →
        t.parameters = parameters ∧ result.toList = [t.result] ∧
          t.text = parameters ++ "_" ++ result ∧
          isMethodType t.text = true ∧ parse t.text = .ok t := by
  refine ⟨fun s => ⟨isMethodType_iff, ⟨fun h => ?_, ?_⟩, fun t ht => ?_⟩,
    fun parameters result => ⟨exists_ofFields_partFields_iff, fun t ht => ?_⟩⟩
  · obtain ⟨t, ht, -⟩ := exists_parse_eq_ok h
    exact ⟨t, ht⟩
  · rintro ⟨t, ht⟩
    exact parse_eq_ok_iff.mp ht ▸ isMethodType_text t
  · have htext := parse_eq_ok_iff.mp ht
    have hcut : cut s.toList = (t.parameters.toList, [t.result]) := by
      have htail : cut (t.parameters.toList ++ '_' :: [t.result]) =
          (t.parameters.toList, [t.result]) := cut_append_underscore t.underscore_not_mem_parameters
      rw [← htext]
      simpa [text] using htail
    exact ⟨htext, hcut, t.underscore_not_mem_parameters, t.result_ne_underscore⟩
  · obtain ⟨hparameters, hresult⟩ := ofFields_partFields_eq_ok_iff.mp ht
    have htext : t.text = parameters ++ "_" ++ result := by
      rw [← String.toList_inj, ← hparameters]
      simp [text, hresult]
    exact ⟨hparameters, hresult, htext, isMethodType_text t, parse_eq_ok_iff.mpr rfl⟩

/-- A count may stand behind the first parameter, and a result is a single character. -/
theorem readings_agree_on_count :
    isMethodType "L3I_V" = true ∧
      (∃ t, parse "L3I_V" = .ok t ∧ t.parameters.toList = ['L', '3', 'I'] ∧ t.result = 'V') ∧
      isMethodType "LL_LL" = false ∧ ¬ ∃ t, parse "LL_LL" = .ok t := by
  have hcount : isMethodType "L3I_V" = true := by decide +kernel
  have htwo : isMethodType "LL_LL" = false := by decide +kernel
  obtain ⟨-, hread, hparts⟩ := readings_agree.1 "L3I_V"
  obtain ⟨t, ht⟩ := hread.mp hcount
  obtain ⟨-, hcut, -, -⟩ := hparts t ht
  have hcut' : cut "L3I_V".toList = (['L', '3', 'I'], ['V']) := by decide +kernel
  obtain ⟨hparameters, hresult⟩ := Prod.mk.inj (hcut.symm.trans hcut')
  refine ⟨hcount, ⟨t, ht, hparameters, List.singleton_inj.mp hresult⟩, htwo, fun hparse => ?_⟩
  have h := (readings_agree.1 "LL_LL").2.1.mpr hparse
  exact absurd (htwo.symm.trans h) (by decide)

end ClassSharing.MethodType
