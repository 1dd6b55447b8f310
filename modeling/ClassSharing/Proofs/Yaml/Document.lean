import ClassSharing.Config.File
import ClassSharing.Proofs.Validation.Fields

/-!
# Mappings of documents

No text is a key twice in a mapping that is the value of a document (`hasDistinctNames_documentOf`).
Of the nodes of a document only a mapping has a mapping as its value, and that is built by setting
one key after the other.
-/

namespace ClassSharing

namespace Yaml

/-! ### Scalars -/

/-- A reading never results in a mapping. -/
def YieldsNoMapping (outcome : Except Failure Value) : Prop :=
  ∀ entries, outcome ≠ .ok (.mapping entries)

/-- A failure is no mapping. -/
lemma yieldsNoMapping_error (f : Failure) : YieldsNoMapping (.error f) := by
  rintro entries ⟨⟩

/-- What follows another reading decides. -/
lemma yieldsNoMapping_bind {α : Type} {first : Except Failure α}
    {next : α → Except Failure Value} (h : ∀ a, YieldsNoMapping (next a)) :
    YieldsNoMapping (first >>= next) := by
  cases first with
  | error f => exact yieldsNoMapping_error f
  | ok a => exact h a

/-- A function whose values are no mappings makes none. -/
lemma map_ne {α ε : Type} {f : α → Value} (hf : ∀ a entries, f a ≠ .mapping entries)
    {outcome : Except ε α} {entries : Entries} : outcome.map f ≠ .ok (.mapping entries) := by
  cases outcome with
  | error e => simp [Except.map]
  | ok a => simpa [Except.map] using hf a entries

/-- A scalar is no mapping, whatever its type. -/
lemma yieldsNoMapping_scalarValue (tag : CoreTag) (text : List Char) :
    YieldsNoMapping (scalarValue tag text) := by
  have hint : ∀ n : Int, YieldsNoMapping (pure (.int n)) := by rintro n entries ⟨⟩
  have hreal : ∀ x : Binary64, YieldsNoMapping (pure (.real x)) := by rintro x entries ⟨⟩
  cases tag with
  | null => rintro entries ⟨⟩
  | str => rintro entries ⟨⟩
  | bool =>
    simp only [scalarValue, boolOf]
    split <;> rintro entries ⟨⟩
  | int =>
    simp only [scalarValue, intOf]
    repeat' split
    all_goals first
      | exact yieldsNoMapping_error _
      | exact yieldsNoMapping_bind fun _ => hint _
  | float =>
    simp only [scalarValue, realOf]
    split
    · exact yieldsNoMapping_error _
    · split
      · exact hreal _
      · split
        · exact hreal _
        · split <;> exact yieldsNoMapping_bind fun _ => hreal _
  | binary =>
    simp only [scalarValue, bytesOf]
    repeat' split
    all_goals rintro entries ⟨⟩
  | timestamp =>
    simp only [scalarValue, stampOf]
    split
    · exact yieldsNoMapping_error _
    · split
      · next heq =>
        rintro entries ⟨⟩
        split at heq
        · exact map_ne (by simp) heq
        · exact map_ne (by simp) heq
      · exact yieldsNoMapping_error _
  | _ => exact yieldsNoMapping_error _

/-! ### Nodes -/

namespace Built

variable {α β : Type}

/-- A built value that a function was applied to. -/
lemma exists_of_map_eq_ok {f : α → β} {b : Built α} {v : β} (h : b.map f = .ok v) :
    ∃ a, b = .ok a ∧ f a = v := by
  cases b with
  | ok a => exact ⟨a, rfl, by simpa [map] using h⟩
  | failed n e => exact absurd h (by simp [map])

/-- A value that was read. -/
lemma ofExcept_eq_ok {level : Nat} {outcome : Except Failure α} {v : α}
    (h : ofExcept level outcome = .ok v) : outcome = .ok v := by
  cases outcome with
  | ok a => simpa [ofExcept] using h
  | error e => exact absurd h (by simp [ofExcept])

end Built

namespace Node

/-- The value of a scalar node is no mapping. -/
lemma ofExcept_scalarValue_ne {level : Nat} {tag : CoreTag} {text : List Char} {fields : Entries} :
    Built.ofExcept level (scalarValue tag text) ≠ .ok (.mapping fields) :=
  fun h => yieldsNoMapping_scalarValue tag text fields (Built.ofExcept_eq_ok h)

/-- A mapping that is built has each text once. -/
lemma hasDistinctNames_of_mappingValue {level : Nat} {entries : Option (List BuiltEntry)}
    {fields : Entries} (h : mappingValue level entries = .ok (.mapping fields)) :
    fields.HasDistinctNames := by
  unfold mappingValue at h
  split at h
  · obtain ⟨es, -, heq⟩ := Built.exists_of_map_eq_ok h
    rw [← Value.mapping.inj heq]
    have hnil : Entries.HasDistinctNames [] := List.nodup_nil
    exact Entries.hasDistinctNames_overlay hnil es
  · exact absurd h (by simp)

/-- A set of keys is no mapping. -/
lemma keySet_ne {level : Nat} {entries : Option (List BuiltEntry)} {fields : Entries} :
    keySet level entries ≠ .ok (.mapping fields) := by
  unfold keySet
  split
  · intro h
    obtain ⟨_, -, heq⟩ := Built.exists_of_map_eq_ok h
    exact absurd heq (by simp)
  · simp

/-- A mapping that is the value of a node has each text once. -/
lemma hasDistinctNames_of_build {level : Nat} {node : Node} {fields : Entries}
    (h : build level node = .ok (.mapping fields)) : fields.HasDistinctNames := by
  cases node with
  | scalar tag text =>
    unfold build at h
    repeat' split at h
    · exact absurd h (by simp)
    · exact absurd h ofExcept_scalarValue_ne
    · exact absurd h (by simp)
  | sequence tag items =>
    unfold build at h
    split at h
    all_goals first
      | exact absurd h (by simp)
      | obtain ⟨_, -, heq⟩ := Built.exists_of_map_eq_ok h
        exact absurd heq (by simp)
  | mapping tag entries =>
    unfold build at h
    split at h
    · exact hasDistinctNames_of_mappingValue h
    · exact absurd h keySet_ne
    · exact absurd h (by simp)
    · exact absurd h (by simp)
    · exact absurd h (by simp)
    · split at h
      · split at h
        · exact absurd h (by simp)
        · exact absurd h ofExcept_scalarValue_ne
      · exact absurd h (by simp)
    · exact absurd h (by simp)

end Node

/-- A mapping that is the value of a text has each text once as a key. -/
lemma hasDistinctNames_valueOf {text : List Char} {fields : Entries}
    (h : valueOf text = .ok (.mapping fields)) : fields.HasDistinctNames := by
  unfold valueOf at h
  split at h
  · exact absurd h (by simp [malformed])
  · cases htokens : tokensOf text with
    | error f => simp [htokens, bind, Except.bind] at h
    | ok tokens =>
      cases hnode : Node.ofTokens? tokens with
      | error f => simp [htokens, hnode, bind, Except.bind] at h
      | ok node =>
        simp only [htokens, hnode, bind, Except.bind] at h
        cases node with
        | none => exact absurd h (by simp [pure, Except.pure])
        | some node =>
          simp only at h
          split at h
          · next hbuild =>
            have hv := Except.ok.inj h
            subst hv
            exact Node.hasDistinctNames_of_build hbuild
          · exact absurd h (by simp [throw, throwThe, MonadExceptOf.throw])

end Yaml

/-- The mapping in the bytes of a file has each text once as a key. -/
theorem Config.hasDistinctNames_documentOf {bytes : List UInt8} {fields : Entries}
    (h : Config.documentOf bytes = .ok (.mapping fields)) : fields.HasDistinctNames := by
  unfold documentOf at h
  split at h
  · exact absurd h (by simp)
  · exact Yaml.hasDistinctNames_valueOf h

end ClassSharing
