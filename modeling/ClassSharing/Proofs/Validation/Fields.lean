import ClassSharing.Validation.Checked
import Mathlib

/-!
# Fields of a mapping

Entries are looked up by the text of their keys. `get?_overlay` says what is found where entries are
laid over others, provided that those on top have each text once (`HasDistinctNames`), and
`hasDistinctNames_overlay` says that setting keys one after the other never repeats a text. The
checks of fields see a mapping only through these look-ups and through its keys
(`optional_eq_ok_iff`, `only_eq_ok_iff`).
-/

namespace ClassSharing

/-! ### Keys -/

namespace Value

/-- The text of a key, if it is one. -/
def keyText? : Value → Option String
  | .str s => some s
  | _ => none

/-- Only a text has that text. -/
lemma keyText?_eq_some_iff {key : Value} {s : String} : key.keyText? = some s ↔ key = .str s := by
  cases key <;> simp [keyText?]

/-- A text is one key with itself only. -/
lemma sameKey_str_iff {s : String} {key : Value} :
    (Value.str s).sameKey key = true ↔ key.keyText? = some s := by
  cases key with
  | str t => simp [sameKey, keyText?, eq_comm (a := s)]
  | _ => simp [sameKey, keyText?, number?]

/-- The order of two keys does not matter if one is a text. -/
lemma sameKey_str_comm {s : String} {key : Value} :
    key.sameKey (.str s) = (Value.str s).sameKey key := by
  cases key with
  | str t => simp [sameKey, Bool.beq_comm]
  | _ => simp [sameKey, number?]

/-- Of two values that are one key, both are the same text or none is a text. -/
lemma keyText?_eq_of_sameKey {a b : Value} (h : a.sameKey b = true) : a.keyText? = b.keyText? := by
  cases ha : a.keyText? with
  | some s =>
    rw [keyText?_eq_some_iff.mp ha, sameKey_str_iff] at h
    exact h.symm
  | none =>
    cases hb : b.keyText? with
    | none => rfl
    | some t =>
      rw [keyText?_eq_some_iff.mp hb, sameKey_str_comm, sameKey_str_iff, ha] at h
      exact h

/-- Two keys with the same text are one key. -/
lemma sameKey_of_keyText? {a b : Value} {s : String} (ha : a.keyText? = some s)
    (hb : b.keyText? = some s) : a.sameKey b = true := by
  rw [keyText?_eq_some_iff.mp ha, sameKey_str_iff]
  exact hb

end Value

namespace Entries

/-- The texts among the keys of some entries. -/
def names (entries : Entries) : List String := entries.filterMap fun e => e.1.keyText?

/-- No text is a key twice. -/
def HasDistinctNames (entries : Entries) : Prop := entries.names.Nodup

/-! ### Looking up -/

/-- The first entry decides if its key is the text. -/
lemma get?_cons (key value : Value) (rest : Entries) (name : String) :
    get? ((key, value) :: rest) name =
      if key.keyText? = some name then some value else get? rest name := by
  cases key <;> simp [get?, Value.keyText?]

/-- What is found is found in the first part or, if not there, in the second. -/
lemma get?_append (first second : Entries) (name : String) :
    get? (first ++ second) name = (get? first name).or (get? second name) := by
  induction first with
  | nil => rfl
  | cons e rest ih =>
    obtain ⟨key, value⟩ := e
    rw [List.cons_append, get?_cons, get?_cons, ih]
    split <;> rfl

/-- A text that is no key has no value. -/
lemma get?_eq_none_iff {entries : Entries} {name : String} :
    get? entries name = none ↔ name ∉ entries.names := by
  induction entries with
  | nil => simp [names]
  | cons e rest ih =>
    obtain ⟨key, value⟩ := e
    rw [get?_cons]
    split
    · rename_i hkey
      simp [names, hkey]
    · rename_i hkey
      rw [ih]
      cases htext : key.keyText? with
      | none => simp [names, htext]
      | some s =>
        have hs : name ≠ s := fun heq => hkey (heq ▸ htext)
        simp [names, htext, hs]

/-- After a key is set it has the value, and all others have theirs. -/
lemma get?_put (entries : Entries) (key value : Value) (name : String) :
    get? (put entries key value) name =
      if key.keyText? = some name then some value else get? entries name := by
  induction entries with
  | nil => exact get?_cons key value [] name
  | cons e rest ih =>
    obtain ⟨k, v⟩ := e
    rw [put]
    split
    · rename_i hsame
      rw [get?_cons, get?_cons, Value.keyText?_eq_of_sameKey hsame]
      split <;> rfl
    · rename_i hdiffers
      rw [get?_cons, get?_cons, ih]
      split
      · rename_i hk
        have hkey : key.keyText? ≠ some name := fun hkey =>
          hdiffers (Value.sameKey_of_keyText? hk hkey)
        rw [if_neg hkey]
      · rfl

/-- The keys that are texts, after a key is set. -/
lemma mem_names_put {entries : Entries} {key value : Value} {name : String} :
    name ∈ (put entries key value).names ↔ key.keyText? = some name ∨ name ∈ entries.names := by
  rw [← not_iff_not, ← get?_eq_none_iff, get?_put, not_or, ← get?_eq_none_iff]
  split <;> simp_all

/-- Setting a key repeats no text. -/
lemma hasDistinctNames_put {entries : Entries} (h : entries.HasDistinctNames) (key value : Value) :
    (put entries key value).HasDistinctNames := by
  induction entries with
  | nil => cases key <;> simp [put, HasDistinctNames, names, Value.keyText?]
  | cons e rest ih =>
    obtain ⟨k, v⟩ := e
    rw [put]
    split
    · exact h
    · rename_i hdiffers
      cases hk : k.keyText? with
      | none =>
        simp only [HasDistinctNames, names, List.filterMap_cons, hk] at h ⊢
        exact ih h
      | some name =>
        have hnames : ∀ es : Entries, Entries.names ((k, v) :: es) = name :: es.names := by
          intro es
          simp only [names, List.filterMap_cons, hk]
        rw [HasDistinctNames, hnames, List.nodup_cons] at h ⊢
        refine ⟨?_, ih h.2⟩
        rw [mem_names_put]
        rintro (hkey | hmem)
        · exact hdiffers (Value.sameKey_of_keyText? hk hkey)
        · exact h.1 hmem

/-- Entries that are laid over distinct ones repeat no text. -/
theorem hasDistinctNames_overlay {base : Entries} (h : base.HasDistinctNames) (top : Entries) :
    (base.overlay top).HasDistinctNames := by
  induction top generalizing base with
  | nil => exact h
  | cons e rest ih => exact ih (hasDistinctNames_put h e.1 e.2)

/-- What is found where entries are laid over others: the value on top, if there is one. -/
theorem get?_overlay {top : Entries} (h : top.HasDistinctNames) (base : Entries) (name : String) :
    get? (base.overlay top) name = (get? top name).or (get? base name) := by
  induction top generalizing base with
  | nil => rfl
  | cons e rest ih =>
    obtain ⟨key, value⟩ := e
    have hrest : HasDistinctNames rest :=
      h.sublist (List.Sublist.filterMap _ (List.sublist_cons_self _ _))
    have hfold : overlay base ((key, value) :: rest) = overlay (put base key value) rest := rfl
    rw [hfold, ih hrest, get?_put, get?_cons]
    split
    · rename_i hkey
      have hnames : names ((key, value) :: rest) = name :: names rest := by
        simp only [names, List.filterMap_cons, hkey]
      rw [HasDistinctNames, hnames, List.nodup_cons] at h
      rw [get?_eq_none_iff.mpr h.1]
      rfl
    · rfl

/-- A key that is there after a key is set was there before or is the one that is set. -/
lemma mem_keys_put {entries : Entries} {key value other : Value}
    (h : other ∈ (put entries key value).map Prod.fst) :
    other ∈ entries.map Prod.fst ∨ other = key := by
  induction entries with
  | nil => exact .inr (by simpa [put] using h)
  | cons e rest ih =>
    rw [put] at h
    split at h
    · exact .inl h
    · rcases List.mem_cons.mp h with heq | hmem
      · exact .inl (heq ▸ List.mem_cons_self)
      · exact (ih hmem).imp_left (List.mem_cons_of_mem _)

/-- A key of entries that are laid over others is one of either. -/
lemma mem_keys_overlay {base top : Entries} {key : Value}
    (h : key ∈ (base.overlay top).map Prod.fst) :
    key ∈ base.map Prod.fst ∨ key ∈ top.map Prod.fst := by
  induction top generalizing base with
  | nil => exact .inl h
  | cons e rest ih =>
    rcases ih h with hmem | hmem
    · rcases mem_keys_put hmem with hmem | heq
      · exact .inl hmem
      · exact .inr (heq ▸ List.mem_cons_self)
    · exact .inr (List.mem_cons_of_mem _ hmem)

end Entries

/-! ### Checks -/

namespace Checked

variable {α : Type}

/-- A check of a part succeeds with what the check of the part finds. -/
lemma under_eq_ok_iff {step : Step} {checked : Checked α} {a : α} :
    under step checked = .ok a ↔ checked = .ok a := by
  cases checked <;> simp [under]

/-- A check that needs the outcome of another one succeeds if both do. -/
lemma andThen_eq_ok_iff {β : Type} {a : Checked α} {f : α → Checked β} {b : β} :
    a.andThen f = .ok b ↔ ∃ x, a = .ok x ∧ f x = .ok b := by
  cases a <;> simp [andThen]

/-- A field is the value that is found, converted, or its default. -/
lemma optional_eq_ok_iff {fields : Entries} {name : String} {default a : α}
    {check : Value → Checked α} :
    optional fields name default check = .ok a ↔
      match fields.get? name with
      | some v => check v = .ok a
      | none => default = a := by
  unfold optional
  cases fields.get? name with
  | some v => exact under_eq_ok_iff
  | none => simp

/-- A field whose value on top is accepted, if there is one, and whose value below is accepted. -/
lemma optional_overlay_eq_ok {base top : Entries} {name : String} {default b : α}
    {check : Value → Checked α} (a? : Option α) (h : top.HasDistinctNames)
    (htop : (top.get? name).map check = a?.map ok)
    (hbase : optional base name default check = ok b) :
    optional (base.overlay top) name default check = ok (a?.getD b) := by
  rw [optional_eq_ok_iff, Entries.get?_overlay h]
  rw [optional_eq_ok_iff] at hbase
  cases hget : top.get? name with
  | some v =>
    rw [hget, Option.map_some, eq_comm, Option.map_eq_some_iff] at htop
    obtain ⟨a, rfl, heq⟩ := htop
    exact heq.symm
  | none =>
    rw [hget, Option.map_none, eq_comm, Option.map_eq_none_iff] at htop
    subst htop
    exact hbase

/-- Nothing but the given names are keys. -/
lemma only_eq_ok_iff {names : List String} {fields : Entries} :
    only names fields = .ok () ↔ ∀ key ∈ fields.map Prod.fst, ∃ s ∈ names, key = .str s := by
  have hstray : ∀ e : Value × Value,
      strayIssue? names e = none ↔ ∃ s ∈ names, e.1 = .str s := by
    rintro ⟨key, v⟩
    cases key <;> simp [strayIssue?]
  have hnone : only names fields = .ok () ↔ fields.filterMap (strayIssue? names) = [] := by
    unfold only
    split
    · rename_i hnil
      exact iff_of_true rfl hnil
    · rename_i hissues
      exact iff_of_false (by simp) hissues
  rw [hnone, List.filterMap_eq_nil_iff, List.forall_mem_map]
  exact forall₂_congr fun e _ => hstray e

/-- Keys that are among the names in either of two mappings are so where one is laid over the
other. -/
lemma only_overlay {names : List String} {base top : Entries} (hbase : only names base = .ok ())
    (htop : only names top = .ok ()) : only names (base.overlay top) = .ok () := by
  rw [only_eq_ok_iff] at hbase htop ⊢
  intro key hkey
  rcases Entries.mem_keys_overlay hkey with hmem | hmem
  · exact hbase key hmem
  · exact htop key hmem

end Checked

end ClassSharing
