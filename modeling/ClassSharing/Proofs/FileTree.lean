import ClassSharing.FileTree
import ClassSharing.Proofs.Path

/-!
# Writing to a tree of files

A file is written at one place, which is not a directory before and not one behind it. Hence no
address leads to another place than before (`place_put_eq_ok_iff`), and what stands at any other
place is what was there (`find_put_eq_ok_iff`). `exists_of_write_eq_ok` says that writing to an
address is writing at its place.
-/

namespace ClassSharing

/-- Of two steps that may fail, both succeed or there is no result. -/
lemma bind_eq_ok_iff {ε α β : Type} {x : Except ε α} {f : α → Except ε β} {b : β} :
    (x >>= f) = .ok b ↔ ∃ a, x = .ok a ∧ f a = .ok b := by
  cases x with
  | error e => exact ⟨fun h => absurd h (by simp [bind, Except.bind]), fun ⟨_, h, _⟩ => (nomatch h)⟩
  | ok a =>
    constructor
    · intro h
      exact ⟨a, rfl, h⟩
    · rintro ⟨_, ⟨rfl⟩, h⟩
      exact h

/-- A step behind a refusal is taken if there is no reason to refuse. -/
lemma refuse_eq_ok_iff {ε β : Type} {c : Prop} [Decidable c] {e : ε} {f : PUnit → Except ε β}
    {b : β} : (if c then (throw e >>= f) else f ⟨⟩) = .ok b ↔ ¬ c ∧ f ⟨⟩ = .ok b := by
  by_cases hc : c
  · rw [if_pos hc, bind_eq_ok_iff]
    exact ⟨fun ⟨_, hthrow, _⟩ => absurd hthrow (by simp), fun h => absurd hc h.1⟩
  · rw [if_neg hc]
    exact ⟨fun h => ⟨hc, h⟩, And.right⟩

namespace FileTree

variable {t : FileTree}

/-! ### Addresses -/

/-- What stands at an address stands at its place. -/
lemma find_eq_ok_iff {address : String} {entry : FileEntry} :
    t.find address = .ok entry ↔ ∃ p, t.place address = .ok p ∧ t.entryAt p = some entry := by
  rw [find, bind_eq_ok_iff]
  refine exists_congr fun p => and_congr_right fun _ => ?_
  cases t.entryAt p <;> simp

/-- The bytes at an address are those of a file. -/
lemma read_eq_ok_iff {address : String} {bytes : List UInt8} :
    t.read address = .ok bytes ↔ t.find address = .ok (.file bytes) := by
  rw [read, bind_eq_ok_iff]
  constructor
  · rintro ⟨entry, hfind, hbytes⟩
    cases entry with
    | directory => exact absurd hbytes (by simp)
    | file other => rw [hfind, Except.ok.inj hbytes]
  · intro hfind
    exact ⟨_, hfind, rfl⟩

/-- Two addresses that lead to one place. -/
def SamePlace (t : FileTree) (a b : String) : Prop := ∃ p, t.place a = .ok p ∧ t.place b = .ok p

/-- Something that is there stands at both of two addresses that lead to one place. -/
lemma same_of_samePlace {a b : String} {entry : FileEntry} (h : t.SamePlace a b)
    (hfind : t.find a = .ok entry) : t.same a b = true := by
  obtain ⟨p, ha, hb⟩ := h
  obtain ⟨q, hq, hentry⟩ := find_eq_ok_iff.mp hfind
  obtain rfl : p = q := Except.ok.inj (ha.symm.trans hq)
  simp [same, ha, hb, hentry]

/-- Two trees in which the same stands at every address, but for those that lead to the place of one
address. -/
def DiffersOnlyAt (before after : FileTree) (address : String) : Prop :=
  ∀ other, ¬ before.SamePlace other address →
    ∀ entry, after.find other = .ok entry ↔ before.find other = .ok entry

/-- A tree differs from itself nowhere. -/
lemma differsOnlyAt_self (t : FileTree) (address : String) : DiffersOnlyAt t t address :=
  fun _ _ _ => Iff.rfl

/-! ### Directories decide where addresses lead -/

/-- One goes on from a directory only. -/
lemma entryAt_of_step_eq_ok {p q : Place} {name : String} (h : t.step p name = .ok q) :
    t.entryAt p = some .directory := by
  unfold step at h
  split at h
  · exact absurd h (by simp)
  · exact absurd h (by simp)
  · assumption

/-- Names are followed one by one. -/
lemma walk_cons_eq_ok_iff {p q : Place} {name : String} {rest : List String} :
    t.walk p (name :: rest) = .ok q ↔
      ∃ next, t.step p name = .ok next ∧ t.walk next rest = .ok q :=
  bind_eq_ok_iff

/-- Names are followed in two parts. -/
lemma walk_append_eq_ok_iff {p q : Place} {front rest : List String} :
    t.walk p (front ++ rest) = .ok q ↔ ∃ r, t.walk p front = .ok r ∧ t.walk r rest = .ok q := by
  induction front generalizing p with
  | nil => simp [walk]
  | cons name front ih =>
    simp only [List.cons_append, walk_cons_eq_ok_iff, ih]
    constructor
    · rintro ⟨next, hnext, r, hr, hq⟩
      exact ⟨r, ⟨next, hnext, hr⟩, hq⟩
    · rintro ⟨r, ⟨next, hnext, hr⟩, hq⟩
      exact ⟨next, hnext, r, hr, hq⟩

/-- The names of an address in a directory. -/
lemma names_append {directory name : String} (hname : '/' ∉ name.toList) (hne : name ≠ "") :
    names (directory ++ "/" ++ name) = names directory ++ [name] := by
  have hpieces : pathPieces (directory ++ "/" ++ name).toList =
      pathPieces directory.toList ++ [name.toList] := by
    rw [← pathPieces_of_not_mem hname, ← pathPieces_append]
    simp
  rw [names, names, hpieces]
  simp [hne]

/-- An address in a directory does not end in a slash. -/
lemma endsInSlash_append {directory name : String} (hname : '/' ∉ name.toList) (hne : name ≠ "") :
    endsInSlash (directory ++ "/" ++ name) = false := by
  have hchars : name.toList ≠ [] := by simpa using hne
  have hlast : (directory ++ "/" ++ name).toList.getLast? = some (name.toList.getLast hchars) := by
    rw [String.toList_append, List.getLast?_append_of_ne_nil _ hchars,
      List.getLast?_eq_some_getLast hchars]
  have hslash : name.toList.getLast hchars ≠ '/' := by
    intro heq
    exact hname (heq ▸ List.getLast_mem hchars)
  have hends : (some (name.toList.getLast hchars) == some '/') = false :=
    beq_eq_false_iff_ne.mpr fun heq => hslash (Option.some.inj heq)
  rw [endsInSlash, hlast, hends, Bool.and_false]

/-- An address that is not faulty has a directory that is not faulty. -/
lemma addressFault?_directory {directory name : String} (hdirectory : directory ≠ "")
    (h : addressFault? (directory ++ "/" ++ name) = none) : addressFault? directory = none := by
  unfold addressFault? at h ⊢
  rw [if_neg hdirectory]
  split at h
  · exact absurd h (by simp)
  · split at h
    · exact absurd h (by simp)
    · rename_i hsize
      rw [String.utf8ByteSize_append, String.utf8ByteSize_append] at hsize
      exact if_neg (by omega)

/-- An address in a directory leads somewhere only if the directory is one. -/
lemma find_of_place_eq_ok {directory name : String} {p : Place} (hdirectory : directory ≠ "")
    (hname : '/' ∉ name.toList) (hne : name ≠ "")
    (h : t.place (directory ++ "/" ++ name) = .ok p) : t.find directory = .ok .directory := by
  have hstart : start (directory ++ "/" ++ name) = start directory := by
    have hchars : directory.toList ≠ [] := by simpa using hdirectory
    unfold start
    rw [String.toList_append, String.toList_append, List.append_assoc,
      List.head?_append_of_ne_nil _ hchars]
  unfold place at h
  cases hfault : addressFault? (directory ++ "/" ++ name) with
  | some fault =>
    rw [hfault] at h
    exact absurd h (by simp)
  | none =>
    simp only [hfault, hstart, names_append hname hne, endsInSlash_append hname hne] at h
    rw [List.append_assoc, walk_append_eq_ok_iff] at h
    obtain ⟨q, hq, hrest⟩ := h
    obtain ⟨next, hnext, -⟩ := walk_cons_eq_ok_iff.mp hrest
    have hentry := entryAt_of_step_eq_ok hnext
    -- a slash at the end goes on from the directory to itself
    have hslash : ∀ b : Bool, t.walk q (if b then ["."] else []) = .ok q := by
      intro b
      cases b with
      | false => rfl
      | true =>
        have hstep : t.step q "." = .ok q := by simp [step, hentry]
        exact walk_cons_eq_ok_iff.mpr ⟨q, hstep, rfl⟩
    have hplace : t.place directory = .ok q := by
      rw [place, addressFault?_directory hdirectory hfault]
      exact walk_append_eq_ok_iff.mpr ⟨q, hq, hslash _⟩
    exact find_eq_ok_iff.mpr ⟨q, hplace, hentry⟩

section

variable {t' : FileTree}
  (hsame : ∀ p, t'.entryAt p = some .directory ↔ t.entryAt p = some .directory)

include hsame

/-- Trees with the same directories let one go on in the same way. -/
lemma step_eq_ok_iff_of_directories {p q : Place} {name : String} :
    t'.step p name = .ok q ↔ t.step p name = .ok q := by
  by_cases hdirectory : t.entryAt p = some .directory
  · have hdirectory' := (hsame p).mpr hdirectory
    have hstep : t'.step p name = t.step p name := by simp only [step, hdirectory, hdirectory']
    rw [hstep]
  · constructor
    · intro h
      exact absurd ((hsame p).mp (entryAt_of_step_eq_ok h)) hdirectory
    · intro h
      exact absurd (entryAt_of_step_eq_ok h) hdirectory

/-- Names lead to the same place in trees with the same directories. -/
lemma walk_eq_ok_iff_of_directories {p q : Place} {names : List String} :
    t'.walk p names = .ok q ↔ t.walk p names = .ok q := by
  induction names generalizing p with
  | nil => exact Iff.rfl
  | cons name rest ih =>
    simp only [walk_cons_eq_ok_iff, ih, step_eq_ok_iff_of_directories hsame]

/-- Addresses lead to the same place in trees with the same directories. -/
lemma place_eq_ok_iff_of_directories {address : String} {q : Place} :
    t'.place address = .ok q ↔ t.place address = .ok q := by
  unfold place
  split
  · exact Iff.rfl
  · exact walk_eq_ok_iff_of_directories hsame

end

/-! ### A file at a place -/

section

variable {names : List String} (hnames : t.get? names ≠ some .directory) (bytes : List UInt8)

include hnames

/-- A file is not put at the place where all addresses start. -/
lemma ne_nil_of_no_directory : names ≠ [] := by
  rintro rfl
  exact hnames (if_pos rfl)

/-- At the place of a file stands the file, and at any other what stood there. -/
lemma entryAt_put (p : Place) : (t.put names (.file bytes)).entryAt p =
    if p = .inside names then some (.file bytes) else t.entryAt p := by
  cases p with
  | inside other =>
    rw [entryAt, get?_put t (ne_nil_of_no_directory hnames)]
    simp only [Place.inside.injEq]
    rfl
  | above levels => rw [if_neg (by simp)]; rfl
  | root => rw [if_neg (by simp)]; rfl

/-- A file that is put where no directory is leaves all directories as they are. -/
lemma entryAt_put_eq_directory_iff (p : Place) :
    (t.put names (.file bytes)).entryAt p = some .directory ↔ t.entryAt p = some .directory := by
  rw [entryAt_put hnames]
  by_cases hp : p = .inside names
  · subst hp
    rw [if_pos rfl]
    exact ⟨fun h => absurd h (by simp), fun h => absurd h hnames⟩
  · rw [if_neg hp]

/-- No address leads to another place than before. -/
lemma place_put_eq_ok_iff {address : String} {q : Place} :
    (t.put names (.file bytes)).place address = .ok q ↔ t.place address = .ok q :=
  place_eq_ok_iff_of_directories (entryAt_put_eq_directory_iff hnames bytes)

/-- An address of the place of a file stands for the file. -/
lemma find_put_self {address : String} (h : t.place address = .ok (.inside names)) :
    (t.put names (.file bytes)).find address = .ok (.file bytes) := by
  refine find_eq_ok_iff.mpr ⟨_, (place_put_eq_ok_iff hnames bytes).mpr h, ?_⟩
  rw [entryAt_put hnames, if_pos rfl]

/-- An address of any other place stands for what it stood for. -/
lemma find_put_eq_ok_iff {address : String} (h : t.place address ≠ .ok (.inside names))
    {entry : FileEntry} :
    (t.put names (.file bytes)).find address = .ok entry ↔ t.find address = .ok entry := by
  rw [find_eq_ok_iff, find_eq_ok_iff]
  refine exists_congr fun p => ?_
  rw [place_put_eq_ok_iff hnames]
  refine and_congr_right fun hp => ?_
  have hne : p ≠ .inside names := by
    rintro rfl
    exact h hp
  rw [entryAt_put hnames, if_neg hne]

/-- A tree with one more file differs at the place of the file only. -/
lemma differsOnlyAt_put {address : String} (h : t.place address = .ok (.inside names)) :
    DiffersOnlyAt t (t.put names (.file bytes)) address := by
  intro other hother entry
  refine find_put_eq_ok_iff hnames bytes fun hplace => ?_
  exact hother ⟨_, hplace, h⟩

end

/-! ### Writing -/

/-- The place at which a file is written is that of its address. -/
lemma place_of_target_eq_ok {address : String} {p : Place} (h : t.target address = .ok p) :
    t.place address = .ok p := by
  unfold target at h
  cases hfault : addressFault? address with
  | some fault =>
    rw [hfault] at h
    exact absurd h (by simp)
  | none =>
    simp only [hfault] at h
    split at h
    · obtain ⟨_, -, hthrow⟩ := bind_eq_ok_iff.mp h
      exact absurd hthrow (by simp)
    · exact h

/-- A file is written at the place of its address, where no directory is. -/
lemma exists_of_write_eq_ok {address : String} {bytes : List UInt8} {t' : FileTree}
    (h : t.write address bytes = .ok t') :
    ∃ names, t.place address = .ok (.inside names) ∧ t.get? names ≠ some .directory ∧
      t' = t.put names (.file bytes) := by
  obtain ⟨p, htarget, hput⟩ := bind_eq_ok_iff.mp h
  split at hput
  · exact absurd hput (by simp)
  · rename_i names hdirectory
    exact ⟨names, place_of_target_eq_ok htarget, hdirectory, (Except.ok.inj hput).symm⟩
  · exact absurd hput (by simp)

end FileTree

end ClassSharing
