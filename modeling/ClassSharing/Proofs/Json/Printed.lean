import Mathlib
import ClassSharing.Report

/-!
# Printed JSON on the console

Controls inside a text are escaped when it is printed as JSON. So a printed value holds no control
but the line feeds that end its lines, and the console shows it as it is: there is no tab to expand,
and nothing to leave out.
-/

namespace ClassSharing

/-- What is true of a collection if it is true of what is in it, and of all other values, is true of
every value. -/
@[elab_as_elim]
theorem Json.induction {P : Json → Prop} (null : P .null) (bool : ∀ b, P (.bool b))
    (int : ∀ n, P (.int n)) (str : ∀ s, P (.str s))
    (arr : ∀ items, (∀ v ∈ items, P v) → P (.arr items))
    (obj : ∀ members, (∀ m ∈ members, P m.2) → P (.obj members)) (v : Json) : P v := by
  refine @Json.rec P (fun items => ∀ v ∈ items, P v) (fun members => ∀ m ∈ members, P m.2)
    (fun m => P m.2) null bool int str arr obj ?_ ?_ ?_ ?_ (fun _ _ h => h) v
  · exact fun _ h => absurd h List.not_mem_nil
  · exact fun _ _ hfirst hrest => List.forall_mem_cons.mpr ⟨hfirst, hrest⟩
  · exact fun _ h => absurd h List.not_mem_nil
  · exact fun _ _ hfirst hrest => List.forall_mem_cons.mpr ⟨hfirst, hrest⟩

/-! ### Texts that the console shows as they are -/

namespace Text

/-- A text holds no control but line feeds. -/
def HasNoControls (text : List Char) : Prop := ∀ c ∈ text, c = '\n' ∨ 0x20 ≤ c.toNat

@[simp]
lemma hasNoControls_nil : HasNoControls [] := fun _ h => absurd h List.not_mem_nil

@[simp]
lemma hasNoControls_cons {c : Char} {text : List Char} :
    HasNoControls (c :: text) ↔ (c = '\n' ∨ 0x20 ≤ c.toNat) ∧ HasNoControls text :=
  List.forall_mem_cons

@[simp]
lemma hasNoControls_append {s t : List Char} :
    HasNoControls (s ++ t) ↔ HasNoControls s ∧ HasNoControls t :=
  List.forall_mem_append

/-- Without tabs there is nothing to expand. -/
lemma expandTabsFrom_of_no_tab {text : List Char} (h : '\t' ∉ text) (column : Nat) :
    expandTabsFrom column text = text := by
  induction text generalizing column with
  | nil => rfl
  | cons c rest ih =>
    obtain ⟨hc, hrest⟩ := not_or.mp (mt List.mem_cons.mpr h)
    by_cases hfeed : c = '\n'
    · rw [expandTabsFrom, if_pos hfeed, ih hrest]
    · rw [expandTabsFrom, if_neg hfeed, if_neg (Ne.symm hc), ih hrest]

/-- The console shows a text without controls as it is. -/
lemma onConsole_of_hasNoControls {text : List Char} (h : HasNoControls text) :
    onConsole (String.ofList text) = String.ofList (text ++ ['\n']) := by
  have hcontrol : ∀ c : Char, c ≠ '\n' → c.toNat < 0x20 → c ∉ text := by
    intro c hfeed hc hmem
    rcases h c hmem with hfeed' | hc'
    · exact hfeed hfeed'
    · omega
  have hprinted : text.filter (fun c => !unprintedControls.contains c) = text := by
    refine List.filter_eq_self.mpr fun c hmem => ?_
    have hc : c ∉ unprintedControls := by
      intro hunprinted
      have hlow : ∀ d ∈ unprintedControls, d ≠ '\n' ∧ d.toNat < 0x20 := by
        simp [unprintedControls]
      exact hcontrol c (hlow c hunprinted).1 (hlow c hunprinted).2 hmem
    simpa using hc
  have htab : '\t' ∉ text := hcontrol '\t' (by decide) (by decide)
  rw [onConsole, String.toList_ofList, hprinted, expandTabs, expandTabsFrom_of_no_tab htab]

/-- The digits of a number are no controls. -/
lemma hasNoControls_hexDigits (width n : Nat) : HasNoControls (hexDigits width n) := by
  induction width generalizing n with
  | zero => exact hasNoControls_nil
  | succ width ih =>
    have hdigits : ∀ d < 16, 0x20 ≤ (Nat.digitChar d).toNat := by decide
    have hlast : 0x20 ≤ (Nat.digitChar (n % 16)).toNat := hdigits _ (Nat.mod_lt _ (by decide))
    rw [hexDigits, hasNoControls_append]
    exact ⟨ih _, by simp [hlast]⟩

end Text

/-! ### Printed values -/

namespace Json

open Text

/-- Controls are escaped. -/
lemma hasNoControls_escape (c : Char) : HasNoControls (escape c) := by
  unfold escape
  split_ifs with _ _ _ _ _ _ _ hcontrol
  case neg => exact hasNoControls_cons.mpr ⟨.inr (Nat.not_lt.mp hcontrol), hasNoControls_nil⟩
  all_goals simp [hasNoControls_hexDigits]

lemma hasNoControls_printText (s : String) : HasNoControls (printText s) := by
  have hbody : HasNoControls (s.toList.flatMap escape) := by
    intro c hc
    obtain ⟨d, -, hd⟩ := List.mem_flatMap.mp hc
    exact hasNoControls_escape d c hd
  simp [printText, hbody]

lemma hasNoControls_printInt (n : Int) : HasNoControls (printInt n) := by
  have hdigits : HasNoControls (Nat.toDigits 10 n.natAbs) := by
    intro c hc
    have hdigit : c.isDigit = true := Nat.isDigit_of_mem_toDigits (by decide) (by decide) hc
    simp only [Char.isDigit, Bool.and_eq_true, decide_eq_true_eq] at hdigit
    exact .inr (Nat.le_trans (by decide) (UInt32.le_iff_toNat_le.mp hdigit.1))
  unfold printInt
  split_ifs <;> simp [hdigits]

lemma hasNoControls_newLine (depth : Nat) : HasNoControls (newLine depth) := by
  have hblanks : HasNoControls (List.replicate (2 * depth) ' ') := by
    intro c hc
    rw [List.eq_of_mem_replicate hc]
    decide
  simp [newLine, hblanks]

/-- Items that are printed. -/
lemma hasNoControls_printItems {items : List Json}
    (h : ∀ v ∈ items, ∀ depth, HasNoControls (print depth v)) (depth : Nat) :
    HasNoControls (printItems depth items) := by
  induction items with
  | nil => exact hasNoControls_nil
  | cons v rest ih =>
    obtain ⟨hv, hrest⟩ := List.forall_mem_cons.mp h
    simp [printItems, hasNoControls_newLine, hv depth, ih hrest]

/-- A member that is printed. -/
lemma hasNoControls_printMember {m : String × Json}
    (h : ∀ depth, HasNoControls (print depth m.2)) (depth : Nat) :
    HasNoControls (printMember depth m) := by
  obtain ⟨k, v⟩ := m
  simp [printMember, hasNoControls_printText, h depth]

/-- Members that are printed. -/
lemma hasNoControls_printMembers {members : List (String × Json)}
    (h : ∀ m ∈ members, ∀ depth, HasNoControls (print depth m.2)) (depth : Nat) :
    HasNoControls (printMembers depth members) := by
  induction members with
  | nil => exact hasNoControls_nil
  | cons m rest ih =>
    obtain ⟨hm, hrest⟩ := List.forall_mem_cons.mp h
    simp [printMembers, hasNoControls_newLine, hasNoControls_printMember hm, ih hrest]

/-- A printed value holds no control but line feeds. -/
theorem hasNoControls_print (v : Json) : ∀ depth, HasNoControls (print depth v) := by
  induction v using Json.induction with
  | null => exact fun _ => by simp [print]
  | bool b => exact fun _ => by cases b <;> simp [print]
  | int n => exact fun _ => by simpa [print] using hasNoControls_printInt n
  | str s => exact fun _ => by simpa [print] using hasNoControls_printText s
  | arr items ih =>
    intro depth
    cases items with
    | nil => simp [print]
    | cons v rest =>
      obtain ⟨hv, hrest⟩ := List.forall_mem_cons.mp ih
      simp [print, hasNoControls_newLine, hv (depth + 1), hasNoControls_printItems hrest]
  | obj members ih =>
    intro depth
    cases members with
    | nil => simp [print]
    | cons m rest =>
      obtain ⟨hm, hrest⟩ := List.forall_mem_cons.mp ih
      simp [print, hasNoControls_newLine, hasNoControls_printMember hm,
        hasNoControls_printMembers hrest]

/-- A report in JSON stands on the console as it was printed. -/
lemma shown_json (v : Json) : (Message.json v).shown = String.ofList (print 0 v ++ ['\n']) :=
  onConsole_of_hasNoControls (hasNoControls_print v 0)

end Json

end ClassSharing
