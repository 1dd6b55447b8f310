import ClassSharing.Resolution.Tokens
import Mathlib

/-!
# Tokens and the lines they stand in

Cutting a line and joining tokens undo each other, up to the spaces at the end of the line.
`tokensOf_joinTokens` recovers the tokens from a line that was joined from them,
`exists_eq_joinTokens` recovers the line from its tokens, and `tokens_eq_iff` puts both together:
the tokens of a line are the one list of tokens that the line is written with (`IsWrittenWith`). All
that the tokens leave out is the spaces at the end (`joinTokens_tokensOf`).
-/

namespace ClassSharing

/-! ### Lists of tokens -/

/-- A list that a cut may leave behind: no token has a space in it, and the last one is not empty.
Empty tokens in front of the last one stem from doubled spaces. -/
structure AreTokens (ts : List (List Char)) : Prop where
  spaceless : ∀ t ∈ ts, ' ' ∉ t
  last_ne : ts.getLast? ≠ some []

/-- An empty token at the end of a list is a space at the end of the line. -/
lemma joinTokens_concat_empty {ts : List (List Char)} (hts : ts ≠ []) :
    joinTokens (ts ++ [[]]) = joinTokens ts ++ [' '] := by
  unfold joinTokens
  induction ts with
  | nil => exact absurd rfl hts
  | cons t rest ih =>
    cases rest with
    | nil => simp
    | cons u more =>
      have hrest : [' '].intercalate (u :: more ++ [[]]) =
          [' '].intercalate (u :: more) ++ [' '] := ih (List.cons_ne_nil u more)
      simp only [List.cons_append, List.intercalate_cons_cons] at hrest ⊢
      rw [hrest]
      simp

/-- Empty tokens at the end of a list are the spaces at the end of the line. -/
lemma joinTokens_append_empties {ts : List (List Char)} (hts : ts ≠ []) (k : Nat) :
    joinTokens (ts ++ List.replicate k []) = joinTokens ts ++ List.replicate k ' ' := by
  induction k with
  | zero => simp
  | succ k ih =>
    rw [List.replicate_succ', List.replicate_succ', ← List.append_assoc, ← List.append_assoc, ← ih]
    exact joinTokens_concat_empty (by simp [hts])

/-! ### Cutting a line -/

/-- The pieces between the separators have no separator in them. -/
lemma not_mem_of_mem_splitOn {c : Char} {text piece : List Char} (h : piece ∈ text.splitOn c) :
    c ∉ piece := by
  induction text generalizing piece with
  | nil =>
    have hpiece : piece = [] := by simpa using h
    rw [hpiece]
    exact List.not_mem_nil
  | cons x rest ih =>
    obtain ⟨first, others, hcut⟩ := List.exists_cons_of_ne_nil (List.splitOn_ne_nil c rest)
    rw [List.splitOn_cons_eq_if_modifyHead, hcut] at h
    rw [hcut] at ih
    have hfirst : c ∉ first := ih List.mem_cons_self
    by_cases hx : x = c
    · simp only [hx, beq_self_eq_true, if_true, List.mem_cons] at h
      rcases h with rfl | h
      · exact List.not_mem_nil
      · exact ih (List.mem_cons.mpr h)
    · simp only [beq_iff_eq, hx, if_false, List.modifyHead_cons, List.mem_cons] at h
      rcases h with rfl | h
      · simpa [hfirst] using fun hc : c = x => hx hc.symm
      · exact ih (List.mem_cons_of_mem first h)

/-- The cut of a line, written with the library's function that drops a tail. -/
lemma tokensOf_eq_rdropWhile (line : List Char) :
    tokensOf line = (line.splitOn ' ').rdropWhile List.isEmpty := rfl

/-- The pieces of a line are its tokens and the empty pieces that were dropped. -/
lemma exists_splitOn_eq (line : List Char) :
    ∃ k, line.splitOn ' ' = tokensOf line ++ List.replicate k [] := by
  refine ⟨((line.splitOn ' ').rtakeWhile List.isEmpty).length, ?_⟩
  have hempty : ∀ t ∈ (line.splitOn ' ').rtakeWhile List.isEmpty, t = [] := by
    intro t ht
    exact List.isEmpty_iff.mp (List.mem_rtakeWhile_imp ht)
  rw [← List.eq_replicate_of_mem hempty, tokensOf_eq_rdropWhile]
  exact (List.rdropWhile_append_rtakeWhile ..).symm

/-- Items at the end of a list that are dropped there make no difference to what is left. -/
lemma rdropWhile_append_replicate {α : Type} {p : α → Bool} {a : α} (ha : p a = true) (xs : List α)
    (k : Nat) : (xs ++ List.replicate k a).rdropWhile p = xs.rdropWhile p := by
  induction k with
  | zero => simp
  | succ k ih =>
    rw [List.replicate_succ', ← List.append_assoc, List.rdropWhile_concat_pos _ _ _ ha, ih]

/-- A list of tokens loses nothing when empty pieces at its end are dropped. -/
lemma AreTokens.rdropWhile_eq {ts : List (List Char)} (h : AreTokens ts) :
    ts.rdropWhile List.isEmpty = ts := by
  rw [List.rdropWhile_eq_self_iff]
  intro hne hempty
  refine h.last_ne ?_
  rw [List.getLast?_eq_some_getLast hne, List.isEmpty_iff.mp hempty]

/-- The tokens of a line are a list of tokens. -/
lemma areTokens_tokensOf (line : List Char) : AreTokens (tokensOf line) where
  spaceless t ht := by
    obtain ⟨k, hk⟩ := exists_splitOn_eq line
    exact not_mem_of_mem_splitOn (hk ▸ List.mem_append_left _ ht)
  last_ne := by
    intro hlast
    rw [tokensOf_eq_rdropWhile] at hlast
    have hne : (line.splitOn ' ').rdropWhile List.isEmpty ≠ [] := by
      intro hnil
      simp [hnil] at hlast
    rw [List.getLast?_eq_some_getLast hne, Option.some_inj] at hlast
    exact List.rdropWhile_last_not _ _ hne (by rw [hlast]; rfl)

/-! ### Cutting and joining -/

/-- Cutting a line that was joined from tokens gives the tokens, whatever spaces stand behind
them. -/
theorem tokensOf_joinTokens {ts : List (List Char)} (h : AreTokens ts) (k : Nat) :
    tokensOf (joinTokens ts ++ List.replicate k ' ') = ts := by
  rw [tokensOf_eq_rdropWhile]
  by_cases hts : ts = []
  · -- a line of `k` spaces has `k + 1` empty pieces
    have hline :
        joinTokens [] ++ List.replicate k ' ' = joinTokens ([[]] ++ List.replicate k []) := by
      rw [joinTokens_append_empties (by simp)]
      simp [joinTokens]
    rw [hts, hline, joinTokens, List.splitOn_intercalate ' ' (by simp) (by simp),
      rdropWhile_append_replicate rfl]
    rfl
  · have hfree : ∀ t ∈ ts ++ List.replicate k [], ' ' ∉ t := by
      intro t ht
      rcases List.mem_append.mp ht with ht | ht
      · exact h.spaceless t ht
      · simp [List.eq_of_mem_replicate ht]
    rw [← joinTokens_append_empties hts, joinTokens,
      List.splitOn_intercalate ' ' hfree (by simp [hts]), rdropWhile_append_replicate rfl]
    exact h.rdropWhile_eq

/-- A line is its tokens with single spaces between them and the spaces at its end. -/
theorem exists_eq_joinTokens (line : List Char) :
    ∃ k, line = joinTokens (tokensOf line) ++ List.replicate k ' ' := by
  obtain ⟨k, hk⟩ := exists_splitOn_eq line
  have hline : line = joinTokens (tokensOf line ++ List.replicate k []) := by
    rw [← hk]
    exact (List.intercalate_splitOn ' ').symm
  by_cases hts : tokensOf line = []
  · have hpos : k ≠ 0 := by
      intro hk0
      exact List.splitOn_ne_nil ' ' line (by rw [hk, hts, hk0]; rfl)
    obtain ⟨j, rfl⟩ := Nat.exists_eq_succ_of_ne_zero hpos
    refine ⟨j, ?_⟩
    rw [hts, List.nil_append, List.replicate_succ, ← List.singleton_append,
      joinTokens_append_empties (by simp)] at hline
    simpa [hts, joinTokens] using hline
  · exact ⟨k, by rw [← joinTokens_append_empties hts]; exact hline⟩

/-- The tokens of a line are the one list of tokens from which the line is joined, up to the spaces
at its end. -/
theorem tokensOf_eq_iff {line : List Char} {ts : List (List Char)} :
    tokensOf line = ts ↔
      (∃ k, line = joinTokens ts ++ List.replicate k ' ') ∧ AreTokens ts := by
  constructor
  · rintro rfl
    exact ⟨exists_eq_joinTokens line, areTokens_tokensOf line⟩
  · rintro ⟨⟨k, rfl⟩, h⟩
    exact tokensOf_joinTokens h k

/-! ### Spaces at the end of a line -/

/-- Spaces behind a line make no difference to its tokens. -/
theorem tokensOf_append_spaces (line : List Char) (k : Nat) :
    tokensOf (line ++ List.replicate k ' ') = tokensOf line := by
  obtain ⟨j, hj⟩ := exists_eq_joinTokens line
  have hline : line ++ List.replicate k ' ' =
      joinTokens (tokensOf line) ++ List.replicate (j + k) ' ' := by
    rw [← List.replicate_append_replicate, ← List.append_assoc, ← hj]
  exact tokensOf_eq_iff.mpr ⟨⟨j + k, hline⟩, areTokens_tokensOf line⟩

/-- Tokens that are joined end in no space. -/
lemma AreTokens.getLast?_joinTokens_ne {ts : List (List Char)} (h : AreTokens ts) :
    (joinTokens ts).getLast? ≠ some ' ' := by
  intro hlast
  obtain ⟨front, hfront⟩ := List.getLast?_eq_some_iff.mp hlast
  have hts : tokensOf front = ts := by
    rw [← tokensOf_append_spaces front 1, List.replicate_one, ← hfront]
    simpa using tokensOf_joinTokens h 0
  -- the line without its last space has the same tokens, so it would be as long as the whole line
  obtain ⟨k, hk⟩ := exists_eq_joinTokens front
  rw [hts, hfront] at hk
  have hlength := congrArg List.length hk
  simp only [List.length_append, List.length_singleton] at hlength
  omega

/-- The tokens of a line, joined again, are the line without the spaces at its end. -/
theorem joinTokens_tokensOf (line : List Char) :
    joinTokens (tokensOf line) = Text.dropTail (· == ' ') line := by
  obtain ⟨k, hk⟩ := exists_eq_joinTokens line
  have hself : (joinTokens (tokensOf line)).rdropWhile (· == ' ') = joinTokens (tokensOf line) := by
    rw [List.rdropWhile_eq_self_iff]
    intro hne hspace
    refine (areTokens_tokensOf line).getLast?_joinTokens_ne ?_
    rw [List.getLast?_eq_some_getLast hne, beq_iff_eq.mp hspace]
  calc joinTokens (tokensOf line)
      = (joinTokens (tokensOf line)).rdropWhile (· == ' ') := hself.symm
    _ = (joinTokens (tokensOf line) ++ List.replicate k ' ').rdropWhile (· == ' ') :=
      (rdropWhile_append_replicate rfl _ k).symm
    _ = Text.dropTail (· == ' ') line := by
      rw [← hk]
      rfl

/-! ### Lines as strings -/

/-- A text of spaces. -/
def spaces (k : Nat) : String := String.ofList (List.replicate k ' ')

/-- No spaces make up the empty text. -/
@[simp] lemma spaces_zero : spaces 0 = "" := rfl

/-- A line is written with some tokens if it consists of them, single spaces between them, and
spaces at its end. -/
structure IsWrittenWith (line : String) (ts : List String) : Prop where
  joined : ∃ k, line = " ".intercalate ts ++ spaces k
  spaceless : ∀ t ∈ ts, ' ' ∉ t.toList
  last_ne : ts.getLast? ≠ some ""

/-- What a line is written with, seen as lists of characters. -/
lemma isWrittenWith_iff_toList {line : String} {ts : List String} :
    IsWrittenWith line ts ↔
      (∃ k, line.toList = joinTokens (ts.map String.toList) ++ List.replicate k ' ') ∧
        AreTokens (ts.map String.toList) := by
  have hline : ∀ k, line = " ".intercalate ts ++ spaces k ↔
      line.toList = joinTokens (ts.map String.toList) ++ List.replicate k ' ' := by
    intro k
    rw [← String.toList_inj, String.toList_append, String.toList_intercalate]
    simp [spaces, joinTokens]
  have hlast : ts.getLast? ≠ some "" ↔ (ts.map String.toList).getLast? ≠ some [] := by
    rw [List.getLast?_map]
    simp
  constructor
  · rintro ⟨⟨k, hk⟩, hfree, hne⟩
    exact ⟨⟨k, (hline k).mp hk⟩, by simpa using hfree, hlast.mp hne⟩
  · rintro ⟨⟨k, hk⟩, hfree, hne⟩
    exact ⟨⟨k, (hline k).mpr hk⟩, by simpa using hfree, hlast.mpr hne⟩

/-- The tokens of a line are the one list of tokens that it is written with. -/
theorem tokens_eq_iff {line : String} {ts : List String} :
    tokens line = ts ↔ IsWrittenWith line ts := by
  rw [isWrittenWith_iff_toList, ← tokensOf_eq_iff, tokens]
  constructor
  · rintro rfl
    simp [Function.comp_def]
  · intro h
    simp [h, Function.comp_def]

/-- A line without the spaces at its end. -/
def withoutEndSpaces (line : String) : String :=
  String.ofList (Text.dropTail (· == ' ') line.toList)

/-- The tokens of a line, joined again, are the line without the spaces at its end. -/
lemma intercalate_tokens (line : String) :
    " ".intercalate (tokens line) = withoutEndSpaces line := by
  rw [← String.toList_inj, String.toList_intercalate, withoutEndSpaces, String.toList_ofList,
    ← joinTokens_tokensOf, joinTokens, tokens]
  simp [Function.comp_def]

/-- Spaces behind a line make no difference to its tokens. -/
lemma tokens_append_spaces (line : String) (k : Nat) : tokens (line ++ spaces k) = tokens line := by
  simp [tokens, spaces, tokensOf_append_spaces]

/-- The tokens of a line stand for the line without the spaces at its end. Joined again they are
that line, none has a space in it, and the last one, if there is one, is not empty. Tokens of that
kind are found again in the line that is joined from them, whatever spaces stand behind it. So
spaces behind a line never change its tokens, and two lines have the same tokens exactly if they
agree up to the spaces at their ends. -/
theorem tokens_exact :
    (∀ line : String, " ".intercalate (tokens line) = withoutEndSpaces line ∧
      (∀ t ∈ tokens line, ' ' ∉ t.toList) ∧ (tokens line).getLast? ≠ some "") ∧
    (∀ ts : List String, (∀ t ∈ ts, ' ' ∉ t.toList) → ts.getLast? ≠ some "" →
      ∀ k, tokens (" ".intercalate ts ++ spaces k) = ts) ∧
    (∀ (line : String) (k : Nat), tokens (line ++ spaces k) = tokens line) ∧
    ∀ a b : String, tokens a = tokens b ↔ withoutEndSpaces a = withoutEndSpaces b := by
  have hcode : ∀ ts : List String, (∀ t ∈ ts, ' ' ∉ t.toList) → ts.getLast? ≠ some "" →
      ∀ k, tokens (" ".intercalate ts ++ spaces k) = ts := fun ts hfree hlast k =>
    tokens_eq_iff.mpr ⟨⟨k, rfl⟩, hfree, hlast⟩
  refine ⟨fun line => ?_, hcode, tokens_append_spaces, fun a b => ⟨fun h => ?_, fun h => ?_⟩⟩
  · have hwritten : IsWrittenWith line (tokens line) := tokens_eq_iff.mp rfl
    exact ⟨intercalate_tokens line, hwritten.spaceless, hwritten.last_ne⟩
  · rw [← intercalate_tokens, ← intercalate_tokens, h]
  · have hself : ∀ line, tokens (withoutEndSpaces line) = tokens line := by
      intro line
      have hwritten : IsWrittenWith line (tokens line) := tokens_eq_iff.mp rfl
      rw [← intercalate_tokens]
      simpa using hcode (tokens line) hwritten.spaceless hwritten.last_ne 0
    rw [← hself a, h, hself b]

/-- An empty token may come first or in between, and a line of spaces has no tokens. -/
theorem tokens_exact_of_doubled_spaces :
    (∀ t ∈ ["", "a", "", "b"], ' ' ∉ t.toList) ∧ ["", "a", "", "b"].getLast? ≠ some "" ∧
      tokens (" a  b" ++ spaces 2) = ["", "a", "", "b"] ∧ tokens (spaces 3) = [] := by
  have hfree : ∀ t ∈ ["", "a", "", "b"], ' ' ∉ t.toList := by decide +kernel
  have hlast : ["", "a", "", "b"].getLast? ≠ some "" := by decide
  exact ⟨hfree, hlast, tokens_exact.2.1 _ hfree hlast 2, tokens_exact.2.1 [] (by simp) (by simp) 3⟩

end ClassSharing
