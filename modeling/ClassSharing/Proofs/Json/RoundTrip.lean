import Mathlib
import ClassSharing.Json.Reader
import ClassSharing.Proofs.Json.Printed

/-!
# Printed JSON is read back

A value that is printed is read back, whatever stands behind it, unless that goes on with a number
(`EndsNumber`). Texts, numbers, items and members are read back one by one; `readsBack` puts them
together by induction on the value, and `ofText?_print` is the result for a whole text. The length
of the printed text is fuel enough.
-/

namespace ClassSharing.Json

/-! ### Texts -/

/-- The digits that are printed have the values that are read. -/
lemma hexValue?_digitChar {d : Nat} (h : d < 16) : hexValue? (Nat.digitChar d) = some d := by
  have hall : ∀ d < 16, hexValue? (Nat.digitChar d) = some d := by decide
  exact hall d h

/-- Four hexadecimal digits. -/
lemma readUnit?_hexDigits {n : Nat} (h : n < 0x10000) (rest : List Char) :
    readUnit? (Text.hexDigits 4 n ++ rest) = some (n, rest) := by
  have hdigit : ∀ m, hexValue? (Nat.digitChar (m % 16)) = some (m % 16) := fun m =>
    hexValue?_digitChar (Nat.mod_lt m (by decide))
  have hvalue :
      ((n / 16 / 16 / 16 % 16 * 16 + n / 16 / 16 % 16) * 16 + n / 16 % 16) * 16 + n % 16 = n := by
    omega
  simp [Text.hexDigits, readUnit?, hdigit, hvalue]

/-- A character by its number, unless that is a surrogate. -/
lemma readNumbered?_hexDigits {n : Nat} (h : n < 0xd800) (rest : List Char) :
    readNumbered? (Text.hexDigits 4 n ++ rest) = some (Char.ofNat n, rest) := by
  have hhigh : ¬ (0xd800 ≤ n ∧ n < 0xdc00) := by omega
  have hlow : ¬ (0xdc00 ≤ n ∧ n < 0xe000) := by omega
  rw [readNumbered?, readUnit?_hexDigits (by omega)]
  simp [hhigh, hlow]

/-- An escape, whose backslash and character are read. -/
lemma readText?_backslash {text rest : List Char} {c : Char}
    (h : readEscape? text = some (c, rest)) (fuel : Nat) :
    readText? (fuel + 1) ('\\' :: text) =
      (readText? fuel rest).map fun p => (c :: p.1, p.2) := by
  have hquote : '\\' ≠ '"' := by decide
  rw [readText?, if_neg hquote, if_pos rfl, h]
  cases hrest : readText? fuel rest <;> simp [hrest]

/-- A character that stands for itself. -/
lemma readText?_cons {c : Char} (hquote : c ≠ '"') (hbackslash : c ≠ '\\')
    (hcontrol : ¬ c.toNat < 0x20) (fuel : Nat) (rest : List Char) :
    readText? (fuel + 1) (c :: rest) = (readText? fuel rest).map fun p => (c :: p.1, p.2) := by
  rw [readText?, if_neg hquote, if_neg hbackslash, if_neg hcontrol]
  cases readText? fuel rest <;> rfl

/-- A character is read as it was printed. -/
lemma readText?_escape (c : Char) (fuel : Nat) (rest : List Char) :
    readText? (fuel + 1) (escape c ++ rest) =
      (readText? fuel rest).map fun p => (c :: p.1, p.2) := by
  unfold escape
  split_ifs with hquote hbackslash _ _ _ _ _ hcontrol
  iterate 7
    · subst c
      exact readText?_backslash rfl fuel
  · have hread : readEscape? ('u' :: (Text.hexDigits 4 c.toNat ++ rest)) = some (c, rest) := by
      rw [readEscape?, readNumbered?_hexDigits (by omega), Char.ofNat_toNat]
    exact readText?_backslash hread fuel
  · exact readText?_cons hquote hbackslash hcontrol fuel rest

/-- Characters are read as they were printed, up to the closing quote. -/
lemma readText?_flatMap_escape {s : List Char} {fuel : Nat} (h : s.length < fuel)
    (rest : List Char) : readText? fuel (s.flatMap escape ++ '"' :: rest) = some (s, rest) := by
  induction s generalizing fuel with
  | nil =>
    obtain ⟨fuel, rfl⟩ := Nat.exists_eq_succ_of_ne_zero (Nat.ne_of_gt h)
    rfl
  | cons c s ih =>
    obtain ⟨fuel, rfl⟩ := Nat.exists_eq_succ_of_ne_zero (Nat.ne_of_gt (Nat.zero_lt_of_lt h))
    rw [List.flatMap_cons, List.append_assoc, readText?_escape, ih (Nat.lt_of_succ_lt_succ h)]
    rfl

/-- A text is printed with at least as many characters. -/
lemma length_le_length_flatMap_escape (s : List Char) : s.length ≤ (s.flatMap escape).length := by
  have hone : ∀ c, 1 ≤ (escape c).length := by
    intro c
    unfold escape
    split_ifs <;> simp
  induction s with
  | nil => exact Nat.zero_le _
  | cons c s ih =>
    have hc := hone c
    rw [List.flatMap_cons, List.length_append, List.length_cons]
    omega

/-- A printed text behind its opening quote, read as the reader of values does. -/
lemma readText?_printText (s : String) (rest : List Char) :
    readText? ((s.toList.flatMap escape ++ '"' :: rest).length + 1)
      (s.toList.flatMap escape ++ '"' :: rest) = some (s.toList, rest) := by
  refine readText?_flatMap_escape ?_ rest
  have hlength := length_le_length_flatMap_escape s.toList
  rw [List.length_append]
  omega

/-! ### Numbers -/

/-- A number does not go on with a text. -/
def EndsNumber (text : List Char) : Prop :=
  ∀ c ∈ text.head?, c.isDigit = false ∧ c ∉ ['.', 'e', 'E']

/-- Digits have the value of the number that they were printed for. -/
lemma digitsValue_toDigits (n : Nat) : digitsValue (Nat.toDigits 10 n) = n := by
  have hvalue := Nat.ofDigitChars_ten_toDigits (n := n)
  rw [Nat.ofDigitChars_eq_foldl] at hvalue
  simpa only [digitsValue, Nat.mul_comm 10] using hvalue

/-- A number is printed without superfluous zeros. -/
lemma toDigits_ne_zero_cons {n : Nat} (h : 0 < n) (digits : List Char) :
    Nat.toDigits 10 n ≠ '0' :: digits := by
  induction n using Nat.strongRecOn generalizing digits with
  | ind n ih =>
    intro hzero
    rw [Nat.toDigits_eq_if (by decide)] at hzero
    split_ifs at hzero with hsmall
    · have hdigit := Nat.digitChar_eq_zero.mp (List.cons.inj hzero).1
      omega
    · obtain ⟨first, more, hfirst⟩ := List.exists_cons_of_ne_nil
        (Nat.toDigits_ne_nil (n := n / 10) (b := 10))
      rw [hfirst, List.cons_append] at hzero
      rw [(List.cons.inj hzero).1] at hfirst
      exact ih (n / 10) (by omega) (by omega) more hfirst

/-- A number is printed with digits only. -/
lemma isDigit_of_mem_toDigits {n : Nat} {c : Char} (h : c ∈ Nat.toDigits 10 n) :
    c.isDigit = true :=
  Nat.isDigit_of_mem_toDigits (by decide) (by decide) h

/-- A number is printed with at least one digit. -/
lemma exists_toDigits_eq_cons (n : Nat) :
    ∃ c text, Nat.toDigits 10 n = c :: text ∧ c.isDigit = true := by
  obtain ⟨c, text, htext⟩ := List.exists_cons_of_ne_nil (Nat.toDigits_ne_nil (n := n) (b := 10))
  have hmem : c ∈ Nat.toDigits 10 n := by
    rw [htext]
    exact List.mem_cons_self
  exact ⟨c, text, htext, isDigit_of_mem_toDigits hmem⟩

/-- A number is read as it was printed. -/
lemma readNat?_toDigits (n : Nat) {rest : List Char} (h : EndsNumber rest) :
    readNat? (Nat.toDigits 10 n ++ rest) = some (n, rest) := by
  have hdigits : ∀ c ∈ Nat.toDigits 10 n, c.isDigit = true := fun _ => isDigit_of_mem_toDigits
  have htake : (Nat.toDigits 10 n ++ rest).takeWhile Char.isDigit = Nat.toDigits 10 n := by
    rw [List.takeWhile_append_of_pos hdigits]
    cases rest with
    | nil => simp
    | cons c rest => simp [(h c rfl).1]
  have hdrop : (Nat.toDigits 10 n ++ rest).dropWhile Char.isDigit = rest := by
    rw [List.dropWhile_append_of_pos hdigits]
    cases rest with
    | nil => rfl
    | cons c rest => simp [(h c rfl).1]
  unfold readNat?
  simp only [htake, hdrop]
  split
  case h_1 hnone => exact absurd hnone Nat.toDigits_ne_nil
  case h_2 => exact absurd (h '.' rfl).2 (by decide)
  case h_3 => exact absurd (h 'e' rfl).2 (by decide)
  case h_4 => exact absurd (h 'E' rfl).2 (by decide)
  case h_5 hzero _ _ _ =>
    rcases Nat.eq_zero_or_pos n with rfl | hpos
    · simp at hzero
    · exact absurd hzero (toDigits_ne_zero_cons hpos _)
  case h_6 => rw [digitsValue_toDigits]

/-! ### Blanks -/

/-- Blanks are skipped. -/
lemma skipGap_append {gap : List Char} (h : ∀ c ∈ gap, isGap c = true) (text : List Char) :
    skipGap (gap ++ text) = skipGap text :=
  List.dropWhile_append_of_pos h

/-- In front of a token nothing is skipped. -/
lemma skipGap_cons {c : Char} (h : isGap c = false) (text : List Char) :
    skipGap (c :: text) = c :: text := by
  rw [skipGap, List.dropWhile_cons_of_neg (by simp [h])]

/-- A number does not go on with a blank. -/
lemma endsNumber_of_isGap {c : Char} (h : isGap c = true) (text : List Char) :
    EndsNumber (c :: text) := by
  rintro _ ⟨⟩
  simp only [isGap, Bool.or_eq_true, beq_iff_eq] at h
  rcases h with ((rfl | rfl) | rfl) | rfl <;> decide

/-- A digit is not a blank. -/
lemma isGap_of_isDigit {c : Char} (h : c.isDigit = true) : isGap c = false := by
  by_contra hgap
  have hdigit := (endsNumber_of_isGap (Bool.of_not_eq_false hgap) [] c rfl).1
  exact absurd h (by simp [hdigit])

/-- Line breaks are blanks. -/
lemma isGap_newLine {depth : Nat} {c : Char} (h : c ∈ newLine depth) : isGap c = true := by
  rcases List.mem_cons.mp h with rfl | hc
  · rfl
  · rw [List.eq_of_mem_replicate hc]
    rfl

/-- Behind a line break comes the same token. -/
@[simp]
lemma skipGap_newLine (depth : Nat) (text : List Char) :
    skipGap (newLine depth ++ text) = skipGap text :=
  skipGap_append (fun _ => isGap_newLine) text

/-- A number does not go on with a line break. -/
lemma endsNumber_newLine (depth : Nat) (text : List Char) : EndsNumber (newLine depth ++ text) :=
  endsNumber_of_isGap rfl _

/-- Behind blanks the same value is read. -/
lemma readValue?_gap {gap : List Char} (h : ∀ c ∈ gap, isGap c = true) (fuel : Nat)
    (text : List Char) : readValue? fuel (gap ++ text) = readValue? fuel text := by
  cases fuel with
  | zero => rfl
  | succ fuel => rw [readValue?, readValue?, skipGap_append h]

/-- Behind a line break the same items are read. -/
lemma readItems?_newLine (fuel depth : Nat) (text : List Char) :
    readItems? fuel (newLine depth ++ text) = readItems? fuel text := by
  cases fuel with
  | zero => rfl
  | succ fuel => rw [readItems?, readItems?, readValue?_gap fun _ => isGap_newLine]

/-- Behind a line break the same members are read. -/
lemma readMembers?_newLine (fuel depth : Nat) (text : List Char) :
    readMembers? fuel (newLine depth ++ text) = readMembers? fuel text := by
  cases fuel with
  | zero => rfl
  | succ fuel => rw [readMembers?, readMembers?, skipGap_newLine]

/-! ### Values -/

/-- A value is read back, if a number does not go on behind it and the fuel is at least the length
of the printed value. -/
def ReadsBack (v : Json) : Prop := ∀ depth fuel rest, EndsNumber rest →
  (print depth v).length ≤ fuel → readValue? fuel (print depth v ++ rest) = some (v, rest)

/-- A printed integer begins with a sign or a digit. -/
lemma exists_printInt_eq_cons (n : Int) :
    ∃ c text, printInt n = c :: text ∧ (c = '-' ∨ c.isDigit = true) := by
  unfold printInt
  split_ifs
  · exact ⟨_, _, rfl, .inl rfl⟩
  · obtain ⟨c, text, htext, hc⟩ := exists_toDigits_eq_cons n.natAbs
    exact ⟨c, text, htext, .inr hc⟩

/-- A printed value begins with a token, and not with the end of an array. -/
lemma exists_print_eq_cons (depth : Nat) (v : Json) :
    ∃ c text, print depth v = c :: text ∧ isGap c = false ∧ c ≠ ']' := by
  match v with
  | .null => exact ⟨_, _, by rw [print]; rfl, by decide, by decide⟩
  | .bool true => exact ⟨_, _, by rw [print]; rfl, by decide, by decide⟩
  | .bool false => exact ⟨_, _, by rw [print]; rfl, by decide, by decide⟩
  | .int n =>
    obtain ⟨c, text, htext, rfl | hc⟩ := exists_printInt_eq_cons n
    · exact ⟨_, text, by rw [print, htext], by decide, by decide⟩
    · refine ⟨c, text, by rw [print, htext], isGap_of_isDigit hc, ?_⟩
      rintro rfl
      exact absurd hc (by decide)
  | .str s => exact ⟨_, _, by rw [print]; rfl, by decide, by decide⟩
  | .arr [] => exact ⟨_, _, by rw [print], by decide, by decide⟩
  | .arr (_ :: _) => exact ⟨_, _, by rw [print]; rfl, by decide, by decide⟩
  | .obj [] => exact ⟨_, _, by rw [print], by decide, by decide⟩
  | .obj (_ :: _) => exact ⟨_, _, by rw [print]; rfl, by decide, by decide⟩

/-- With no fuel there is no value to read, so the fuel may be taken to be positive. -/
lemma readsBack_of_succ {v : Json} (h : ∀ depth fuel rest, EndsNumber rest →
    (print depth v).length ≤ fuel + 1 →
      readValue? (fuel + 1) (print depth v ++ rest) = some (v, rest)) : ReadsBack v := by
  intro depth fuel rest hrest hfuel
  cases fuel with
  | zero =>
    obtain ⟨c, text, htext, -⟩ := exists_print_eq_cons depth v
    exact absurd hfuel (by simp [htext])
  | succ fuel => exact h depth fuel rest hrest hfuel

/-- A text in quotes. -/
lemma readsBack_str (s : String) : ReadsBack (.str s) := by
  refine readsBack_of_succ fun depth fuel rest _ _ => ?_
  have htext : print depth (.str s) ++ rest = '"' :: (s.toList.flatMap escape ++ '"' :: rest) := by
    simp [print, printText]
  rw [htext, readValue?, skipGap_cons (by decide)]
  simp only [readText?_printText]
  simp

/-- What begins with a digit is a number. -/
lemma readValue?_of_isDigit {c : Char} (hc : c.isDigit = true) (fuel : Nat) (text : List Char) :
    readValue? (fuel + 1) (c :: text) =
      (readNat? (c :: text)).map fun p => (.int p.1, p.2) := by
  have hne : ∀ d : Char, d.isDigit = false → c ≠ d := by
    rintro d hd rfl
    exact absurd hd (by simp [hc])
  rw [readValue?, skipGap_cons (isGap_of_isDigit hc)]
  split
  case h_8 => cases readNat? (c :: text) <;> rfl
  all_goals
    rename_i heq
    exact absurd (List.cons.inj heq).1 (hne _ (by decide))

/-- An integer. -/
lemma readsBack_int (n : Int) : ReadsBack (.int n) := by
  refine readsBack_of_succ fun depth fuel rest hrest _ => ?_
  have hread := readNat?_toDigits n.natAbs hrest
  rw [print, printInt]
  split_ifs with hsign
  · have hvalue : -(n.natAbs : Int) = n := by omega
    rw [List.cons_append, readValue?, skipGap_cons (by decide)]
    simp only [hread, Option.bind_eq_bind, Option.bind_some, hvalue]
    rfl
  · have hvalue : (n.natAbs : Int) = n := by omega
    obtain ⟨c, text, htext, hc⟩ := exists_toDigits_eq_cons n.natAbs
    rw [htext, List.cons_append] at hread ⊢
    rw [readValue?_of_isDigit hc, hread, Option.map_some, hvalue]

/-! ### Items -/

/-- A number does not go on behind an item. -/
lemma endsNumber_printItems (depth outer : Nat) (items : List Json) (text : List Char) :
    EndsNumber (printItems depth items ++ (newLine outer ++ text)) := by
  cases items with
  | nil => exact endsNumber_newLine outer text
  | cons v rest =>
    rintro c ⟨⟩
    decide

/-- Items that are read back one by one are read back together, up to the closing bracket. -/
lemma readItems?_printItems {items : List Json} (h : ∀ v ∈ items, ReadsBack v) {v : Json}
    (hv : ReadsBack v) {depth fuel : Nat}
    (hfuel : (print depth v ++ printItems depth items).length < fuel) (outer : Nat)
    (rest : List Char) :
    readItems? fuel (print depth v ++ (printItems depth items ++ (newLine outer ++ ']' :: rest))) =
      some (v :: items, rest) := by
  induction items generalizing v fuel with
  | nil =>
    obtain ⟨fuel, rfl⟩ := Nat.exists_eq_succ_of_ne_zero (Nat.ne_zero_of_lt hfuel)
    rw [List.length_append] at hfuel
    have hread := hv depth fuel _ (endsNumber_printItems depth outer [] (']' :: rest)) (by omega)
    rw [readItems?, hread]
    simp [printItems, skipGap_cons (show isGap ']' = false by decide)]
  | cons w items ih =>
    obtain ⟨fuel, rfl⟩ := Nat.exists_eq_succ_of_ne_zero (Nat.ne_zero_of_lt hfuel)
    obtain ⟨hw, hitems⟩ := List.forall_mem_cons.mp h
    simp only [printItems, List.length_append, List.length_cons] at hfuel
    have hread := hv depth fuel _ (endsNumber_printItems depth outer (w :: items) (']' :: rest))
      (by omega)
    have hlength : (print depth w ++ printItems depth items).length < fuel := by
      rw [List.length_append]
      omega
    have hmore := ih hitems hw hlength
    rw [readItems?, hread]
    simp only [printItems, List.cons_append, List.append_assoc]
    simp [skipGap_cons (show isGap ',' = false by decide), readItems?_newLine, hmore]

/-- An opening bracket with items behind it. -/
lemma readValue?_bracket {c : Char} (hgap : isGap c = false) (hclosed : c ≠ ']') (fuel depth : Nat)
    (text : List Char) :
    readValue? (fuel + 1) ('[' :: (newLine depth ++ c :: text)) =
      (readItems? fuel (c :: text)).map fun p => (.arr p.1, p.2) := by
  rw [readValue?, skipGap_cons (by decide)]
  simp only [skipGap_newLine, skipGap_cons hgap]
  split
  case h_1 heq => exact absurd (List.cons.inj heq).1 hclosed
  case h_2 => cases readItems? fuel (c :: text) <;> rfl

/-- An array. -/
lemma readsBack_arr {items : List Json} (h : ∀ v ∈ items, ReadsBack v) :
    ReadsBack (.arr items) := by
  refine readsBack_of_succ fun depth fuel rest _ hfuel => ?_
  cases items with
  | nil =>
    rw [print, List.cons_append, readValue?, skipGap_cons (by decide)]
    rfl
  | cons v items =>
    obtain ⟨hv, hitems⟩ := List.forall_mem_cons.mp h
    obtain ⟨c, text, htext, hgap, hclosed⟩ := exists_print_eq_cons (depth + 1) v
    simp only [print, newLine, List.length_append, List.length_cons] at hfuel
    have hlength : (print (depth + 1) v ++ printItems (depth + 1) items).length < fuel := by
      rw [List.length_append]
      omega
    have hread := readItems?_printItems hitems hv hlength depth rest
    have hprinted : print depth (.arr (v :: items)) ++ rest =
        '[' :: (newLine (depth + 1) ++ (print (depth + 1) v ++
          (printItems (depth + 1) items ++ (newLine depth ++ ']' :: rest)))) := by
      simp [print]
    rw [htext, List.cons_append] at hread
    rw [hprinted, htext, List.cons_append, readValue?_bracket hgap hclosed, hread]
    rfl

/-! ### Members -/

/-- A number does not go on behind a member. -/
lemma endsNumber_printMembers (depth outer : Nat) (members : List (String × Json))
    (text : List Char) : EndsNumber (printMembers depth members ++ (newLine outer ++ text)) := by
  cases members with
  | nil => exact endsNumber_newLine outer text
  | cons m rest =>
    rintro c ⟨⟩
    decide

/-- The name and the value of a member are read, and then what stands behind them: the closing
brace, or a comma and more members. -/
lemma readMembers?_printMember {v : Json} (hv : ReadsBack v) (k : String) {depth fuel : Nat}
    (hfuel : (print depth v).length ≤ fuel) {rest : List Char} (hrest : EndsNumber rest) :
    readMembers? (fuel + 1) (printMember depth (k, v) ++ rest) =
      match skipGap rest with
      | '\x7d' :: rest => some ([(k, v)], rest)
      | ',' :: rest => (readMembers? fuel rest).bind fun p => some ((k, v) :: p.1, p.2)
      | _ => none := by
  have hprinted : printMember depth (k, v) ++ rest =
      '"' :: (k.toList.flatMap escape ++ '"' :: ':' :: ' ' :: (print depth v ++ rest)) := by
    simp [printMember, printText]
  have hblank : readValue? fuel (' ' :: (print depth v ++ rest)) = some (v, rest) := by
    have hgap : ∀ c ∈ [' '], isGap c = true := List.forall_mem_singleton.mpr rfl
    rw [← hv depth fuel rest hrest hfuel]
    exact readValue?_gap hgap fuel _
  rw [hprinted, readMembers?, skipGap_cons (by decide)]
  simp only [readText?_printText, Option.bind_eq_bind, Option.bind_some,
    skipGap_cons (show isGap ':' = false by decide), hblank, String.ofList_toList]
  rfl

/-- Members that are read back one by one are read back together, up to the closing brace. -/
lemma readMembers?_printMembers {members : List (String × Json)} (h : ∀ m ∈ members, ReadsBack m.2)
    {k : String} {v : Json} (hv : ReadsBack v) {depth fuel : Nat}
    (hfuel : (printMember depth (k, v) ++ printMembers depth members).length < fuel) (outer : Nat)
    (rest : List Char) :
    readMembers? fuel (printMember depth (k, v) ++
      (printMembers depth members ++ (newLine outer ++ '\x7d' :: rest))) =
        some ((k, v) :: members, rest) := by
  induction members generalizing k v fuel with
  | nil =>
    obtain ⟨fuel, rfl⟩ := Nat.exists_eq_succ_of_ne_zero (Nat.ne_zero_of_lt hfuel)
    simp only [printMember, List.length_append, List.length_cons] at hfuel
    rw [readMembers?_printMember hv k (by omega) (endsNumber_printMembers depth outer [] _)]
    simp [printMembers, skipGap_cons (show isGap '\x7d' = false by decide)]
  | cons m members ih =>
    obtain ⟨fuel, rfl⟩ := Nat.exists_eq_succ_of_ne_zero (Nat.ne_zero_of_lt hfuel)
    obtain ⟨l, w⟩ := m
    have hw : ReadsBack w := h (l, w) List.mem_cons_self
    simp only [printMember, printMembers, List.length_append, List.length_cons] at hfuel
    have hlength : (printMember depth (l, w) ++ printMembers depth members).length < fuel := by
      simp only [printMember, List.length_append, List.length_cons]
      omega
    have hmore := ih (List.forall_mem_cons.mp h).2 hw hlength
    rw [readMembers?_printMember hv k (by omega)
      (endsNumber_printMembers depth outer ((l, w) :: members) _)]
    simp only [printMembers, List.cons_append, List.append_assoc]
    simp [skipGap_cons (show isGap ',' = false by decide), readMembers?_newLine, hmore]

/-- An opening brace with members behind it. -/
lemma readValue?_brace (fuel depth : Nat) (text : List Char) :
    readValue? (fuel + 1) ('\x7b' :: (newLine depth ++ '"' :: text)) =
      (readMembers? fuel ('"' :: text)).map fun p => (.obj p.1, p.2) := by
  rw [readValue?, skipGap_cons (by decide)]
  simp only [skipGap_newLine, skipGap_cons (show isGap '"' = false by decide)]
  split
  case h_1 heq => exact absurd (List.cons.inj heq).1 (by decide)
  case h_2 => cases readMembers? fuel ('"' :: text) <;> rfl

/-- An object. -/
lemma readsBack_obj {members : List (String × Json)} (h : ∀ m ∈ members, ReadsBack m.2) :
    ReadsBack (.obj members) := by
  refine readsBack_of_succ fun depth fuel rest _ hfuel => ?_
  cases members with
  | nil =>
    rw [print, List.cons_append, readValue?, skipGap_cons (by decide)]
    rfl
  | cons m members =>
    obtain ⟨k, v⟩ := m
    have hv : ReadsBack v := h (k, v) List.mem_cons_self
    have hmembers := (List.forall_mem_cons.mp h).2
    simp only [print, newLine, List.length_append, List.length_cons] at hfuel
    have hlength : (printMember (depth + 1) (k, v) ++ printMembers (depth + 1) members).length <
        fuel := by
      rw [List.length_append]
      omega
    have hread := readMembers?_printMembers hmembers hv hlength depth rest
    have hprinted : print depth (.obj ((k, v) :: members)) ++ rest =
        '\x7b' :: (newLine (depth + 1) ++ (printMember (depth + 1) (k, v) ++
          (printMembers (depth + 1) members ++ (newLine depth ++ '\x7d' :: rest)))) := by
      simp [print]
    obtain ⟨text, htext⟩ : ∃ text, printMember (depth + 1) (k, v) = '"' :: text :=
      ⟨_, by rw [printMember, printText]; rfl⟩
    rw [htext, List.cons_append] at hread
    rw [hprinted, htext, List.cons_append, readValue?_brace, hread]
    rfl

/-! ### Whole texts -/

/-- Every value is read back. -/
theorem readsBack (v : Json) : ReadsBack v := by
  induction v using Json.induction with
  | null => exact readsBack_of_succ fun depth fuel rest _ _ => by rw [print]; rfl
  | bool b => exact readsBack_of_succ fun depth fuel rest _ _ => by cases b <;> rw [print] <;> rfl
  | int n => exact readsBack_int n
  | str s => exact readsBack_str s
  | arr items ih => exact readsBack_arr ih
  | obj members ih => exact readsBack_obj ih

/-- A text of a printed value and blanks behind it is read as that value. -/
theorem ofText?_print (v : Json) (depth : Nat) {gap : List Char} (h : ∀ c ∈ gap, isGap c = true) :
    ofText? (String.ofList (print depth v ++ gap)) = some v := by
  have hrest : EndsNumber gap := by
    cases gap with
    | nil => exact fun c hc => absurd hc (by simp)
    | cons c gap => exact endsNumber_of_isGap (h c List.mem_cons_self) gap
  have hfuel : (print depth v).length ≤ (print depth v ++ gap).length + 1 := by
    rw [List.length_append]
    omega
  have hread := readsBack v depth _ gap hrest hfuel
  have hskip : skipGap gap = [] := by
    rw [← List.append_nil gap, skipGap_append h]
    rfl
  rw [ofText?, String.toList_ofList, hread]
  simp [hskip]

end ClassSharing.Json
