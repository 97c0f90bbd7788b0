import EcuMult.Diagnostics.VinDecoder

/-!
# Validation and the standard

ISO 3779 weighs the characters by place, 8 to 2, ten, nothing for the check
character itself, then 9 to 2. `calculateChecksum` looks the weight up by the
place modulo ten in a table that is written for the digits from 1 on: the
weights come out one place late, the first one in front of them, and start
over in the middle of the second half. On top of that, an `X` passes whatever
the sum, and a character that is no letter of the standard throws.

`weighted_code` compares the two sums: the code's is the standard one plus a
sum with weights of its own (`slipWeight`). `validation_right_iff` says from
that for which texts validation is as it should be.
-/

namespace EcuMult.Diagnostics.VINDecoder

open EcuMult.Lib

/-! ## The standard -/

/-- The letters of the standard: no I, O or Q. -/
def vinLetters : Text := "ABCDEFGHJKLMNPRSTUVWXYZ".toList

/-- A digit, or one of those letters in either case. -/
def IsVinChar (c : Char) : Prop := c.toUpper.isDigit = true ∨ c.toUpper ∈ vinLetters

instance (c : Char) : Decidable (IsVinChar c) :=
  inferInstanceAs (Decidable (_ ∨ _))

/-- The weight of a place. -/
def standardWeight (i : Nat) : Nat :=
  [8, 7, 6, 5, 4, 3, 2, 10, 0, 9, 8, 7, 6, 5, 4, 3, 2].getD i 0

/-- The transliterated value of a character; the code's table is the standard's. -/
def vinValue (c : Char) : Nat := (transliterate c.toUpper).getD 0

/-- The values of the 17 places, each with its weight. -/
def weighted (weight : Nat → Nat) (s : Text) : Nat :=
  ((List.range 17).map fun i => weight i * vinValue (s.getD i ' ')).sum

/-- A number of the standard. -/
structure IsVin (s : Text) : Prop where
  length : s.length = 17
  chars : ∀ c ∈ s, IsVinChar c
  check : s.getD 8 ' ' = checkChar (weighted standardWeight s % 11)

/-- Validation gives an answer, and it is the right one. -/
def Accepts (s : Text) : Prop := ∃ b, validateChecksum s = some b ∧ (b = true ↔ IsVin s)

/-! ## Characters -/

theorem lookup_isSome_iff {c : Char} (table : List (Char × Nat)) :
    (table.lookup c).isSome = true ↔ c ∈ table.map Prod.fst := by
  induction table with
  | nil => exact iff_of_false Bool.false_ne_true List.not_mem_nil
  | cons entry table ih =>
    obtain ⟨d, v⟩ := entry
    rw [List.lookup_cons, List.map_cons, List.mem_cons]
    cases h : c == d with
    | true => exact ⟨fun _ => Or.inl (eq_of_beq h), fun _ => rfl⟩
    | false => exact ih.trans (or_iff_right (beq_eq_false_iff_ne.mp h)).symm

/-- What can be transliterated. -/
theorem transliterate_isSome_iff (c : Char) :
    (transliterate c.toUpper).isSome = true ↔ IsVinChar c := by
  have hletters : getTransliterationMap.map Prod.fst = vinLetters := by decide
  unfold transliterate IsVinChar
  split
  · next hdigit => exact ⟨fun _ => Or.inl hdigit, fun _ => rfl⟩
  · next hdigit =>
    rw [lookup_isSome_iff, hletters]
    exact ⟨Or.inr, fun h => h.resolve_left hdigit⟩

/-! ## The loop -/

/-- The weight the code gives a place. -/
def codeWeight (i : Nat) : Nat :=
  if i = 8 then 0 else (getWeightMap.lookup (Char.ofNat ('0'.toNat + i % 10))).getD 0

/-- All characters but the ninth can be transliterated. -/
def Readable (s : Text) : Prop := ∀ i < 17, i ≠ 8 → IsVinChar (s.getD i ' ')

/-- A place adds its value times its weight, if it can be read. -/
theorem addPlace_readable {s : Text} {i : Nat} (hi : i < 17)
    (hread : i ≠ 8 → IsVinChar (s.getD i ' ')) (sum : Nat) :
    addPlace s sum i = some (sum + codeWeight i * vinValue (s.getD i ' ')) := by
  unfold addPlace codeWeight
  split
  · next h8 => rw [Nat.zero_mul, Nat.add_zero]
  · next h8 =>
    have hweight : ∀ i < 17,
        (getWeightMap.lookup (Char.ofNat ('0'.toNat + i % 10))).isSome = true := by decide
    obtain ⟨w, hw⟩ := Option.isSome_iff_exists.mp (hweight i hi)
    obtain ⟨v, hv⟩ := Option.isSome_iff_exists.mp ((transliterate_isSome_iff _).mpr (hread h8))
    rw [vinValue, hv, hw, Nat.mul_comm]
    rfl

theorem foldlM_readable {s : Text} : ∀ {places : List Nat} (sum : Nat),
    (∀ i ∈ places, i < 17 ∧ (i ≠ 8 → IsVinChar (s.getD i ' '))) →
    places.foldlM (addPlace s) sum =
      some (sum + (places.map fun i => codeWeight i * vinValue (s.getD i ' ')).sum)
  | [], sum, _ => rfl
  | i :: places, sum, h => by
    obtain ⟨⟨hi, hread⟩, hrest⟩ := List.forall_mem_cons.mp h
    rw [List.foldlM_cons, addPlace_readable hi hread, List.map_cons, List.sum_cons,
      ← Nat.add_assoc]
    exact foldlM_readable _ hrest

/-- A place that cannot be read makes the loop throw. -/
theorem foldlM_unreadable {s : Text} {i : Nat} (h8 : i ≠ 8)
    (hread : ¬ IsVinChar (s.getD i ' ')) : ∀ {places : List Nat} (sum : Nat), i ∈ places →
      places.foldlM (addPlace s) sum = none
  | j :: places, sum, h => by
    rw [List.foldlM_cons]
    by_cases hij : i = j
    · subst hij
      have hnone : transliterate (s.getD i ' ').toUpper = none :=
        Option.not_isSome_iff_eq_none.mp (mt (transliterate_isSome_iff _).mp hread)
      rw [addPlace, if_neg h8, hnone]
      rfl
    · have hmem : i ∈ places := (List.mem_cons.mp h).resolve_left hij
      cases addPlace s sum j with
      | none => rfl
      | some sum' => exact foldlM_unreadable h8 hread sum' hmem

/-- **What validation answers.** -/
theorem validateChecksum_readable {s : Text} (hlength : s.length = 17) (hread : Readable s) :
    validateChecksum s =
      some (s.getD 8 ' ' == checkChar (weighted codeWeight s % 11) || s.getD 8 ' ' == 'X') := by
  have hsum := @foldlM_readable s (List.range 17) 0 fun i hi =>
    ⟨List.mem_range.mp hi, hread i (List.mem_range.mp hi)⟩
  rw [Nat.zero_add] at hsum
  have hcheck : calculateChecksum s = some (checkChar (weighted codeWeight s % 11)) := by
    rw [calculateChecksum, if_neg (by omega), hsum]
    rfl
  rw [validateChecksum, if_neg (not_not_intro hlength), hcheck]
  rfl

theorem validateChecksum_unreadable {s : Text} (hlength : s.length = 17) (hread : ¬ Readable s) :
    validateChecksum s = none := by
  unfold Readable at hread
  push Not at hread
  obtain ⟨i, hi, h8, hbad⟩ := hread
  have hthrows := foldlM_unreadable h8 hbad 0 (List.mem_range.mpr hi)
  rw [validateChecksum, if_neg (not_not_intro hlength), calculateChecksum, if_neg (by omega),
    hthrows]
  rfl

/-! ## The two sums -/

/-- What the code's weight of a place has too much, modulo eleven. -/
def slipWeight (i : Nat) : Nat :=
  [4, 1, 1, 1, 1, 1, 1, 3, 0, 0, 4, 1, 1, 1, 1, 1, 1].getD i 0

theorem weighted_mod {w w' : Nat → Nat} (s : Text) (h : ∀ i < 17, w i % 11 = w' i % 11) :
    weighted w s % 11 = weighted w' s % 11 := by
  have hsum : ∀ places : List Nat, (∀ i ∈ places, i < 17) →
      (places.map fun i => w i * vinValue (s.getD i ' ')).sum % 11 =
        (places.map fun i => w' i * vinValue (s.getD i ' ')).sum % 11 := by
    intro places hplaces
    induction places with
    | nil => rfl
    | cons i places ih =>
      obtain ⟨hi, hrest⟩ := List.forall_mem_cons.mp hplaces
      rw [List.map_cons, List.sum_cons, List.map_cons, List.sum_cons, Nat.add_mod, ih hrest,
        Nat.mul_mod, h i hi, ← Nat.mul_mod, ← Nat.add_mod]
  exact hsum (List.range 17) fun i hi => List.mem_range.mp hi

theorem weighted_add (w w' : Nat → Nat) (s : Text) :
    weighted (fun i => w i + w' i) s = weighted w s + weighted w' s := by
  unfold weighted
  induction List.range 17 with
  | nil => rfl
  | cons i places ih =>
    rw [List.map_cons, List.sum_cons, List.map_cons, List.sum_cons, List.map_cons, List.sum_cons,
      ih, Nat.add_mul]
    omega

/-- **One place late.** The code's sum, from the standard's. -/
theorem weighted_code (s : Text) :
    weighted codeWeight s % 11 =
      (weighted standardWeight s + weighted slipWeight s) % 11 := by
  rw [← weighted_add]
  exact weighted_mod s (by decide)

/-! ## Check characters -/

/-- A check character tells the remainder. -/
theorem checkChar_eq_iff {c : Char} {r : Nat} (hr : r < 11) :
    c = checkChar r ↔ c = 'X' ∧ r = 10 ∨ c.isDigit = true ∧ r = c.toNat - '0'.toNat := by
  have hchars : ∀ r < 11, checkChar r = 'X' ∧ r = 10 ∨
      (checkChar r).isDigit = true ∧ r = (checkChar r).toNat - '0'.toNat := by decide
  have hback : c.isDigit = true → c = checkChar (c.toNat - '0'.toNat) := by
    intro hdigit
    have hrange := isDigit_toNat hdigit
    have hsum : '0'.toNat + (c.toNat - '0'.toNat) = c.toNat := Nat.add_sub_of_le hrange.1
    have hten : c.toNat - '0'.toNat ≠ 10 := by
      show c.toNat - 48 ≠ 10
      omega
    rw [checkChar, if_neg hten, hsum, Char.ofNat_toNat]
  constructor
  · intro hc
    rw [hc]
    exact hchars r hr
  · intro h
    rcases h with ⟨rfl, rfl⟩ | ⟨hdigit, rfl⟩
    · rfl
    · exact hback hdigit

theorem isVinChar_checkChar (r : Nat) (hr : r < 11) : IsVinChar (checkChar r) := by
  have hchars : ∀ r < 11, IsVinChar (checkChar r) := by decide
  exact hchars r hr

/-- Of a text of the right length whose other characters can be read, only the
check character matters. -/
theorem isVin_iff {s : Text} (hlength : s.length = 17) (hread : Readable s) :
    IsVin s ↔ s.getD 8 ' ' = checkChar (weighted standardWeight s % 11) := by
  constructor
  · exact IsVin.check
  · intro hcheck
    refine ⟨hlength, ?_, hcheck⟩
    intro c hc
    obtain ⟨i, hi, rfl⟩ := List.mem_iff_getElem.mp hc
    rw [← List.getD_eq_getElem s ' ' hi]
    by_cases h8 : i = 8
    · rw [h8, hcheck]
      exact isVinChar_checkChar _ (Nat.mod_lt _ (by decide))
    · exact hread i (by omega) h8

/-! ## Where validation is right -/

/-- An `X` passes, so it has to be right. A digit is compared with the wrong
sum, and that must not make a difference. -/
structure SumsAgree (s : Text) : Prop where
  ten : s.getD 8 ' ' = 'X' → weighted standardWeight s % 11 = 10
  digit : (s.getD 8 ' ').isDigit = true →
    (weighted standardWeight s % 11 = (s.getD 8 ' ').toNat - '0'.toNat ↔
      (weighted standardWeight s + weighted slipWeight s) % 11 =
        (s.getD 8 ' ').toNat - '0'.toNat)

theorem accepts_readable {s : Text} (hlength : s.length = 17) (hread : Readable s) :
    Accepts s ↔
      (s.getD 8 ' ' = checkChar ((weighted standardWeight s + weighted slipWeight s) % 11) ∨
        s.getD 8 ' ' = 'X' ↔ IsVin s) := by
  unfold Accepts
  rw [validateChecksum_readable hlength hread, weighted_code]
  constructor
  · intro haccepts
    obtain ⟨b, hb, hiff⟩ := haccepts
    rw [← hiff, ← Option.some.inj hb, Bool.or_eq_true, beq_iff_eq, beq_iff_eq]
  · intro hiff
    refine ⟨_, rfl, ?_⟩
    rw [← hiff, Bool.or_eq_true, beq_iff_eq, beq_iff_eq]

/-- The check character is an `X`, a digit, or neither. -/
theorem sumsAgree_iff (s : Text) :
    (s.getD 8 ' ' = checkChar ((weighted standardWeight s + weighted slipWeight s) % 11) ∨
        s.getD 8 ' ' = 'X' ↔ s.getD 8 ' ' = checkChar (weighted standardWeight s % 11)) ↔
      SumsAgree s := by
  have hX : ¬ 'X'.isDigit = true := by decide
  rw [checkChar_eq_iff (Nat.mod_lt _ (by decide)), checkChar_eq_iff (Nat.mod_lt _ (by decide))]
  by_cases hten : s.getD 8 ' ' = 'X'
  · have hdigit : ¬ (s.getD 8 ' ').isDigit = true := by rwa [hten]
    constructor
    · intro h
      exact ⟨fun _ => ((h.mp (Or.inr hten)).resolve_right fun hd => hdigit hd.1).2,
        fun hd => absurd hd hdigit⟩
    · intro h
      exact iff_of_true (Or.inr hten) (Or.inl ⟨hten, h.ten hten⟩)
  · by_cases hdigit : (s.getD 8 ' ').isDigit = true
    · simp only [hten, hdigit, false_and, false_or, true_and, or_false]
      constructor
      · intro h
        exact ⟨fun hx => absurd hx hten, fun _ => h.symm⟩
      · intro h
        exact (h.digit hdigit).symm
    · have hneither : ∀ r, ¬ (s.getD 8 ' ' = 'X' ∧ r = 10 ∨
          (s.getD 8 ' ').isDigit = true ∧ r = (s.getD 8 ' ').toNat - '0'.toNat) := by
        intro r h
        rcases h with h | h
        · exact hten h.1
        · exact hdigit h.1
      refine iff_of_true (iff_of_false (not_or.mpr ⟨hneither _, hten⟩) (hneither _)) ?_
      exact ⟨fun hx => absurd hx hten, fun hd => absurd hd hdigit⟩

/-- Seventeen ones are a number of the standard. -/
theorem not_always_accepts : ¬ ∀ s : Text, Accepts s := by
  intro h
  obtain ⟨b, hb, hiff⟩ := h (List.replicate 17 '1')
  have hchars : ∀ c ∈ List.replicate 17 '1', IsVinChar c := by
    intro c hc
    rw [List.eq_of_mem_replicate hc]
    decide
  have hvin : IsVin (List.replicate 17 '1') := ⟨rfl, hchars, by decide⟩
  rw [hiff.mpr hvin] at hb
  exact absurd hb (by decide)

/-- **When validation is right.** For a text that has not 17 characters; and
for one whose characters but the ninth are of the standard, if the ninth is an
`X` and should be, or a digit with which the code's sum and the standard's
agree, or neither. -/
theorem validation_right_iff (s : Text) :
    Accepts s ↔ s.length ≠ 17 ∨ Readable s ∧ SumsAgree s := by
  by_cases hlength : s.length = 17
  · by_cases hread : Readable s
    · rw [accepts_readable hlength hread, isVin_iff hlength hread, sumsAgree_iff]
      exact ⟨fun h => Or.inr ⟨hread, h⟩, fun h => (h.resolve_left (not_not_intro hlength)).2⟩
    · have hnone := validateChecksum_unreadable hlength hread
      refine iff_of_false ?_ ?_
      · intro haccepts
        obtain ⟨b, hb, -⟩ := haccepts
        rw [hnone] at hb
        cases hb
      · intro h
        rcases h with hother | hboth
        · exact hother hlength
        · exact hread hboth.1
  · refine iff_of_true ⟨false, if_pos hlength, ?_⟩ (Or.inl hlength)
    exact iff_of_false Bool.false_ne_true fun h => hlength h.length

end EcuMult.Diagnostics.VINDecoder
