import EcuMult.Diagnostics.DtcCode

/-!
# Three encoders of a trouble code

`DTCManager::encodeCode` has two copies: `encodeGMDTC` in
`src/protocols/gmlan.cpp` and `dtcStringToCode` in
`src/manufacturers/chevrolet.cpp`. They differ in what they make of the
characters after the first digit: three of them or all, with `stoi` or `atoi`,
and masked or not. `encodeWith` is what they have in common, with that as its
parameter.

A text without enough characters or with an unknown letter is zero to all of
them, and so it should be for any that is not well formed. `agree_iff` says
which texts they treat alike.
-/

namespace EcuMult.Diagnostics

open EcuMult.Lib DTCManager

/-- `low` reads the last digits. -/
def encodeWith (low : Text → Except StoiError UInt16) (code : Text) : Except StoiError UInt16 :=
  if code.length < 5 then .ok 0
  else
    match letterBits? (code.headD '\x00') with
    | none => .ok 0
    | some result => do
      let digit ← stoi ((code.drop 1).take 1)
      let rest ← low (code.drop 2)
      return result ||| (intToUInt16 digit <<< 12) ||| rest

def GMLANProtocol.encodeGMDTC (code : Text) : Except StoiError UInt16 :=
  encodeWith (fun t => (atoi t).map fun i => intToUInt16 i &&& 0x0FFF) code

def ChevroletGM.dtcStringToCode (code : Text) : Except StoiError UInt16 :=
  encodeWith (fun t => (stoi (t.take 3)).map intToUInt16) code

theorem DTCManager.encodeCode_eq (display : Text) :
    encodeCode display =
      encodeWith (fun t => (stoi (t.take 3)).map fun i => intToUInt16 i &&& 0x0FFF) display := by
  unfold encodeCode encodeWith
  split
  · rfl
  · cases letterBits? (display.headD '\x00') with
    | none => rfl
    | some result =>
      dsimp only
      cases stoi ((display.drop 1).take 1) with
      | error e => rfl
      | ok digit => cases stoi ((display.drop 2).take 3) <;> rfl

/-! ## Agreement -/

def WellFormed (s : Text) : Prop := ∃ l d a b c, s = [l, d, a, b, c] ∧ IsJ2012 l d a b c

/-- All three return one code, and that is zero unless the text is well
formed. -/
def Agree (s : Text) : Prop :=
  ∃ code, encodeCode s = .ok code ∧ GMLANProtocol.encodeGMDTC s = .ok code ∧
    ChevroletGM.dtcStringToCode s = .ok code ∧ (¬ WellFormed s → code = 0)

/-- Too short, or of no known system; or well formed, with a decimal digit
after the first; or a `P0` after which nothing is left of the numbers. -/
def TreatedAlike (s : Text) : Prop :=
  s.length < 5 ∨ letterBits? (s.headD '\x00') = none ∨
    (∃ l d a b c, s = [l, d, a, b, c] ∧ IsJ2012 l d a b c ∧ a.isDigit = true) ∨
    ∃ rest, s = 'P' :: '0' :: rest ∧ stoi (rest.take 3) = .ok 0 ∧
      ∃ i, atoi rest = .ok i ∧ i % 4096 = 0

/-! ## What an encoder returns -/

section

variable {low : Text → Except StoiError UInt16} {s : Text}

theorem encodeWith_short (h : s.length < 5) : encodeWith low s = .ok 0 := if_pos h

theorem encodeWith_unknown (h : letterBits? (s.headD '\x00') = none) :
    encodeWith low s = .ok 0 := by
  unfold encodeWith
  rw [h]
  exact ite_self _

theorem encodeWith_ok_iff {result code : UInt16} (hlength : ¬ s.length < 5)
    (hletter : letterBits? (s.headD '\x00') = some result) :
    encodeWith low s = .ok code ↔
      ∃ digit rest, stoi ((s.drop 1).take 1) = .ok digit ∧ low (s.drop 2) = .ok rest ∧
        result ||| (intToUInt16 digit <<< 12) ||| rest = code := by
  unfold encodeWith
  rw [if_neg hlength, hletter]
  dsimp only
  cases hdigit : stoi ((s.drop 1).take 1) with
  | error e => exact iff_of_false (fun h => nomatch h) fun ⟨_, _, h, _⟩ => nomatch h
  | ok digit =>
    cases hrest : low (s.drop 2) with
    | error e => exact iff_of_false (fun h => nomatch h) fun ⟨_, _, _, h, _⟩ => nomatch h
    | ok rest =>
      constructor
      · intro h
        exact ⟨digit, rest, rfl, rfl, Except.ok.inj h⟩
      · intro ⟨_, _, h, h', hcode⟩
        obtain rfl := Except.ok.inj h
        obtain rfl := Except.ok.inj h'
        exact congrArg Except.ok hcode

end

theorem map_ok_iff {α β : Type} {x : Except StoiError α} {f : α → β} {b : β} :
    x.map f = .ok b ↔ ∃ a, x = .ok a ∧ f a = b := by
  cases x with
  | error e => exact iff_of_false (fun h => nomatch h) fun ⟨_, h, _⟩ => nomatch h
  | ok a =>
    constructor
    · intro h
      exact ⟨a, rfl, Except.ok.inj h⟩
    · intro ⟨_, h, hb⟩
      obtain rfl := Except.ok.inj h
      exact congrArg Except.ok hb

/-! ## The bits of the last digits -/

theorem low_toNat (i : Int) : (intToUInt16 i &&& 0x0FFF).toNat = (i % 4096).toNat := by
  have hmask : (intToUInt16 i).toNat &&& 0x0FFF = (intToUInt16 i).toNat % 4096 :=
    Nat.and_two_pow_sub_one_eq_mod _ 12
  rw [UInt16.toNat_and]
  show (intToUInt16 i).toNat &&& 0x0FFF = _
  rw [hmask]
  unfold intToUInt16
  rw [UInt16.toNat_ofNat']
  omega

theorem low_eq_zero_iff (i : Int) : intToUInt16 i &&& 0x0FFF = 0 ↔ i % 4096 = 0 := by
  rw [← UInt16.toNat_inj, low_toNat]
  show (i % 4096).toNat = 0 ↔ _
  omega

/-- A small number has no bits to mask. -/
theorem low_of_small {n : Nat} (h : n < 4096) : intToUInt16 n &&& 0x0FFF = intToUInt16 n := by
  rw [← UInt16.toNat_inj, low_toNat, intToUInt16_toNat (by omega)]
  omega

theorem or_eq_zero {a b : UInt16} (h : a ||| b = 0) : a = 0 ∧ b = 0 := by
  have hnat := congrArg UInt16.toNat h
  rw [UInt16.toNat_or] at hnat
  obtain ⟨ha, hb⟩ := Nat.or_eq_zero_iff.mp hnat
  exact ⟨UInt16.toNat_inj.mp ha, UInt16.toNat_inj.mp hb⟩

/-! ## Numbers of one and of three characters -/

theorem stoi_ok {t : Text} {i : Int} (h : stoi t = .ok i) : strtol t = some i := by
  unfold stoi at h
  split at h
  next => cases h
  next j hj =>
    split at h
    · rw [hj, Except.ok.inj h]
    · cases h

theorem stoi_digit {n : Nat} (h : n < 10) : stoi [n.digitChar] = .ok (n : Int) := by
  rw [← decimal_digit h]
  exact stoi_decimal (by omega)

/-- What one character is read as. -/
theorem stoi_one {x : Char} {i : Int} (h : stoi [x] = .ok i) :
    ∃ n : Nat, n < 10 ∧ x = n.digitChar ∧ i = n := by
  obtain ⟨n, hn, rfl⟩ := digitChar_of_isDigit (isDigit_of_strtol (stoi_ok h))
  rw [stoi_digit hn] at h
  exact ⟨n, hn, rfl, (Except.ok.inj h).symm⟩

/-- Three characters, of which the first is a digit. -/
theorem stoi_atoi_three {a b c : Char} (ha : a.isDigit = true) :
    ∃ n : Nat, n < 1000 ∧ stoi [a, b, c] = .ok (n : Int) ∧ atoi [a, b, c] = .ok (n : Int) := by
  have hsome : ∃ n, leadingDecimal [a, b, c] = some n := by
    unfold leadingDecimal
    dsimp only
    rw [List.takeWhile_cons, ha]
    exact ⟨_, if_neg (List.cons_ne_nil _ _)⟩
  obtain ⟨n, hn⟩ := hsome
  have hlt : n < 10 ^ 3 := leadingDecimal_lt hn
  have hread : strtol [a, b, c] = some (n : Int) := by
    rw [strtol_of_digit [b, c] ha, hn]
    rfl
  refine ⟨n, by omega, ?_, ?_⟩
  · unfold stoi
    rw [hread]
    exact if_pos (by omega)
  · unfold atoi
    rw [hread]
    exact if_pos (by omega)

/-- A hexadecimal letter is no number. -/
theorem isDigit_of_stoi {a b c : Char} {i : Int} (ha : a ∈ "0123456789ABCDEF".toList)
    (h : stoi [a, b, c] = .ok i) : a.isDigit = true := by
  by_contra hdigit
  have hnumber : ("0123456789ABCDEF".toList.all fun x =>
      isSpace x = false && (x ≠ '-' && x ≠ '+')) = true := rfl
  have ha' := List.all_eq_true.mp hnumber a ha
  simp only [Bool.and_eq_true, decide_eq_true_eq] at ha'
  obtain ⟨hspace, hminus, hplus⟩ := ha'
  have hnone := strtol_none [b, c] hspace hminus hplus (Bool.not_eq_true _ ▸ hdigit)
  rw [stoi_ok h] at hnone
  cases hnone

/-! ## Which texts are treated alike -/

theorem letterBits?_of_mem {l : Char} (h : l ∈ ['P', 'C', 'B', 'U']) :
    ∃ result, letterBits? l = some result := by
  simp only [List.mem_cons, List.not_mem_nil, or_false] at h
  rcases h with rfl | rfl | rfl | rfl
  · exact ⟨_, rfl⟩
  · exact ⟨_, rfl⟩
  · exact ⟨_, rfl⟩
  · exact ⟨_, rfl⟩

theorem letterBits?_zero {l : Char} (h : letterBits? l = some 0) : l = 'P' := by
  unfold letterBits? at h
  split at h
  · rfl
  all_goals exact absurd h (by decide)

/-- A well-formed text is read as one code, if its third character is a
digit. -/
theorem agree_wellFormed {l d a b c : Char} (h : IsJ2012 l d a b c) (ha : a.isDigit = true) :
    Agree [l, d, a, b, c] := by
  obtain ⟨result, hletter⟩ := letterBits?_of_mem h.1
  obtain ⟨m, hm, rfl⟩ := digit_of_mem h.2.1
  obtain ⟨n, hn, hstoi, hatoi⟩ := stoi_atoi_three (b := b) (c := c) ha
  have hdigit : stoi [m.digitChar] = .ok (m : Int) := stoi_digit (by omega)
  have hlength : ¬ [l, m.digitChar, a, b, c].length < 5 := Nat.lt_irrefl 5
  have hmask := low_of_small (show n < 4096 by omega)
  refine ⟨result ||| (intToUInt16 m <<< 12) ||| intToUInt16 n, ?_, ?_, ?_, ?_⟩
  · rw [DTCManager.encodeCode_eq, encodeWith_ok_iff hlength hletter]
    exact ⟨m, _, hdigit, map_ok_iff.mpr ⟨n, hstoi, hmask⟩, rfl⟩
  · unfold GMLANProtocol.encodeGMDTC
    rw [encodeWith_ok_iff hlength hletter]
    exact ⟨m, _, hdigit, map_ok_iff.mpr ⟨n, hatoi, hmask⟩, rfl⟩
  · unfold ChevroletGM.dtcStringToCode
    rw [encodeWith_ok_iff hlength hletter]
    exact ⟨m, _, hdigit, map_ok_iff.mpr ⟨n, hstoi, rfl⟩, rfl⟩
  · intro hill
    exact absurd ⟨l, _, a, b, c, rfl, h⟩ hill

/-- And so is one that is zero to each of them. -/
theorem agree_zero {s : Text} (hcode : encodeCode s = .ok 0)
    (hgm : GMLANProtocol.encodeGMDTC s = .ok 0)
    (hchevrolet : ChevroletGM.dtcStringToCode s = .ok 0) : Agree s :=
  ⟨0, hcode, hgm, hchevrolet, fun _ => rfl⟩

theorem agree_of_treatedAlike {s : Text} (h : TreatedAlike s) : Agree s := by
  by_cases hshort : s.length < 5
  · exact agree_zero ((DTCManager.encodeCode_eq s).trans (encodeWith_short hshort))
      (encodeWith_short hshort) (encodeWith_short hshort)
  · rcases h with hlength | hletter | ⟨l, d, a, b, c, rfl, hform, ha⟩ |
      ⟨rest, rfl, hthree, i, hall, hi⟩
    · exact absurd hlength hshort
    · exact agree_zero ((DTCManager.encodeCode_eq s).trans (encodeWith_unknown hletter))
        (encodeWith_unknown hletter) (encodeWith_unknown hletter)
    · exact agree_wellFormed hform ha
    · have hletter : letterBits? (('P' :: '0' :: rest).headD '\x00') = some 0 := rfl
      have hdigit : stoi ['0'] = .ok 0 := @stoi_digit 0 (by omega)
      refine agree_zero ?_ ?_ ?_
      · rw [DTCManager.encodeCode_eq, encodeWith_ok_iff hshort hletter]
        exact ⟨0, 0, hdigit, map_ok_iff.mpr ⟨0, hthree, rfl⟩, rfl⟩
      · unfold GMLANProtocol.encodeGMDTC
        rw [encodeWith_ok_iff hshort hletter]
        exact ⟨0, 0, hdigit, map_ok_iff.mpr ⟨i, hall, (low_eq_zero_iff i).mpr hi⟩, rfl⟩
      · unfold ChevroletGM.dtcStringToCode
        rw [encodeWith_ok_iff hshort hletter]
        exact ⟨0, 0, hdigit, map_ok_iff.mpr ⟨0, hthree, rfl⟩, rfl⟩

/-- What is read as zero starts like zero and has zeros only. -/
theorem zero_inv {s : Text} (hlength : ¬ s.length < 5) {result : UInt16}
    (hletter : letterBits? (s.headD '\x00') = some result) (hcode : encodeCode s = .ok 0)
    (hgm : GMLANProtocol.encodeGMDTC s = .ok 0) :
    ∃ rest, s = 'P' :: '0' :: rest ∧ stoi (rest.take 3) = .ok 0 ∧
      ∃ i, atoi rest = .ok i ∧ i % 4096 = 0 := by
  obtain ⟨l, x, rest, rfl⟩ : ∃ l x rest, s = l :: x :: rest := by
    match s, hlength with
    | [], h => exact absurd (show 0 < 5 by omega) h
    | [_], h => exact absurd (show 1 < 5 by omega) h
    | l :: x :: rest, _ => exact ⟨l, x, rest, rfl⟩
  rw [DTCManager.encodeCode_eq, encodeWith_ok_iff hlength hletter] at hcode
  unfold GMLANProtocol.encodeGMDTC at hgm
  rw [encodeWith_ok_iff hlength hletter] at hgm
  obtain ⟨digit, low, hdigit, hlow, hzero⟩ := hcode
  obtain ⟨_, low', _, hlow', hzero'⟩ := hgm
  obtain ⟨i, hthree, rfl⟩ := map_ok_iff.mp hlow
  obtain ⟨j, hall, rfl⟩ := map_ok_iff.mp hlow'
  obtain ⟨htop, hi⟩ := or_eq_zero hzero
  obtain ⟨hresult, hshift⟩ := or_eq_zero htop
  -- the letter is a `P`
  obtain rfl : l = 'P' := letterBits?_zero (hresult ▸ hletter)
  -- the first digit is zero
  obtain ⟨n, hn, hx, rfl⟩ := stoi_one (show stoi [x] = .ok digit from hdigit)
  have hshifted : ∀ n < 10, intToUInt16 (n : Nat) <<< 12 = 0 → n = 0 := by decide
  obtain rfl := hshifted n hn hshift
  obtain rfl : x = '0' := hx
  -- and so is a number of three characters without its upper bits
  have hsmall : i.natAbs < 10 ^ (rest.take 3).length := strtol_natAbs_lt (stoi_ok hthree)
  have hthousand : 10 ^ (rest.take 3).length ≤ 10 ^ 3 :=
    Nat.pow_le_pow_right (by decide) (List.length_take_le 3 rest)
  have himod := (low_eq_zero_iff i).mp hi
  obtain rfl : i = 0 := by omega
  exact ⟨rest, rfl, hthree, j, hall, (low_eq_zero_iff j).mp (or_eq_zero hzero').2⟩

/-- **The texts that the three encoders treat alike.** -/
theorem agree_iff (s : Text) : Agree s ↔ TreatedAlike s := by
  constructor
  · intro ⟨code, hcode, hgm, _, hzero⟩
    by_cases hlength : s.length < 5
    · exact Or.inl hlength
    · cases hletter : letterBits? (s.headD '\x00') with
      | none => exact Or.inr (Or.inl hletter)
      | some result =>
        refine Or.inr (Or.inr ?_)
        by_cases hform : WellFormed s
        · obtain ⟨l, d, a, b, c, rfl, hj⟩ := hform
          rw [DTCManager.encodeCode_eq, encodeWith_ok_iff hlength hletter] at hcode
          obtain ⟨_, _, _, hlow, _⟩ := hcode
          obtain ⟨i, hthree, -⟩ := map_ok_iff.mp hlow
          exact Or.inl ⟨l, d, a, b, c, rfl, hj, isDigit_of_stoi hj.2.2.1 hthree⟩
        · obtain rfl := hzero hform
          exact Or.inr (zero_inv hlength hletter hcode hgm)
  · exact agree_of_treatedAlike

/-- A fourth digit counts for one of them only, and a hexadecimal letter makes
them throw. -/
theorem not_agree :
    encodeCode "P00010".toList = .ok 0x0001 ∧
      GMLANProtocol.encodeGMDTC "P00010".toList = .ok 0x000A ∧ ¬ Agree "P00010".toList ∧
      encodeCode "P0A80".toList = .error .invalidArgument ∧ ¬ Agree "P0A80".toList := by
  have hlonger : encodeCode "P00010".toList = .ok 0x0001 := by decide
  have hlonger' : GMLANProtocol.encodeGMDTC "P00010".toList = .ok 0x000A := by decide
  have hletter : encodeCode "P0A80".toList = .error .invalidArgument := by decide
  refine ⟨hlonger, hlonger', fun ⟨code, hcode, hgm, _⟩ => ?_, hletter, fun ⟨code, hcode, _⟩ => ?_⟩
  · rw [hlonger] at hcode
    rw [hlonger', ← Except.ok.inj hcode] at hgm
    exact absurd hgm (by decide)
  · rw [hletter] at hcode
    cases hcode

end EcuMult.Diagnostics
