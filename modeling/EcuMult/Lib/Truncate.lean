import Mathlib.Algebra.Order.Floor.Ring
import Mathlib.Data.Int.ModEq
import Mathlib.Data.Rat.Floor

/-!
# Converting rationals to machine integers

The C++ cast of a floating-point value to an unsigned integer type, on exact
rationals: the fraction is discarded (towards zero) and the rest is taken
modulo the width. For the values a type can hold, the cast is the floor, and
the integers that an interval is taken to are an interval (`trunc_between`).
-/

namespace EcuMult.Lib

/-- The value with its fraction discarded. -/
def trunc (q : ℚ) : Int := q.num.tdiv q.den

/-- `static_cast<uint8_t>`. -/
def truncUInt8 (q : ℚ) : UInt8 := UInt8.ofNat (trunc q % 2 ^ 8).toNat

/-- `static_cast<uint16_t>`. -/
def truncUInt16 (q : ℚ) : UInt16 := UInt16.ofNat (trunc q % 2 ^ 16).toNat

/-- `static_cast<uint32_t>`. -/
def truncUInt32 (q : ℚ) : UInt32 := UInt32.ofNat (trunc q % 2 ^ 32).toNat

theorem trunc_of_nonneg {q : ℚ} (h : 0 ≤ q) : trunc q = ⌊q⌋ := by
  have hnum : 0 ≤ q.num := Rat.num_nonneg.mpr h
  unfold trunc
  rw [Rat.floor_def', Int.tdiv_eq_ediv_of_nonneg hnum]

theorem trunc_of_nonpos {q : ℚ} (h : q ≤ 0) : trunc q = -⌊-q⌋ := by
  have hneg : trunc q = -trunc (-q) := by
    unfold trunc
    rw [Rat.num_neg_eq_neg_num, Rat.den_neg_eq_den, Int.neg_tdiv, neg_neg]
  rw [hneg, trunc_of_nonneg (neg_nonneg.mpr h)]

/-- The cast to an unsigned type of so many bits is defined. -/
def Fits (bits : Nat) (q : ℚ) : Prop := 0 ≤ trunc q ∧ trunc q < 2 ^ bits

theorem fits_iff {bits : Nat} {q : ℚ} (h : 0 ≤ q) : Fits bits q ↔ q < 2 ^ bits := by
  have hfloor : ⌊q⌋ < 2 ^ bits ↔ q < 2 ^ bits := by
    rw [Int.floor_lt]
    push_cast
    rfl
  unfold Fits
  rw [trunc_of_nonneg h, hfloor, and_iff_right (Int.floor_nonneg.mpr h)]

/-- Reducing a value that fits changes nothing. -/
theorem trunc_reduced {bits : Nat} {q : ℚ} (h : 0 ≤ q) (hq : q < 2 ^ bits) :
    (((trunc q % 2 ^ bits).toNat % 2 ^ bits : Nat) : Int) = ⌊q⌋ := by
  obtain ⟨hnonneg, hlt⟩ := (fits_iff h).mpr hq
  have hlow : (trunc q).toNat < 2 ^ bits := by
    rw [← Int.ofNat_lt, Int.toNat_of_nonneg hnonneg]
    exact_mod_cast hlt
  rw [Int.emod_eq_of_lt hnonneg hlt, Nat.mod_eq_of_lt hlow, Int.toNat_of_nonneg hnonneg,
    trunc_of_nonneg h]

/-- In range, the cast is the floor. -/
theorem truncUInt8_toNat {q : ℚ} (h : 0 ≤ q) (hq : q < 256) :
    ((truncUInt8 q).toNat : Int) = ⌊q⌋ := by
  unfold truncUInt8
  rw [UInt8.toNat_ofNat']
  exact trunc_reduced h (by exact_mod_cast hq)

theorem truncUInt16_toNat {q : ℚ} (h : 0 ≤ q) (hq : q < 65536) :
    ((truncUInt16 q).toNat : Int) = ⌊q⌋ := by
  unfold truncUInt16
  rw [UInt16.toNat_ofNat']
  exact trunc_reduced h (by exact_mod_cast hq)

theorem truncUInt32_toNat {q : ℚ} (h : 0 ≤ q) (hq : q < 4294967296) :
    ((truncUInt32 q).toNat : Int) = ⌊q⌋ := by
  unfold truncUInt32
  rw [UInt32.toNat_ofNat']
  exact trunc_reduced h (by exact_mod_cast hq)

/-! ## What the cast makes of an interval -/

theorem trunc_intCast (k : Int) : trunc k = k := by
  unfold trunc
  rw [Rat.num_intCast, Rat.den_intCast]
  exact Int.tdiv_one k

theorem trunc_mono {a b : ℚ} (h : a ≤ b) : trunc a ≤ trunc b := by
  rcases le_total 0 a with ha | ha
  · rw [trunc_of_nonneg ha, trunc_of_nonneg (ha.trans h)]
    exact Int.floor_le_floor h
  · rcases le_total 0 b with hb | hb
    · rw [trunc_of_nonpos ha, trunc_of_nonneg hb]
      have hleft : 0 ≤ ⌊-a⌋ := Int.floor_nonneg.mpr (neg_nonneg.mpr ha)
      have hright : 0 ≤ ⌊b⌋ := Int.floor_nonneg.mpr hb
      omega
    · rw [trunc_of_nonpos ha, trunc_of_nonpos hb]
      have hfloor : ⌊-b⌋ ≤ ⌊-a⌋ := Int.floor_le_floor (neg_le_neg h)
      omega

/-- Discarding fractions takes an interval to the interval of integers between
the images of its ends. -/
theorem trunc_between {lo hi : ℚ} (h : lo ≤ hi) (k : Int) :
    (∃ v, lo ≤ v ∧ v ≤ hi ∧ trunc v = k) ↔ trunc lo ≤ k ∧ k ≤ trunc hi := by
  constructor
  · intro hv
    obtain ⟨v, hlo, hhi, rfl⟩ := hv
    exact ⟨trunc_mono hlo, trunc_mono hhi⟩
  · intro hk
    -- `k` itself, unless it is just outside of an end that truncates to it
    rcases le_total lo k with hlo | hlo
    · rcases le_total (k : ℚ) hi with hhi | hhi
      · exact ⟨k, hlo, hhi, trunc_intCast k⟩
      · have hbelow := trunc_mono hhi
        rw [trunc_intCast] at hbelow
        exact ⟨hi, h, le_refl hi, le_antisymm hbelow hk.2⟩
    · have habove := trunc_mono hlo
      rw [trunc_intCast] at habove
      exact ⟨lo, le_refl lo, h, le_antisymm hk.1 habove⟩

theorem truncUInt8_eq_iff {a b : ℚ} :
    truncUInt8 a = truncUInt8 b ↔ trunc a ≡ trunc b [ZMOD 2 ^ 8] := by
  unfold truncUInt8 Int.ModEq
  rw [← UInt8.toNat_inj, UInt8.toNat_ofNat', UInt8.toNat_ofNat']
  omega

theorem truncUInt16_eq_iff {a b : ℚ} :
    truncUInt16 a = truncUInt16 b ↔ trunc a ≡ trunc b [ZMOD 2 ^ 16] := by
  unfold truncUInt16 Int.ModEq
  rw [← UInt16.toNat_inj, UInt16.toNat_ofNat', UInt16.toNat_ofNat']
  omega

end EcuMult.Lib
