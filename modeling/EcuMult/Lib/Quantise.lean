import EcuMult.Lib.Truncate
import Mathlib.Tactic.Linarith
import Mathlib.Tactic.FieldSimp
import Mathlib.Tactic.Positivity

/-!
# Quantised values

A linear code represents a value by a raw integer `r`, read as `q * r + off`:
`q` is the quantisation step, the change of the reading for one unit of `r`. A
raw integer *quantises* `v` if its reading is within one step of `v`.

This file says for which values a truncating encoder quantises its argument:

* always, if it divides by the step after taking off the offset
  (`quantises_floor`);
* only up to the first step, if it keeps the value as it is and the step is
  less than a half (`quantises_unscaled`);
* never, for a code with its zero in the middle of the byte, if it keeps the
  value as it is (`not_quantises_unbiased`).
-/

namespace EcuMult.Lib

/-- The reading of `r` is within one step of `v`. -/
def Quantises (q off : ℚ) (r : Int) (v : ℚ) : Prop := |q * r + off - v| ≤ q

theorem quantises_iff {q off v : ℚ} {r : Int} :
    Quantises q off r v ↔ q * (r - 1) + off ≤ v ∧ v ≤ q * (r + 1) + off := by
  unfold Quantises
  rw [abs_le]
  constructor
  · intro h
    obtain ⟨hlo, hhi⟩ := h
    exact ⟨by linarith, by linarith⟩
  · intro h
    obtain ⟨hlo, hhi⟩ := h
    exact ⟨by linarith, by linarith⟩

/-- **The matching encoder.** What divides by the step is within one step. -/
theorem quantises_floor {q off : ℚ} (hq : 0 < q) (v : ℚ) :
    Quantises q off ⌊(v - off) / q⌋ v := by
  have hlo : (⌊(v - off) / q⌋ : ℚ) ≤ (v - off) / q := Int.floor_le _
  have hhi : (v - off) / q < ⌊(v - off) / q⌋ + 1 := Int.lt_floor_add_one _
  rw [le_div_iff₀ hq] at hlo
  rw [div_lt_iff₀ hq] at hhi
  rw [quantises_iff]
  constructor
  · have hstep : q * (⌊(v - off) / q⌋ - 1) = ⌊(v - off) / q⌋ * q - q := by ring
    linarith
  · have hstep : q * (⌊(v - off) / q⌋ + 1) = (⌊(v - off) / q⌋ + 1) * q := by ring
    linarith

/-- **The encoder that does not scale.** With a step less than a half, only
the values up to the first step are quantised. -/
theorem quantises_unscaled {q v : ℚ} (hq : 0 < q) (hhalf : q < 1 / 2) (hv : 0 ≤ v) :
    Quantises q 0 ⌊v⌋ v ↔ v ≤ q := by
  have hlo : (⌊v⌋ : ℚ) ≤ v := Int.floor_le v
  rw [quantises_iff]
  constructor
  · intro h
    obtain ⟨-, hhi⟩ := h
    by_cases hzero : ⌊v⌋ ≤ 0
    · have hfloor : ⌊v⌋ = 0 := le_antisymm hzero (Int.floor_nonneg.mpr hv)
      rw [hfloor] at hhi
      push_cast at hhi
      linarith
    · -- a whole part `n ≥ 1` lies above `q * (n + 1)`
      have hone : (1 : ℚ) ≤ ⌊v⌋ := by exact_mod_cast Int.lt_of_not_ge hzero
      have hbelow : q * (⌊v⌋ + 1) < ⌊v⌋ := by
        calc q * (⌊v⌋ + 1) < 1 / 2 * (⌊v⌋ + 1) := by
              apply mul_lt_mul_of_pos_right hhalf
              linarith
          _ ≤ ⌊v⌋ := by linarith
      linarith
  · intro hle
    have hfloor : ⌊v⌋ = 0 := by
      rw [Int.floor_eq_iff]
      push_cast
      exact ⟨by linarith, by linarith⟩
    rw [hfloor]
    push_cast
    exact ⟨by linarith, by linarith⟩

/-- `n = ⌊v⌋` is read as `q * (n - 128)`, more than a step below `v`. -/
theorem not_quantises_nonneg {q v : ℚ} (hhalf : 1 / 2 ≤ q) (hone : q ≤ 1) (hlo : 0 ≤ v)
    (hhi : v < 128) : ¬ Quantises q (-128 * q) (trunc v % 256) v := by
  rw [quantises_iff]
  intro h
  obtain ⟨-, habove⟩ := h
  have hfloor : (⌊v⌋ : ℚ) ≤ v := Int.floor_le v
  have hn : 0 ≤ ⌊v⌋ := Int.floor_nonneg.mpr hlo
  have hn128 : ⌊v⌋ < 128 := Int.floor_lt.mpr (by exact_mod_cast hhi)
  have hraw : trunc v % 256 = ⌊v⌋ := by
    rw [trunc_of_nonneg hlo]
    omega
  rw [hraw] at habove
  have hnq : (0 : ℚ) ≤ ⌊v⌋ := by exact_mod_cast hn
  have hscale : q * ⌊v⌋ ≤ ⌊v⌋ := by
    calc q * ⌊v⌋ ≤ 1 * ⌊v⌋ := mul_le_mul_of_nonneg_right hone hnq
      _ = ⌊v⌋ := one_mul _
  have hexpand : q * (⌊v⌋ + 1) + -128 * q = q * ⌊v⌋ - 127 * q := by ring
  linarith

/-- `-m` is stored as `256 - m` and read far above `v`, or stored as `0` and
read far below. -/
theorem not_quantises_neg {q v : ℚ} (hhalf : 1 / 2 ≤ q) (hone : q ≤ 1) (hlo : -128 * q ≤ v)
    (hhi : v < 0) : ¬ Quantises q (-128 * q) (trunc v % 256) v := by
  rw [quantises_iff]
  intro h
  obtain ⟨hbelow, habove⟩ := h
  have htrunc : trunc v = -⌊-v⌋ := trunc_of_nonpos hhi.le
  have hm : 0 ≤ ⌊-v⌋ := Int.floor_nonneg.mpr (by linarith)
  have hmv : (⌊-v⌋ : ℚ) ≤ -v := Int.floor_le _
  have hvm : -v < ⌊-v⌋ + 1 := Int.lt_floor_add_one _
  have hm128 : ⌊-v⌋ ≤ 128 := by
    have hcast : (⌊-v⌋ : ℚ) ≤ 128 := by linarith
    exact_mod_cast hcast
  by_cases hzero : ⌊-v⌋ = 0
  · have hraw : trunc v % 256 = 0 := by
      rw [htrunc, hzero]
      rfl
    rw [hraw] at habove
    rw [hzero] at hvm
    push_cast at habove hvm
    linarith
  · have hraw : trunc v % 256 = 256 - ⌊-v⌋ := by
      rw [htrunc]
      omega
    rw [hraw] at hbelow
    push_cast at hbelow
    have hone' : 1 ≤ ⌊-v⌋ := by omega
    have hpos : (1 : ℚ) ≤ ⌊-v⌋ := by exact_mod_cast hone'
    have hscale : q * ⌊-v⌋ ≤ ⌊-v⌋ := by
      calc q * ⌊-v⌋ ≤ 1 * ⌊-v⌋ := mul_le_mul_of_nonneg_right hone (by linarith)
        _ = ⌊-v⌋ := one_mul _
    have hexpand : q * (256 - ⌊-v⌋ - 1) + -128 * q = 127 * q - q * ⌊-v⌋ := by ring
    linarith

/-- **The encoder that forgets the bias.** A byte read around 128 does not
quantise the value it was truncated from, whatever its sign. -/
theorem not_quantises_unbiased {q v : ℚ} (hhalf : 1 / 2 ≤ q) (hone : q ≤ 1)
    (hlo : -128 * q ≤ v) (hhi : v < 128) :
    ¬ Quantises q (-128 * q) (trunc v % 256) v := by
  by_cases hsign : 0 ≤ v
  · exact not_quantises_nonneg hhalf hone hsign hhi
  · exact not_quantises_neg hhalf hone hlo (lt_of_not_ge hsign)

end EcuMult.Lib
