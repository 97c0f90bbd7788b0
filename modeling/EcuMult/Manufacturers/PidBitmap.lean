import EcuMult.Lib.Bitmap
import EcuMult.Manufacturers.PidTable

/-!
# The bit map of the supported PIDs

`src/manufacturers/base.cpp`, `isPIDSupported` and `getSupportedPIDs`: which
PIDs the table has, one at a time and as four bytes for a range of 32. The end
of a range is computed in a byte, so that the last one, of `0xE0` to `0xFF`,
ends at 0 and is always empty (`losesNothing_iff`).

Mirroring notes:
- The table is read in the order of its entries, not of its PIDs. The bits are
  the same.
- The source multiplies in an `int` and stores a byte, which is the product of
  bytes.
-/

namespace EcuMult.Manufacturers

open EcuMult.Lib

namespace PIDTable

def isPIDSupported (table : PIDTable) (pid : UInt8) : Bool := (table.lookup pid).isSome

/-- The half-open interval of a range, as the loop tests it. -/
def inRange (range pid : UInt8) : Bool :=
  let start := range * 0x20
  -- 0 for the last range
  let stop := start + 0x20
  decide (start ≤ pid) && decide (pid < stop)

def getSupportedPIDs (table : PIDTable) (range : UInt8) : Bytes :=
  table.keys.foldl
    (fun result pid =>
      if inRange range pid then setBit result (pid - range * 0x20).toNat else result)
    (List.replicate 4 0)

/-- A PID read off one of the eight bit maps. -/
def ReadBack (table : PIDTable) (pid : UInt8) : Prop :=
  ∃ range i : UInt8, range < 8 ∧ i < 32 ∧ pid = range * 0x20 + i ∧
    bit (table.getSupportedPIDs range) i.toNat = true

/-- The bit maps say what `isPIDSupported` says. -/
def LosesNothing (table : PIDTable) : Prop :=
  ∀ pid, ReadBack table pid ↔ table.isPIDSupported pid = true

/-! ## Ranges -/

theorem isPIDSupported_iff (table : PIDTable) (pid : UInt8) :
    table.isPIDSupported pid = true ↔ pid ∈ table.keys :=
  AList.lookup_isSome

/-- The last range is empty: it ends at 0. -/
theorem inRange_seven (pid : UInt8) : inRange 7 pid = false := by
  have hstop : ¬ pid < 7 * 0x20 + 0x20 := by
    rw [show (7 * 0x20 + 0x20 : UInt8) = 0 by decide, UInt8.lt_iff_toNat_lt]
    exact Nat.not_lt_zero _
  show (decide (7 * 0x20 ≤ pid) && decide (pid < 7 * 0x20 + 0x20)) = false
  rw [decide_eq_false hstop, Bool.and_false]

/-- Before it, `range * 0x20` and `range * 0x20 + 0x20` fit in a byte. -/
theorem inRange_iff {range : UInt8} (hrange : range < 7) (pid : UInt8) :
    inRange range pid = true ↔
      range.toNat * 32 ≤ pid.toNat ∧ pid.toNat < range.toNat * 32 + 32 := by
  have hlt : range.toNat < 7 := UInt8.lt_iff_toNat_lt.mp hrange
  have hstart : (range * 0x20).toNat = range.toNat * 32 := by
    rw [UInt8.toNat_mul]
    exact Nat.mod_eq_of_lt (show range.toNat * 32 < 256 by omega)
  have hstop : (range * 0x20 + 0x20).toNat = range.toNat * 32 + 32 := by
    rw [UInt8.toNat_add, hstart]
    exact Nat.mod_eq_of_lt (show range.toNat * 32 + 32 < 256 by omega)
  unfold inRange
  rw [Bool.and_eq_true, decide_eq_true_iff, decide_eq_true_iff, UInt8.le_iff_toNat_le,
    UInt8.lt_iff_toNat_lt, hstart, hstop]

/-- Within a range, the offset of a PID is the index of its bit. -/
theorem offset_toNat {range pid : UInt8} (h : inRange range pid = true) :
    (pid - range * 0x20).toNat < 32 := by
  unfold inRange at h
  rw [Bool.and_eq_true, decide_eq_true_iff, decide_eq_true_iff] at h
  have hstart : (range * 0x20).toNat ≤ pid.toNat := UInt8.le_iff_toNat_le.mp h.1
  have hstop : pid.toNat < (range * 0x20 + 0x20).toNat := UInt8.lt_iff_toNat_lt.mp h.2
  have hwrap : (range * 0x20 + 0x20).toNat ≤ (range * 0x20).toNat + 32 := by
    rw [UInt8.toNat_add]
    exact Nat.mod_le _ _
  rw [UInt8.toNat_sub_of_le _ _ h.1]
  omega

/-! ## The bits -/

/-- **The bits of an answer.** Those of the PIDs of the table in the range. -/
theorem bit_getSupportedPIDs (table : PIDTable) (range : UInt8) (i : Nat) :
    bit (table.getSupportedPIDs range) i = true ↔
      ∃ pid ∈ table.keys, inRange range pid = true ∧ (pid - range * 0x20).toNat = i := by
  have hfits : ∀ pid ∈ table.keys, inRange range pid = true →
      (pid - range * 0x20).toNat < 8 * (List.replicate 4 (0 : UInt8)).length := by
    intro pid _ hin
    exact offset_toNat hin
  have hbits := bit_foldl (inRange range) (fun pid => (pid - range * 0x20).toNat) hfits i
  rw [bit_replicate] at hbits
  unfold getSupportedPIDs
  rw [hbits]
  constructor
  · intro h
    rcases h with h | hzero
    · exact h
    · cases hzero
  · exact Or.inl

/-- What is read back is in the table, and below `0xE0`. -/
theorem ReadBack.spec {table : PIDTable} {pid : UInt8} (h : ReadBack table pid) :
    table.isPIDSupported pid = true ∧ pid < 0xE0 := by
  obtain ⟨range, i, hrange, hi, rfl, hbit⟩ := h
  obtain ⟨pid, hmem, hin, hoffset⟩ := (bit_getSupportedPIDs table range i.toNat).mp hbit
  have hpid : pid = range * 0x20 + i := by
    rw [← UInt8.toNat_inj.mp hoffset, UInt8.add_comm, UInt8.sub_add_cancel]
  -- the last range has given nothing
  have hlast : range ≠ 7 := by
    intro h
    rw [h, inRange_seven] at hin
    cases hin
  have hseven : range < 7 := by
    have hne : range.toNat ≠ 7 := fun h => hlast (UInt8.toNat_inj.mp h)
    have hlt : range.toNat < 8 := UInt8.lt_iff_toNat_lt.mp hrange
    exact UInt8.lt_iff_toNat_lt.mpr (show range.toNat < 7 by omega)
  have hends := ((inRange_iff hseven pid).mp hin).2
  have hlt : range.toNat < 7 := UInt8.lt_iff_toNat_lt.mp hseven
  rw [← hpid]
  refine ⟨(isPIDSupported_iff table pid).mpr hmem, UInt8.lt_iff_toNat_lt.mpr ?_⟩
  show pid.toNat < 224
  omega

/-- Every PID below `0xE0` has a range and a bit. -/
theorem range_of_lt : ∀ pid : UInt8, pid < 0xE0 →
    pid / 0x20 < 7 ∧ pid % 0x20 < 32 ∧ pid = pid / 0x20 * 0x20 + pid % 0x20 ∧
      inRange (pid / 0x20) pid = true ∧
      (pid - pid / 0x20 * 0x20).toNat = (pid % 0x20).toNat :=
  forall_uint8 (by decide +kernel)

theorem ReadBack.of_supported {table : PIDTable} {pid : UInt8}
    (hsupported : table.isPIDSupported pid = true) (hlow : pid < 0xE0) : ReadBack table pid := by
  obtain ⟨hrange, hi, hpid, hin, hoffset⟩ := range_of_lt pid hlow
  have hlt : (pid / 0x20).toNat < 7 := UInt8.lt_iff_toNat_lt.mp hrange
  refine ⟨pid / 0x20, pid % 0x20, UInt8.lt_iff_toNat_lt.mpr (Nat.lt_succ_of_lt hlt), hi, hpid, ?_⟩
  exact (bit_getSupportedPIDs table _ _).mpr
    ⟨pid, (isPIDSupported_iff table pid).mp hsupported, hin, hoffset⟩

/-- **When the bit maps lose nothing.** If and only if the table has no PID of
the last range. -/
theorem losesNothing_iff (table : PIDTable) :
    LosesNothing table ↔ ∀ pid : UInt8, 0xE0 ≤ pid → table.isPIDSupported pid = false := by
  constructor
  · intro h pid hhigh
    by_contra hne
    have hsupported : table.isPIDSupported pid = true := by
      rw [← Bool.not_eq_false]
      exact hne
    have hlow := (((h pid).mpr hsupported).spec).2
    exact absurd hlow (UInt8.not_lt.mpr hhigh)
  · intro h pid
    constructor
    · intro hread
      exact hread.spec.1
    · intro hsupported
      refine ReadBack.of_supported hsupported ?_
      by_contra hnot
      rw [h pid (UInt8.not_lt.mp hnot)] at hsupported
      cases hsupported

/-- `0xE0` is supported, and no bit says so. -/
theorem last_range_lost :
    isPIDSupported (addPID ∅ (entry 0xE0 0 0 "A")) 0xE0 = true ∧
      getSupportedPIDs (addPID ∅ (entry 0xE0 0 0 "A")) 7 = [0, 0, 0, 0] ∧
      ¬ LosesNothing (addPID ∅ (entry 0xE0 0 0 "A")) := by
  have hsupported : isPIDSupported (addPID ∅ (entry 0xE0 0 0 "A")) 0xE0 = true := by decide
  refine ⟨hsupported, by decide, fun h => ?_⟩
  exact absurd (((h 0xE0).mpr hsupported).spec).2 (by decide)

end PIDTable

end EcuMult.Manufacturers
