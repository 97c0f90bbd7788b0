import EcuMult.Manufacturers.Base

/-!
# Which sensors a profile governs

A profile's overrides are a map from PIDs, and `handleMode01` looks into it in
the thirteen cases of its `switch` that name a sensor. The other PIDs of the
table have no case: they are answered with a counter or with zero, whatever
the profile says about them.

`governs_iff` compares an answer with the answers for the values that the
override allows. For a PID with a case they always match (`switched_governs`).
For the others the question is arithmetic: the encoder truncates, so the answer
matches when the fallback and some allowed value truncate to the same raw
number (`unswitched_governs_iff`).
-/

namespace EcuMult.Manufacturers.BaseManufacturer

open EcuMult.Lib EcuMult.Core EcuMult.Simulation

/-! ## What an override allows -/

/-- The values that an override allows are those between these two. -/
def lowest (ov : SensorOverride) : ℚ := if ov.stuckValue then ov.stuckAt else ov.minVal

def highest (ov : SensorOverride) : ℚ := if ov.stuckValue then ov.stuckAt else ov.maxVal

def Allows (ov : SensorOverride) (v : ℚ) : Prop :=
  if ov.stuckValue then v = ov.stuckAt else ov.minVal ≤ v ∧ v ≤ ov.maxVal

theorem allows_iff (ov : SensorOverride) (v : ℚ) :
    Allows ov v ↔ lowest ov ≤ v ∧ v ≤ highest ov := by
  unfold Allows lowest highest
  cases ov.stuckValue with
  | true => exact eq_iff_le_not_lt.trans (by simp [not_lt, and_comm])
  | false => exact Iff.rfl

/-- An overridden sensor reads an allowed value. -/
theorem applySensorOverride_allows {pm : VehicleProfileManager} {profile : VehicleProfile}
    {pid : UInt8} {ov : SensorOverride} (hprofile : pm.getCurrentProfile = some profile)
    (hov : profile.sensorOverrides.lookup pid = some ov) (hle : ov.minVal ≤ ov.maxVal)
    (sensor dt noise : ℚ) : Allows ov (pm.applySensorOverride pid sensor dt noise) := by
  unfold VehicleProfileManager.applySensorOverride Allows
  rw [hprofile]
  simp only [hov]
  cases ov.stuckValue with
  | true => rfl
  | false => exact clamp_mem hle _

/-! ## The `switch` -/

/-- The PIDs with a case that applies the override. -/
def switchedPIDs : List UInt8 :=
  [0x0C, 0x0D, 0x05, 0x0F, 0x10, 0x11, 0x14, 0x15, 0x22, 0x2F, 0x04, 0x0B, 0x42]

/-- What the other PIDs are answered with. -/
def fallback (e : BaseManufacturer) (pid : UInt8) : ℚ :=
  match pid with
  | 0x1F => e.runTime
  | 0x21 => e.distanceWithMil
  | 0x31 => e.distanceSinceClear
  | _ => 0

theorem sensorValue_switched (e : BaseManufacturer) (noise : ℚ) {pid : UInt8}
    (h : pid ∈ switchedPIDs) :
    ∃ sensor, e.sensorValue noise pid =
      e.profileManager.applySensorOverride pid sensor 0 noise := by
  simp only [switchedPIDs, List.mem_cons, List.not_mem_nil, or_false] at h
  rcases h with rfl | rfl | rfl | rfl | rfl | rfl | rfl | rfl | rfl | rfl | rfl | rfl | rfl <;>
    exact ⟨_, rfl⟩

theorem sensorValue_unswitched (e : BaseManufacturer) (noise : ℚ) {pid : UInt8}
    (h : pid ∉ switchedPIDs) : e.sensorValue noise pid = e.fallback pid := by
  unfold sensorValue fallback
  split
  case h_17 =>
    split
    · contradiction
    · contradiction
    · contradiction
    · rfl
  all_goals first
    | rfl
    | exact absurd (by decide) h

/-! ## Encodings as raw numbers -/

/-- What the encoder truncates, for a PID without a case. -/
def scaled (pid : UInt8) (v : ℚ) : ℚ :=
  match pid with
  | 0x46 | 0x5C => v + 40
  | 0x16 | 0x17 => v / 0.005
  | 0x0A => v / 3
  | _ => v

/-- The width of the raw number. -/
def width (formula : Text) (pid : UInt8) : Nat :=
  match pid with
  | 0x46 | 0x5C | 0x16 | 0x17 | 0x0A => 8
  | 0x1F | 0x21 | 0x31 => 16
  | _ => if Text.contains "256".toList formula then 16 else 8

theorem width_cases (formula : Text) (pid : UInt8) :
    width formula pid = 16 ∨ width formula pid = 8 := by
  unfold width
  split
  case h_9 => cases Text.contains "256".toList formula <;> simp
  all_goals simp

theorem scaled_le_iff (pid : UInt8) {v w : ℚ} : scaled pid v ≤ scaled pid w ↔ v ≤ w := by
  unfold scaled
  split
  · exact add_le_add_iff_right 40
  · exact add_le_add_iff_right 40
  · exact div_le_div_iff_of_pos_right (by norm_num)
  · exact div_le_div_iff_of_pos_right (by norm_num)
  · exact div_le_div_iff_of_pos_right (by norm_num)
  · exact Iff.rfl

/-- The bytes after a raw number. -/
def padding (pid : UInt8) : Bytes :=
  match pid with
  | 0x16 | 0x17 => List.replicate 5 0x80
  | _ => []

theorem encodeValue_unswitched {pid : UInt8} (h : pid ∉ switchedPIDs) (formula : Text) (v : ℚ) :
    PIDTable.encodeValue formula pid v =
      if width formula pid = 16 then PIDTable.word (truncUInt16 (scaled pid v))
      else truncUInt8 (scaled pid v) :: padding pid := by
  unfold PIDTable.encodeValue
  split
  case h_21 =>
    -- the default branch: no PID that any of the tables names
    have hscaled : scaled pid v = v := by
      unfold scaled
      split <;> first | contradiction | rfl
    have hwidth : width formula pid = if Text.contains "256".toList formula then 16 else 8 := by
      unfold width
      split <;> first | contradiction | rfl
    have hpadding : padding pid = [] := by
      unfold padding
      split <;> first | contradiction | rfl
    rw [hscaled, hwidth, hpadding]
    cases Text.contains "256".toList formula <;> rfl
  all_goals first
    | rfl
    | exact absurd (by decide) h

theorem word_inj {a b : UInt16} : PIDTable.word a = PIDTable.word b ↔ a = b := by
  constructor
  · intro h
    obtain ⟨hhi, hrest⟩ := List.cons.inj h
    rw [← be16_hiByte_loByte a, hhi, (List.cons.inj hrest).1, be16_hiByte_loByte]
  · intro h
    rw [h]

/-- Encodings are the same when the raw numbers are, in the width there is. -/
theorem encodeValue_eq_iff {pid : UInt8} (h : pid ∉ switchedPIDs) (formula : Text) (v w : ℚ) :
    PIDTable.encodeValue formula pid v = PIDTable.encodeValue formula pid w ↔
      trunc (scaled pid v) ≡ trunc (scaled pid w) [ZMOD 2 ^ width formula pid] := by
  rw [encodeValue_unswitched h, encodeValue_unswitched h]
  rcases width_cases formula pid with hwide | hnarrow
  · rw [hwide, if_pos rfl, if_pos rfl, word_inj, truncUInt16_eq_iff]
  · rw [hnarrow, if_neg (by decide), if_neg (by decide), List.cons.injEq, truncUInt8_eq_iff]
    exact and_iff_left rfl

/-- Every number is what some value is scaled to. -/
theorem exists_scaled (pid : UInt8) (s : ℚ) : ∃ v, scaled pid v = s := by
  unfold scaled
  split
  · exact ⟨s - 40, sub_add_cancel s 40⟩
  · exact ⟨s - 40, sub_add_cancel s 40⟩
  · exact ⟨s * 0.005, mul_div_cancel_right₀ s (by norm_num)⟩
  · exact ⟨s * 0.005, mul_div_cancel_right₀ s (by norm_num)⟩
  · exact ⟨s * 3, mul_div_cancel_right₀ s (by norm_num)⟩
  · exact ⟨s, rfl⟩

/-- The raw numbers of the values in a range. -/
theorem trunc_scaled_between (pid : UInt8) {lo hi : ℚ} (h : lo ≤ hi) (k : Int) :
    (∃ v, (lo ≤ v ∧ v ≤ hi) ∧ trunc (scaled pid v) = k) ↔
      trunc (scaled pid lo) ≤ k ∧ k ≤ trunc (scaled pid hi) := by
  rw [← trunc_between ((scaled_le_iff pid).mpr h)]
  constructor
  · intro hv
    obtain ⟨v, hrange, hk⟩ := hv
    exact ⟨scaled pid v, (scaled_le_iff pid).mpr hrange.1, (scaled_le_iff pid).mpr hrange.2, hk⟩
  · intro hs
    obtain ⟨s, hlo, hhi, hk⟩ := hs
    obtain ⟨v, rfl⟩ := exists_scaled pid s
    exact ⟨v, ⟨(scaled_le_iff pid).mp hlo, (scaled_le_iff pid).mp hhi⟩, hk⟩

/-! ## Which PIDs are governed -/

/-- The answer for `pid` is the one for some value that the override allows. -/
def Governs (e : BaseManufacturer) (noise : ℚ) (pid : UInt8) (ov : SensorOverride) : Prop :=
  ∃ v, Allows ov v ∧ e.handleMode01 noise pid = e.pidTable.encodePIDResponse pid v

/-- The raw number of `value` is, in the width of the PID, that of some value
between the bounds of the override. -/
def Coincides (formula : Text) (pid : UInt8) (value : ℚ) (ov : SensorOverride) : Prop :=
  ∃ k : Int, (trunc (scaled pid (lowest ov)) ≤ k ∧ k ≤ trunc (scaled pid (highest ov))) ∧
    k ≡ trunc (scaled pid value) [ZMOD 2 ^ width formula pid]

section

variable {e : BaseManufacturer} {pid : UInt8} {entry : PIDEntry} {profile : VehicleProfile}
  {ov : SensorOverride}

theorem handleMode01_entry (hentry : e.pidTable.getPIDEntry pid = some entry) (noise : ℚ) :
    e.handleMode01 noise pid = e.pidTable.encodePIDResponse pid (e.sensorValue noise pid) := by
  unfold handleMode01
  rw [hentry]

theorem encodePIDResponse_entry (hentry : e.pidTable.getPIDEntry pid = some entry) (v : ℚ) :
    e.pidTable.encodePIDResponse pid v =
      0x41 :: pid :: PIDTable.encodeValue entry.formula pid v := by
  unfold PIDTable.encodePIDResponse
  rw [hentry]

theorem switched_governs (hentry : e.pidTable.getPIDEntry pid = some entry)
    (hprofile : e.profileManager.getCurrentProfile = some profile)
    (hov : profile.sensorOverrides.lookup pid = some ov) (hle : ov.minVal ≤ ov.maxVal)
    (noise : ℚ) (hpid : pid ∈ switchedPIDs) : Governs e noise pid ov := by
  obtain ⟨sensor, hsensor⟩ := sensorValue_switched e noise hpid
  refine ⟨e.sensorValue noise pid, ?_, handleMode01_entry hentry noise⟩
  rw [hsensor]
  exact applySensorOverride_allows hprofile hov hle sensor 0 noise

theorem unswitched_governs_iff (hentry : e.pidTable.getPIDEntry pid = some entry)
    (hle : ov.minVal ≤ ov.maxVal) (noise : ℚ) (hpid : pid ∉ switchedPIDs) :
    Governs e noise pid ov ↔ Coincides entry.formula pid (e.fallback pid) ov := by
  have hbounds : lowest ov ≤ highest ov := by
    unfold lowest highest
    cases ov.stuckValue with
    | true => exact le_refl ov.stuckAt
    | false => exact hle
  have hsame : ∀ v, e.handleMode01 noise pid = e.pidTable.encodePIDResponse pid v ↔
      trunc (scaled pid v) ≡ trunc (scaled pid (e.fallback pid))
        [ZMOD 2 ^ width entry.formula pid] := by
    intro v
    rw [handleMode01_entry hentry, sensorValue_unswitched e noise hpid,
      encodePIDResponse_entry hentry, encodePIDResponse_entry hentry, List.cons_inj_right,
      List.cons_inj_right, eq_comm, encodeValue_eq_iff hpid]
  unfold Governs Coincides
  constructor
  · intro h
    obtain ⟨v, hallowed, hanswer⟩ := h
    refine ⟨trunc (scaled pid v), ?_, (hsame v).mp hanswer⟩
    exact (trunc_scaled_between pid hbounds _).mp ⟨v, (allows_iff ov v).mp hallowed, rfl⟩
  · intro h
    obtain ⟨k, hrange, hraw⟩ := h
    obtain ⟨v, hv, rfl⟩ := (trunc_scaled_between pid hbounds k).mpr hrange
    exact ⟨v, (allows_iff ov v).mpr hv, (hsame v).mpr hraw⟩

end

/-- With `bad_o2` selected, the fuel trim that the profile puts between 15 and
25 is answered with zero. -/
theorem not_always_governs :
    ¬ ∀ (e : BaseManufacturer) (noise : ℚ) (pid : UInt8) (entry : PIDEntry)
      (profile : VehicleProfile) (ov : SensorOverride),
      e.pidTable.getPIDEntry pid = some entry →
        e.profileManager.getCurrentProfile = some profile →
          profile.sensorOverrides.lookup pid = some ov → ov.minVal ≤ ov.maxVal →
            Governs e noise pid ov := by
  intro h
  have hentry :
      ((new 0 0 (ProtocolRouter.getConfigFor .bmw) 0).setProfile
        "bad_o2".toList).1.pidTable.getPIDEntry 0x06 =
      some (PIDTable.entry 0x06 (-100) 99.2 "(A-128)*100/128") := rfl
  have hgoverned := h _ 0 0x06 _ VehicleProfileManager.gmBadO2Sensor
    (VehicleProfileManager.noisy 15 25 0) hentry rfl rfl (by decide +kernel)
  rw [unswitched_governs_iff hentry (by decide +kernel) 0 (by decide)] at hgoverned
  obtain ⟨k, hrange, hraw⟩ := hgoverned
  have hzero : k ≡ 0 [ZMOD 2 ^ 8] := hraw
  have hlow : (15 : Int) ≤ k := hrange.1
  have hhigh : k ≤ 25 := hrange.2
  unfold Int.ModEq at hzero
  omega

/-- **Which overrides govern Mode 01.** Those of a PID whose case applies them;
and those that allow a value with the raw number of what the PID is answered
with anyway. -/
theorem governs_iff (e : BaseManufacturer) (noise : ℚ) (pid : UInt8) (entry : PIDEntry)
    (profile : VehicleProfile) (ov : SensorOverride)
    (hentry : e.pidTable.getPIDEntry pid = some entry)
    (hprofile : e.profileManager.getCurrentProfile = some profile)
    (hov : profile.sensorOverrides.lookup pid = some ov) (hle : ov.minVal ≤ ov.maxVal) :
    Governs e noise pid ov ↔
      pid ∈ switchedPIDs ∨ Coincides entry.formula pid (e.fallback pid) ov := by
  by_cases hpid : pid ∈ switchedPIDs
  · exact iff_of_true (switched_governs hentry hprofile hov hle noise hpid) (Or.inl hpid)
  · rw [unswitched_governs_iff hentry hle noise hpid]
    exact (or_iff_right hpid).symm

theorem governs_iff_bad_o2 :
    Governs ((new 0 0 (ProtocolRouter.getConfigFor .bmw) 0).setProfile "bad_o2".toList).1 0 0x14
        (VehicleProfileManager.stuck 0.44 0.46 0.45) ↔
      (0x14 : UInt8) ∈ switchedPIDs ∨
        Coincides "A*0.005".toList 0x14
          (((new 0 0 (ProtocolRouter.getConfigFor .bmw) 0).setProfile
            "bad_o2".toList).1.fallback 0x14)
          (VehicleProfileManager.stuck 0.44 0.46 0.45) :=
  governs_iff ((new 0 0 (ProtocolRouter.getConfigFor .bmw) 0).setProfile "bad_o2".toList).1 0 0x14
    (PIDTable.entry 0x14 0 1.275 "A*0.005") VehicleProfileManager.gmBadO2Sensor
    (VehicleProfileManager.stuck 0.44 0.46 0.45) rfl rfl rfl (by decide +kernel)

end EcuMult.Manufacturers.BaseManufacturer
