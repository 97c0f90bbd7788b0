import EcuMult.Lib.Text
import EcuMult.Simulation.VehicleProfile

/-!
# The trouble codes of an ECU

`src/manufacturers/base.cpp`: `setDTC`, `getDTCs`, `applyProfileDTCs` and
`handleMode03`, on the vector `dtcs_` that they share. The vector is a set of
codes kept in insertion order: `setDTC` looks for its code first and only
appends a new one, and `applyProfileDTCs` erases a profile's codes before it
sets them.

`setDTC_codes` and `applyProfile_codes` say what becomes of the list of codes;
the entries' other fields play no part in it.
-/

namespace EcuMult.Manufacturers

open EcuMult.Lib EcuMult.Simulation

structure DTCInfo where
  code : UInt16
  description : Text
  isPending : Bool
  isPermanent : Bool
  severity : Text
  deriving DecidableEq, Repr

/-- The type of `dtcs_`. -/
abbrev DTCList := List DTCInfo

namespace DTCList

def codes (dtcs : DTCList) : List UInt16 := dtcs.map DTCInfo.code

/-- Set the pending flag of the code's first entry, or append an entry. -/
def setDTC : DTCList → UInt16 → Text → Bool → DTCList
  | [], code, description, pending =>
    [{ code := code
       description := description
       isPending := pending
       isPermanent := false
       severity := "minor".toList }]
  | dtc :: rest, code, description, pending =>
    if dtc.code = code then { dtc with isPending := pending } :: rest
    else dtc :: setDTC rest code description pending

def getDTCs (dtcs : DTCList) (onlyActive : Bool) : DTCList :=
  if onlyActive then dtcs.filter fun dtc => !dtc.isPending else dtcs

/-- The first loop of `applyProfileDTCs`. -/
def eraseProfile (dtcs : DTCList) (profile : VehicleProfile) : DTCList :=
  dtcs.filter fun dtc => !profile.activeDtcs.contains dtc.code

/-- The second loop; the `i`-th code takes the `i`-th description, if there is
one. -/
def setProfile (dtcs : DTCList) (profile : VehicleProfile) : DTCList :=
  profile.activeDtcs.zipIdx.foldl
    (fun dtcs (entry : UInt16 × Nat) =>
      dtcs.setDTC entry.1 (profile.dtcDescriptions.getD entry.2 "Profile fault".toList) false)
    dtcs

def applyProfile (dtcs : DTCList) (profile : VehicleProfile) : DTCList :=
  (dtcs.eraseProfile profile).setProfile profile

/-- `handleMode03`: at most 255 non-pending codes, after their number. -/
def handleMode03 (dtcs : DTCList) : Bytes :=
  let active := dtcs.getDTCs true
  let count := min active.length 255
  UInt8.ofNat count :: bigEndian (codes (active.take count))

/-! ## The list of codes -/

/-- `setDTC` adds its code at the end unless it is there. -/
theorem setDTC_codes (dtcs : DTCList) (code : UInt16) (description : Text) (pending : Bool) :
    (dtcs.setDTC code description pending).codes =
      if code ∈ dtcs.codes then dtcs.codes else dtcs.codes ++ [code] := by
  induction dtcs with
  | nil => rfl
  | cons dtc rest ih =>
    unfold setDTC
    by_cases hcode : dtc.code = code
    · rw [if_pos hcode]
      have hmem : code ∈ codes (dtc :: rest) := by
        rw [← hcode]
        exact List.mem_cons_self ..
      rw [if_pos hmem]
      rfl
    · rw [if_neg hcode]
      show dtc.code :: codes (setDTC rest code description pending) = _
      have hmem : code ∈ codes (dtc :: rest) ↔ code ∈ codes rest := by
        show code ∈ dtc.code :: codes rest ↔ _
        rw [List.mem_cons]
        constructor
        · intro h
          exact h.resolve_left (Ne.symm hcode)
        · exact Or.inr
      rw [ih]
      by_cases hrest : code ∈ codes rest
      · rw [if_pos hrest, if_pos (hmem.mpr hrest)]
        rfl
      · rw [if_neg hrest, if_neg (fun h => hrest (hmem.mp h))]
        rfl

theorem setDTC_nodup {dtcs : DTCList} (h : dtcs.codes.Nodup) (code : UInt16)
    (description : Text) (pending : Bool) :
    (dtcs.setDTC code description pending).codes.Nodup := by
  rw [setDTC_codes]
  by_cases hmem : code ∈ dtcs.codes
  · rw [if_pos hmem]
    exact h
  · rw [if_neg hmem, List.nodup_append]
    refine ⟨h, List.nodup_singleton code, ?_⟩
    intro a ha b hb hab
    rw [List.mem_singleton.mp hb] at hab
    exact hmem (hab ▸ ha)

theorem eraseProfile_nodup {dtcs : DTCList} (h : dtcs.codes.Nodup) (profile : VehicleProfile) :
    (dtcs.eraseProfile profile).codes.Nodup := by
  have hsub : List.Sublist (dtcs.eraseProfile profile).codes dtcs.codes :=
    List.Sublist.map DTCInfo.code List.filter_sublist
  exact hsub.nodup h

/-- A property of stored entries that `setDTC` and the erasing of a profile's codes
keep is kept by applying a profile. -/
theorem applyProfile_inv {I : DTCList → Prop}
    (hset : ∀ dtcs code description pending, I dtcs → I (setDTC dtcs code description pending))
    (herase : ∀ dtcs profile, I dtcs → I (eraseProfile dtcs profile)) {dtcs : DTCList} (h : I dtcs)
    (profile : VehicleProfile) : I (dtcs.applyProfile profile) := by
  have herased := herase dtcs profile h
  unfold applyProfile setProfile
  generalize dtcs.eraseProfile profile = kept at herased
  induction profile.activeDtcs.zipIdx generalizing kept with
  | nil => exact herased
  | cons entry rest ih =>
    rw [List.foldl_cons]
    exact ih _ (hset _ _ _ _ herased)

/-! ## Which codes are stored -/

theorem mem_setDTC (dtcs : DTCList) (code : UInt16) (description : Text) (pending : Bool)
    (c : UInt16) :
    c ∈ (dtcs.setDTC code description pending).codes ↔ c = code ∨ c ∈ dtcs.codes := by
  rw [setDTC_codes]
  by_cases hmem : code ∈ dtcs.codes
  · rw [if_pos hmem]
    constructor
    · exact Or.inr
    · intro h
      rcases h with rfl | h
      · exact hmem
      · exact h
  · rw [if_neg hmem, List.mem_append, List.mem_singleton, or_comm]

theorem mem_eraseProfile (dtcs : DTCList) (profile : VehicleProfile) (c : UInt16) :
    c ∈ (dtcs.eraseProfile profile).codes ↔ c ∈ dtcs.codes ∧ c ∉ profile.activeDtcs := by
  unfold eraseProfile codes
  simp only [List.mem_map, List.mem_filter, Bool.not_eq_eq_eq_not, Bool.not_true,
    List.contains_eq_mem, decide_eq_false_iff_not]
  constructor
  · intro h
    obtain ⟨dtc, ⟨hmem, hkept⟩, rfl⟩ := h
    exact ⟨⟨dtc, hmem, rfl⟩, hkept⟩
  · intro h
    obtain ⟨⟨dtc, hmem, rfl⟩, hkept⟩ := h
    exact ⟨dtc, ⟨hmem, hkept⟩, rfl⟩

/-- The loop over the profile's codes adds each of them. -/
theorem mem_foldl_setDTC (description : Nat → Text) (c : UInt16) :
    ∀ (entries : List (UInt16 × Nat)) (dtcs : DTCList),
      c ∈ (entries.foldl (fun dtcs entry => dtcs.setDTC entry.1 (description entry.2) false)
        dtcs).codes ↔ c ∈ entries.map Prod.fst ∨ c ∈ dtcs.codes := by
  intro entries
  induction entries with
  | nil =>
    intro dtcs
    simp
  | cons entry entries ih =>
    intro dtcs
    rw [List.foldl_cons, ih, mem_setDTC, List.map_cons, List.mem_cons, or_left_comm, or_assoc]

theorem mem_setProfile (dtcs : DTCList) (profile : VehicleProfile) (c : UInt16) :
    c ∈ (dtcs.setProfile profile).codes ↔ c ∈ profile.activeDtcs ∨ c ∈ dtcs.codes := by
  unfold setProfile
  rw [mem_foldl_setDTC (fun i => profile.dtcDescriptions.getD i "Profile fault".toList),
    List.zipIdx_map_fst]

/-- A profile's codes are added to what is stored. -/
theorem mem_applyProfile (dtcs : DTCList) (profile : VehicleProfile) (c : UInt16) :
    c ∈ (dtcs.applyProfile profile).codes ↔ c ∈ profile.activeDtcs ∨ c ∈ dtcs.codes := by
  unfold applyProfile
  rw [mem_setProfile, mem_eraseProfile]
  by_cases hlisted : c ∈ profile.activeDtcs <;> simp [hlisted]

/-! ## What Mode 03 reports -/

/-- The number of codes that fit into an answer. -/
def reported (dtcs : DTCList) : Nat := min 255 (dtcs.getDTCs true).length

theorem handleMode03_eq (dtcs : DTCList) :
    dtcs.handleMode03 =
      UInt8.ofNat dtcs.reported ::
        bigEndian ((dtcs.getDTCs true).codes.take dtcs.reported) := by
  unfold reported codes
  rw [Nat.min_comm, ← List.map_take]
  rfl

theorem handleMode03_head (dtcs : DTCList) :
    ((dtcs.handleMode03).headD 0).toNat = dtcs.reported := by
  have hle : dtcs.reported ≤ 255 := Nat.min_le_left _ _
  rw [handleMode03_eq]
  show (UInt8.ofNat dtcs.reported).toNat = _
  rw [UInt8.toNat_ofNat']
  exact Nat.mod_eq_of_lt (by omega)

theorem reported_length (dtcs : DTCList) :
    ((dtcs.getDTCs true).codes.take dtcs.reported).length = dtcs.reported := by
  have hle : dtcs.reported ≤ (dtcs.getDTCs true).length := Nat.min_le_right _ _
  rw [List.length_take]
  unfold codes
  rw [List.length_map]
  exact Nat.min_eq_left hle

theorem handleMode03_length (dtcs : DTCList) :
    dtcs.handleMode03.length = 1 + 2 * dtcs.reported := by
  rw [handleMode03_eq, List.length_cons, bigEndian_length, reported_length]
  omega

end DTCList

end EcuMult.Manufacturers
