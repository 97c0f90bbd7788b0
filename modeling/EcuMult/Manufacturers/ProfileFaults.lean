import EcuMult.Manufacturers.DtcStore

/-!
# What remains of earlier profiles

Selecting a profile stores its trouble codes. `applyProfileDTCs` starts by
erasing codes, "existing profile-based" ones as its comment has it, but what it
looks up is the list of the *new* profile: it erases what it is about to store
again, and leaves the codes of the profile before.

An observer that remembers which codes were set by hand and which were listed
by a profile since the store was last cleared (`FaultMemory`) therefore always
finds both in the store (`remembersFaults_step`), and `switch_iff` says when a
switch of profiles leaves no stale code.
-/

namespace EcuMult.Manufacturers.BaseManufacturer

open EcuMult.Lib EcuMult.Core EcuMult.Simulation

/-! ## What an observer remembers -/

structure FaultMemory where
  /-- Codes set by hand since the last clear. -/
  manual : List UInt16
  /-- Codes that a profile applied since the last clear lists. -/
  listed : List UInt16

/-- A profile is applied, if there is one. -/
def FaultMemory.apply (x : FaultMemory) : Option VehicleProfile → FaultMemory
  | none => x
  | some profile => { x with listed := profile.activeDtcs ++ x.listed }

def rememberFaults (x : FaultMemory) (e : BaseManufacturer) : DtcOp → FaultMemory
  | .setDTC code _ _ => { x with manual := code :: x.manual }
  | .clearDTCs => ⟨[], []⟩
  | .reset _ => ⟨[], []⟩
  | .setProfile name => x.apply (e.profileManager.profiles.lookup name)
  | .applyProfileDTCs => x.apply e.profileManager.getCurrentProfile
  | .applyCustomProfile _ => x

/-- The store has what was set and what was listed. -/
def RemembersFaults (x : FaultMemory) (e : BaseManufacturer) : Prop :=
  ∀ code, code ∈ e.dtcs.codes ↔ code ∈ x.manual ∨ code ∈ x.listed

theorem remembersFaults_apply {x : FaultMemory} {e : BaseManufacturer} (h : RemembersFaults x e) :
    RemembersFaults (x.apply e.profileManager.getCurrentProfile) e.applyProfileDTCs.1 := by
  intro code
  unfold applyProfileDTCs
  cases e.profileManager.getCurrentProfile with
  | none => exact h code
  | some profile =>
    show code ∈ (e.dtcs.applyProfile profile).codes ↔
      code ∈ x.manual ∨ code ∈ profile.activeDtcs ++ x.listed
    rw [DTCList.mem_applyProfile, h code, List.mem_append, or_left_comm]

/-- A name that stands for a profile is selected, and the profile applied. -/
theorem setProfile_found {e : BaseManufacturer} {name : Text} {profile : VehicleProfile}
    (h : e.profileManager.profiles.lookup name = some profile) :
    e.setProfile name =
      (({ e with profileManager := { e.profileManager with currentProfile := name } } :
        BaseManufacturer).applyProfileDTCs.1, true) := by
  have hmem : name ∈ e.profileManager.profiles := by
    rw [← AList.lookup_isSome, h]
    rfl
  unfold setProfile
  rw [VehicleProfileManager.selectProfile_known hmem]
  rfl

theorem setProfile_unknown {e : BaseManufacturer} {name : Text}
    (h : e.profileManager.profiles.lookup name = none) : e.setProfile name = (e, false) := by
  have hmem : name ∉ e.profileManager.profiles := AList.lookup_eq_none.mp h
  unfold setProfile
  rw [VehicleProfileManager.selectProfile_unknown hmem]
  rfl

theorem remembersFaults_step (x : FaultMemory) (e : BaseManufacturer) (op : DtcOp)
    (h : RemembersFaults x e) : RemembersFaults (rememberFaults x e op) (e.dtcStep op) := by
  cases op with
  | setDTC code description pending =>
    intro c
    show c ∈ (e.dtcs.setDTC code description pending).codes ↔ c ∈ code :: x.manual ∨ c ∈ x.listed
    rw [DTCList.mem_setDTC, h c, List.mem_cons, or_assoc]
  | clearDTCs => exact fun code => iff_of_false List.not_mem_nil (by simp [rememberFaults])
  | reset now => exact fun code => iff_of_false List.not_mem_nil (by simp [rememberFaults])
  | setProfile name =>
    simp only [rememberFaults, dtcStep]
    cases hfound : e.profileManager.profiles.lookup name with
    | none =>
      rw [setProfile_unknown hfound]
      exact h
    | some profile =>
      have hselected : RemembersFaults x
          { e with profileManager := { e.profileManager with currentProfile := name } } := h
      have happlied := remembersFaults_apply hselected
      rw [setProfile_found hfound]
      rwa [show VehicleProfileManager.getCurrentProfile
        { e.profileManager with currentProfile := name } = some profile from hfound] at happlied
  | applyProfileDTCs => exact remembersFaults_apply h
  | applyCustomProfile profile => exact h

/-- The memory after a run from a fresh ECU, whose constructor has applied the
empty profile `normal`. -/
def rememberedFaults (now₁ now₂ : Int) (config : ManufacturerConfig) (cvn : UInt32)
    (ops : List DtcOp) : FaultMemory :=
  track dtcStep rememberFaults ⟨[], []⟩ (new now₁ now₂ config cvn) ops

theorem remembersFaults (now₁ now₂ : Int) (config : ManufacturerConfig) (cvn : UInt32)
    (ops : List DtcOp) :
    RemembersFaults (rememberedFaults now₁ now₂ config cvn ops)
      (run dtcStep (new now₁ now₂ config cvn) ops) := by
  refine track_inv remembersFaults_step ops ?_
  intro code
  have hempty : (new now₁ now₂ config cvn).dtcs = [] := rfl
  rw [hempty]
  exact iff_of_false List.not_mem_nil (by simp)

/-! ## Switching profiles -/

/-- After the switch to `name`, the store has the codes set by hand, those of
the profile, and no others. -/
def NoStaleFaults (e : BaseManufacturer) (manual : List UInt16) (name : Text)
    (profile : VehicleProfile) : Prop :=
  ∀ code, code ∈ (e.setProfile name).1.dtcs.codes ↔ code ∈ manual ∨ code ∈ profile.activeDtcs

/-- Back from `bad_o2` to `normal`, the oxygen sensor's faults are still there. -/
theorem not_always_noStaleFaults :
    ¬ ∀ (now₁ now₂ : Int) (config : ManufacturerConfig) (cvn : UInt32) (ops : List DtcOp)
      (name : Text) (profile : VehicleProfile),
      (run dtcStep (new now₁ now₂ config cvn) ops).profileManager.profiles.lookup name =
          some profile →
        NoStaleFaults (run dtcStep (new now₁ now₂ config cvn) ops)
          (rememberedFaults now₁ now₂ config cvn ops).manual name profile := by
  intro h
  have hnormal := h 0 0 (ProtocolRouter.getConfigFor .bmw) 0 [.setProfile "bad_o2".toList]
    "normal".toList VehicleProfileManager.gmNormalIdle rfl 0x0135
  exact absurd (hnormal.mp (by decide)) (by decide)

/-- **When a switch leaves no stale faults.** After a successful switch, exactly
if every code that a profile applied since the last clear lists was also set by
hand, or is listed by the new profile too. -/
theorem switch_iff (now₁ now₂ : Int) (config : ManufacturerConfig) (cvn : UInt32)
    (ops : List DtcOp) (name : Text) (profile : VehicleProfile)
    (hprofile : (run dtcStep (new now₁ now₂ config cvn) ops).profileManager.profiles.lookup name =
      some profile) :
    let e := run dtcStep (new now₁ now₂ config cvn) ops
    let x := rememberedFaults now₁ now₂ config cvn ops
    (e.setProfile name).2 = true ∧
      (NoStaleFaults e x.manual name profile ↔
        ∀ code ∈ x.listed, code ∈ x.manual ∨ code ∈ profile.activeDtcs) := by
  intro e x
  have hbefore : RemembersFaults x e := remembersFaults now₁ now₂ config cvn ops
  have hafter : ∀ code, code ∈ (e.setProfile name).1.dtcs.codes ↔
      code ∈ x.manual ∨ code ∈ profile.activeDtcs ∨ code ∈ x.listed := by
    have hstep := remembersFaults_step x e (.setProfile name) hbefore
    intro code
    have hcode : code ∈ (e.setProfile name).1.dtcs.codes ↔
        code ∈ (x.apply (e.profileManager.profiles.lookup name)).manual ∨
          code ∈ (x.apply (e.profileManager.profiles.lookup name)).listed := hstep code
    rw [hcode, show e.profileManager.profiles.lookup name = some profile from hprofile]
    show code ∈ x.manual ∨ code ∈ profile.activeDtcs ++ x.listed ↔ _
    rw [List.mem_append]
  refine ⟨by rw [setProfile_found hprofile], ?_⟩
  unfold NoStaleFaults
  constructor
  · intro hexact code hlisted
    exact (hexact code).mp ((hafter code).mpr (Or.inr (Or.inr hlisted)))
  · intro hcovered code
    rw [hafter code]
    constructor
    · intro h
      rcases h with hmanual | hnew | hlisted
      · exact Or.inl hmanual
      · exact Or.inr hnew
      · exact hcovered code hlisted
    · intro h
      exact h.imp_right Or.inl

theorem switch_iff_maf_fault :
    let e := run dtcStep (new 0 0 (ProtocolRouter.getConfigFor .bmw) 0)
      [.setDTC 0x0135 [] false, .setDTC 0x0172 [] true, .setProfile "bad_o2".toList]
    let x := rememberedFaults 0 0 (ProtocolRouter.getConfigFor .bmw) 0
      [.setDTC 0x0135 [] false, .setDTC 0x0172 [] true, .setProfile "bad_o2".toList]
    (e.setProfile "maf_fault".toList).2 = true ∧
      (NoStaleFaults e x.manual "maf_fault".toList VehicleProfileManager.gmMAFFault ↔
        ∀ code ∈ x.listed,
          code ∈ x.manual ∨ code ∈ VehicleProfileManager.gmMAFFault.activeDtcs) :=
  switch_iff 0 0 (ProtocolRouter.getConfigFor .bmw) 0
    [.setDTC 0x0135 [] false, .setDTC 0x0172 [] true, .setProfile "bad_o2".toList]
    "maf_fault".toList VehicleProfileManager.gmMAFFault rfl

end EcuMult.Manufacturers.BaseManufacturer
