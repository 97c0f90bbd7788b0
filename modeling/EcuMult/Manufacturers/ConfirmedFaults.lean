import EcuMult.Manufacturers.FaultMemory
import EcuMult.Manufacturers.ProfileFaults

/-!
# How long a fault stays confirmed

A stored code is pending or confirmed, as the last `setDTC` for it said:
`setDTC` assigns the flag of the entry it finds. Applying a profile sets codes
that are confirmed; the main loop's fault injection sets pending ones, and so
takes back the confirmation of a code that a profile has stored.

`stays_confirmed_iff` has the calls that end a confirmation: the two that empty
the store, and `setDTC` with the pending flag for the code itself.
-/

namespace EcuMult.Manufacturers

open EcuMult.Lib EcuMult.Core EcuMult.Simulation

namespace DTCList

/-- The code is stored, and not as pending. -/
def Confirmed (dtcs : DTCList) (code : UInt16) : Prop :=
  dtcs.Stored (fun dtc => dtc.isPending = false) code

theorem confirmed_cons (first : DTCInfo) (rest : DTCList) (code : UInt16) :
    Confirmed (first :: rest) code ↔
      (first.isPending = false ∧ first.code = code) ∨ Confirmed rest code := by
  unfold Confirmed Stored
  simp only [List.mem_cons, or_and_right, exists_or, exists_eq_left]

theorem not_confirmed_nil (code : UInt16) : ¬ Confirmed [] code := by
  intro h
  obtain ⟨dtc, hmem, -⟩ := h
  exact absurd hmem List.not_mem_nil

theorem Confirmed.mem_codes {dtcs : DTCList} {code : UInt16} (h : dtcs.Confirmed code) :
    code ∈ dtcs.codes := by
  obtain ⟨dtc, hmem, -, hcode⟩ := h
  exact List.mem_map.mpr ⟨dtc, hmem, hcode⟩

/-- The confirmed codes are those that `getDTCs(true)` returns. -/
theorem confirmed_iff_reported (dtcs : DTCList) (code : UInt16) :
    dtcs.Confirmed code ↔ code ∈ (dtcs.getDTCs true).codes := by
  unfold Confirmed Stored codes getDTCs
  rw [if_pos rfl, List.mem_map]
  simp only [List.mem_filter, Bool.not_eq_eq_eq_not, Bool.not_true, and_assoc]

/-! ## What each call does to it -/

/-- `setDTC` of another code does nothing to it. -/
theorem setDTC_other (dtcs : DTCList) {code other : UInt16} (hother : other ≠ code)
    (description : Text) (pending : Bool) :
    (dtcs.setDTC other description pending).Confirmed code ↔ dtcs.Confirmed code := by
  induction dtcs with
  | nil =>
    refine iff_of_false ?_ (not_confirmed_nil code)
    rw [setDTC, confirmed_cons]
    intro h
    rcases h with h | h
    · exact hother h.2
    · exact not_confirmed_nil code h
  | cons first rest ih =>
    unfold setDTC
    split
    · next hfirst =>
      -- the entry whose flag is set has the other code
      have hne : ¬ first.code = code := fun h => hother (hfirst.symm.trans h)
      rw [confirmed_cons, confirmed_cons]
      exact or_congr_left (iff_of_false (fun h => hne h.2) fun h => hne h.2)
    · rw [confirmed_cons, confirmed_cons, ih]

/-- Without the pending flag, it confirms. -/
theorem setDTC_confirms (dtcs : DTCList) (code : UInt16) (description : Text) :
    (dtcs.setDTC code description false).Confirmed code := by
  induction dtcs with
  | nil => exact (confirmed_cons ..).mpr (Or.inl ⟨rfl, rfl⟩)
  | cons first rest ih =>
    unfold setDTC
    split
    · next hfirst => exact (confirmed_cons ..).mpr (Or.inl ⟨rfl, hfirst⟩)
    · exact (confirmed_cons ..).mpr (Or.inr ih)

/-- With the flag, it takes the confirmation back. -/
theorem setDTC_demotes {dtcs : DTCList} (hnodup : dtcs.codes.Nodup) (code : UInt16)
    (description : Text) : ¬ (dtcs.setDTC code description true).Confirmed code := by
  induction dtcs with
  | nil =>
    rw [setDTC, confirmed_cons]
    intro h
    rcases h with h | h
    · cases h.1
    · exact not_confirmed_nil code h
  | cons first rest ih =>
    obtain ⟨hfresh, hrest⟩ := List.nodup_cons.mp hnodup
    unfold setDTC
    split
    · next hfirst =>
      -- no second entry has the code
      rw [confirmed_cons]
      intro h
      rcases h with h | h
      · cases h.1
      · exact hfresh (hfirst ▸ h.mem_codes)
    · next hfirst =>
      rw [confirmed_cons]
      intro h
      rcases h with h | h
      · exact hfirst h.2
      · exact ih hrest h

theorem setDTC_keeps {dtcs : DTCList} {code : UInt16} (h : dtcs.Confirmed code) (other : UInt16)
    (description : Text) : (dtcs.setDTC other description false).Confirmed code := by
  by_cases hother : other = code
  · rw [hother]
    exact setDTC_confirms dtcs code description
  · exact (setDTC_other dtcs hother description false).mpr h

/-- The codes that a profile erases are set again, as confirmed ones. -/
theorem applyProfile_keeps {dtcs : DTCList} {code : UInt16} (h : dtcs.Confirmed code)
    (profile : VehicleProfile) : (dtcs.applyProfile profile).Confirmed code := by
  have hloop : ∀ (entries : List (UInt16 × Nat)) (dtcs : DTCList) (description : Nat → Text),
      dtcs.Confirmed code ∨ code ∈ entries.map Prod.fst →
      (entries.foldl (fun dtcs entry => dtcs.setDTC entry.1 (description entry.2) false)
        dtcs).Confirmed code := by
    intro entries
    induction entries with
    | nil =>
      intro dtcs description h
      exact h.resolve_right List.not_mem_nil
    | cons entry entries ih =>
      intro dtcs description h
      rw [List.foldl_cons]
      apply ih
      rcases h with hkept | hlisted
      · exact Or.inl (setDTC_keeps hkept _ _)
      · rcases List.mem_cons.mp hlisted with heq | hmem
        · rw [heq]
          exact Or.inl (setDTC_confirms ..)
        · exact Or.inr hmem
  unfold applyProfile setProfile
  refine hloop _ _ (fun i => profile.dtcDescriptions.getD i "Profile fault".toList) ?_
  rw [List.zipIdx_map_fst]
  by_cases hlisted : code ∈ profile.activeDtcs
  · exact Or.inr hlisted
  · obtain ⟨dtc, hmem, hpending, rfl⟩ := h
    have hkept : (!profile.activeDtcs.contains dtc.code) = true := by
      rw [List.contains_eq_mem, decide_eq_false hlisted]
      rfl
    exact Or.inl ⟨dtc, List.mem_filter.mpr ⟨hmem, hkept⟩, hpending, rfl⟩

end DTCList

namespace BaseManufacturer

/-- The call ends the confirmation of `code`. -/
def Revokes (code : UInt16) : DtcOp → Prop
  | .setDTC other _ pending => other = code ∧ pending = true
  | .clearDTCs => True
  | .reset _ => True
  | _ => False

/-- Every code is stored once, and `code` as a confirmed one. -/
structure ConfirmedFault (code : UInt16) (e : BaseManufacturer) : Prop where
  nodup : e.dtcs.codes.Nodup
  confirmed : e.dtcs.Confirmed code

theorem dtcStep_nodup {e : BaseManufacturer} (h : e.dtcs.codes.Nodup) (op : DtcOp) :
    (e.dtcStep op).dtcs.codes.Nodup :=
  dtcStep_inv (I := fun dtcs => dtcs.codes.Nodup) List.nodup_nil
    (fun _ code description pending h => DTCList.setDTC_nodup h code description pending)
    (fun _ profile h => DTCList.eraseProfile_nodup h profile) e op h

theorem applyProfileDTCs_keeps {e : BaseManufacturer} {code : UInt16}
    (h : e.dtcs.Confirmed code) : e.applyProfileDTCs.1.dtcs.Confirmed code := by
  unfold applyProfileDTCs
  cases e.profileManager.getCurrentProfile with
  | none => exact h
  | some profile => exact DTCList.applyProfile_keeps h profile

/-- **One call** keeps a confirmed code confirmed exactly if it does not revoke
it. -/
theorem dtcStep_confirmed {code : UInt16} (e : BaseManufacturer) (op : DtcOp)
    (h : ConfirmedFault code e) : ConfirmedFault code (e.dtcStep op) ↔ ¬ Revokes code op := by
  have hnodup := dtcStep_nodup h.nodup op
  have hconfirmed : ConfirmedFault code (e.dtcStep op) ↔ (e.dtcStep op).dtcs.Confirmed code :=
    ⟨ConfirmedFault.confirmed, fun hafter => ⟨hnodup, hafter⟩⟩
  rw [hconfirmed]
  cases op with
  | setDTC other description pending =>
    show (e.dtcs.setDTC other description pending).Confirmed code ↔
      ¬ (other = code ∧ pending = true)
    by_cases hother : other = code
    · subst hother
      cases pending with
      | false =>
        exact iff_of_true (DTCList.setDTC_confirms ..) fun hflag => absurd hflag.2 (by decide)
      | true =>
        exact iff_of_false (DTCList.setDTC_demotes h.nodup other description)
          (not_not_intro ⟨rfl, rfl⟩)
    · refine iff_of_true ?_ fun hsame => hother hsame.1
      exact (DTCList.setDTC_other e.dtcs hother description pending).mpr h.confirmed
  | clearDTCs => exact iff_of_false (DTCList.not_confirmed_nil code) (not_not_intro trivial)
  | reset now => exact iff_of_false (DTCList.not_confirmed_nil code) (not_not_intro trivial)
  | setProfile name =>
    refine iff_of_true ?_ id
    show (e.setProfile name).1.dtcs.Confirmed code
    cases hfound : e.profileManager.profiles.lookup name with
    | none =>
      rw [setProfile_unknown hfound]
      exact h.confirmed
    | some profile =>
      rw [setProfile_found hfound]
      exact applyProfileDTCs_keeps h.confirmed
  | applyProfileDTCs => exact iff_of_true (applyProfileDTCs_keeps h.confirmed) id
  | applyCustomProfile profile => exact iff_of_true h.confirmed id

/-! ## Whole runs -/

/-- The store is emptied. -/
def Clears : DtcOp → Prop
  | .clearDTCs => True
  | .reset _ => True
  | _ => False

/-- After each call of the run, the code is stored as confirmed, and reported as
such. -/
def StaysConfirmed (code : UInt16) (e : BaseManufacturer) (ops : List DtcOp) : Prop :=
  Throughout dtcStep
    (fun e op => (e.dtcStep op).dtcs.Confirmed code ∧ code ∈ ((e.dtcStep op).getDTCs true).codes)
    e ops

/-- The profile `bad_o2` confirms `P0135`, and an injected fault takes it
back. -/
theorem not_always_stays_confirmed :
    ¬ ∀ (now₁ now₂ : Int) (config : ManufacturerConfig) (cvn : UInt32) (before after : List DtcOp)
      (code : UInt16),
      (run dtcStep (new now₁ now₂ config cvn) before).dtcs.Confirmed code →
      (∀ op ∈ after, ¬ Clears op) →
      StaysConfirmed code (run dtcStep (new now₁ now₂ config cvn) before) after := by
  intro h
  have hstays := h 0 0 (ProtocolRouter.getConfigFor .bmw) 0 [.setProfile "bad_o2".toList]
    [.setDTC 0x0135 "Simulated fault via injection".toList true] 0x0135
    ((DTCList.confirmed_iff_reported ..).mpr (by decide))
    (by
      intro op hop
      rw [List.mem_singleton.mp hop]
      exact id)
  exact absurd hstays.1.2 (by decide)

/-- **Confirmed until revoked.** From any reachable state with a confirmed code,
the code stays confirmed, and reported by `getDTCs(true)`, in exactly the runs
that neither clear the store, nor reset the ECU, nor set that code as
pending. -/
theorem stays_confirmed_iff (now₁ now₂ : Int) (config : ManufacturerConfig) (cvn : UInt32)
    (before after : List DtcOp) (code : UInt16)
    (hconfirmed : (run dtcStep (new now₁ now₂ config cvn) before).dtcs.Confirmed code) :
    StaysConfirmed code (run dtcStep (new now₁ now₂ config cvn) before) after ↔
      ∀ op ∈ after, ¬ Revokes code op := by
  have hnodup := run_codes_nodup now₁ now₂ config cvn before
  generalize run dtcStep (new now₁ now₂ config cvn) before = e at hconfirmed hnodup
  have hlasts := Throughout.lasts_iff (P := fun _ op => ¬ Revokes code op) (D := fun _ => True)
    (fun e op h _ => dtcStep_confirmed e op h) after ⟨hnodup, hconfirmed⟩ fun _ _ => trivial
  rw [throughout_inputs] at hlasts
  rw [← hlasts]
  constructor
  · intro hstays
    have hall := Throughout.invariant (D := fun _ => True)
      (fun e op h _ => dtcStep_nodup (e := e) h op) after hnodup fun _ _ => trivial
    exact (hall.and hstays).mono (fun e op h => ⟨h.1, h.2.1⟩) after
  · intro hkept
    exact hkept.mono (fun e op h => ⟨h.confirmed,
      (DTCList.confirmed_iff_reported ..).mp h.confirmed⟩) after

/-- Another code is set as pending, and another profile is selected. -/
theorem stays_confirmed_iff_bad_o2 :
    let e := run dtcStep (new 0 0 (ProtocolRouter.getConfigFor .bmw) 0)
      [.setProfile "bad_o2".toList]
    StaysConfirmed 0x0135 e [.setDTC 0x0171 [] true, .setProfile "normal".toList] ↔
      ∀ op ∈ [DtcOp.setDTC 0x0171 [] true, .setProfile "normal".toList], ¬ Revokes 0x0135 op :=
  stays_confirmed_iff 0 0 (ProtocolRouter.getConfigFor .bmw) 0 [.setProfile "bad_o2".toList]
    [.setDTC 0x0171 [] true, .setProfile "normal".toList] 0x0135
    ((DTCList.confirmed_iff_reported ..).mpr (by decide))

end BaseManufacturer

end EcuMult.Manufacturers
