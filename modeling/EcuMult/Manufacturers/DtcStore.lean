import EcuMult.Lib.Runs
import EcuMult.Manufacturers.Base
import EcuMult.Protocols.Obd2Standard

/-!
# The DTC store and Mode 03 agree

Over any run of the calls that change an ECU's trouble codes, with any
profiles: no code is stored twice, and the answer to Mode 03 is the list of the
non-pending codes, in store order and up to the 255 that its first byte can
count, in a form that the standard's decoder reads back.

The invariant is one line, `codes.Nodup`; `DtcList` has what each call does to
the codes, `dtcs_inv` puts it together for any such invariant, and the shape of
the answer holds of every list of entries.
-/

namespace EcuMult.Manufacturers.BaseManufacturer

open EcuMult.Lib EcuMult.Core EcuMult.Simulation EcuMult.Protocols

/-- The calls that change the trouble codes, or the profiles they come from. -/
inductive DtcOp
  | setDTC (code : UInt16) (description : Text) (pending : Bool)
  | clearDTCs
  | reset (now : Int)
  | setProfile (name : Text)
  | applyProfileDTCs
  | applyCustomProfile (profile : VehicleProfile)

def dtcStep (e : BaseManufacturer) : DtcOp → BaseManufacturer
  | .setDTC code description pending => e.setDTC code description pending
  | .clearDTCs => e.clearDTCs
  | .reset now => e.reset now
  | .setProfile name => (e.setProfile name).1
  | .applyProfileDTCs => e.applyProfileDTCs.1
  | .applyCustomProfile profile => e.applyCustomProfile profile

section

variable {I : DTCList → Prop} (hnil : I [])
  (hset : ∀ dtcs code description pending, I dtcs →
    I (DTCList.setDTC dtcs code description pending))
  (herase : ∀ dtcs profile, I dtcs → I (DTCList.eraseProfile dtcs profile))

include hset herase

theorem applyProfileDTCs_inv (e : BaseManufacturer) (h : I e.dtcs) :
    I e.applyProfileDTCs.1.dtcs := by
  unfold applyProfileDTCs
  cases e.profileManager.getCurrentProfile with
  | none => exact h
  | some profile => exact DTCList.applyProfile_inv hset herase h profile

include hnil

/-- **Invariants of the store.** A property of the stored entries that holds of an
empty store, and that `setDTC` and the erasing of a profile's codes keep, is kept
by every call. -/
theorem dtcStep_inv (e : BaseManufacturer) (op : DtcOp) (h : I e.dtcs) : I (e.dtcStep op).dtcs := by
  cases op with
  | setDTC code description pending => exact hset _ code description pending h
  | clearDTCs => exact hnil
  | reset now => exact hnil
  | setProfile name =>
    show I (e.setProfile name).1.dtcs
    unfold setProfile
    cases e.profileManager.selectProfile name with
    | mk pm found =>
      cases found with
      | false => exact h
      | true => exact applyProfileDTCs_inv hset herase { e with profileManager := pm } h
  | applyProfileDTCs => exact applyProfileDTCs_inv hset herase e h
  | applyCustomProfile profile => exact h

/-- And holds after every run of calls. -/
theorem dtcs_inv (now₁ now₂ : Int) (config : ManufacturerConfig) (cvn : UInt32)
    (ops : List DtcOp) : I (run dtcStep (new now₁ now₂ config cvn) ops).dtcs :=
  run_inv (I := fun e : BaseManufacturer => I e.dtcs) (dtcStep_inv hnil hset herase) ops
    (applyProfileDTCs_inv hset herase _ hnil)

end

/-- No code is ever stored twice. -/
theorem run_codes_nodup (now₁ now₂ : Int) (config : ManufacturerConfig) (cvn : UInt32)
    (ops : List DtcOp) : (run dtcStep (new now₁ now₂ config cvn) ops).dtcs.codes.Nodup :=
  dtcs_inv (I := fun dtcs => dtcs.codes.Nodup) List.nodup_nil
    (fun _ code description pending h => DTCList.setDTC_nodup h code description pending)
    (fun _ profile h => DTCList.eraseProfile_nodup h profile) now₁ now₂ config cvn ops

/-- The decoder finds the reported codes behind the count. -/
theorem decodeDTC_handleMode03 (dtcs : DTCList) {i : Nat} (h : i < dtcs.reported) :
    some (OBD2Standard.decodeDTC dtcs.handleMode03 (1 + 2 * i)) =
      (dtcs.getDTCs true).codes[i]? := by
  have hinside : ¬ 1 + 2 * i + 1 ≥ dtcs.handleMode03.length := by
    rw [DTCList.handleMode03_length]
    omega
  -- the count takes the first byte, so pair `i` starts at `1 + 2 * i`
  have hreported : i < ((dtcs.getDTCs true).codes.take dtcs.reported).length := by
    rw [DTCList.reported_length]
    exact h
  have hword := be16_bigEndian _ i hreported
  rw [List.getElem?_take_of_lt h] at hword
  unfold OBD2Standard.decodeDTC
  rw [if_neg hinside, DTCList.handleMode03_eq, Nat.add_comm 1 (2 * i), List.getD_cons_succ,
    List.getD_cons_succ]
  exact hword

/-- **No loss and no duplication.** After any run of calls, the stored codes are
pairwise distinct, and the answer to Mode 03 is the number `k` of non-pending
entries, at most 255, and the first `k` of their codes. -/
theorem dtcs_reported (now₁ now₂ : Int) (config : ManufacturerConfig) (cvn : UInt32)
    (ops : List DtcOp) :
    let e := run dtcStep (new now₁ now₂ config cvn) ops
    let k := min 255 (e.getDTCs true).length
    e.dtcs.codes.Nodup ∧
      (e.handleMode03.headD 0).toNat = k ∧
      e.handleMode03.length = 1 + 2 * k ∧
      ∀ i, i < k →
        some (OBD2Standard.decodeDTC e.handleMode03 (1 + 2 * i)) = (e.getDTCs true).codes[i]? := by
  intro e k
  have hnodup : e.dtcs.codes.Nodup := run_codes_nodup now₁ now₂ config cvn ops
  refine ⟨hnodup, e.dtcs.handleMode03_head, e.dtcs.handleMode03_length, ?_⟩
  intro i hi
  exact decodeDTC_handleMode03 e.dtcs hi

end EcuMult.Manufacturers.BaseManufacturer
