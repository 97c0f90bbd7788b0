import EcuMult.Manufacturers.DtcStore

/-!
# The three readers of the fault memory

Modes 03, 07 and 0A are for the confirmed, the pending and the permanent codes.
In the code, `handleMode07` ("pending DTCs") and `handleMode0A` ("permanent
DTCs") both return `handleMode03()`, so all three report the codes that are not
pending.

`partition_iff` says when the three nevertheless answer as they should: only
while nothing is stored. No call ever sets `is_permanent`, so Mode 0A may
report nothing, and what it does report is what Mode 03 does.
-/

namespace EcuMult.Manufacturers

open EcuMult.Lib EcuMult.Core EcuMult.Simulation

/-- The answer is the number of codes and the codes themselves: each of those in
`wanted` once, and no other. -/
def Reports (response : Bytes) (wanted : UInt16 → Prop) : Prop :=
  ∃ cs : List UInt16, cs.length ≤ 255 ∧ cs.Nodup ∧
    response = UInt8.ofNat cs.length :: bigEndian cs ∧ ∀ c, c ∈ cs ↔ wanted c

/-- The codes of the stored entries that satisfy `p`. -/
def DTCList.Stored (dtcs : DTCList) (p : DTCInfo → Prop) (c : UInt16) : Prop :=
  ∃ dtc ∈ dtcs, p dtc ∧ dtc.code = c

namespace DTCList

def NoPermanent (dtcs : DTCList) : Prop := ∀ dtc ∈ dtcs, dtc.isPermanent = false

theorem setDTC_noPermanent {dtcs : DTCList} (h : dtcs.NoPermanent) (code : UInt16)
    (description : Text) (pending : Bool) : (dtcs.setDTC code description pending).NoPermanent := by
  induction dtcs with
  | nil =>
    intro dtc hmem
    rw [List.mem_singleton.mp hmem]
  | cons first rest ih =>
    have hrest : NoPermanent rest := fun dtc hmem => h dtc (List.mem_cons_of_mem _ hmem)
    intro dtc hmem
    unfold setDTC at hmem
    split at hmem
    next =>
      rcases List.mem_cons.mp hmem with rfl | hmem
      · exact h first (List.mem_cons_self ..)
      · exact hrest dtc hmem
    next =>
      rcases List.mem_cons.mp hmem with rfl | hmem
      · exact h dtc (List.mem_cons_self ..)
      · exact ih hrest dtc hmem

theorem eraseProfile_noPermanent {dtcs : DTCList} (h : dtcs.NoPermanent)
    (profile : VehicleProfile) : (dtcs.eraseProfile profile).NoPermanent :=
  fun dtc hmem => h dtc (List.mem_filter.mp hmem).1

/-- Mode 03 reports the non-pending codes, if there are not too many. -/
theorem handleMode03_reports {dtcs : DTCList} (hnodup : dtcs.codes.Nodup)
    (hfits : (dtcs.getDTCs true).length ≤ 255) :
    Reports dtcs.handleMode03 (dtcs.Stored fun dtc => dtc.isPending = false) := by
  have hall : dtcs.reported = (dtcs.getDTCs true).codes.length := by
    unfold reported codes
    rw [List.length_map]
    exact Nat.min_eq_right hfits
  refine ⟨(dtcs.getDTCs true).codes, ?_, ?_, ?_, ?_⟩
  · unfold codes
    rw [List.length_map]
    exact hfits
  · have hsub : List.Sublist (dtcs.getDTCs true).codes dtcs.codes :=
      List.Sublist.map DTCInfo.code List.filter_sublist
    exact hsub.nodup hnodup
  · rw [handleMode03_eq, hall, List.take_length]
  · intro c
    unfold codes getDTCs Stored
    rw [if_pos rfl, List.mem_map]
    simp only [List.mem_filter, Bool.not_eq_eq_eq_not, Bool.not_true, and_assoc]

/-- An answer reports one set of codes. -/
theorem reports_unique {response : Bytes} {p q : UInt16 → Prop} (hp : Reports response p)
    (hq : Reports response q) (c : UInt16) : p c ↔ q c := by
  obtain ⟨cs, -, -, hcs, hmem⟩ := hp
  obtain ⟨ds, -, -, hds, hmem'⟩ := hq
  have hwords : bigEndian cs = bigEndian ds := (List.cons.inj (hcs.symm.trans hds)).2
  have hlen : cs.length = ds.length := by
    have := congrArg List.length hwords
    rw [bigEndian_length, bigEndian_length] at this
    omega
  have heq : cs = ds := by
    refine List.ext_getElem? fun i => ?_
    by_cases hi : i < cs.length
    · rw [← be16_bigEndian cs i hi, ← be16_bigEndian ds i (hlen ▸ hi), hwords]
    · rw [List.getElem?_eq_none (by omega), List.getElem?_eq_none (by omega)]
  rw [← hmem, ← hmem', heq]

end DTCList

namespace BaseManufacturer

/-- The three modes report the non-pending, the pending and the permanent codes. -/
def Partitioned (e : BaseManufacturer) : Prop :=
  Reports e.handleMode03 (e.dtcs.Stored fun dtc => dtc.isPending = false) ∧
  Reports e.handleMode07 (e.dtcs.Stored fun dtc => dtc.isPending = true) ∧
  Reports e.handleMode0A (e.dtcs.Stored fun dtc => dtc.isPermanent = true)

/-- With an entry stored and none permanent, one of Modes 07 and 0A is wrong. -/
theorem not_partitioned {e : BaseManufacturer} (hpermanent : e.dtcs.NoPermanent)
    (hstored : e.dtcs ≠ []) : ¬ e.Partitioned := by
  intro h
  obtain ⟨h03, h07, h0A⟩ := h
  obtain ⟨dtc, rest, hdtcs⟩ := List.exists_cons_of_ne_nil hstored
  have hmem : dtc ∈ e.dtcs := by
    rw [hdtcs]
    exact List.mem_cons_self ..
  have hnone : ¬ e.dtcs.Stored (fun dtc => dtc.isPermanent = true) dtc.code := by
    intro hcode
    obtain ⟨other, hother, hflag, -⟩ := hcode
    rw [hpermanent other hother] at hflag
    cases hflag
  cases hpending : dtc.isPending with
  | false =>
    -- Mode 0A reports this code as it reports all that Mode 03 does
    exact hnone ((DTCList.reports_unique h03 h0A dtc.code).mp ⟨dtc, hmem, hpending, rfl⟩)
  | true =>
    -- Mode 07 has to report it, and then Mode 03 and Mode 0A do as well
    have h07A : Reports e.handleMode07 _ := h0A
    exact hnone ((DTCList.reports_unique h07 h07A dtc.code).mp ⟨dtc, hmem, hpending, rfl⟩)

theorem partitioned_nil {e : BaseManufacturer} (hnil : e.dtcs = []) : e.Partitioned := by
  have hnone : ∀ p : DTCInfo → Prop, Reports e.handleMode03 (e.dtcs.Stored p) := by
    intro p
    refine ⟨[], by decide, List.nodup_nil, ?_, ?_⟩
    · unfold handleMode03
      rw [hnil]
      rfl
    · intro c
      rw [hnil]
      exact ⟨fun h => absurd h List.not_mem_nil, fun ⟨dtc, hmem, _⟩ => absurd hmem List.not_mem_nil⟩
  exact ⟨hnone _, hnone _, hnone _⟩

theorem run_noPermanent (now₁ now₂ : Int) (config : ManufacturerConfig) (cvn : UInt32)
    (ops : List DtcOp) : (run dtcStep (new now₁ now₂ config cvn) ops).dtcs.NoPermanent :=
  dtcs_inv (I := DTCList.NoPermanent) (fun _ hmem => absurd hmem List.not_mem_nil)
    (fun _ code description pending h => DTCList.setDTC_noPermanent h code description pending)
    (fun _ profile h => DTCList.eraseProfile_noPermanent h profile) now₁ now₂ config cvn ops

/-- One pending code, in a store that was cleared before: Mode 07 does not report
it. -/
theorem pending_not_reported :
    ¬ (run dtcStep (new 0 0 (ProtocolRouter.getConfigFor .bmw) 0)
      [.clearDTCs, .setDTC 0x0171 [] true]).Partitioned := by
  refine not_partitioned (run_noPermanent _ _ _ _ _) ?_
  show DTCList.setDTC [] 0x0171 [] true ≠ []
  exact List.cons_ne_nil _ _

/-- **When the modes partition the fault memory.** After any run of calls, as long
as its answer can count them, Mode 03 reports the non-pending codes. The three
modes together report what they are for exactly while no code is stored. -/
theorem partition_iff (now₁ now₂ : Int) (config : ManufacturerConfig) (cvn : UInt32)
    (ops : List DtcOp)
    (hfits : ((run dtcStep (new now₁ now₂ config cvn) ops).getDTCs true).length ≤ 255) :
    let e := run dtcStep (new now₁ now₂ config cvn) ops
    Reports e.handleMode03 (e.dtcs.Stored fun dtc => dtc.isPending = false) ∧
      (e.Partitioned ↔ e.dtcs = []) := by
  intro e
  have hnodup : e.dtcs.codes.Nodup := run_codes_nodup now₁ now₂ config cvn ops
  refine ⟨DTCList.handleMode03_reports hnodup hfits, fun h => ?_, partitioned_nil⟩
  by_contra hstored
  exact not_partitioned (run_noPermanent now₁ now₂ config cvn ops) hstored h

/-- With one confirmed code. -/
theorem partition_one :
    let e := run dtcStep (new 0 0 (ProtocolRouter.getConfigFor .bmw) 0)
      [.clearDTCs, .setDTC 0x0171 [] false]
    Reports e.handleMode03 (e.dtcs.Stored fun dtc => dtc.isPending = false) ∧
      (e.Partitioned ↔ e.dtcs = []) :=
  partition_iff 0 0 (ProtocolRouter.getConfigFor .bmw) 0 [.clearDTCs, .setDTC 0x0171 [] false]
    (show (DTCList.getDTCs (DTCList.setDTC [] 0x0171 [] false) true).length ≤ 255 by decide)

end BaseManufacturer

end EcuMult.Manufacturers
