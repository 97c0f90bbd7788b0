import EcuMult.Manufacturers.EcuRuns

/-!
# Frames for somebody else

All frames of the bus reach the selected ECU, as its callback is registered
with an empty mask. The dispatchers compare `can_id & 0x7FF`, which leaves out
the flags of extended, remote and error frames and the upper bits of a long
identifier. So which frames an ECU acts on is a matter of the low eleven bits
(`ActsOn`), and a frame that is no request to it is ignored exactly if these
say so: `strays_ignored_iff`.
-/

namespace EcuMult.Manufacturers

open EcuMult.Lib EcuMult.Core BaseManufacturer

/-- A standard data frame to the ECU, or to all: no flag is set, and the
identifier is one of the two. -/
def Addressed (e : BaseManufacturer) (cf : CANFrame) : Prop :=
  cf.canId = e.config.txId ∨ cf.canId = e.config.functionalId

namespace Branch

/-- The branch does nothing, for want of bytes. -/
def Lacking (data : Bytes) : Branch → Prop
  | .readGMDid | .readDid => data.length < 3
  | .routineControl => data.length < 4
  | _ => False

end Branch

/-- The low eleven bits lead to a branch that does something, or to the reply
to a broadcast. -/
def ManufacturerClass.ActsOn (m : ManufacturerClass) (cf : CANFrame) : Prop :=
  (m = .chevroletGM ∧ standardId cf = 0x7DF) ∨
    (standardId cf = 0x7E0 ∧ 2 ≤ cf.payload.length ∧
      ¬ (m.branch (cf.payload.getD 0 0)).Lacking cf.payload)

/-! ## Sending shows -/

theorem sendResponse_ne {e e' : BaseManufacturer} (h : e'.canManager = e.canManager) (id : UInt32)
    (data : Bytes) (isExtended : Bool) : e'.sendResponse id data isExtended ≠ e := by
  intro heq
  have hqueue : (e'.canManager.txQueue ++ [CANManager.toFrame id data isExtended]).length =
      e.canManager.txQueue.length :=
    congrArg (fun e : BaseManufacturer => e.canManager.txQueue.length) heq
  rw [h, List.length_append, List.length_singleton] at hqueue
  omega

namespace Branch

variable (inputs : Inputs) (e : BaseManufacturer) (data : Bytes) (service subFunc : UInt8)

theorem answered_ne (e e' : BaseManufacturer) (response : Bytes) :
    (Except.ok (e', some response) : Except OutOfRange Reply) ≠ .ok (e, none) := by
  intro h
  exact Option.some_ne_none _ (Prod.ext_iff.mp (Except.ok.inj h)).2

theorem readWord_bind_ne {data : Bytes} {i : Nat} {f : UInt16 → Bytes} :
    (readWord data i >>= fun w => reply e (f w)) ≠ .ok (e, none) := by
  rcases readWord_cases data i with ⟨err, hword⟩ | hword
  · rw [hword]
    exact fun h => nomatch h
  · rw [hword]
    exact answered_ne e e _

theorem readDid_none_iff (handler : UInt16 → Bytes → Bytes) :
    Manufacturers.readDid e handler data = .ok (e, none) ↔ data.length < 3 := by
  unfold Manufacturers.readDid
  by_cases hlen : data.length ≥ 3
  · rw [if_pos hlen]
    exact iff_of_false (readWord_bind_ne e) (by omega)
  · rw [if_neg hlen]
    exact iff_of_true rfl (by omega)

theorem run_none_iff (b : Branch) :
    b.run inputs e data service subFunc = .ok (e, none) ↔ b.Lacking data := by
  cases b with
  | readGMDid => exact readDid_none_iff e data (ChevroletGM.handleGMLANMode22 e)
  | readDid => exact readDid_none_iff e data e.handleReadDataByIdentifier
  | routineControl =>
    show Manufacturers.routineControl e (.ok subFunc) data = _ ↔ data.length < 4
    unfold Manufacturers.routineControl
    by_cases hlen : data.length ≥ 4
    · rw [if_pos hlen]
      exact iff_of_false (readWord_bind_ne e) (by omega)
    · rw [if_neg hlen]
      exact iff_of_true rfl (by omega)
  | readFordPid => exact iff_of_false (readWord_bind_ne e) id
  | writeDid => exact iff_of_false (readWord_bind_ne e) id
  | _ => exact iff_of_false (answered_ne e _ _) id

/-- What a branch leaves is the object as it was exactly if it did nothing. -/
theorem finished_run_iff (b : Branch) :
    finished (b.run inputs e data service subFunc) = .ok e ↔ b.Lacking data := by
  rw [← run_none_iff inputs e data service subFunc b]
  rcases b.run_cases inputs e data service subFunc with ⟨err, hrun⟩ | hrun | hrun
  · rw [hrun]
    exact iff_of_false (fun h => nomatch h) (fun h => nomatch h)
  · rw [hrun]
    exact iff_of_true rfl rfl
  · rw [hrun]
    refine iff_of_false (fun h => ?_) (answered_ne e _ _)
    exact sendResponse_ne (after_canManager inputs e data subFunc b) _ _ _ (Except.ok.inj h)

end Branch

/-! ## Which frames are ignored -/

theorem ManufacturerClass.handleCanFrame_ignored_iff {m : ManufacturerClass} {e : BaseManufacturer}
    (hconfig : e.config = ProtocolRouter.getConfigFor m.getManufacturerId) (inputs : Inputs)
    (cf : CANFrame) : m.handleCanFrame inputs e cf = .ok e ↔ ¬ m.ActsOn cf := by
  rw [m.handleCanFrame_eq, m.physicalRequest_eq, hconfig, ProtocolRouter.getConfigFor_rxId,
    ProtocolRouter.getConfigFor_functionalId, ProtocolRouter.getConfigFor_txId]
  unfold ManufacturerClass.ActsOn
  split
  next hown =>
    refine iff_of_true rfl ?_
    rw [hown]
    intro hacts
    rcases hacts with ⟨-, hid⟩ | ⟨hid, -⟩
    · exact absurd hid (by decide)
    · exact absurd hid (by decide)
  next =>
    split
    next hbroadcast =>
      refine iff_of_false (fun h => ?_) (not_not_intro (Or.inl hbroadcast))
      exact sendResponse_ne rfl _ _ _ (Except.ok.inj h)
    next hbroadcast =>
      split
      next hdropped =>
        refine iff_of_true rfl ?_
        intro hacts
        rcases hacts with h | ⟨hid, hlen, -⟩
        · exact hbroadcast h
        · rcases hdropped with hother | hshort
          · exact hother hid
          · omega
      next hrequest =>
        rw [not_or, not_not, Nat.not_lt] at hrequest
        rw [Branch.finished_run_iff, or_iff_right hbroadcast, and_iff_right hrequest.1,
          and_iff_right hrequest.2, not_not]

/-- **When strays are ignored.** Of the frames that are not addressed to it, an
ECU ignores those whose low eleven bits lead nowhere. -/
theorem strays_ignored_iff {m : ManufacturerClass} {e : BaseManufacturer} (h : Reachable m e)
    (inputs : Inputs) (cf : CANFrame) :
    (¬ Addressed e cf → m.handleCanFrame inputs e cf = .ok e) ↔ Addressed e cf ∨ ¬ m.ActsOn cf := by
  rw [← or_iff_not_imp_left, ManufacturerClass.handleCanFrame_ignored_iff h.constant.config]

theorem strays_ignored_iff_fresh :
    (¬ Addressed ManufacturerClass.bmw.fresh (CANManager.toFrame 0x7E0 [0x22, 0xF1] true) →
      ManufacturerClass.bmw.handleCanFrame ⟨0, 0, 0, 0⟩ ManufacturerClass.bmw.fresh
        (CANManager.toFrame 0x7E0 [0x22, 0xF1] true) = .ok ManufacturerClass.bmw.fresh) ↔
      Addressed ManufacturerClass.bmw.fresh (CANManager.toFrame 0x7E0 [0x22, 0xF1] true) ∨
        ¬ ManufacturerClass.bmw.ActsOn (CANManager.toFrame 0x7E0 [0x22, 0xF1] true) :=
  strays_ignored_iff (Reachable.fresh .bmw) ⟨0, 0, 0, 0⟩
    (CANManager.toFrame 0x7E0 [0x22, 0xF1] true)

/-- A request to clear the trouble codes, to the long identifier `000007E0`. -/
def extendedClear : CANFrame := CANManager.toFrame 0x7E0 [0x04, 0x00] true

example : extendedClear.canId = 0x800007E0 := by decide

theorem extendedClear_clears :
    let e := ManufacturerClass.honda.fresh.setDTC 0x0301 "Misfire".toList true
    let after := ManufacturerClass.honda.handleCanFrame ⟨0, 0, 0, 0⟩ e extendedClear
    Reachable .honda e ∧ ¬ Addressed e extendedClear ∧ e.dtcs ≠ [] ∧
      after.map (fun e => e.dtcs) = .ok [] ∧
      after.map (fun e => e.canManager.txQueue.length) = .ok 1 := by
  refine ⟨Reachable.call (.dtc (.setDTC 0x0301 "Misfire".toList true)) (Reachable.fresh .honda) rfl,
    ?_, ?_, rfl, rfl⟩
  · show ¬ (_ = _ ∨ _ = _)
    decide +kernel
  · decide +kernel

end EcuMult.Manufacturers
