import EcuMult.Core.Implementations
import EcuMult.Lib.Attempts
import EcuMult.Manufacturers.Addressing

/-!
# `routeCANFrame`

`src/core/protocol_router.cpp`: a received frame goes to the selected ECU, which
answers through the one `CANManager` that all ECUs share. `routeCANFrame_eq` takes
the sharing out: what an ECU makes of a frame, and what it answers, does not depend
on what is in the queue already, and the answer goes behind it. So a frame can be
looked at with the queue left out (`answer`).

Mirroring notes:
- An ECU holds a pointer to the manager. Here it is lent the manager for the call,
  and keeps what it had.
- The class of an object is that of the id it is registered under.
-/

namespace EcuMult.Manufacturers

open EcuMult.Lib EcuMult.Core BaseManufacturer

/-- The class that is registered under an id, if there is one. -/
def ManufacturerClass.ofManufacturer : Manufacturer → Option ManufacturerClass
  | .chevrolet => some .chevroletGM
  | .ford => some .ford
  | .toyota => some .toyota
  | .bmw => some .bmw
  | .volkswagen => some .volkswagen
  | .mercedes => some .mercedes
  | .honda => some .honda
  | .nissan => some .nissan
  | .hyundai | .unknown => none

theorem ManufacturerClass.ofManufacturer_iff {mfr : Manufacturer} {m : ManufacturerClass} :
    ManufacturerClass.ofManufacturer mfr = some m ↔ m.getManufacturerId = mfr := by
  cases mfr <;> cases m <;> decide

/-- An object with another manager in its hands. -/
def lend (e : BaseManufacturer) (cm : CANManager) : BaseManufacturer := { e with canManager := cm }

namespace Branch

/-- How many bytes a branch must have before it does anything. -/
def needs : Branch → Nat
  | .readGMDid | .readDid => 3
  | .routineControl => 4
  | _ => 0

theorem lacking_iff (data : Bytes) (b : Branch) : b.Lacking data ↔ data.length < b.needs := by
  cases b <;> first | exact Iff.rfl | exact iff_of_false id (Nat.not_lt_zero _)

instance (data : Bytes) (b : Branch) : Decidable (b.Lacking data) :=
  decidable_of_iff _ (lacking_iff data b).symm

end Branch

instance (m : ManufacturerClass) (cf : CANFrame) : Decidable (m.ActsOn cf) :=
  inferInstanceAs (Decidable (_ ∨ _))

/-! ## Handling a frame with another queue -/

section

variable (inputs : Inputs) (e : BaseManufacturer) (cm : CANManager) (data : Bytes)
  (service subFunc : UInt8)

theorem readDid_lend (handler : UInt16 → Bytes → Bytes) :
    readDid (lend e cm) handler data =
      (readDid e handler data).map fun r => (lend r.1 cm, r.2) := by
  unfold readDid
  split
  · cases readWord data 1 <;> rfl
  · rfl

theorem routineControl_lend (routineType : UInt8) :
    routineControl (lend e cm) (.ok routineType) data =
      (routineControl e (.ok routineType) data).map fun r => (lend r.1 cm, r.2) := by
  unfold routineControl
  split
  · show (readWord data 2 >>= _) = Except.map _ (readWord data 2 >>= _)
    cases readWord data 2 <;> rfl
  · rfl

theorem handleSecurityAccess_lend (level : UInt8) (key : Bytes) :
    (lend e cm).handleSecurityAccess inputs level key =
      (lend (e.handleSecurityAccess inputs level key).1 cm,
        (e.handleSecurityAccess inputs level key).2) := by
  unfold handleSecurityAccess
  split <;> rfl

/-- No branch looks at the queue. -/
theorem Branch.run_lend (b : Branch) :
    b.run inputs (lend e cm) data service subFunc =
      (b.run inputs e data service subFunc).map fun r => (lend r.1 cm, r.2) := by
  cases b with
  | readGMDid => exact readDid_lend e cm data (ChevroletGM.handleGMLANMode22 e)
  | readDid => exact readDid_lend e cm data e.handleReadDataByIdentifier
  | readFordPid =>
    show (readWord data 1 >>= _) = Except.map _ (readWord data 1 >>= _)
    cases readWord data 1 <;> rfl
  | writeDid =>
    show (readWord data 1 >>= _) = Except.map _ (readWord data 1 >>= _)
    cases readWord data 1 <;> rfl
  | routineControl => exact routineControl_lend e cm data subFunc
  | securityAccess =>
    show replyWith ((lend e cm).handleSecurityAccess inputs subFunc (extraFrom 2 data)) = _
    rw [handleSecurityAccess_lend]
    rfl
  | _ => rfl

/-- What the queue holds after a frame, behind what it held. -/
def queued (cm : CANManager) (e : BaseManufacturer) : BaseManufacturer :=
  lend e ⟨cm.txQueue ++ e.canManager.txQueue⟩

theorem finish_lend (r : Reply) (h : r.1.canManager = ⟨[]⟩) :
    finish (lend r.1 cm, r.2) = queued cm (finish r) := by
  obtain ⟨e, response⟩ := r
  have hempty : e.canManager = ⟨[]⟩ := h
  -- a reply without a response sends nothing
  cases response with
  | none =>
    show lend e cm = queued cm e
    unfold queued
    rw [hempty, List.append_nil]
  | some response =>
    show (lend e cm).sendResponse e.config.rxId response false =
      queued cm (e.sendResponse e.config.rxId response false)
    unfold queued sendResponse CANManager.sendFrame
    rw [hempty]
    rfl

end

/-- A frame that is handled with a queue full is handled as with an empty one, and
the answer goes behind the queue. -/
theorem ManufacturerClass.handleCanFrame_lend (m : ManufacturerClass) (inputs : Inputs)
    (e : BaseManufacturer) (cm : CANManager) (cf : CANFrame) :
    m.handleCanFrame inputs (lend e cm) cf =
      (m.handleCanFrame inputs (lend e ⟨[]⟩) cf).map (queued cm) := by
  have hsame : lend e cm = queued cm (lend e ⟨[]⟩) := by
    unfold queued lend
    rw [List.append_nil]
  rw [m.handleCanFrame_eq, m.handleCanFrame_eq, m.physicalRequest_eq, m.physicalRequest_eq]
  -- the three tests read the configuration and the frame, which lending does not touch
  show (if standardId cf = e.config.rxId then _ else _) =
    Except.map _ (if standardId cf = e.config.rxId then _ else _)
  split
  · exact congrArg Except.ok hsame
  show (if m = .chevroletGM ∧ standardId cf = e.config.functionalId then _ else _) =
    Except.map _ (if m = .chevroletGM ∧ standardId cf = e.config.functionalId then _ else _)
  split
  · rfl
  show (if standardId cf ≠ e.config.txId ∨ cf.payload.length < 2 then _ else _) =
    Except.map _ (if standardId cf ≠ e.config.txId ∨ cf.payload.length < 2 then _ else _)
  split
  · exact congrArg Except.ok hsame
  · rw [Branch.run_lend, Branch.run_lend]
    show finished (Except.map _ (Branch.run inputs e cf.payload _ _ _)) =
      Except.map _ (finished (Except.map _ (Branch.run inputs e cf.payload _ _ _)))
    cases Branch.run inputs e cf.payload (cf.payload.getD 0 0) (cf.payload.getD 1 0)
        (m.branch (cf.payload.getD 0 0)) with
    | error err => rfl
    | ok r => exact congrArg Except.ok (finish_lend cm (lend r.1 ⟨[]⟩, r.2) rfl)

/-! ## The route -/

/-- The selected object, as a call on it leaves it. -/
def leave (r : ProtocolRouter) (impl : BaseManufacturer) : ProtocolRouter :=
  { r with implementations := r.implementations.replace r.currentManufacturer impl }

/-- The router and the shared manager afterwards. -/
def routeCANFrame (r : ProtocolRouter) (cm : CANManager) (inputs : Inputs) (cf : CANFrame) :
    Except OutOfRange (ProtocolRouter × CANManager) :=
  match r.getCurrentImplementation, ManufacturerClass.ofManufacturer r.currentManufacturer with
  | some impl, some m =>
    (m.handleCanFrame inputs (lend impl cm) cf).map fun impl' =>
      (leave r (lend impl' impl.canManager), impl'.canManager)
  | _, _ => .ok (r, cm)

/-- **Sharing the queue.** A frame is routed as if the queue were empty, and what is
answered goes to its end. -/
theorem routeCANFrame_eq (r : ProtocolRouter) (cm : CANManager) (inputs : Inputs) (cf : CANFrame) :
    routeCANFrame r cm inputs cf =
      (routeCANFrame r ⟨[]⟩ inputs cf).map fun x => (x.1, ⟨cm.txQueue ++ x.2.txQueue⟩) := by
  unfold routeCANFrame
  split
  next m _ _ =>
    rw [m.handleCanFrame_lend inputs _ cm]
    cases m.handleCanFrame inputs _ cf <;> rfl
  next =>
    rw [Except.map, List.append_nil]

/-! ## What is answered -/

/-- The selected ECU is of a class, and has the configuration of its class. -/
structure Selected (m : ManufacturerClass) (r : ProtocolRouter) : Prop where
  manufacturer : r.currentManufacturer = m.getManufacturerId
  configured : ∃ impl, r.getCurrentImplementation = some impl ∧
    impl.config = ProtocolRouter.getConfigFor m.getManufacturerId

theorem leave_getCurrent {r : ProtocolRouter} {impl : BaseManufacturer}
    (h : r.getCurrentImplementation = some impl) (impl' : BaseManufacturer) :
    (leave r impl').getCurrentImplementation = some impl' :=
  lookup_replace h impl'

theorem leave_self {r : ProtocolRouter} {impl : BaseManufacturer}
    (h : r.getCurrentImplementation = some impl) : leave r impl = r := by
  unfold leave
  rw [replace_self h]

variable {m : ManufacturerClass} {r : ProtocolRouter}

theorem routeCANFrame_selected (hclass : r.currentManufacturer = m.getManufacturerId)
    {impl : BaseManufacturer} (h : r.getCurrentImplementation = some impl) (cm : CANManager)
    (inputs : Inputs) (cf : CANFrame) :
    routeCANFrame r cm inputs cf =
      (m.handleCanFrame inputs (lend impl cm) cf).map fun impl' =>
        (leave r (lend impl' impl.canManager), impl'.canManager) := by
  unfold routeCANFrame
  rw [h, ManufacturerClass.ofManufacturer_iff.mpr hclass.symm]

/-- What a frame leaves: nothing is queued, or one frame under `rx_id`. -/
theorem handleCanFrame_queue {e e' : BaseManufacturer} {inputs : Inputs} {cf : CANFrame}
    (hempty : e.canManager = ⟨[]⟩) (h : m.handleCanFrame inputs e cf = .ok e') :
    e' = e ∨ ∃ data, e'.canManager = ⟨[CANManager.toFrame e.config.rxId data false]⟩ := by
  rcases ManufacturerClass.handleCanFrame_cases h with heq | heq | ⟨b, service, subFunc, heq⟩
  · exact Or.inl heq
  · refine Or.inr ⟨[0x41, 0x01, 0x00, 0x07, 0xFF, 0x00, 0x00], ?_⟩
    rw [heq]
    show e.canManager.sendFrame e.config.rxId _ false = _
    rw [hempty]
    rfl
  · refine Or.inr ⟨b.answer inputs e cf.payload service subFunc, ?_⟩
    rw [heq]
    show (b.after inputs e cf.payload subFunc).canManager.sendFrame
      (b.after inputs e cf.payload subFunc).config.rxId _ false = _
    rw [Branch.after_canManager, Branch.after_config, hempty]
    rfl

/-- What is kept by all that a frame can do to an ECU. -/
theorem handleCanFrame_inv {P : BaseManufacturer → Prop}
    (hsession : ∀ e sm, P e → P { e with sessionManager := sm })
    (hclear : ∀ e : BaseManufacturer, P e → P e.clearDTCs) (hlend : ∀ e cm, P e → P (lend e cm))
    {e e' : BaseManufacturer} {inputs : Inputs} {cf : CANFrame} (h : P e)
    (hframe : m.handleCanFrame inputs e cf = .ok e') : P e' := by
  rcases ManufacturerClass.handleCanFrame_cases hframe with heq | heq | ⟨b, service, subFunc, heq⟩
  · rw [heq]
    exact h
  · rw [heq]
    exact hlend e _ h
  · rw [heq]
    refine hlend (b.after inputs e cf.payload subFunc) _ ?_
    rcases b.after_changes inputs e cf.payload subFunc with hafter | hafter
    · rw [hafter]
      exact hsession e _ h
    · rw [hafter]
      exact hclear e h

/-- A reading that is not of the session manager or the queue, and that clearing the
trouble codes does not change. -/
theorem handleCanFrame_reading {α : Type} (f : BaseManufacturer → α)
    (hsession : ∀ e sm, f { e with sessionManager := sm } = f e)
    (hclear : ∀ e, f e.clearDTCs = f e) (hlend : ∀ e cm, f (lend e cm) = f e)
    {e e' : BaseManufacturer} {inputs : Inputs} {cf : CANFrame}
    (h : m.handleCanFrame inputs e cf = .ok e') : f e' = f e := by
  have hkept : ∀ x x' : BaseManufacturer, f x' = f x → f x = f e → f x' = f e :=
    fun _ _ hx h => hx.trans h
  exact handleCanFrame_inv (P := fun x => f x = f e) (fun x sm => hkept x _ (hsession x sm))
    (fun x => hkept x _ (hclear x)) (fun x cm => hkept x _ (hlend x cm)) rfl h

/-- **A frame is answered once**, under `rx_id`, if the ECU acts on it. Otherwise it
changes nothing. -/
theorem routeCANFrame_answers (h : Selected m r) {inputs : Inputs} {cf : CANFrame}
    {r' : ProtocolRouter} {sent : List CANFrame}
    (hroute : routeCANFrame r ⟨[]⟩ inputs cf = .ok (r', ⟨sent⟩)) :
    (¬ m.ActsOn cf ∧ r' = r ∧ sent = []) ∨
      (m.ActsOn cf ∧ ∃ data, sent = [CANManager.toFrame 0x7E8 data false]) := by
  obtain ⟨impl, hcurrent, hconfig⟩ := h.configured
  rw [routeCANFrame_selected h.manufacturer hcurrent] at hroute
  obtain ⟨impl', hframe, hleft⟩ := ok_of_map hroute
  have hrouter : leave r (lend impl' impl.canManager) = r' := congrArg Prod.fst hleft
  have hsent : impl'.canManager = ⟨sent⟩ := congrArg Prod.snd hleft
  have hignored := ManufacturerClass.handleCanFrame_ignored_iff (m := m) (e := lend impl ⟨[]⟩)
    hconfig inputs cf
  rw [hframe] at hignored
  rcases handleCanFrame_queue rfl hframe with heq | ⟨data, hqueue⟩
  · refine Or.inl ⟨hignored.mp (congrArg Except.ok heq), ?_, ?_⟩
    · rw [← hrouter, heq]
      exact leave_self hcurrent
    · rw [heq] at hsent
      exact (congrArg CANManager.txQueue hsent).symm
  · refine Or.inr ⟨?_, data, ?_⟩
    · -- a frame that is ignored would have left the queue empty
      by_contra hacts
      have heq := Except.ok.inj (hignored.mpr hacts)
      rw [heq] at hqueue
      exact nomatch hqueue
    · have hframe : [CANManager.toFrame impl.config.rxId data false] = sent :=
        congrArg CANManager.txQueue (hqueue.symm.trans hsent)
      rw [← hframe, hconfig, ProtocolRouter.getConfigFor_rxId]

/-- An ECU ignores what it sends itself: the frames under `rx_id`. -/
theorem routeCANFrame_own (h : Selected m r) (cm : CANManager) (inputs : Inputs) {cf : CANFrame}
    (hid : standardId cf = 0x7E8) : routeCANFrame r cm inputs cf = .ok (r, cm) := by
  obtain ⟨impl, hcurrent, hconfig⟩ := h.configured
  have hown : standardId cf = (lend impl cm).config.rxId := by
    show standardId cf = impl.config.rxId
    rw [hconfig, ProtocolRouter.getConfigFor_rxId, hid]
  rw [routeCANFrame_selected h.manufacturer hcurrent, m.handleCanFrame_eq, if_pos hown]
  show Except.ok (leave r impl, cm) = _
  rw [leave_self hcurrent]

/-- A frame selects nothing and configures nothing. -/
theorem Selected.routeCANFrame (h : Selected m r) {cm cm' : CANManager} {inputs : Inputs}
    {cf : CANFrame} {r' : ProtocolRouter}
    (hroute : routeCANFrame r cm inputs cf = .ok (r', cm')) : Selected m r' := by
  obtain ⟨impl, hcurrent, hconfig⟩ := h.configured
  rw [routeCANFrame_selected h.manufacturer hcurrent] at hroute
  obtain ⟨impl', hframe, hleft⟩ := ok_of_map hroute
  obtain rfl : leave r (lend impl' impl.canManager) = r' := congrArg Prod.fst hleft
  refine ⟨h.manufacturer, lend impl' impl.canManager, leave_getCurrent hcurrent _, ?_⟩
  exact (handleCanFrame_reading BaseManufacturer.config (fun _ _ => rfl) (fun _ => rfl)
    (fun _ _ => rfl) hframe).trans hconfig

end EcuMult.Manufacturers
