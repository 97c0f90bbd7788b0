import EcuMult.Main.Readings
import EcuMult.Manufacturers.Routing

/-!
# The emulator as a tester sees it

What happens to the emulator from outside, one thing at a time: a frame on the bus,
an API request, or a round of the main loop. `respond` is one such thing, with the
frames that are sent on account of it, and `converse` a list of them. There are no
threads and no queue here; that the program with its threads does nothing else is
shown with the program.

Mirroring notes:
- A frame that makes an ECU read past its data ends the conversation.
-/

namespace EcuMult.Main

open EcuMult.Lib EcuMult.Core EcuMult.Manufacturers EcuMult.Simulation

inductive Stimulus
  | frame (inputs : Inputs) (cf : CANFrame)
  | request (call : Api.Call)
  | round (i : RoundInputs)

namespace Emulator

variable {Doc : Type} (json : JsonLibrary Doc)

/-- The emulator afterwards, and what is sent. -/
def respond (s : Emulator) : Stimulus → Except OutOfRange (Emulator × List CANFrame)
  | .frame inputs cf =>
    (routeCANFrame s.router ⟨[]⟩ inputs cf).map fun x => ({ s with router := x.1 }, x.2.txQueue)
  | .request call => .ok (s.step json (.request call), [])
  | .round i => .ok (s.step json (.round i), [])

def converse (s : Emulator) (xs : List Stimulus) : Except OutOfRange (Emulator × List CANFrame) :=
  attempt (respond json) s xs

variable {json} in
/-- One thing more. -/
theorem converse_concat (x : Stimulus) {xs : List Stimulus} {s s₁ : Emulator}
    {sent : List CANFrame} (h : s.converse json xs = .ok (s₁, sent)) :
    s.converse json (xs ++ [x]) = (s₁.respond json x).map fun r => (r.1, sent ++ r.2) :=
  attempt_concat x h

end Emulator

/-! ## The selected ECU -/

variable {m : ManufacturerClass}

theorem selected_iff {r : ProtocolRouter} :
    Selected m r ↔ r.currentManufacturer = m.getManufacturerId ∧
      r.getCurrentImplementation.map BaseManufacturer.config =
        some (ProtocolRouter.getConfigFor m.getManufacturerId) := by
  constructor
  · intro ⟨hclass, impl, hcurrent, hconfig⟩
    rw [hcurrent, Option.map_some, hconfig]
    exact ⟨hclass, rfl⟩
  · intro ⟨hclass, hmap⟩
    obtain ⟨impl, hcurrent, hconfig⟩ := Option.map_eq_some_iff.mp hmap
    exact ⟨hclass, impl, hcurrent, hconfig⟩

theorem Kept.selected {r r' : ProtocolRouter} (h : Kept BaseManufacturer.config r r')
    (hselected : Selected m r) : Selected m r' := by
  rw [selected_iff] at hselected ⊢
  rw [h.manufacturer, h.reading]
  exact hselected

/-- Frames leave alone what is not of the session manager or the queue, and what clearing
the trouble codes leaves alone. -/
theorem routeCANFrame_kept {α : Type} (f : BaseManufacturer → α)
    (hsession : ∀ e sm, f { e with sessionManager := sm } = f e)
    (hclear : ∀ e, f e.clearDTCs = f e) (hlend : ∀ e cm, f (Manufacturers.lend e cm) = f e)
    {r r' : ProtocolRouter} {cm cm' : CANManager} (h : Selected m r) {inputs : Inputs}
    {cf : CANFrame} (hroute : routeCANFrame r cm inputs cf = .ok (r', cm')) : Kept f r r' := by
  obtain ⟨impl, hcurrent, -⟩ := h.configured
  rw [routeCANFrame_selected h.manufacturer hcurrent] at hroute
  obtain ⟨impl', hframe, hleft⟩ := ok_of_map hroute
  obtain rfl : leave r (Manufacturers.lend impl' impl.canManager) = r' :=
    congrArg Prod.fst hleft
  have hkept : f impl' = f (Manufacturers.lend impl cm) :=
    handleCanFrame_reading f hsession hclear hlend hframe
  refine ⟨rfl, ?_⟩
  rw [leave_getCurrent hcurrent, hcurrent, Option.map_some, Option.map_some, hlend, hkept, hlend]

theorem selectManufacturer_selected {r : ProtocolRouter} {mfr : Manufacturer}
    {impl : BaseManufacturer} (hregistered : r.implementations.lookup mfr = some impl)
    (hclass : m.getManufacturerId = mfr) : Selected m (r.selectManufacturer mfr).1 := by
  unfold ProtocolRouter.selectManufacturer
  rw [hregistered]
  refine ⟨hclass.symm, impl.onManufacturerSelected (ProtocolRouter.getConfigFor mfr),
    AList.lookup_insert _, ?_⟩
  rw [hclass]
  rfl

/-- The class that a name in the configuration leads to. -/
def configuredClass (active : Text) : ManufacturerClass :=
  (ManufacturerClass.ofManufacturer (ProtocolRouter.stringToManufacturer active)).getD .chevroletGM

theorem manufacturers_iff (mfr : Manufacturer) :
    mfr ∈ manufacturers ↔ (ManufacturerClass.ofManufacturer mfr).isSome := by
  cases mfr <;> decide

theorem selectActive_selected {r : ProtocolRouter}
    (hregistered : ∀ mfr, (r.implementations.lookup mfr).isSome ↔ mfr ∈ manufacturers)
    (active : Text) : Selected (configuredClass active) (selectActive r active) := by
  unfold selectActive configuredClass
  generalize ProtocolRouter.stringToManufacturer active = mfr
  dsimp only
  cases hlookup : r.implementations.lookup mfr with
  | some impl =>
    have hmem : mfr ∈ manufacturers := (hregistered mfr).mp (by rw [hlookup]; rfl)
    obtain ⟨m, hclass⟩ := Option.isSome_iff_exists.mp ((manufacturers_iff mfr).mp hmem)
    rw [if_pos (ProtocolRouter.selectManufacturer_registered hlookup).1, hclass]
    exact selectManufacturer_selected hlookup (ManufacturerClass.ofManufacturer_iff.mp hclass)
  | none =>
    have hclass : ManufacturerClass.ofManufacturer mfr = none := by
      rw [← Option.not_isSome_iff_eq_none, ← manufacturers_iff, ← hregistered, hlookup]
      exact Bool.false_ne_true
    obtain ⟨impl, hchevrolet⟩ :=
      Option.isSome_iff_exists.mp ((hregistered .chevrolet).mpr (by decide))
    rw [ProtocolRouter.selectManufacturer_unregistered hlookup, hclass]
    exact selectManufacturer_selected hchevrolet rfl

/-- At start-up the configured class is selected. -/
theorem start_selected (boot : Manufacturer → Boot) (settings : Settings) :
    Selected (configuredClass settings.active) (start boot settings).router := by
  have hregistered : ∀ mfr, ((registerAll boot).implementations.lookup mfr).isSome ↔
      mfr ∈ manufacturers := by
    intro mfr
    rw [registerAll_lookup]
    split
    next hmem => exact iff_of_true rfl hmem
    next hmem => exact iff_of_false Bool.false_ne_true hmem
  have hactive := selectActive_selected hregistered settings.active
  unfold start
  cases settings.initOdo with
  | none =>
    dsimp only
    exact hactive
  | some km =>
    dsimp only
    have hconfig : ∀ impl : BaseManufacturer, (impl.setOdometer km).config = impl.config :=
      fun _ => rfl
    have hset := Related.modifyCurrent unaffected_config.allowsRequests.toLasting
      (selectActive (registerAll boot) settings.active) hconfig
    exact hset.kept.selected hactive

/-- A reading that neither the selection nor the odometer changes is at start-up as
the ECU was made with. -/
theorem start_reading {α : Type} {f : BaseManufacturer → α}
    (hselect : ∀ e cfg, f (e.onManufacturerSelected cfg) = f e)
    (hodometer : ∀ e km, f (e.setOdometer km) = f e) (boot : Manufacturer → Boot)
    (settings : Settings) :
    ∃ mfr, (start boot settings).router.getCurrentImplementation.map f =
      some (f (boot mfr).ecu) := by
  obtain ⟨mfr, -, hcurrent⟩ := selectActive_current boot settings.active
  refine ⟨mfr, ?_⟩
  unfold start
  cases settings.initOdo with
  | none =>
    dsimp only
    rw [hcurrent, Option.map_some, hselect]
  | some km =>
    dsimp only
    rw [ProtocolRouter.modifyCurrent_getCurrent, hcurrent, Option.map_some, Option.map_some,
      hodometer, hselect]

namespace Emulator

variable {Doc : Type} {json : JsonLibrary Doc}

theorem respond_selected {s s' : Emulator} {x : Stimulus} {sent : List CANFrame}
    (h : Selected m s.router) (hrespond : s.respond json x = .ok (s', sent)) :
    Selected m s'.router := by
  cases x with
  | frame inputs cf =>
    obtain ⟨⟨r, cm⟩, hroute, heq⟩ := ok_of_map hrespond
    cases heq
    exact h.routeCANFrame hroute
  | request call =>
    cases hrespond
    exact (step_kept unaffected_config s (.request call)).selected h
  | round i =>
    cases hrespond
    exact (step_kept unaffected_config s (.round i)).selected h

/-- The thing is a frame that an ECU of the class acts on. -/
def Asks (m : ManufacturerClass) : Stimulus → Prop
  | .frame _ cf => m.ActsOn cf
  | _ => False

instance (m : ManufacturerClass) : DecidablePred (Asks m)
  | .frame _ cf => inferInstanceAs (Decidable (m.ActsOn cf))
  | .request _ | .round _ => inferInstanceAs (Decidable False)

/-- A frame that an ECU sends. -/
def FromEcu (cf : CANFrame) : Prop := ∃ data, cf = CANManager.toFrame 0x7E8 data false

theorem FromEcu.standardId {cf : CANFrame} (h : FromEcu cf) : standardId cf = 0x7E8 := by
  obtain ⟨data, rfl⟩ := h
  show (0x7E8 : UInt32) &&& 0x7FF = 0x7E8
  decide

theorem respond_answers {s s' : Emulator} {x : Stimulus} {sent : List CANFrame}
    (h : Selected m s.router) (hrespond : s.respond json x = .ok (s', sent)) :
    (¬ Asks m x ∧ sent = []) ∨ (Asks m x ∧ ∃ cf, sent = [cf] ∧ FromEcu cf) := by
  cases x with
  | frame inputs cf =>
    obtain ⟨⟨r, ⟨queue⟩⟩, hroute, heq⟩ := ok_of_map hrespond
    cases heq
    rcases routeCANFrame_answers h hroute with ⟨hacts, -, hsent⟩ | ⟨hacts, data, hsent⟩
    · exact Or.inl ⟨hacts, hsent⟩
    · exact Or.inr ⟨hacts, _, hsent, data, rfl⟩
  | request call =>
    cases hrespond
    exact Or.inl ⟨id, rfl⟩
  | round i =>
    cases hrespond
    exact Or.inl ⟨id, rfl⟩

/-- **One answer a request.** In a conversation as many frames are sent as frames
come that the selected ECU acts on, all under `rx_id`. -/
theorem converse_answers {xs : List Stimulus} :
    ∀ {s s' : Emulator} {sent : List CANFrame}, Selected m s.router →
      s.converse json xs = .ok (s', sent) →
      Selected m s'.router ∧ sent.length = xs.countP (Asks m) ∧ ∀ cf ∈ sent, FromEcu cf := by
  induction xs with
  | nil =>
    intro s s' sent h hconverse
    cases hconverse
    exact ⟨h, rfl, List.forall_mem_nil _⟩
  | cons x xs ih =>
    intro s s' sent h hconverse
    obtain ⟨s₁, first, rest, hx, hxs, rfl⟩ := attempt_cons_iff.mp hconverse
    obtain ⟨hselected, hlength, hall⟩ := ih (respond_selected h hx) hxs
    refine ⟨hselected, ?_⟩
    rw [List.length_append, hlength]
    rcases respond_answers h hx with ⟨hasks, rfl⟩ | ⟨hasks, cf, rfl, hcf⟩
    · have hnot : ¬ decide (Asks m x) = true := fun h => hasks (of_decide_eq_true h)
      rw [List.countP_cons_of_neg (p := fun x => decide (Asks m x)) hnot]
      exact ⟨Nat.zero_add _, hall⟩
    · rw [List.countP_cons_of_pos (p := fun x => decide (Asks m x)) (decide_eq_true hasks)]
      exact ⟨Nat.add_comm _ _, List.forall_mem_cons.mpr ⟨hcf, hall⟩⟩

/-- A reading of the selected ECU that only frames change, by a rule `g`. -/
structure Heard {α : Type} (m : ManufacturerClass) (f : BaseManufacturer → α)
    (g : α → Stimulus → α) : Prop where
  unaffected : Unaffected f
  lend : ∀ e cm, f (lend e cm) = f e
  frame : ∀ {e e' : BaseManufacturer} {inputs : Inputs} {cf : CANFrame},
    e.config = ProtocolRouter.getConfigFor m.getManufacturerId →
      m.handleCanFrame inputs e cf = .ok e' → f e' = g (f e) (.frame inputs cf)
  request : ∀ a call, g a (.request call) = a
  round : ∀ a i, g a (.round i) = a

variable {α : Type} {f : BaseManufacturer → α} {g : α → Stimulus → α}

theorem respond_heard (hg : Heard m f g) {s s' : Emulator} {x : Stimulus} {sent : List CANFrame}
    {a : α} (h : Selected m s.router) (ha : s.router.getCurrentImplementation.map f = some a)
    (hrespond : s.respond json x = .ok (s', sent)) :
    s'.router.getCurrentImplementation.map f = some (g a x) := by
  cases x with
  | frame inputs cf =>
    -- the frame goes to the selected ECU, which has the shared queue for the time
    obtain ⟨impl, hcurrent, hconfig⟩ := h.configured
    obtain ⟨⟨r, cm⟩, hroute, heq⟩ := ok_of_map hrespond
    cases heq
    rw [routeCANFrame_selected h.manufacturer hcurrent] at hroute
    obtain ⟨impl', hframe, hleft⟩ := ok_of_map hroute
    obtain rfl : leave s.router (Manufacturers.lend impl' impl.canManager) = r :=
      congrArg Prod.fst hleft
    have hlent : (Manufacturers.lend impl ⟨[]⟩).config =
        ProtocolRouter.getConfigFor m.getManufacturerId := hconfig
    rw [hcurrent] at ha
    show (leave s.router _).getCurrentImplementation.map f = _
    rw [leave_getCurrent hcurrent, ← Option.some.inj ha, Option.map_some, hg.lend,
      hg.frame hlent hframe, hg.lend]
  | request call =>
    cases hrespond
    rw [(step_kept hg.unaffected s (.request call)).reading, ha, hg.request]
  | round i =>
    cases hrespond
    rw [(step_kept hg.unaffected s (.round i)).reading, ha, hg.round]

/-- After a conversation the reading is the run of the rule. -/
theorem converse_heard (hg : Heard m f g) {xs : List Stimulus} {s s' : Emulator}
    {sent : List CANFrame} {a : α} (h : Selected m s.router)
    (ha : s.router.getCurrentImplementation.map f = some a)
    (hconverse : s.converse json xs = .ok (s', sent)) :
    s'.router.getCurrentImplementation.map f = some (run g a xs) := by
  let I (a : α) (s : Emulator) : Prop :=
    Selected m s.router ∧ s.router.getCurrentImplementation.map f = some a
  have hstep : ∀ a s x s' sent, I a s → s.respond json x = .ok (s', sent) → I (g a x) s' :=
    fun _ _ _ _ _ h hrespond =>
      ⟨respond_selected h.1 hrespond, respond_heard hg h.1 h.2 hrespond⟩
  exact (attempt_track_inv g hstep ⟨h, ha⟩ hconverse).2

end Emulator

end EcuMult.Main
