import EcuMult.Main.ProfileSync
import EcuMult.Main.Rounds
import EcuMult.Main.Sessions
import EcuMult.Manufacturers.ProfileFaults

/-!
# The trouble codes that a tester reads

In the program trouble codes come from profiles alone: the fault injector is never
enabled. So what is stored in the selected ECU is known from the requests.

* `stored_follow`: the codes are those that the posted profiles list, since they
  were last cleared, whether by a tester or through the API;
* the frame that answers Mode 03 has their number, which is not cut at 255 as there
  are too few profiles, and the first three of them.
-/

namespace EcuMult.Main

open EcuMult.Lib EcuMult.Core EcuMult.Manufacturers EcuMult.Simulation

/-! ## What an observer remembers -/

/-- The codes of a predefined profile. -/
def listedBy (name : Text) : List UInt16 :=
  ((VehicleProfileManager.new.profiles.lookup name).map VehicleProfile.activeDtcs).getD []

variable {Doc : Type} (json : JsonLibrary Doc) (m : ManufacturerClass)

/-- The codes, as a request through the API leaves them. -/
def rememberCall (codes : List UInt16) (call : Api.Call) : List UInt16 :=
  if call.path = "/profile".toList ∧ call.method = "POST".toList then
    match Emulator.requestedProfile json call.body with
    | .ok name => listedBy name ++ codes
    | .error _ => codes
  else if call.path = "/dtcs/clear".toList ∧ call.method = "POST".toList then []
  else codes

/-- A frame that clears the codes. -/
def Clears (cf : CANFrame) : Prop :=
  IsRequest cf ∧ m.branch (cf.payload.getD 0 0) = .clearCodes

instance (cf : CANFrame) : Decidable (Clears m cf) := inferInstanceAs (Decidable (_ ∧ _))

def remember (codes : List UInt16) : Happening → List UInt16
  | .frame _ cf => if Clears m cf then [] else codes
  | .request call => rememberCall json codes call
  | .round _ => codes

/-- The ECU stores these codes, each once and none as pending. -/
structure Stores (codes : List UInt16) (dtcs : DTCList) : Prop where
  mem_iff : ∀ code, code ∈ dtcs.codes ↔ code ∈ codes
  nodup : dtcs.codes.Nodup
  confirmed : ∀ dtc ∈ dtcs, dtc.isPending = false

variable {json m}

/-! ## The ECU -/

namespace Stores

theorem nil : Stores [] [] where
  mem_iff _ := Iff.rfl
  nodup := List.nodup_nil
  confirmed := List.forall_mem_nil _

/-- Nothing that is set by a profile is pending. -/
theorem setDTC_confirmed {dtcs : DTCList} (h : ∀ dtc ∈ dtcs, dtc.isPending = false)
    (code : UInt16) (description : Text) :
    ∀ dtc ∈ dtcs.setDTC code description false, dtc.isPending = false := by
  induction dtcs with
  | nil => exact List.forall_mem_singleton.mpr rfl
  | cons first rest ih =>
    obtain ⟨hfirst, hrest⟩ := List.forall_mem_cons.mp h
    unfold DTCList.setDTC
    split
    · exact List.forall_mem_cons.mpr ⟨rfl, hrest⟩
    · exact List.forall_mem_cons.mpr ⟨hfirst, ih hrest⟩

theorem applyProfile_confirmed {dtcs : DTCList} (h : ∀ dtc ∈ dtcs, dtc.isPending = false)
    (profile : VehicleProfile) : ∀ dtc ∈ dtcs.applyProfile profile, dtc.isPending = false := by
  have herased : ∀ dtc ∈ dtcs.eraseProfile profile, dtc.isPending = false :=
    fun dtc hdtc => h dtc (List.mem_of_mem_filter hdtc)
  unfold DTCList.applyProfile DTCList.setProfile
  generalize dtcs.eraseProfile profile = kept at herased
  induction profile.activeDtcs.zipIdx generalizing kept with
  | nil => exact herased
  | cons entry rest ih => exact ih _ (setDTC_confirmed herased _ _)

theorem applyProfile {codes : List UInt16} {dtcs : DTCList} (h : Stores codes dtcs)
    (profile : VehicleProfile) :
    Stores (profile.activeDtcs ++ codes) (dtcs.applyProfile profile) where
  mem_iff code := by rw [DTCList.mem_applyProfile, h.mem_iff, List.mem_append]
  nodup := DTCList.applyProfile_inv (I := fun dtcs => dtcs.codes.Nodup)
    (fun _ code description pending h => DTCList.setDTC_nodup h code description pending)
    (fun _ profile h => DTCList.eraseProfile_nodup h profile) h.nodup profile
  confirmed := applyProfile_confirmed h.confirmed profile

end Stores

theorem after_dtcs (inputs : Inputs) (e : BaseManufacturer) (data : Bytes) (subFunc : UInt8)
    (b : Branch) :
    (b.after inputs e data subFunc).dtcs = if b = .clearCodes then [] else e.dtcs := by
  cases b with
  | clearCodes => rfl
  | securityAccess =>
    show (e.handleSecurityAccess inputs subFunc (extraFrom 2 data)).1.dtcs = e.dtcs
    unfold BaseManufacturer.handleSecurityAccess
    split <;> rfl
  | _ => rfl

theorem handleCanFrame_dtcs {e e' : BaseManufacturer} {inputs : Inputs} {cf : CANFrame}
    (hconfig : e.config = ProtocolRouter.getConfigFor m.getManufacturerId)
    (h : m.handleCanFrame inputs e cf = .ok e') :
    e'.dtcs = if Clears m cf then [] else e.dtcs := by
  by_cases hrequest : IsRequest cf
  · rcases handleCanFrame_request hconfig hrequest h with ⟨hlacking, heq⟩ | heq
    · have hbranch : m.branch (cf.payload.getD 0 0) ≠ .clearCodes := by
        intro hclear
        rw [hclear] at hlacking
        exact hlacking
      rw [heq, if_neg (fun hclears => hbranch hclears.2)]
    · have hclears : Clears m cf ↔ m.branch (cf.payload.getD 0 0) = .clearCodes :=
        and_iff_right hrequest
      rw [heq, if_congr hclears rfl rfl]
      exact after_dtcs inputs e cf.payload _ _
  · obtain ⟨cm, rfl⟩ := handleCanFrame_other hconfig hrequest h
    rw [if_neg (fun hclears => hrequest hclears.1)]
    rfl

theorem odometer_dtcs :
    AllowsOdometer fun impl impl' : BaseManufacturer => impl'.dtcs = impl.dtcs where
  refl _ := rfl
  trans h h' := h'.trans h
  setOdometer _ _ := rfl
  resetTrip _ := rfl

theorem rounds_dtcs :
    AllowsRounds fun impl impl' : BaseManufacturer => impl'.dtcs = impl.dtcs where
  refl _ := rfl
  trans h h' := h'.trans h
  incrementOdometer impl km := by
    unfold BaseManufacturer.incrementOdometer
    split <;> rfl
  sensors _ _ := rfl

/-! ## The emulator -/

/-- The selected ECU stores what the observer remembers. -/
structure Remembers (m : ManufacturerClass) (codes : List UInt16) (s : Emulator) : Prop where
  selected : Selected m s.router
  stocked : s.managers.Stocked
  stores : ∃ impl, s.router.getCurrentImplementation = some impl ∧ Stores codes impl.dtcs

namespace Remembers

variable {codes : List UInt16} {s : Emulator}

/-- Driving leaves the codes alone. -/
theorem driven {r : ProtocolRouter} (h : Remembers m codes s)
    (hdriven : Related (fun impl impl' => impl'.dtcs = impl.dtcs) s.router r) :
    ∃ impl, r.getCurrentImplementation = some impl ∧ Stores codes impl.dtcs := by
  obtain ⟨impl, hcurrent, hstores⟩ := h.stores
  have hreading := hdriven.kept.reading
  rw [hcurrent] at hreading
  obtain ⟨impl', hcurrent', hdtcs⟩ := Option.map_eq_some_iff.mp hreading
  exact ⟨impl', hcurrent', hdtcs ▸ hstores⟩

theorem postProfile (h : Remembers m codes s) {name : Text} {body : Text}
    (hname : Emulator.requestedProfile json body = .ok name) :
    ∃ impl, (s.postProfile json body).1.router.getCurrentImplementation = some impl ∧
      Stores (listedBy name ++ codes) impl.dtcs := by
  obtain ⟨impl, hcurrent, hstores⟩ := h.stores
  obtain ⟨pm, hecu, hpredefined⟩ := h.stocked.ecu
  have hprofiles : impl.profileManager.profiles = VehicleProfileManager.new.profiles := by
    have hpm : s.router.getCurrentImplementation.map BaseManufacturer.profileManager = some pm :=
      hecu
    rw [hcurrent] at hpm
    rw [Option.some.inj hpm, hpredefined]
  unfold Emulator.postProfile listedBy
  rw [hname]
  dsimp only
  -- main's table of profiles and the ECU's are both the predefined one
  have hmain : s.profileManager.profiles = VehicleProfileManager.new.profiles := h.stocked.main
  cases hfound : VehicleProfileManager.new.profiles.lookup name with
  | none =>
    have hunknown : name ∉ s.profileManager.profiles := by
      rw [hmain]
      exact AList.lookup_eq_none.mp hfound
    rw [VehicleProfileManager.selectProfile_unknown hunknown]
    exact ⟨impl, hcurrent, hstores⟩
  | some profile =>
    have hknown : name ∈ s.profileManager.profiles := by
      rw [hmain, ← AList.lookup_isSome, hfound]
      rfl
    have hlookup : impl.profileManager.profiles.lookup name = some profile := by
      rw [hprofiles, hfound]
    rw [VehicleProfileManager.selectProfile_known hknown]
    dsimp only
    rw [ProtocolRouter.modifyCurrent_getCurrent, hcurrent, Option.map_some,
      BaseManufacturer.setProfile_found hlookup]
    refine ⟨_, rfl, ?_⟩
    unfold BaseManufacturer.applyProfileDTCs VehicleProfileManager.getCurrentProfile
    dsimp only
    rw [hlookup]
    exact hstores.applyProfile profile

theorem clearDTCs (h : Remembers m codes s) :
    ∃ impl, s.clearDTCs.1.router.getCurrentImplementation = some impl ∧ Stores [] impl.dtcs := by
  obtain ⟨impl, hcurrent, -⟩ := h.stores
  unfold Emulator.clearDTCs
  rw [hcurrent]
  exact ⟨_, ProtocolRouter.putCurrent_getCurrent _ _, Stores.nil⟩

theorem request (h : Remembers m codes s) (call : Api.Call) :
    ∃ impl, (s.handleRoute json call).1.router.getCurrentImplementation = some impl ∧
      Stores (rememberCall json codes call) impl.dtcs := by
  rw [Emulator.handleRoute_state]
  unfold Emulator.routes rememberCall
  dsimp only
  by_cases hprofile : call.path = "/profile".toList ∧ call.method = "POST".toList
  · rw [if_pos hprofile, if_pos hprofile, hprofile.1, hprofile.2, if_neg (by decide),
      if_neg (by decide), if_neg (by decide)]
    cases hname : Emulator.requestedProfile json call.body with
    | error what =>
      unfold Emulator.postProfile
      rw [hname]
      exact h.stores
    | ok name => exact h.postProfile hname
  rw [if_neg hprofile, if_neg hprofile]
  by_cases hclear : call.path = "/dtcs/clear".toList ∧ call.method = "POST".toList
  · rw [if_pos hclear, if_pos hclear, hclear.1, hclear.2, if_neg (by decide),
      if_neg (by decide), if_neg (by decide), if_neg (by decide), if_neg (by decide),
      if_neg (by decide)]
    exact h.clearDTCs
  rw [if_neg hclear, if_neg hclear]
  -- the other routes: one drives the odometer, the rest answers
  split
  · exact h.stores
  split
  · exact h.stores
  split
  · exact h.stores
  split
  · exact h.stores
  split
  · exact h.driven (Emulator.postOdometer_related odometer_dtcs s call.body)
  split
  · exact h.stores
  · exact h.stores

/-- A round without a fault. -/
theorem round (h : Remembers m codes s) {i : RoundInputs} (hfault : i.fault = none) :
    ∃ impl, (s.loopRound i).router.getCurrentImplementation = some impl ∧
      Stores codes impl.dtcs := by
  refine h.driven (Emulator.loopRound_related rounds_dtcs s i ?_)
  intro code hcode
  rw [hfault] at hcode
  cases hcode

theorem frame (h : Remembers m codes s) {inputs : Inputs} {cf : CANFrame} {r : ProtocolRouter}
    {cm : CANManager} (hroute : routeCANFrame s.router ⟨[]⟩ inputs cf = .ok (r, cm)) :
    Remembers m (if Clears m cf then [] else codes) { s with router := r } := by
  have hkept := routeCANFrame_kept BaseManufacturer.profileManager (fun _ _ => rfl)
    (fun _ => rfl) (fun _ _ => rfl) h.selected hroute
  obtain ⟨pm, hecu, hpredefined⟩ := h.stocked.ecu
  refine ⟨h.selected.routeCANFrame hroute,
    ⟨h.stocked.main, pm, hkept.reading.trans hecu, hpredefined⟩, ?_⟩
  obtain ⟨impl, hcurrent, hstores⟩ := h.stores
  obtain ⟨impl₁, hcurrent₁, hconfig⟩ := h.selected.configured
  obtain rfl : impl = impl₁ := Option.some.inj (hcurrent.symm.trans hcurrent₁)
  have hlent : (lend impl ⟨[]⟩).config = ProtocolRouter.getConfigFor m.getManufacturerId :=
    hconfig
  rw [routeCANFrame_selected h.selected.manufacturer hcurrent] at hroute
  obtain ⟨impl', hframe, hleft⟩ := ok_of_map hroute
  obtain rfl : leave s.router (lend impl' impl.canManager) = r := congrArg Prod.fst hleft
  refine ⟨_, leave_getCurrent hcurrent (lend impl' impl.canManager), ?_⟩
  show Stores _ impl'.dtcs
  rw [handleCanFrame_dtcs hlent hframe]
  split
  · exact Stores.nil
  · exact hstores

theorem happen {l l' : MainLoop} {now : Int} {n : Nat} (h : Remembers m codes l.emulator)
    (hidle : l.Idle now n) {x : Happening} {sent : List CANFrame}
    (hhappen : l.happen json x = .ok (l', sent)) :
    Remembers m (remember json m codes x) l'.emulator := by
  have hstep : ∀ event : Emulator.Event, Selected m (l.emulator.step json event).router ∧
      (l.emulator.step json event).managers.Stocked := by
    intro event
    refine ⟨(Emulator.step_kept unaffected_config l.emulator event).selected h.selected, ?_⟩
    rw [Emulator.step_managers]
    exact Managers.switch_stocked h.stocked _
  cases x with
  | frame inputs cf =>
    obtain ⟨⟨s, first⟩, hrespond, heq⟩ := ok_of_map hhappen
    cases heq
    obtain ⟨⟨r, cm⟩, hroute, heq⟩ := ok_of_map hrespond
    cases heq
    exact h.frame hroute
  | request call =>
    cases hhappen
    obtain ⟨hselected, hstocked⟩ := hstep (.request call)
    exact ⟨hselected, hstocked, h.request call⟩
  | round draws =>
    cases hhappen
    obtain ⟨hselected, hstocked⟩ := hstep (.round (l.inputs draws))
    refine ⟨hselected, hstocked, h.round ?_⟩
    rw [hidle.inputs]
    rfl

end Remembers

theorem start_remembers (boot : Manufacturer → Boot) (settings : Settings) :
    Remembers (configuredClass settings.active) [] (start boot settings) := by
  refine ⟨start_selected boot settings, Emulator.start_stocked boot settings, ?_⟩
  obtain ⟨mfr, hmap⟩ := start_reading (f := BaseManufacturer.dtcs) (fun _ _ => rfl)
    (fun _ _ => rfl) boot settings
  obtain ⟨impl, hcurrent, hdtcs⟩ := Option.map_eq_some_iff.mp hmap
  refine ⟨impl, hcurrent, ?_⟩
  rw [hdtcs]
  exact Stores.nil

/-! ## Mode 03 -/

/-- All the codes that profiles list. -/
def allListed : List UInt16 :=
  (VehicleProfileManager.predefined.flatMap VehicleProfile.activeDtcs).dedup

theorem listedBy_subset (name : Text) : listedBy name ⊆ allListed := by
  unfold listedBy
  cases hfound : VehicleProfileManager.new.profiles.lookup name with
  | none => exact List.nil_subset _
  | some profile =>
    obtain ⟨hmem, -⟩ := lookup_assign_empty hfound
    intro code hcode
    exact List.mem_dedup.mpr (List.mem_flatMap.mpr ⟨profile, hmem, hcode⟩)

theorem remember_subset {codes : List UInt16} (h : codes ⊆ allListed) (x : Happening) :
    remember json m codes x ⊆ allListed := by
  cases x with
  | frame inputs cf =>
    show (if Clears m cf then [] else codes) ⊆ allListed
    split
    · exact List.nil_subset _
    · exact h
  | request call =>
    show rememberCall json codes call ⊆ allListed
    unfold rememberCall
    split
    · split
      · exact List.append_subset.mpr ⟨listedBy_subset _, h⟩
      · exact h
    · split
      · exact List.nil_subset _
      · exact h
  | round draws => exact h

theorem Stores.length_le {codes : List UInt16} {dtcs : DTCList} (h : Stores codes dtcs)
    (hcodes : codes ⊆ allListed) : dtcs.length ≤ 27 := by
  have hsubset : dtcs.codes ⊆ allListed := fun code hcode => hcodes ((h.mem_iff code).mp hcode)
  calc dtcs.length = dtcs.codes.length := (List.length_map _).symm
    _ ≤ allListed.length := (h.nodup.subperm hsubset).length_le
    _ = 27 := by decide

/-- Nothing is left out of the text of an answer. -/
theorem Stores.handleMode03 {codes : List UInt16} {dtcs : DTCList} (h : Stores codes dtcs)
    (hcodes : codes ⊆ allListed) :
    dtcs.handleMode03 = UInt8.ofNat dtcs.length :: bigEndian dtcs.codes := by
  have hlength := h.length_le hcodes
  have hall : dtcs.getDTCs true = dtcs := by
    refine List.filter_eq_self.mpr ?_
    intro dtc hdtc
    rw [h.confirmed dtc hdtc]
    rfl
  have hreported : dtcs.reported = dtcs.length := by
    unfold DTCList.reported
    rw [hall]
    omega
  have htake : dtcs.codes.take dtcs.length = dtcs.codes :=
    List.take_of_length_le (List.length_map _).le
  rw [DTCList.handleMode03_eq, hreported, hall, htake]

/-- But the frame holds eight bytes. -/
theorem routeCANFrame_storedCodes {r : ProtocolRouter} (h : Selected m r) {impl : BaseManufacturer}
    (hcurrent : r.getCurrentImplementation = some impl) (inputs : Inputs) {cf : CANFrame}
    (hrequest : IsRequest cf) (hbranch : m.branch (cf.payload.getD 0 0) = .storedCodes) :
    routeCANFrame r ⟨[]⟩ inputs cf =
      .ok (r, ⟨[CANManager.toFrame 0x7E8 impl.handleMode03 false]⟩) := by
  obtain ⟨impl', hcurrent', hconfig⟩ := h.configured
  obtain rfl : impl = impl' := Option.some.inj (hcurrent.symm.trans hcurrent')
  have hlent : (lend impl ⟨[]⟩).config = ProtocolRouter.getConfigFor m.getManufacturerId := hconfig
  have hphysical : PhysicalRequest (lend impl ⟨[]⟩) cf :=
    .of_config hlent hrequest.1 hrequest.2
  rw [routeCANFrame_selected h.manufacturer hcurrent, m.handleCanFrame_physical inputs hphysical,
    hbranch]
  show Except.ok (leave r impl, CANManager.sendFrame ⟨[]⟩ impl.config.rxId _ false) = _
  rw [leave_self hcurrent, hconfig, ProtocolRouter.getConfigFor_rxId]
  rfl

/-! ## The program -/

/-- **Trouble codes come from profiles.** After any run, in which frames come and
requests are made at any time, the selected ECU stores exactly the codes that the
posted profiles list, since the last time the codes were cleared. Each is stored
once and none is pending. A tester that asks for them is sent one frame, with what
eight bytes hold of their number and the codes. -/
theorem stored_follow (json : JsonLibrary Doc) (boot : Manufacturer → Boot)
    (settings : Settings) (now : Int) (xs : List Happening) :
    match (MainLoop.new (start boot settings) now).live json xs with
    | .ok (l, _) => ∃ impl, l.emulator.router.getCurrentImplementation = some impl ∧
        impl.dtcs.codes.Nodup ∧ (∀ dtc ∈ impl.dtcs, dtc.isPending = false) ∧
        (∀ code, code ∈ impl.dtcs.codes ↔
          code ∈ run (remember json (configuredClass settings.active)) [] xs) ∧
        impl.dtcs.length ≤ 27 ∧
        ∀ (inputs : Inputs) (cf : CANFrame), IsRequest cf →
          (configuredClass settings.active).branch (cf.payload.getD 0 0) = .storedCodes →
          ∃ answer : CANFrame,
            routeCANFrame l.emulator.router ⟨[]⟩ inputs cf =
              .ok (l.emulator.router, ⟨[answer]⟩) ∧
            answer.canId = 0x7E8 ∧
            answer.payload =
              (UInt8.ofNat impl.dtcs.length :: bigEndian impl.dtcs.codes).take 8
    | .error _ => True := by
  have hremembers := start_remembers boot settings
  generalize configuredClass settings.active = m at hremembers
  -- that the loop is idle says that no fault is injected
  let I (codes : List UInt16) (l : MainLoop) : Prop :=
    Remembers m codes l.emulator ∧ codes ⊆ allListed ∧ ∃ n, l.Idle now n
  have hstep : ∀ codes l x l' sent, I codes l → l.happen json x = .ok (l', sent) →
      I (remember json m codes x) l' := by
    intro codes l x l' sent ⟨h, hsubset, n, hidle⟩ hhappen
    exact ⟨h.happen hidle hhappen, remember_subset hsubset x, _, hidle.happen hhappen⟩
  have hstart : I [] (MainLoop.new (start boot settings) now) :=
    ⟨hremembers, List.nil_subset _, 0, MainLoop.new_idle boot settings now⟩
  cases hlive : (MainLoop.new (start boot settings) now).live json xs with
  | error err => trivial
  | ok r =>
    obtain ⟨l, sent⟩ := r
    obtain ⟨h, hsubset, -⟩ := attempt_track_inv (remember json m) hstep hstart hlive
    obtain ⟨impl, hcurrent, hstores⟩ := h.stores
    refine ⟨impl, hcurrent, hstores.nodup, hstores.confirmed, hstores.mem_iff,
      hstores.length_le hsubset, fun inputs cf hrequest hbranch => ?_⟩
    refine ⟨_, routeCANFrame_storedCodes h.selected hcurrent inputs hrequest hbranch, rfl, ?_⟩
    rw [CANManager.toFrame_payload, ← hstores.handleMode03 hsubset]
    rfl

end EcuMult.Main
