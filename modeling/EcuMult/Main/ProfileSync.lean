import EcuMult.Lib.Runs
import EcuMult.Main.Loop

/-!
# Two profile managers

The simulation has a `VehicleProfileManager`, which drives the engine and is
what the API reports, and each ECU has one of its own, which its readings and
trouble codes come from. POST /profile selects in both. Start-up selects the
configured profile in the first alone, so an emulator that is configured with
a profile other than the normal one runs it on one side only, until a profile
is posted: `in_sync_iff`.

Nothing else touches the managers, so of a run only the requested profiles
matter. `Managers` is that view of the emulator, and `step_managers` says that
the emulator's steps are the view's.
-/

namespace EcuMult.Main

open EcuMult.Lib EcuMult.Core EcuMult.Manufacturers EcuMult.Simulation

/-! ## The pair of managers -/

/-- The manager of the simulation, and that of the selected ECU. -/
structure Managers where
  main : VehicleProfileManager
  ecu : Option VehicleProfileManager

namespace Managers

/-- Both are asked to select, if the first can. -/
def switch (m : Managers) : Option Text → Managers
  | none => m
  | some name =>
    if name ∈ m.main.profiles then
      { main := (m.main.selectProfile name).1
        ecu := m.ecu.map fun pm => (pm.selectProfile name).1 }
    else m

theorem switch_known {m : Managers} {name : Text} (h : name ∈ m.main.profiles) :
    m.switch (some name) =
      { main := { m.main with currentProfile := name }
        ecu := m.ecu.map fun pm => (pm.selectProfile name).1 } := by
  unfold switch
  dsimp only
  rw [if_pos h, VehicleProfileManager.selectProfile_known h]

theorem switch_unknown {m : Managers} {name : Text} (h : name ∉ m.main.profiles) :
    m.switch (some name) = m :=
  if_neg h

/-- They have one current profile. -/
def InSync (m : Managers) : Prop :=
  ∃ pm, m.ecu = some pm ∧ m.main.currentProfile = pm.currentProfile

/-- They hold the predefined profiles. -/
structure Stocked (m : Managers) : Prop where
  main : m.main.profiles = VehicleProfileManager.new.profiles
  ecu : ∃ pm, m.ecu = some pm ∧ pm.profiles = VehicleProfileManager.new.profiles

/-- A predefined profile is asked for. -/
def Known (requested : Option Text) : Prop :=
  ∃ name, requested = some name ∧ name ∈ VehicleProfileManager.new.profiles

/-- Asking for a predefined profile selects it in both. -/
theorem Stocked.switch_known {m : Managers} (h : m.Stocked) {name : Text}
    (hknown : name ∈ VehicleProfileManager.new.profiles) :
    ∃ pm : VehicleProfileManager, pm.profiles = VehicleProfileManager.new.profiles ∧
      m.switch (some name) =
        { main := { m.main with currentProfile := name }
          ecu := some { pm with currentProfile := name } } := by
  obtain ⟨pm, hecu, hpredefined⟩ := h.ecu
  have hmain : name ∈ m.main.profiles := h.main ▸ hknown
  have hpm : name ∈ pm.profiles := hpredefined ▸ hknown
  refine ⟨pm, hpredefined, ?_⟩
  rw [Managers.switch_known hmain, hecu, Option.map_some,
    VehicleProfileManager.selectProfile_known hpm]

/-- And nothing else changes anything. -/
theorem Stocked.switch_unknown {m : Managers} (h : m.Stocked) {requested : Option Text}
    (hunknown : ¬ Known requested) : m.switch requested = m := by
  cases requested with
  | none => rfl
  | some name =>
    refine Managers.switch_unknown fun hmem => hunknown ⟨name, rfl, ?_⟩
    exact h.main ▸ hmem

theorem switch_stocked {m : Managers} (h : m.Stocked) (requested : Option Text) :
    (m.switch requested).Stocked := by
  by_cases hknown : Known requested
  · obtain ⟨name, rfl, hmem⟩ := hknown
    obtain ⟨pm, hpredefined, hswitch⟩ := h.switch_known hmem
    rw [hswitch]
    exact ⟨h.main, _, rfl, hpredefined⟩
  · rw [h.switch_unknown hknown]
    exact h

theorem switch_inSync_iff {m : Managers} (h : m.Stocked) (requested : Option Text) :
    (m.switch requested).InSync ↔ m.InSync ∨ Known requested := by
  by_cases hknown : Known requested
  · refine iff_of_true ?_ (Or.inr hknown)
    obtain ⟨name, rfl, hmem⟩ := hknown
    obtain ⟨pm, -, hswitch⟩ := h.switch_known hmem
    rw [hswitch]
    exact ⟨_, rfl, rfl⟩
  · rw [h.switch_unknown hknown, or_iff_left hknown]

end Managers

/-! ## The emulator's pair -/

namespace Emulator

variable {Doc : Type} {json : JsonLibrary Doc}

def managers (s : Emulator) : Managers where
  main := s.profileManager
  ecu := s.router.getCurrentImplementation.map BaseManufacturer.profileManager

/-- The profile that an event asks for, if it asks for one. -/
def requested (json : JsonLibrary Doc) : Event → Option Text
  | .request call =>
    if call.path = "/profile".toList ∧ call.method = "POST".toList then
      (requestedProfile json call.body).toOption
    else none
  | .round _ => none

/-- Changing the selected ECU changes its manager as `g` does. -/
theorem modifyCurrent_ecu (r : ProtocolRouter) {f : BaseManufacturer → BaseManufacturer}
    {g : VehicleProfileManager → VehicleProfileManager}
    (hchanges : ∀ impl, (f impl).profileManager = g impl.profileManager) :
    (r.modifyCurrent f).getCurrentImplementation.map BaseManufacturer.profileManager =
      (r.getCurrentImplementation.map BaseManufacturer.profileManager).map g := by
  rw [ProtocolRouter.modifyCurrent_getCurrent, Option.map_map, Option.map_map]
  congr 1
  funext impl
  exact hchanges impl

theorem modifyCurrent_managers (s : Emulator) {f : BaseManufacturer → BaseManufacturer}
    (hkeeps : ∀ impl, (f impl).profileManager = impl.profileManager) :
    ({ s with router := s.router.modifyCurrent f } : Emulator).managers = s.managers := by
  unfold managers
  dsimp only
  rw [modifyCurrent_ecu (g := id) s.router hkeeps, Option.map_id_apply]

theorem putCurrent_managers (s : Emulator) {impl impl' : BaseManufacturer}
    (hcurrent : s.router.getCurrentImplementation = some impl)
    (hkeeps : impl'.profileManager = impl.profileManager) :
    ({ s with router := s.router.putCurrent impl' } : Emulator).managers = s.managers := by
  unfold managers
  rw [ProtocolRouter.putCurrent_getCurrent, hcurrent, Option.map_some, Option.map_some, hkeeps]

theorem postOdometer_managers (s : Emulator) (body : Text) :
    (s.postOdometer json body).1.managers = s.managers := by
  unfold postOdometer
  cases hcurrent : s.router.getCurrentImplementation with
  | none => rfl
  | some impl =>
    dsimp only
    cases json.parse body with
    | error what => rfl
    | ok req =>
      dsimp only
      cases hodometer : odometerField json impl req with
      | error what => rfl
      | ok impl₁ =>
        dsimp only
        have hkeeps₁ : impl₁.profileManager = impl.profileManager := by
          rcases odometerField_cases hodometer with rfl | ⟨km, rfl⟩ <;> rfl
        have hput := putCurrent_managers s hcurrent hkeeps₁
        cases htrip : resetTripField json impl₁ req with
        | error what => exact hput
        | ok impl₂ =>
          have hkeeps₂ : impl₂.profileManager = impl₁.profileManager := by
            rcases resetTripField_cases htrip with rfl | rfl <;> rfl
          have hcurrent₁ := ProtocolRouter.putCurrent_getCurrent s.router impl₁
          exact (putCurrent_managers _ hcurrent₁ hkeeps₂).trans hput

theorem clearDTCs_managers (s : Emulator) : s.clearDTCs.1.managers = s.managers := by
  unfold clearDTCs
  cases hcurrent : s.router.getCurrentImplementation with
  | none => rfl
  | some impl => exact putCurrent_managers s hcurrent rfl

/-- An ECU selects as its manager does. -/
theorem setProfile_profileManager (impl : BaseManufacturer) (name : Text) :
    (impl.setProfile name).1.profileManager = (impl.profileManager.selectProfile name).1 := by
  unfold BaseManufacturer.setProfile
  by_cases hmem : name ∈ impl.profileManager.profiles
  · rw [VehicleProfileManager.selectProfile_known hmem]
    dsimp only
    rw [if_pos rfl, BaseManufacturer.applyProfileDTCs_eq]
  · rw [VehicleProfileManager.selectProfile_unknown hmem]
    rfl

theorem postProfile_managers (s : Emulator) (body : Text) :
    (s.postProfile json body).1.managers =
      s.managers.switch (requestedProfile json body).toOption := by
  unfold postProfile
  cases requestedProfile json body with
  | error what => rfl
  | ok name =>
    show _ = s.managers.switch (some name)
    by_cases hmem : name ∈ s.profileManager.profiles
    · rw [Managers.switch_known hmem]
      dsimp only
      rw [VehicleProfileManager.selectProfile_known hmem]
      have hecu := modifyCurrent_ecu (f := fun impl => (impl.setProfile name).1)
        (g := fun pm => (pm.selectProfile name).1) s.router
        fun impl => setProfile_profileManager impl name
      unfold managers
      dsimp only
      rw [hecu]
    · rw [Managers.switch_unknown hmem]
      dsimp only
      rw [VehicleProfileManager.selectProfile_unknown hmem]

theorem routes_managers (s : Emulator) (call : Api.Call) :
    (s.routes json call).1.managers = s.managers.switch (requested json (.request call)) := by
  unfold requested routes
  dsimp only
  by_cases hpost : call.path = "/profile".toList ∧ call.method = "POST".toList
  · rw [if_pos hpost, if_pos hpost, hpost.1, hpost.2, if_neg (by decide), if_neg (by decide),
      if_neg (by decide)]
    exact postProfile_managers s call.body
  · rw [if_neg hpost, if_neg hpost]
    show _ = s.managers
    split
    · rfl
    split
    · rfl
    split
    · rfl
    split
    · rfl
    split
    · exact postOdometer_managers s call.body
    split
    · rfl
    split
    · exact clearDTCs_managers s
    · rfl

theorem injectFault_managers (s : Emulator) (fault : Option UInt16) :
    (s.injectFault fault).managers = s.managers := by
  cases fault with
  | none => rfl
  | some code => exact modifyCurrent_managers s fun _ => rfl

theorem syncCurrent_managers (s : Emulator) : s.syncCurrent.managers = s.managers := by
  unfold syncCurrent
  cases hcurrent : s.router.getCurrentImplementation with
  | none => rfl
  | some impl =>
    have hkeeps : (odometerStep (syncSensors impl s.sensorSim) s.odoAccum
        s.sensorSim.vehicleSpeed).1.profileManager = impl.profileManager := by
      rcases odometerStep_cases (syncSensors impl s.sensorSim) s.odoAccum
        s.sensorSim.vehicleSpeed with hsame | ⟨km, hcounted⟩
      · rw [hsame]
        rfl
      · rw [hcounted]
        unfold BaseManufacturer.incrementOdometer
        split <;> rfl
    exact putCurrent_managers s hcurrent hkeeps

theorem loopRound_managers (s : Emulator) (i : RoundInputs) :
    (s.loopRound i).managers = s.managers := by
  unfold loopRound
  dsimp only
  rw [syncCurrent_managers, injectFault_managers]
  rfl

/-- **The emulator does to its managers what its requests ask for**, and
nothing else. -/
theorem step_managers (s : Emulator) (event : Event) :
    (step json s event).managers = s.managers.switch (requested json event) := by
  cases event with
  | request call =>
    show (s.handleRoute json call).1.managers = _
    rw [handleRoute_state]
    exact routes_managers s call
  | round i => exact loopRound_managers s i

/-! ## Runs from start-up -/

/-- The simulation and the selected ECU have one current profile. -/
def InSync (s : Emulator) : Prop :=
  ∃ impl, s.router.getCurrentImplementation = some impl ∧
    s.profileManager.currentProfile = impl.profileManager.currentProfile

theorem inSync_iff_managers (s : Emulator) : s.InSync ↔ s.managers.InSync := by
  constructor
  · intro ⟨impl, hcurrent, hsame⟩
    exact ⟨impl.profileManager, by unfold managers; rw [hcurrent]; rfl, hsame⟩
  · intro ⟨pm, hecu, hsame⟩
    obtain ⟨impl, hcurrent, rfl⟩ := Option.map_eq_some_iff.mp hecu
    exact ⟨impl, hcurrent, hsame⟩

/-- A known profile is posted. -/
def Switches (json : JsonLibrary Doc) (event : Event) : Prop :=
  Managers.Known (requested json event)

/-- The configured profile is the normal one, or one that is replaced by it. -/
def StartsNormal (json : JsonLibrary Doc) (config : Doc) : Prop :=
  ∃ name, configuredProfile json config = .ok name ∧
    (name = "normal".toList ∨ name ∉ VehicleProfileManager.new.profiles)

theorem start_managers (boot : Manufacturer → Boot) (settings : Settings) :
    (start boot settings).managers =
      { main := selectDefault VehicleProfileManager.new settings.profile
        ecu := some VehicleProfileManager.new } := by
  obtain ⟨impl, hcurrent, hprofiles⟩ := start_current boot settings
  unfold managers
  rw [hcurrent, Option.map_some, hprofiles]
  rfl

theorem selectDefault_cases (name : Text) :
    (name ∈ VehicleProfileManager.new.profiles ∧
      selectDefault VehicleProfileManager.new name =
        { VehicleProfileManager.new with currentProfile := name }) ∨
    (name ∉ VehicleProfileManager.new.profiles ∧
      selectDefault VehicleProfileManager.new name = VehicleProfileManager.new) := by
  have hnormal : "normal".toList ∈ VehicleProfileManager.new.profiles := by decide
  unfold selectDefault
  by_cases hmem : name ∈ VehicleProfileManager.new.profiles
  · rw [VehicleProfileManager.selectProfile_known hmem]
    exact Or.inl ⟨hmem, rfl⟩
  · rw [VehicleProfileManager.selectProfile_unknown hmem]
    refine Or.inr ⟨hmem, ?_⟩
    dsimp only
    rw [if_neg Bool.false_ne_true, VehicleProfileManager.selectProfile_known hnormal]
    rfl

theorem start_stocked (boot : Manufacturer → Boot) (settings : Settings) :
    (start boot settings).managers.Stocked := by
  rw [start_managers]
  refine ⟨?_, _, rfl, rfl⟩
  rcases selectDefault_cases settings.profile with ⟨-, hselect⟩ | ⟨-, hselect⟩
  · rw [hselect]
  · rw [hselect]

theorem start_inSync_iff (boot : Manufacturer → Boot) (settings : Settings) :
    (start boot settings).managers.InSync ↔
      settings.profile = "normal".toList ∨
        settings.profile ∉ VehicleProfileManager.new.profiles := by
  rw [start_managers]
  rcases selectDefault_cases settings.profile with ⟨hmem, hselect⟩ | ⟨hmem, hselect⟩
  · rw [hselect, or_iff_left (not_not_intro hmem)]
    constructor
    · intro ⟨pm, hecu, hsame⟩
      cases hecu
      exact hsame
    · intro hsame
      exact ⟨_, rfl, hsame⟩
  · rw [hselect]
    exact iff_of_true ⟨_, rfl, rfl⟩ (Or.inr hmem)

/-- A configuration of a profile, with the groups that start-up cannot do
without. -/
def configured (profile : String) : Json :=
  .object [
    Json.field "can" (.object []),
    Json.field "database" (.object []),
    Json.field "logging" (.object []),
    Json.field "simulation" (.object [Json.field "profile" (Json.ofString profile)])]

def plainBoot (mfr : Manufacturer) : Boot := ⟨0, 0, ProtocolRouter.getConfigFor mfr, 0⟩

/-- The emulator with a bad oxygen sensor, whatever else the library parses. -/
theorem startUp_bad_o2 (parse : Text → Except Text Json) :
    startUp (Json.library parse) plainBoot (configured "bad_o2") =
      .ok (start plainBoot ⟨"chevrolet".toList, "bad_o2".toList, none⟩) :=
  startUp_iff.mpr ⟨⟨"chevrolet".toList, "bad_o2".toList, none⟩, rfl, rfl⟩

/-- Configured with a bad oxygen sensor, and nothing has happened yet. -/
theorem not_always_in_sync :
    ¬ ∀ (Doc : Type) (json : JsonLibrary Doc) (boot : Manufacturer → Boot) (config : Doc)
      (s : Emulator), startUp json boot config = .ok s →
        ∀ events : List Event, (run (step json) s events).InSync := by
  intro h
  have hsync := h Json _ plainBoot _ _ (startUp_bad_o2 fun _ => .error "parse error".toList) []
  rw [run_nil, inSync_iff_managers, start_inSync_iff] at hsync
  exact absurd hsync (by decide)

/-- **When the simulation and the ECU run the same profile.** After a run from
start-up, exactly if the configured profile amounts to the normal one or a known
profile has been posted in the run. -/
theorem in_sync_iff (json : JsonLibrary Doc) (boot : Manufacturer → Boot) (config : Doc)
    (s : Emulator) (hstart : startUp json boot config = .ok s) (events : List Event) :
    (run (step json) s events).InSync ↔
      StartsNormal json config ∨ ∃ event ∈ events, Switches json event := by
  obtain ⟨settings, hsettings, rfl⟩ := startUp_iff.mp hstart
  have hprofile := readSettings_profile hsettings
  have hnormal : StartsNormal json config ↔ (start boot settings).managers.InSync := by
    rw [start_inSync_iff]
    constructor
    · intro ⟨name, hname, hcases⟩
      cases hname.symm.trans hprofile
      exact hcases
    · intro hcases
      exact ⟨_, hprofile, hcases⟩
  rw [inSync_iff_managers, hnormal]
  refine run_brings_iff (J := fun s : Emulator => s.managers.Stocked)
    (I := fun s : Emulator => s.managers.InSync) ?_ ?_ events (start_stocked boot settings)
  · intro s event h
    rw [step_managers]
    exact Managers.switch_stocked h _
  · intro s event h
    rw [step_managers]
    exact Managers.switch_inSync_iff h _

def postMisfire : Api.Call where
  path := "/profile".toList
  method := "POST".toList
  body := "\x7b\"name\":\"misfire\"\x7d".toList
  params := ∅

/-- The same configuration, once a profile has been posted. -/
theorem in_sync_iff_posted :
    let library := Json.library fun text =>
      if text = postMisfire.body then .ok (.object [Json.field "name" (Json.ofString "misfire")])
      else .error "parse error".toList
    (run (step library) (start plainBoot ⟨"chevrolet".toList, "bad_o2".toList, none⟩)
      [.request postMisfire]).InSync := by
  intro library
  have hstart : startUp library plainBoot (configured "bad_o2") = .ok (start plainBoot _) :=
    startUp_bad_o2 _
  have hswitches : Switches library (.request postMisfire) :=
    ⟨"misfire".toList, rfl, by decide⟩
  refine (in_sync_iff library plainBoot (configured "bad_o2") _ hstart _).mpr (Or.inr ?_)
  exact ⟨_, List.mem_singleton_self _, hswitches⟩

end Emulator

end EcuMult.Main
