import EcuMult.Core.Implementations
import EcuMult.Lib.Json
import EcuMult.Simulation.SensorSimulator

/-!
# The emulator: what runs, and how it starts

`src/main.cpp`, up to the start of the servers: the settings that are read
from the configuration, and the state that the route handler and the main loop
share.

Mirroring notes:
- The configuration is the document that `loadConfig` returns. A call on it
  that throws ends the program; any other configuration is accepted.
- Settings of components that are not part of this state (the bus, the
  database, the log) are read, as reading them may throw, and then dropped.
- What the constructor of an ECU reads from outside is its `Boot`.
-/

namespace EcuMult.Main

open EcuMult.Lib EcuMult.Core EcuMult.Manufacturers EcuMult.Simulation

structure Emulator where
  router : ProtocolRouter
  profileManager : VehicleProfileManager
  sensorSim : SensorSimulator
  simTime : ℚ
  odoAccum : ℚ

/-! ## Settings -/

section

variable {Doc : Type} (json : JsonLibrary Doc) (config : Doc)

/-- `config.value(group, json()).value(key, fallback)`. -/
def stringSetting (group key fallback : String) : Except Text Text := do
  let settings ← json.value config group.toList json.null
  json.valueString settings key.toList fallback.toList

/-- And for a number. -/
def intSetting (group key : String) (fallback : Int) : Except Text Int := do
  let settings ← json.value config group.toList json.null
  json.valueInt settings key.toList fallback

def configuredProfile : Except Text Text :=
  stringSetting json config "simulation" "profile" "normal"

/-- Where the odometer is to start, if that is set. -/
def initialOdometer : Except Text (Option ℚ) := do
  let simCfg ← json.index config "simulation".toList
  if json.contains simCfg "odometer".toList then
    let odometer ← json.index simCfg "odometer".toList
    if json.contains odometer "initial_km".toList then
      let initialKm ← json.index odometer "initial_km".toList
      let initOdo ← json.getFloat initialKm
      return some initOdo
    else return none
  else return none

structure Settings where
  active : Text
  profile : Text
  initOdo : Option ℚ
  deriving DecidableEq, Repr

def readSettings : Except Text Settings := do
  let _ ← stringSetting json config "can" "interface" "can0"
  let _ ← intSetting json config "can" "bitrate" 500000
  let _ ← stringSetting json config "database" "path" "/etc/ecu_emulator/emulator.db"
  let active ← json.valueString config "active_manufacturer".toList "chevrolet".toList
  let _ ← stringSetting json config "logging" "file" "/var/log/ecu_emulator.log"
  let _ ← stringSetting json config "logging" "level" "info"
  let _ ← intSetting json config "logging" "max_size_mb" 100
  let _ ← intSetting json config "logging" "max_files" 5
  let profile ← configuredProfile json config
  let initOdo ← initialOdometer json config
  return { active, profile, initOdo }

end

/-! ## Start-up -/

structure Boot where
  now₁ : Int
  now₂ : Int
  config : ManufacturerConfig
  cvn : UInt32

def Boot.ecu (b : Boot) : BaseManufacturer := BaseManufacturer.new b.now₁ b.now₂ b.config b.cvn

/-- The manufacturers that are registered. -/
def manufacturers : List Manufacturer :=
  [.chevrolet, .ford, .toyota, .bmw, .volkswagen, .mercedes, .honda, .nissan]

def registerAll (boot : Manufacturer → Boot) : ProtocolRouter :=
  manufacturers.foldl (fun r mfr => (r.registerManufacturer mfr (boot mfr).ecu).1)
    ProtocolRouter.new

/-- A manufacturer that cannot be selected is replaced by Chevrolet. -/
def selectActive (r : ProtocolRouter) (active : Text) : ProtocolRouter :=
  let (r, found) := r.selectManufacturer (ProtocolRouter.stringToManufacturer active)
  if found then r else (r.selectManufacturer .chevrolet).1

/-- And an unknown profile by the normal one. -/
def selectDefault (pm : VehicleProfileManager) (name : Text) : VehicleProfileManager :=
  let (pm, found) := pm.selectProfile name
  if found then pm else (pm.selectProfile "normal".toList).1

def start (boot : Manufacturer → Boot) (settings : Settings) : Emulator :=
  let router := selectActive (registerAll boot) settings.active
  { router := match settings.initOdo with
      | none => router
      | some km => router.modifyCurrent fun impl => impl.setOdometer km
    profileManager := selectDefault VehicleProfileManager.new settings.profile
    sensorSim := SensorSimulator.new
    simTime := 0
    odoAccum := 0 }

def startUp {Doc : Type} (json : JsonLibrary Doc) (boot : Manufacturer → Boot) (config : Doc) :
    Except Text Emulator := do
  let settings ← readSettings json config
  return start boot settings

/-! ## What it starts with -/

/-- The profile among the settings is the configured one. -/
theorem readSettings_profile {Doc : Type} {json : JsonLibrary Doc} {config : Doc}
    {settings : Settings} (h : readSettings json config = .ok settings) :
    configuredProfile json config = .ok settings.profile := by
  unfold readSettings at h
  obtain ⟨_, -, h⟩ := ok_of_bind h
  obtain ⟨_, -, h⟩ := ok_of_bind h
  obtain ⟨_, -, h⟩ := ok_of_bind h
  obtain ⟨active, -, h⟩ := ok_of_bind h
  obtain ⟨_, -, h⟩ := ok_of_bind h
  obtain ⟨_, -, h⟩ := ok_of_bind h
  obtain ⟨_, -, h⟩ := ok_of_bind h
  obtain ⟨_, -, h⟩ := ok_of_bind h
  obtain ⟨profile, hprofile, h⟩ := ok_of_bind h
  obtain ⟨initOdo, -, h⟩ := ok_of_bind h
  cases h
  exact hprofile

theorem startUp_iff {Doc : Type} {json : JsonLibrary Doc} {boot : Manufacturer → Boot}
    {config : Doc} {s : Emulator} :
    startUp json boot config = .ok s ↔
      ∃ settings, readSettings json config = .ok settings ∧ start boot settings = s := by
  constructor
  · intro h
    obtain ⟨settings, hsettings, h⟩ := ok_of_bind h
    cases h
    exact ⟨settings, hsettings, rfl⟩
  · intro ⟨settings, hsettings, hstart⟩
    unfold startUp
    rw [hsettings, ← hstart]
    rfl

theorem registerAll_lookup (boot : Manufacturer → Boot) (mfr : Manufacturer) :
    (registerAll boot).implementations.lookup mfr =
      if mfr ∈ manufacturers then some (boot mfr).ecu else none :=
  ProtocolRouter.registerEach_lookup (fun mfr => (boot mfr).ecu) mfr manufacturers _

/-- **Something is selected.** Whatever is asked for, one of the registered
ECUs is selected, in the state it was made in. -/
theorem selectActive_current (boot : Manufacturer → Boot) (active : Text) :
    ∃ mfr ∈ manufacturers,
      (selectActive (registerAll boot) active).getCurrentImplementation =
        some ((boot mfr).ecu.onManufacturerSelected (ProtocolRouter.getConfigFor mfr)) := by
  have hregistered : ∀ mfr ∈ manufacturers,
      (registerAll boot).implementations.lookup mfr = some (boot mfr).ecu := by
    intro mfr hmem
    rw [registerAll_lookup, if_pos hmem]
  unfold selectActive
  by_cases hmem : ProtocolRouter.stringToManufacturer active ∈ manufacturers
  · obtain ⟨hfound, hcurrent⟩ :=
      ProtocolRouter.selectManufacturer_registered (hregistered _ hmem)
    refine ⟨_, hmem, ?_⟩
    dsimp only
    rw [if_pos hfound, hcurrent]
  · have hnone : (registerAll boot).implementations.lookup
        (ProtocolRouter.stringToManufacturer active) = none := by
      rw [registerAll_lookup, if_neg hmem]
    have hchevrolet : Manufacturer.chevrolet ∈ manufacturers := by decide
    refine ⟨.chevrolet, hchevrolet, ?_⟩
    rw [ProtocolRouter.selectManufacturer_unregistered hnone]
    exact (ProtocolRouter.selectManufacturer_registered (hregistered _ hchevrolet)).2

theorem Boot.ecu_profileManager (b : Boot) : b.ecu.profileManager = VehicleProfileManager.new := by
  unfold Boot.ecu BaseManufacturer.new
  rw [BaseManufacturer.applyProfileDTCs_eq]

/-- Right after start-up the selected ECU has the profiles it was made with. -/
theorem start_current (boot : Manufacturer → Boot) (settings : Settings) :
    ∃ impl, (start boot settings).router.getCurrentImplementation = some impl ∧
      impl.profileManager = VehicleProfileManager.new := by
  obtain ⟨mfr, -, hcurrent⟩ := selectActive_current boot settings.active
  have hprofiles : ((boot mfr).ecu.onManufacturerSelected
      (ProtocolRouter.getConfigFor mfr)).profileManager = VehicleProfileManager.new :=
    (boot mfr).ecu_profileManager
  unfold start
  cases settings.initOdo with
  | none =>
    dsimp only
    rw [hcurrent]
    exact ⟨_, rfl, hprofiles⟩
  | some km =>
    dsimp only
    rw [ProtocolRouter.modifyCurrent_getCurrent, hcurrent]
    exact ⟨_, rfl, hprofiles⟩

end EcuMult.Main
