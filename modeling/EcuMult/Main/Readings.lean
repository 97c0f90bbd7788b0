import EcuMult.Main.Loop

/-!
# What requests and rounds do to the selected ECU

An API request and a round of the main loop change the selected ECU through a few of
its functions. What relates the ECU before any of these to the ECU after it
(`AllowsRequests`, `AllowsRounds`) relates the ECUs before and after a request or a
round: `step_related`. For a reading that none of the functions changes
(`Unaffected`) this is that it stays as it was, and so does the selection:
`step_kept`.
-/

namespace EcuMult.Main

open EcuMult.Lib EcuMult.Core EcuMult.Manufacturers EcuMult.Simulation

/-- What is related to itself, and to what its relatives are. -/
structure Lasting (R : BaseManufacturer → BaseManufacturer → Prop) : Prop where
  refl : ∀ impl, R impl impl
  trans : ∀ {impl impl' impl''}, R impl impl' → R impl' impl'' → R impl impl''

/-- The functions that POST /odometer calls. -/
structure AllowsOdometer (R : BaseManufacturer → BaseManufacturer → Prop) : Prop
    extends Lasting R where
  setOdometer : ∀ impl km, R impl (impl.setOdometer km)
  resetTrip : ∀ impl, R impl impl.resetTrip

/-- Those that a request calls. -/
structure AllowsRequests (R : BaseManufacturer → BaseManufacturer → Prop) : Prop
    extends AllowsOdometer R where
  clearDTCs : ∀ impl, R impl impl.clearDTCs
  setProfile : ∀ impl name, R impl (impl.setProfile name).1

/-- And those that a round calls, but for `setDTC`. -/
structure AllowsRounds (R : BaseManufacturer → BaseManufacturer → Prop) : Prop
    extends Lasting R where
  incrementOdometer : ∀ impl km, R impl (impl.incrementOdometer km)
  sensors : ∀ impl sim, R impl (syncSensors impl sim)

/-- The two routers have one selection, and what is selected is related. -/
structure Related (R : BaseManufacturer → BaseManufacturer → Prop) (r r' : ProtocolRouter) :
    Prop where
  manufacturer : r'.currentManufacturer = r.currentManufacturer
  current : Option.Rel R r.getCurrentImplementation r'.getCurrentImplementation

namespace Related

variable {R : BaseManufacturer → BaseManufacturer → Prop} {r r' r'' : ProtocolRouter}

theorem refl (hR : Lasting R) (r : ProtocolRouter) : Related R r r := by
  refine ⟨rfl, ?_⟩
  cases r.getCurrentImplementation with
  | none => exact Option.Rel.none
  | some impl => exact Option.Rel.some (hR.refl impl)

theorem trans (hR : Lasting R) (h : Related R r r') (h' : Related R r' r'') : Related R r r'' := by
  obtain ⟨hsame, hcurrent⟩ := h
  obtain ⟨hsame', hcurrent'⟩ := h'
  refine ⟨hsame'.trans hsame, ?_⟩
  generalize r.getCurrentImplementation = a at hcurrent ⊢
  generalize r'.getCurrentImplementation = b at hcurrent hcurrent'
  generalize r''.getCurrentImplementation = c at hcurrent' ⊢
  cases hcurrent with
  | none => exact hcurrent'
  | some hab =>
    cases hcurrent' with
    | some hbc => exact Option.Rel.some (hR.trans hab hbc)

theorem putCurrent {impl impl' : BaseManufacturer} (h : r.getCurrentImplementation = some impl)
    (hrelated : R impl impl') : Related R r (r.putCurrent impl') := by
  refine ⟨rfl, ?_⟩
  rw [ProtocolRouter.putCurrent_getCurrent, h]
  exact Option.Rel.some hrelated

theorem modifyCurrent (hR : Lasting R) (r : ProtocolRouter)
    {g : BaseManufacturer → BaseManufacturer} (hrelated : ∀ impl, R impl (g impl)) :
    Related R r (r.modifyCurrent g) := by
  unfold ProtocolRouter.modifyCurrent
  cases hcurrent : r.getCurrentImplementation with
  | none => exact refl hR r
  | some impl => exact putCurrent hcurrent (hrelated impl)

end Related

namespace Emulator

variable {Doc : Type} {json : JsonLibrary Doc} {R : BaseManufacturer → BaseManufacturer → Prop}

theorem postProfile_related (hR : AllowsRequests R) (s : Emulator) (body : Text) :
    Related R s.router (s.postProfile json body).1.router := by
  unfold postProfile
  split
  · exact Related.refl hR.toLasting _
  next name _ =>
  split
  · exact Related.refl hR.toLasting _
  · exact Related.modifyCurrent hR.toLasting s.router fun impl => hR.setProfile impl name

theorem postOdometer_related (hR : AllowsOdometer R) (s : Emulator) (body : Text) :
    Related R s.router (s.postOdometer json body).1.router := by
  have hset : ∀ impl km, R impl (setIfGiven impl km) := by
    intro impl km
    cases km with
    | none => exact hR.refl impl
    | some km => exact hR.setOdometer impl km
  have hreset : ∀ impl reset, R impl (resetIfAsked impl reset) := by
    intro impl reset
    unfold resetIfAsked
    split
    · exact hR.resetTrip impl
    · exact hR.refl impl
  rcases s.postOdometer_cases json body with
    ⟨-, h⟩ | ⟨impl, hcurrent, ⟨what, h, -⟩ | ⟨req, km, -, -, ⟨what, -, h⟩ | ⟨reset, fields, -, h⟩⟩⟩
  · rw [h]
    exact Related.refl hR.toLasting _
  · rw [h]
    exact Related.refl hR.toLasting _
  · rw [h]
    exact Related.putCurrent hcurrent (hset impl km)
  · rw [h]
    refine (Related.putCurrent hcurrent (hset impl km)).trans hR.toLasting ?_
    exact Related.putCurrent (ProtocolRouter.putCurrent_getCurrent _ _) (hreset _ reset)

theorem clearDTCs_related (hR : AllowsRequests R) (s : Emulator) :
    Related R s.router s.clearDTCs.1.router := by
  unfold clearDTCs
  split
  · exact Related.refl hR.toLasting _
  next impl hcurrent => exact Related.putCurrent hcurrent (hR.clearDTCs impl)

theorem handleRoute_related (hR : AllowsRequests R) (s : Emulator) (call : Api.Call) :
    Related R s.router (s.handleRoute json call).1.router := by
  rw [handleRoute_state]
  unfold routes
  dsimp only
  split_ifs
  · exact Related.refl hR.toLasting _
  · exact Related.refl hR.toLasting _
  · exact Related.refl hR.toLasting _
  · exact postProfile_related hR s call.body
  · exact Related.refl hR.toLasting _
  · exact postOdometer_related hR.toAllowsOdometer s call.body
  · exact Related.refl hR.toLasting _
  · exact clearDTCs_related hR s
  · exact Related.refl hR.toLasting _

theorem syncCurrent_related (hR : AllowsRounds R) (s : Emulator) :
    Related R s.router s.syncCurrent.router := by
  unfold syncCurrent
  split
  · exact Related.refl hR.toLasting _
  next impl hcurrent =>
    refine Related.putCurrent hcurrent ?_
    have hsensors := hR.sensors impl s.sensorSim
    rcases odometerStep_cases (syncSensors impl s.sensorSim) s.odoAccum
      s.sensorSim.vehicleSpeed with hsame | ⟨km, hcounted⟩
    · rw [hsame]
      exact hsensors
    · rw [hcounted]
      exact hR.trans hsensors (hR.incrementOdometer _ km)

theorem loopRound_related (hR : AllowsRounds R) (s : Emulator) (i : RoundInputs)
    (hset : ∀ code, i.fault = some code → ∀ (impl : BaseManufacturer) (description : Text),
      R impl (impl.setDTC code description true)) :
    Related R s.router (s.loopRound i).router := by
  refine Related.trans hR.toLasting ?_ (syncCurrent_related hR _)
  unfold injectFault
  split
  · exact Related.refl hR.toLasting _
  next code hfault =>
    exact Related.modifyCurrent hR.toLasting s.router fun impl => hset code hfault impl _

/-- **What is related.** -/
theorem step_related (hrequests : AllowsRequests R) (hrounds : AllowsRounds R)
    (hset : ∀ (impl : BaseManufacturer) (code : UInt16) (description : Text),
      R impl (impl.setDTC code description true))
    (s : Emulator) (event : Event) : Related R s.router (s.step json event).router := by
  cases event with
  | request call => exact handleRoute_related hrequests s call
  | round i =>
    exact loopRound_related hrounds s i fun code _ impl description => hset impl code description

end Emulator

/-! ## Readings -/

variable {α : Type}

/-- No function that a request or a round calls changes the reading. -/
structure Unaffected (f : BaseManufacturer → α) : Prop where
  setOdometer : ∀ impl km, f (impl.setOdometer km) = f impl
  incrementOdometer : ∀ impl km, f (impl.incrementOdometer km) = f impl
  resetTrip : ∀ impl, f impl.resetTrip = f impl
  clearDTCs : ∀ impl, f impl.clearDTCs = f impl
  setDTC : ∀ impl code description, f (impl.setDTC code description true) = f impl
  setProfile : ∀ impl name, f (impl.setProfile name).1 = f impl
  sensors : ∀ impl sim, f (syncSensors impl sim) = f impl

section

variable {f : BaseManufacturer → α} (hf : Unaffected f)

include hf

theorem Unaffected.allowsRequests : AllowsRequests fun impl impl' => f impl' = f impl where
  refl _ := rfl
  trans h h' := h'.trans h
  setOdometer := hf.setOdometer
  resetTrip := hf.resetTrip
  clearDTCs := hf.clearDTCs
  setProfile := hf.setProfile

theorem Unaffected.allowsRounds : AllowsRounds fun impl impl' => f impl' = f impl where
  refl _ := rfl
  trans h h' := h'.trans h
  incrementOdometer := hf.incrementOdometer
  sensors := hf.sensors

end

/-- The two routers have one selection, and it reads alike. -/
structure Kept (f : BaseManufacturer → α) (r r' : ProtocolRouter) : Prop where
  manufacturer : r'.currentManufacturer = r.currentManufacturer
  reading : r'.getCurrentImplementation.map f = r.getCurrentImplementation.map f

theorem Related.kept {f : BaseManufacturer → α} {r r' : ProtocolRouter}
    (h : Related (fun impl impl' => f impl' = f impl) r r') : Kept f r r' := by
  obtain ⟨hsame, hcurrent⟩ := h
  refine ⟨hsame, ?_⟩
  generalize r.getCurrentImplementation = a at hcurrent ⊢
  generalize r'.getCurrentImplementation = b at hcurrent ⊢
  cases hcurrent with
  | none => rfl
  | some hread => exact congrArg some hread

/-- **What is left alone.** -/
theorem Emulator.step_kept {Doc : Type} {json : JsonLibrary Doc} {f : BaseManufacturer → α}
    (hf : Unaffected f) (s : Emulator) (event : Emulator.Event) :
    Kept f s.router (s.step json event).router :=
  (Emulator.step_related hf.allowsRequests hf.allowsRounds
    (fun impl code description => hf.setDTC impl code description) s event).kept

/-- The configuration of an ECU is nobody's business but the router's. -/
theorem unaffected_config : Unaffected BaseManufacturer.config where
  setOdometer _ _ := rfl
  incrementOdometer impl km := by
    unfold BaseManufacturer.incrementOdometer
    split <;> rfl
  resetTrip _ := rfl
  clearDTCs _ := rfl
  setDTC _ _ _ := rfl
  setProfile impl name := by
    unfold BaseManufacturer.setProfile
    dsimp only
    split
    · rw [BaseManufacturer.applyProfileDTCs_eq]
    · rfl
  sensors _ _ := rfl

end EcuMult.Main
