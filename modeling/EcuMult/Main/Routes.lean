import EcuMult.Api.RestApi
import EcuMult.Main.Emulator
import EcuMult.Simulation.RpmProfile

/-!
# The route handler

`src/main.cpp`, the argument of `setRouteHandler`. All routes share one `try`
block. What a route has changed when it throws stays changed; the response is
then the text of the exception.

Mirroring notes:
- A response is the document that is printed, and printing does not throw.
  None is the empty string, which the caller takes for 404.
- The names of the profiles come in the order of the map's entries here.
-/

namespace EcuMult.Main

open EcuMult.Lib EcuMult.Core EcuMult.Manufacturers EcuMult.Simulation

abbrev Response := Option Json

def errorResponse (what : Text) : Json := .object [Json.field "error" (.string what)]

namespace Emulator

variable {Doc : Type} (json : JsonLibrary Doc) (s : Emulator)

/-! ## Routes that only read -/

def health : Json :=
  .object [
    Json.field "status" (Json.ofString "ok"),
    Json.field "service" (Json.ofString "ECU Multi-Emulator"),
    Json.field "version" (Json.ofString "1.0.0"),
    Json.field "profile" (match s.profileManager.getCurrentProfile with
      | some prof => .string prof.name
      | none => Json.ofString "none"),
    Json.field "uptime_seconds" (.number s.simTime)]

def profileInfo : Response :=
  s.profileManager.getCurrentProfile.map fun prof =>
    .object [
      Json.field "name" (.string prof.name),
      Json.field "description" (.string prof.driving.description),
      Json.field "unstable_idle" (.bool prof.driving.unstableIdle),
      Json.field "rpm_idle"
        (.array [.number prof.driving.rpmIdleMin, .number prof.driving.rpmIdleMax]),
      Json.field "active_dtcs" (.array (prof.activeDtcs.map fun code => .number code.toNat))]

def profileNames : Json := .array (s.profileManager.profiles.keys.map Json.string)

def odometerFields (impl : BaseManufacturer) : List (Text × Json) :=
  [Json.field "odometer_km" (.number impl.odometerKm), Json.field "trip_km" (.number impl.tripKm)]

def odometerInfo : Response :=
  s.router.getCurrentImplementation.map fun impl => .object (odometerFields impl)

def dtcInfo (params : Api.Params) : Response :=
  s.router.getCurrentImplementation.map fun impl =>
    .array ((impl.getDTCs (!(params.lookup "all".toList).isSome)).map fun dtc =>
      .object [
        Json.field "code" (.number dtc.code.toNat),
        Json.field "description" (.string dtc.description),
        Json.field "pending" (.bool dtc.isPending)])

/-! ## POST /profile -/

def requestedProfile (body : Text) : Except Text Text := do
  let req ← json.parse body
  json.valueString req "name".toList "normal".toList

def postProfile (body : Text) : Emulator × Except Text Response :=
  match requestedProfile json body with
  | .error what => (s, .error what)
  | .ok name =>
    match s.profileManager.selectProfile name with
    | (_, false) => (s, .ok (some (errorResponse ("Unknown profile: ".toList ++ name))))
    | (pm, true) =>
      ({ s with
          profileManager := pm
          -- sync to manufacturer
          router := s.router.modifyCurrent fun impl => (impl.setProfile name).1 },
        .ok (some (.object [
          Json.field "status" (Json.ofString "ok"), Json.field "profile" (.string name)])))

/-! ## POST /odometer -/

/-- The first of the two fields. -/
def odometerField (impl : BaseManufacturer) (req : Doc) : Except Text BaseManufacturer := do
  if json.contains req "odometer_km".toList then
    let odometerKm ← json.index req "odometer_km".toList
    let km ← json.getFloat odometerKm
    return impl.setOdometer km
  else return impl

/-- And the second. -/
def resetTripField (impl : BaseManufacturer) (req : Doc) : Except Text BaseManufacturer := do
  if json.contains req "reset_trip".toList then
    let resetTrip ← json.index req "reset_trip".toList
    let reset ← json.getBool resetTrip
    return if reset then impl.resetTrip else impl
  else return impl

def postOdometer (body : Text) : Emulator × Except Text Response :=
  match s.router.getCurrentImplementation with
  | none => (s, .ok none)
  | some impl =>
    match json.parse body with
    | .error what => (s, .error what)
    | .ok req =>
      match odometerField json impl req with
      | .error what => (s, .error what)
      | .ok impl =>
        let s := { s with router := s.router.putCurrent impl }
        match resetTripField json impl req with
        | .error what => (s, .error what)
        | .ok impl =>
          ({ s with router := s.router.putCurrent impl },
            .ok (some (.object (Json.field "status" (Json.ofString "ok") :: odometerFields impl))))

/-! ## POST /dtcs/clear -/

def clearDTCs : Emulator × Response :=
  match s.router.getCurrentImplementation with
  | none => (s, none)
  | some impl =>
    ({ s with router := s.router.putCurrent impl.clearDTCs },
      some (.object [Json.field "status" (Json.ofString "ok")]))

/-! ## The handler -/

/-- The `try` block. -/
def routes (call : Api.Call) : Emulator × Except Text Response :=
  let at_ (path method : String) := call.path = path.toList ∧ call.method = method.toList
  if call.path = "/".toList ∨ call.path = "/health".toList then (s, .ok (some s.health))
  else if at_ "/profile" "GET" then (s, .ok s.profileInfo)
  else if at_ "/profiles" "GET" then (s, .ok (some s.profileNames))
  else if at_ "/profile" "POST" then s.postProfile json call.body
  else if at_ "/odometer" "GET" then (s, .ok s.odometerInfo)
  else if at_ "/odometer" "POST" then s.postOdometer json call.body
  else if at_ "/dtcs" "GET" then (s, .ok (s.dtcInfo call.params))
  else if at_ "/dtcs/clear" "POST" then (s.clearDTCs.1, .ok s.clearDTCs.2)
  else (s, .ok none)

def handleRoute (call : Api.Call) : Emulator × Response :=
  match s.routes json call with
  | (s, .ok response) => (s, response)
  | (s, .error what) => (s, some (errorResponse what))

/-! ## What a body of POST /odometer asks for -/

/-- What the first field sets the odometer to, if it is there. -/
def odometerValue (req : Doc) : Except Text (Option ℚ) := do
  if json.contains req "odometer_km".toList then
    let odometerKm ← json.index req "odometer_km".toList
    return some (← json.getFloat odometerKm)
  else return none

/-- Whether the trip is to be reset, if that field is there. -/
def resetValue (req : Doc) : Except Text (Option Bool) := do
  if json.contains req "reset_trip".toList then
    let resetTrip ← json.index req "reset_trip".toList
    return some (← json.getBool resetTrip)
  else return none

/-- The ECU once the first field is dealt with. -/
def setIfGiven (impl : BaseManufacturer) (km : Option ℚ) : BaseManufacturer :=
  (km.map impl.setOdometer).getD impl

/-- And the second. -/
def resetIfAsked (impl : BaseManufacturer) (reset : Option Bool) : BaseManufacturer :=
  if reset = some true then impl.resetTrip else impl

theorem odometerField_eq (impl : BaseManufacturer) (req : Doc) :
    odometerField json impl req = (odometerValue json req).map (setIfGiven impl) := by
  unfold odometerField odometerValue
  split
  · cases json.index req "odometer_km".toList with
    | error what => rfl
    | ok odometerKm =>
      show json.getFloat odometerKm >>= _ = Except.map _ (json.getFloat odometerKm >>= _)
      cases json.getFloat odometerKm <;> rfl
  · rfl

theorem resetTripField_eq (impl : BaseManufacturer) (req : Doc) :
    resetTripField json impl req = (resetValue json req).map (resetIfAsked impl) := by
  unfold resetTripField resetValue
  split
  · cases json.index req "reset_trip".toList with
    | error what => rfl
    | ok resetTrip =>
      show json.getBool resetTrip >>= _ = Except.map _ (json.getBool resetTrip >>= _)
      rcases json.getBool resetTrip with _ | _ | _ <;> rfl
  · rfl

/-- **All that POST /odometer does.** There is no ECU; the body does not say
what the odometer is to be; it does, but the second field throws; or both are
dealt with. -/
theorem postOdometer_cases (body : Text) :
    (s.router.getCurrentImplementation = none ∧ s.postOdometer json body = (s, .ok none)) ∨
    ∃ impl, s.router.getCurrentImplementation = some impl ∧
      ((∃ what, s.postOdometer json body = (s, .error what) ∧
          ¬ ∃ req km, json.parse body = .ok req ∧ odometerValue json req = .ok km) ∨
        ∃ req km, json.parse body = .ok req ∧ odometerValue json req = .ok km ∧
          ((∃ what, resetValue json req = .error what ∧
              s.postOdometer json body =
                ({ s with router := s.router.putCurrent (setIfGiven impl km) }, .error what)) ∨
            ∃ reset fields, resetValue json req = .ok reset ∧
              s.postOdometer json body =
                ({ s with
                    router := (s.router.putCurrent (setIfGiven impl km)).putCurrent
                      (resetIfAsked (setIfGiven impl km) reset) },
                  .ok (some (.object (Json.field "status" (Json.ofString "ok") ::
                    odometerFields fields)))))) := by
  unfold postOdometer
  cases s.router.getCurrentImplementation with
  | none => exact Or.inl ⟨rfl, rfl⟩
  | some impl =>
    refine Or.inr ⟨impl, rfl, ?_⟩
    cases hparse : json.parse body with
    | error what => exact Or.inl ⟨what, rfl, fun ⟨_, _, h, _⟩ => nomatch h⟩
    | ok req =>
      dsimp only
      rw [odometerField_eq]
      cases hkm : odometerValue json req with
      | error what =>
        refine Or.inl ⟨what, rfl, fun ⟨req', km, h, hvalue⟩ => ?_⟩
        obtain rfl := Except.ok.inj h
        rw [hkm] at hvalue
        cases hvalue
      | ok km =>
        refine Or.inr ⟨req, km, rfl, hkm, ?_⟩
        dsimp only [Except.map]
        rw [resetTripField_eq]
        cases hreset : resetValue json req with
        | error what => exact Or.inl ⟨what, rfl, rfl⟩
        | ok reset => exact Or.inr ⟨reset, _, rfl, rfl⟩

/-! ## What routes do to the state -/

theorem handleRoute_state (call : Api.Call) :
    (s.handleRoute json call).1 = (s.routes json call).1 := by
  unfold handleRoute
  obtain ⟨s', result⟩ := s.routes json call
  cases result <;> rfl

variable {json} {impl impl' : BaseManufacturer} {req : Doc}

theorem odometerField_cases (h : odometerField json impl req = .ok impl') :
    impl' = impl ∨ ∃ km, impl' = impl.setOdometer km := by
  unfold odometerField at h
  split at h
  · obtain ⟨_, -, h⟩ := ok_of_bind h
    obtain ⟨km, -, h⟩ := ok_of_bind h
    cases h
    exact Or.inr ⟨km, rfl⟩
  · cases h
    exact Or.inl rfl

theorem resetTripField_cases (h : resetTripField json impl req = .ok impl') :
    impl' = impl ∨ impl' = impl.resetTrip := by
  unfold resetTripField at h
  split at h
  · obtain ⟨_, -, h⟩ := ok_of_bind h
    obtain ⟨reset, -, h⟩ := ok_of_bind h
    cases h
    cases reset with
    | false => exact Or.inl rfl
    | true => exact Or.inr rfl
  · cases h
    exact Or.inl rfl

end Emulator

end EcuMult.Main
