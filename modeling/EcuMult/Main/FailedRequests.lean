import EcuMult.Main.Routes

/-!
# Requests that report an error

A response has a field "error" where a profile is unknown, or where the `try`
block was left by an exception. Most routes have changed nothing by then. POST
/odometer has, if its first field was applied and its second throws:
`error_changes_nothing_iff`.
-/

namespace EcuMult.Main

open EcuMult.Lib EcuMult.Core EcuMult.Manufacturers EcuMult.Simulation

/-- The response is an object with a field "error". -/
def ReportsError (response : Response) : Prop :=
  ∃ fields, response = some (.object fields) ∧ "error".toList ∈ fields.map Prod.fst

/-- What an ECU reports of itself is the same. -/
structure SameReports (impl impl' : BaseManufacturer) : Prop where
  odometer : impl'.odometerKm = impl.odometerKm
  trip : impl'.tripKm = impl.tripKm
  dtcs : impl'.dtcs = impl.dtcs
  profile : impl'.profileManager = impl.profileManager

theorem SameReports.refl (impl : BaseManufacturer) : SameReports impl impl := ⟨rfl, rfl, rfl, rfl⟩

namespace Emulator

variable {Doc : Type} {json : JsonLibrary Doc} {s : Emulator}

/-- And of the emulator, with the selected ECU. -/
structure Unchanged (s s' : Emulator) : Prop where
  profile : s'.profileManager = s.profileManager
  ecu : Option.Rel SameReports s.router.getCurrentImplementation
    s'.router.getCurrentImplementation

theorem Unchanged.refl (s : Emulator) : Unchanged s s := by
  refine ⟨rfl, ?_⟩
  cases s.router.getCurrentImplementation with
  | none => exact Option.Rel.none
  | some impl => exact Option.Rel.some (SameReports.refl impl)

/-- A new odometer is asked for, and something that is not a Boolean as the
reset of the trip. -/
def HalfApplied (json : JsonLibrary Doc) (s : Emulator) (call : Api.Call) : Prop :=
  call.path = "/odometer".toList ∧ call.method = "POST".toList ∧
    ∃ impl req km what, s.router.getCurrentImplementation = some impl ∧
      json.parse call.body = .ok req ∧ odometerValue json req = .ok (some km) ∧
      max 0 km ≠ impl.odometerKm ∧ resetValue json req = .error what

/-! ## The routes one by one -/

/-- A route that ends like this has done nothing, if it reports an error. -/
def Honest (s : Emulator) (result : Emulator × Except Text Response) : Prop :=
  (∃ what, result.2 = .error what) ∨ (∃ response, result.2 = .ok response ∧ ReportsError response) →
    Unchanged s result.1

theorem Honest.of_same {result : Emulator × Except Text Response} (h : result.1 = s) :
    Honest s result := by
  intro _
  rw [h]
  exact Unchanged.refl s

/-- A success is not an error. -/
theorem Honest.of_fields {result : Emulator × Except Text Response} {fields : List (Text × Json)}
    (h : result.2 = .ok (some (.object fields)))
    (hfields : "error".toList ∉ fields.map Prod.fst) : Honest s result := by
  intro hreports
  rcases hreports with ⟨what, herror⟩ | ⟨response, hok, fields', hobject, hmem⟩
  · rw [h] at herror
    cases herror
  · rw [h, hobject] at hok
    obtain rfl := Json.object.inj (Option.some.inj (Except.ok.inj hok).symm)
    exact absurd hmem hfields

theorem handleRoute_honest_iff (call : Api.Call) :
    (ReportsError (s.handleRoute json call).2 → Unchanged s (s.handleRoute json call).1) ↔
      Honest s (s.routes json call) := by
  unfold handleRoute Honest
  generalize s.routes json call = result
  obtain ⟨s', outcome⟩ := result
  cases outcome with
  | error what =>
    have hreports : ReportsError (some (errorResponse what)) :=
      ⟨_, rfl, List.mem_singleton.mpr rfl⟩
    exact ⟨fun h _ => h hreports, fun h _ => h (Or.inl ⟨what, rfl⟩)⟩
  | ok response =>
    constructor
    · intro h hreports
      rcases hreports with ⟨what, herror⟩ | ⟨response', hok, hmem⟩
      · cases herror
      · exact h (Except.ok.inj hok ▸ hmem)
    · intro h hreports
      exact h (Or.inr ⟨response, rfl, hreports⟩)

theorem postProfile_honest (body : Text) : Honest s (s.postProfile json body) := by
  unfold postProfile
  split
  · exact Honest.of_same rfl
  · split
    · exact Honest.of_same rfl
    · refine Honest.of_fields rfl ?_
      show "error".toList ∉ ["status".toList, "profile".toList]
      decide

theorem clearDTCs_honest : Honest s (s.clearDTCs.1, .ok s.clearDTCs.2) := by
  unfold clearDTCs
  split
  · exact Honest.of_same rfl
  · refine Honest.of_fields rfl ?_
    decide

/-- Setting the odometer shows, unless it shows that already. -/
theorem putCurrent_unchanged_iff {impl : BaseManufacturer} {km : Option ℚ}
    (h : s.router.getCurrentImplementation = some impl) :
    Unchanged s { s with router := s.router.putCurrent (setIfGiven impl km) } ↔
      ∀ given, km = some given → max 0 given = impl.odometerKm := by
  constructor
  · intro hsame given hgiven
    have hecu := hsame.ecu
    rw [h, hgiven] at hecu
    have hput : ({ s with router := s.router.putCurrent (setIfGiven impl (some given)) } :
        Emulator).router.getCurrentImplementation = some (impl.setOdometer given) :=
      ProtocolRouter.putCurrent_getCurrent _ _
    rw [hput] at hecu
    cases hecu with
    | some hreports => exact hreports.odometer
  · intro hgiven
    refine ⟨rfl, ?_⟩
    rw [h]
    show Option.Rel SameReports (some impl)
      (s.router.putCurrent (setIfGiven impl km)).getCurrentImplementation
    rw [ProtocolRouter.putCurrent_getCurrent]
    refine Option.Rel.some ?_
    cases km with
    | none => exact SameReports.refl impl
    | some given => exact ⟨hgiven given rfl, rfl, rfl, rfl⟩

theorem postOdometer_honest_iff (body : Text) :
    Honest s (s.postOdometer json body) ↔
      ¬ ∃ impl req km what, s.router.getCurrentImplementation = some impl ∧
        json.parse body = .ok req ∧ odometerValue json req = .ok (some km) ∧
        max 0 km ≠ impl.odometerKm ∧ resetValue json req = .error what := by
  rcases s.postOdometer_cases json body with
    ⟨hnone, h⟩ | ⟨impl, hcurrent, ⟨what, h, hnothing⟩ | ⟨req, km, hparse, hkm, hlast⟩⟩
  · rw [h]
    refine iff_of_true (Honest.of_same rfl) ?_
    intro ⟨impl, _, _, _, hcurrent, _⟩
    rw [hnone] at hcurrent
    cases hcurrent
  · rw [h]
    refine iff_of_true (Honest.of_same rfl) ?_
    intro ⟨_, req, km, _, _, hparse, hkm, _⟩
    exact hnothing ⟨req, some km, hparse, hkm⟩
  · rcases hlast with ⟨what, hreset, h⟩ | ⟨reset, fields, hreset, h⟩
    · rw [h]
      have hhonest : Honest s ({ s with router := s.router.putCurrent (setIfGiven impl km) },
          .error what) ↔
            Unchanged s { s with router := s.router.putCurrent (setIfGiven impl km) } :=
        ⟨fun hh => hh (Or.inl ⟨what, rfl⟩), fun hh _ => hh⟩
      rw [hhonest, putCurrent_unchanged_iff hcurrent]
      constructor
      · intro hsame ⟨impl', req', given, _, hcurrent', hparse', hgiven, hother, _⟩
        obtain rfl : impl = impl' := Option.some.inj (hcurrent.symm.trans hcurrent')
        obtain rfl : req = req' := Except.ok.inj (hparse.symm.trans hparse')
        exact hother (hsame given (Except.ok.inj (hkm.symm.trans hgiven)))
      · intro hnot given hgiven
        by_contra hother
        exact hnot ⟨impl, req, given, what, hcurrent, hparse, hgiven ▸ hkm, hother, hreset⟩
    · rw [h]
      have hfields : "error".toList ∉
          (Json.field "status" (Json.ofString "ok") :: odometerFields fields).map Prod.fst := by
        show "error".toList ∉ ["status".toList, "odometer_km".toList, "trip_km".toList]
        decide
      refine iff_of_true (Honest.of_fields rfl hfields) ?_
      intro ⟨_, req', _, what, _, hparse', _, _, herror⟩
      obtain rfl : req = req' := Except.ok.inj (hparse.symm.trans hparse')
      rw [hreset] at herror
      cases herror

/-! ## The handler -/

theorem routes_postOdometer {call : Api.Call} (hpath : call.path = "/odometer".toList)
    (hmethod : call.method = "POST".toList) :
    s.routes json call = s.postOdometer json call.body := by
  unfold routes
  dsimp only
  rw [hpath, hmethod, if_neg (by decide), if_neg (by decide), if_neg (by decide),
    if_neg (by decide), if_neg (by decide), if_pos ⟨rfl, rfl⟩]

theorem routes_honest {call : Api.Call}
    (hother : ¬ (call.path = "/odometer".toList ∧ call.method = "POST".toList)) :
    Honest s (s.routes json call) := by
  unfold routes
  dsimp only
  split_ifs
  · exact Honest.of_same rfl
  · exact Honest.of_same rfl
  · exact Honest.of_same rfl
  · exact postProfile_honest call.body
  · exact Honest.of_same rfl
  · exact Honest.of_same rfl
  · exact clearDTCs_honest
  · exact Honest.of_same rfl

/-- **An error means that nothing has changed**, unless a new odometer came with
something that is not a Boolean for the trip. -/
theorem error_changes_nothing_iff (json : JsonLibrary Doc) (s : Emulator) (call : Api.Call) :
    (ReportsError (s.handleRoute json call).2 → Unchanged s (s.handleRoute json call).1) ↔
      ¬ HalfApplied json s call := by
  rw [handleRoute_honest_iff]
  by_cases hpost : call.path = "/odometer".toList ∧ call.method = "POST".toList
  · rw [routes_postOdometer hpost.1 hpost.2, postOdometer_honest_iff, HalfApplied,
      and_iff_right hpost.1, and_iff_right hpost.2]
  · exact iff_of_true (routes_honest hpost) fun h => hpost ⟨h.1, h.2.1⟩

/-! ## A request that is half applied -/

/-- What the body `\x7b"odometer_km": 5, "reset_trip": "yes"\x7d` is parsed as. -/
def fiveAndYes : Json :=
  .object [Json.field "odometer_km" (.number 5), Json.field "reset_trip" (Json.ofString "yes")]

def setAndYes : Api.Call where
  path := "/odometer".toList
  method := "POST".toList
  body := "\x7b\"odometer_km\": 5, \"reset_trip\": \"yes\"\x7d".toList
  params := ∅

theorem setAndYes_half_applied :
    let json := Json.library fun body => if body = setAndYes.body then .ok fiveAndYes else .error []
    let s := start (fun mfr => ⟨0, 0, ProtocolRouter.getConfigFor mfr, 0⟩)
      ⟨"ford".toList, "normal".toList, none⟩
    ReportsError (s.handleRoute json setAndYes).2 ∧
      s.router.getCurrentImplementation.map BaseManufacturer.odometerKm = some 0 ∧
      (s.handleRoute json setAndYes).1.router.getCurrentImplementation.map
        BaseManufacturer.odometerKm = some 5 := by
  refine ⟨⟨_, rfl, List.mem_singleton.mpr rfl⟩, ?_, ?_⟩
  · decide +kernel
  · decide +kernel

end Emulator

end EcuMult.Main
