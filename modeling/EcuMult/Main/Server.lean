import EcuMult.Api.Responses
import EcuMult.Main.Loop

/-!
# The emulator behind HTTP

The server of `src/api/rest_api.cpp` with the handler that `src/main.cpp` gives it:
bytes come in, bytes go out, and the emulator is another one afterwards. As the
server loses the body behind every request line, the two routes that need one fail,
and what is left to change by HTTP are the trouble codes: `http_only_clears`.

Mirroring notes:
- `dump` prints a document.
- Clients are served one after the other, and rounds of the main loop go on in
  between.
-/

namespace EcuMult.Main

open EcuMult.Lib EcuMult.Core EcuMult.Manufacturers EcuMult.Simulation
open EcuMult.Api (RequestError ClientRequest)

namespace Emulator

variable {Doc : Type} (json : JsonLibrary Doc) (dump : Json → Text) (s : Emulator)

/-- The argument of `setRouteHandler`, while the emulator is as it is. -/
def routeHandler : Api.RouteHandler := fun call =>
  match (s.handleRoute json call).2 with
  | none => []
  | some doc => dump doc

/-- The emulator afterwards, and what is written back. -/
def serve (sent : Text) : Except RequestError (Emulator × Option Text) :=
  match Api.RESTAPI.serveClient (some (s.routeHandler json dump)) sent with
  | .error e => .error e
  | .ok none => .ok (s, none)
  | .ok (some served) =>
    let s := match served.called with
      | none => s
      | some call => (s.handleRoute json call).1
    .ok (s, some served.response)

/-! ## What a request without a body does -/

def call (r : ClientRequest) : Api.Call where
  path := Api.RESTAPI.upTo '?' r.path
  method := r.method
  body := []
  params := Api.RESTAPI.queryParams r.path

/-- The route that clears the trouble codes. -/
def Clears (call : Api.Call) : Prop :=
  call.path = "/dtcs/clear".toList ∧ call.method = "POST".toList

instance (call : Api.Call) : Decidable (Clears call) := inferInstanceAs (Decidable (_ ∧ _))

/-- What a client can do. A preflight is no `POST`. -/
def clearIfAsked (r : ClientRequest) : Emulator := if Clears (call r) then s.clearDTCs.1 else s

variable {json} (hparse : ∃ what, json.parse [] = .error what)

include hparse

theorem postProfile_empty : (s.postProfile json []).1 = s := by
  obtain ⟨what, hparse⟩ := hparse
  have hfails : requestedProfile json [] = .error what := by
    unfold requestedProfile
    rw [hparse]
    rfl
  unfold postProfile
  rw [hfails]

theorem postOdometer_empty : (s.postOdometer json []).1 = s := by
  obtain ⟨what, hparse⟩ := hparse
  unfold postOdometer
  rw [hparse]
  cases s.router.getCurrentImplementation <;> rfl

theorem handleRoute_bodiless {call : Api.Call} (hbody : call.body = []) :
    (s.handleRoute json call).1 = if Clears call then s.clearDTCs.1 else s := by
  rw [handleRoute_state]
  unfold routes
  dsimp only
  by_cases hclear : Clears call
  · rw [if_pos hclear, hclear.1, hclear.2, if_neg (by decide), if_neg (by decide),
      if_neg (by decide), if_neg (by decide), if_neg (by decide), if_neg (by decide),
      if_neg (by decide), if_pos ⟨rfl, rfl⟩]
  · rw [if_neg hclear, hbody]
    split_ifs with _ _ _ _ _ _ _ hroute
    · rfl
    · rfl
    · rfl
    · exact s.postProfile_empty hparse
    · rfl
    · exact s.postOdometer_empty hparse
    · rfl
    · exact absurd hroute hclear
    · rfl

omit hparse

/-! ## A day of the server -/

variable (json)

/-- What is due to a request. -/
def due (r : ClientRequest) : Api.RESTAPI.Due :=
  Api.RESTAPI.due (some (s.routeHandler json dump)) ⟨r.method, r.path, []⟩

variable {json} in
/-- A request either is a preflight, or reaches the route that it names. -/
theorem due_called (hparse : ∃ what, json.parse [] = .error what) (r : ClientRequest) :
    (match (s.due json dump r).called with
      | none => s
      | some called => (s.handleRoute json called).1) = s.clearIfAsked r := by
  unfold due Api.RESTAPI.due
  dsimp only
  by_cases hoptions : r.method = "OPTIONS".toList
  · have hother : ¬ Clears (call r) := by
      intro hclears
      exact absurd (hoptions.symm.trans hclears.2) (by decide)
    rw [if_pos hoptions]
    exact (if_neg hother).symm
  · rw [if_neg hoptions]
    have hcall : (s.handleRoute json (call r)).1 = s.clearIfAsked r :=
      -- what the handler gets has no body, so `POST /profile` has nothing to parse
      s.handleRoute_bodiless hparse rfl
    split
    next hcalled =>
      split at hcalled
      · cases hcalled
      · cases hcalled
    next hcalled =>
      split at hcalled
      · cases hcalled
        exact hcall
      · cases hcalled
        exact hcall

variable {json} in
theorem serve_text (hparse : ∃ what, json.parse [] = .error what) (r : ClientRequest) :
    s.serve json dump r.text =
      .ok (s.clearIfAsked r,
        some (Api.RESTAPI.meant (s.due json dump r).status (s.due json dump r).body).text) := by
  unfold serve
  rw [Api.RESTAPI.serveClient_line, Api.RESTAPI.respond_text]
  show Except.ok (_, _) = _
  rw [← s.due_called dump hparse r]
  rfl

inductive ServerEvent
  | client (r : ClientRequest)
  | round (i : RoundInputs)

/-- The emulator afterwards, and what has been written back. -/
def serveAll : Emulator → List ServerEvent → Except RequestError (Emulator × List Text)
  | s, [] => .ok (s, [])
  | s, .client r :: events => do
    let (s, response) ← s.serve json dump r.text
    let (s, responses) ← serveAll s events
    return (s, response.toList ++ responses)
  | s, .round i :: events => serveAll (s.loopRound i) events

/-- What it comes to: a client looks, and may clear the trouble codes. -/
def visit (s : Emulator) : ServerEvent → Emulator × List Api.RESTAPI.Due
  | .client r => (s.clearIfAsked r, [s.due json dump r])
  | .round i => (s.loopRound i, [])

theorem serveAll_eq (hparse : ∃ what, json.parse [] = .error what) (events : List ServerEvent) :
    ∀ s : Emulator, serveAll json dump s events =
      .ok ((feed (visit json dump) s events).1,
        (feed (visit json dump) s events).2.map fun d =>
          (Api.RESTAPI.meant d.status d.body).text) := by
  induction events with
  | nil => exact fun s => rfl
  | cons event events ih =>
    intro s
    cases event with
    | client r =>
      show (s.serve json dump r.text >>= _) = _
      rw [s.serve_text dump hparse]
      show (serveAll json dump (s.clearIfAsked r) events >>= _) = _
      rw [ih]
      rfl
    | round i => exact ih (s.loopRound i)

theorem clearIfAsked_profileManager (r : ClientRequest) :
    (s.clearIfAsked r).profileManager = s.profileManager := by
  unfold clearIfAsked clearDTCs
  split
  · split
    · rfl
    · rfl
  · rfl

theorem loopRound_profileManager (i : RoundInputs) :
    (s.loopRound i).profileManager = s.profileManager := by
  have hsync : ∀ s : Emulator, s.syncCurrent.profileManager = s.profileManager := by
    intro s
    unfold syncCurrent
    split <;> rfl
  unfold loopRound
  dsimp only
  rw [hsync]
  unfold injectFault
  split <;> rfl

variable {json}

/-- **HTTP clears, and nothing else.** All clients send a request line, and whatever
headers and body they like. Then each gets one response that reads as is due to it, with
what the emulator has to say at that moment; a preflight gets an empty one. Of the
emulator they change nothing but the trouble codes, by one route; the profile stays what
it was. `json::parse` throws at an empty text. -/
theorem http_only_clears (hparse : ∃ what, json.parse [] = .error what) (dump : Json → Text)
    (events : List ServerEvent) (s : Emulator) :
    ∃ responses,
      serveAll json dump s events = .ok ((feed (visit json dump) s events).1, responses) ∧
      responses.map Http.read =
        (feed (visit json dump) s events).2.map
          (fun d => some (Api.RESTAPI.meant d.status d.body, [])) ∧
      (feed (visit json dump) s events).1.profileManager = s.profileManager := by
  refine ⟨_, serveAll_eq json dump hparse events s, ?_, ?_⟩
  · rw [List.map_map]
    exact List.map_congr_left fun d _ => Api.RESTAPI.read_meant d.status d.body
  · rw [feed_state]
    refine run_inv (I := fun t : Emulator => t.profileManager = s.profileManager) ?_ events rfl
    intro t event h
    cases event with
    | client r => exact (t.clearIfAsked_profileManager r).trans h
    | round i => exact (t.loopRound_profileManager i).trans h

theorem http_only_clears_postProfile :
    let json := Json.library fun _ => .error "empty input".toList
    let dump : Json → Text := fun _ => "null".toList
    let s := start (fun mfr => ⟨0, 0, ProtocolRouter.getConfigFor mfr, 0⟩) ⟨[], [], none⟩
    let events :=
      [.client Api.RESTAPI.preflight, .client Api.RESTAPI.postProfile.toClientRequest,
        .round ⟨800, 0, 0, fun _ => 0, none⟩]
    ∃ responses,
      serveAll json dump s events = .ok ((feed (visit json dump) s events).1, responses) ∧
      responses.map Http.read =
        (feed (visit json dump) s events).2.map
          (fun d => some (Api.RESTAPI.meant d.status d.body, [])) ∧
      (feed (visit json dump) s events).1.profileManager = s.profileManager :=
  http_only_clears ⟨_, rfl⟩ _ _ _

end Emulator

end EcuMult.Main
