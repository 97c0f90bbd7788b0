import EcuMult.Core.CanThreads
import EcuMult.Main.Conversation

/-!
# The program on the bus

`src/main.cpp` with its threads: the receiver hands frames to the route of the
selected ECU, the sender writes what the ECU queued, the API and the main loop go
on meanwhile, and whoever else is on the bus sends what he likes. The socket is
opened with `CAN_RAW_RECV_OWN_MSGS`, so the kernel gives the program what it sends
back as received. `no_echo` says that this comes to nothing: the program answers
what the emulator answers when it is only asked by others, in the same order.

Mirroring notes:
- A received frame that the kernel looped back is marked. The program does not see
  the mark; a handled frame carries it for the statement.
- A frame, a request and a round are one step each: that the C++ lets them run into
  each other without a lock is not modelled.
- What the kernel loops back is in the inbox with the write itself, or it is dropped.
  That it comes later, behind a frame of somebody else, is left out.
- That the kernel drops the frame of somebody else is the same as that frame not being
  sent.
- A frame that makes an ECU read past its data ends the run: there is no state
  after it.
-/

namespace EcuMult.Main

open EcuMult.Lib EcuMult.Core EcuMult.Manufacturers EcuMult.Simulation

/-- A frame that waits in the kernel. -/
structure Waiting where
  own : Bool
  frame : CANFrame

structure Program where
  emulator : Emulator
  can : ThreadedCANManager Unit
  inbox : List Waiting

inductive ProgramEvent
  /-- Somebody else sends a frame. -/
  | arrive (cf : CANFrame)
  | start (socket : Option Nat) (configured : Bool)
  | stop
  | join
  /-- A step of the sender. -/
  | transmit (written looped : Bool)
  /-- A step of the receiver. -/
  | receive (failed : Bool) (inputs : Inputs)
  | request (call : Api.Call)
  | round (i : RoundInputs)

/-- What is seen of a step. -/
inductive Occurrence
  | action (a : CANAction Unit)
  | handled (own : Bool) (inputs : Inputs) (cf : CANFrame)
  | request (call : Api.Call)
  | round (i : RoundInputs)

namespace Program

/-- The program once the callback is registered. -/
def new (s : Emulator) : Program where
  emulator := s
  can := ThreadedCANManager.new.registerCallback 0x000 0x000 (some ())
  inbox := []

variable {Doc : Type} (json : JsonLibrary Doc)

/-! ## Steps -/

/-- A step of the CAN manager alone. -/
def device (p : Program) (event : CANEvent Unit) : Program × List Occurrence :=
  let (can, actions) := p.can.step event
  ({ p with can := can }, actions.map Occurrence.action)

/-- What the kernel has to loop back. -/
def loopedBack : CANAction Unit → List Waiting
  | .written _ frame ok => if ok then [⟨true, frame⟩] else []
  | _ => []

def transmit (p : Program) (written looped : Bool) : Program × List Occurrence :=
  let (can, actions) := p.can.step (.txLoop written)
  ({ p with
      can := can
      inbox := if looped then p.inbox ++ actions.flatMap loopedBack else p.inbox },
    actions.map Occurrence.action)

/-- The callbacks, one after the other. -/
def callBack (inputs : Inputs) (cf : CANFrame) (callbacks : List Unit)
    (x : ProtocolRouter × CANManager) : Except OutOfRange (ProtocolRouter × CANManager) :=
  callbacks.foldlM (fun x _ => routeCANFrame x.1 x.2 inputs cf) x

/-- The receiver takes the first frame of the inbox. -/
def handle (p : Program) (inputs : Inputs) (first : Waiting) (rest : List Waiting) :
    Option Program × List Occurrence :=
  let (can, actions) := p.can.step (.rxLoop (.frame first.frame))
  match callBack inputs first.frame (p.can.callbacks first.frame)
      (p.emulator.router, can.toCANManager) with
  | .error _ => (none, actions.map Occurrence.action)
  | .ok (router, cm) =>
    (some {
        emulator := { p.emulator with router := router }
        can := { can with toCANManager := cm }
        inbox := rest },
      actions.map Occurrence.action ++ [.handled first.own inputs first.frame])

def receive (p : Program) (failed : Bool) (inputs : Inputs) : Option Program × List Occurrence :=
  if p.can.rxThread = .polling ∧ ¬ failed then
    match p.inbox with
    | [] => (p.device (.rxLoop .nothing)).map some id
    | first :: rest => p.handle inputs first rest
  else (p.device (.rxLoop .failed)).map some id

/-- A step, and what is seen of it. The kernel keeps frames for an open socket
only. -/
def next (p : Program) : ProgramEvent → Option Program × List Occurrence
  | .arrive cf =>
    (some (if p.can.socket.isSome then { p with inbox := p.inbox ++ [⟨false, cf⟩] } else p), [])
  | .start socket configured => (p.device (.start socket configured)).map some id
  | .stop => (p.device .stop).map some id
  | .join =>
    let (p', occurrences) := p.device .join
    (some (if p'.can.socket.isSome then p' else { p' with inbox := [] }), occurrences)
  | .transmit written looped => (p.transmit written looped).map some id
  | .receive failed inputs => p.receive failed inputs
  | .request call =>
    (some { p with emulator := p.emulator.step json (.request call) }, [.request call])
  | .round i => (some { p with emulator := p.emulator.step json (.round i) }, [.round i])

/-- The run ends where there is no state. -/
def step : Option Program → ProgramEvent → Option Program × List Occurrence
  | none, _ => (none, [])
  | some p, event => p.next json event

/-! ## What is seen of a run -/

/-- What others ask, and what the API and the main loop do. -/
def stimuli : Occurrence → List Stimulus
  | .handled false inputs cf => [.frame inputs cf]
  | .handled true _ _ | .action _ => []
  | .request call => [.request call]
  | .round i => [.round i]

/-- What is given to the kernel to send. -/
def transmitted : Occurrence → List CANFrame
  | .action a => ThreadedCANManager.attempted a
  | _ => []

theorem stimuli_actions (actions : List (CANAction Unit)) :
    (actions.map Occurrence.action).flatMap stimuli = [] := by
  rw [List.flatMap_map, List.flatMap_eq_nil_iff]
  exact fun _ _ => rfl

theorem transmitted_actions (actions : List (CANAction Unit)) :
    (actions.map Occurrence.action).flatMap transmitted =
      actions.flatMap ThreadedCANManager.attempted := by
  rw [List.flatMap_map]
  rfl

/-! ## The program and the emulator -/

/-- What the program has done so far is what the emulator does when it is asked by
others alone, up to what is still to be sent. `s₀` is the emulator at the start. -/
structure Follows (m : ManufacturerClass) (s₀ : Emulator) (o : List Occurrence) (p : Program) :
    Prop where
  selected : Selected m p.emulator.router
  filters : p.can.filters = [⟨0x000, 0x000, some ()⟩]
  inbox : ∀ w ∈ p.inbox, w.own = true → standardId w.frame = 0x7E8
  conversation : s₀.converse json (o.flatMap stimuli) =
    .ok (p.emulator, o.flatMap transmitted ++ p.can.pending)

variable {json} {m : ManufacturerClass} {s₀ : Emulator} {o : List Occurrence} {p : Program}

theorem follows_new (h : Selected m s₀.router) : Follows json m s₀ [] (new s₀) where
  selected := h
  filters := rfl
  inbox := List.forall_mem_nil _
  conversation := rfl

namespace Follows

/-- What has been sent and what is still to be sent comes from an ECU. -/
theorem fromEcu (h : Follows json m s₀ o p) (hstart : Selected m s₀.router) :
    ∀ cf ∈ o.flatMap transmitted ++ p.can.pending, Emulator.FromEcu cf :=
  (Emulator.converse_answers hstart h.conversation).2.2

/-- A step of the CAN manager that sends nothing new. -/
theorem device (h : Follows json m s₀ o p) {event : CANEvent Unit}
    (hsent : ThreadedCANManager.sent event = [])
    (hfilters : (p.can.step event).1.filters = p.can.filters) {inbox : List Waiting}
    (hinbox : ∀ w ∈ inbox, w.own = true → standardId w.frame = 0x7E8) :
    Follows json m s₀ (o ++ (p.can.step event).2.map Occurrence.action)
      { p with can := (p.can.step event).1, inbox := inbox } := by
  refine ⟨h.selected, hfilters.trans h.filters, hinbox, ?_⟩
  have hpending := p.can.step_pending event
  rw [hsent, List.append_nil] at hpending
  rw [List.flatMap_append, List.flatMap_append, stimuli_actions, transmitted_actions,
    List.append_nil, List.append_assoc]
  show _ = Except.ok (p.emulator, _ ++ (_ ++ (p.can.step event).1.pending))
  rw [hpending]
  exact h.conversation

/-- The copies that the kernel makes are of frames that have been sent. -/
theorem loopedBack_own {actions : List (CANAction Unit)} {w : Waiting}
    (hw : w ∈ actions.flatMap loopedBack) :
    w.frame ∈ actions.flatMap ThreadedCANManager.attempted := by
  obtain ⟨action, hmem, hlooped⟩ := List.mem_flatMap.mp hw
  refine List.mem_flatMap.mpr ⟨action, hmem, ?_⟩
  cases action with
  | written fd frame ok =>
    cases ok with
    | false => exact nomatch hlooped
    | true =>
      obtain rfl := List.mem_singleton.mp hlooped
      exact List.mem_singleton.mpr rfl
  | _ => exact nomatch hlooped

theorem transmit (h : Follows json m s₀ o p) (hstart : Selected m s₀.router)
    (written looped : Bool) :
    Follows json m s₀ (o ++ (p.transmit written looped).2) (p.transmit written looped).1 := by
  have hfilters := p.can.step_filters (.txLoop written)
  refine h.device rfl hfilters ?_
  cases looped with
  | false => exact h.inbox
  | true =>
    intro w hw hown
    rcases List.mem_append.mp hw with hbefore | hlooped
    · exact h.inbox w hbefore hown
    · -- what is looped back was pending, and so it comes from an ECU
      have hpending : _ ++ (p.can.step (.txLoop written)).1.pending = p.can.pending ++ [] :=
        p.can.step_pending (.txLoop written)
      have hmem : w.frame ∈ p.can.pending := by
        rw [← List.append_nil p.can.pending, ← hpending]
        exact List.mem_append_left _ (loopedBack_own hlooped)
      exact (h.fromEcu hstart w.frame (List.mem_append_right _ hmem)).standardId

/-- There is one callback, for all frames. -/
theorem callbacks (h : Follows json m s₀ o p) (cf : CANFrame) : p.can.callbacks cf = [()] := by
  have haccepts : (⟨0x000, 0x000, some ()⟩ : FilterEntry Unit).heardBy cf = some () := by
    unfold FilterEntry.heardBy FilterEntry.accepts
    rw [UInt32.and_zero, UInt32.and_zero]
    rfl
  unfold ThreadedCANManager.callbacks
  rw [h.filters, List.filterMap_cons, haccepts]
  rfl

theorem callBack_callbacks (h : Follows json m s₀ o p) (inputs : Inputs) (cf : CANFrame)
    (x : ProtocolRouter × CANManager) :
    callBack inputs cf (p.can.callbacks cf) x = routeCANFrame x.1 x.2 inputs cf := by
  unfold callBack
  rw [h.callbacks]
  exact bind_pure _

/-- A frame from elsewhere is answered at the end of the queue. -/
theorem other (h : Follows json m s₀ o p) {inputs : Inputs} {cf : CANFrame}
    {router : ProtocolRouter} {sent : List CANFrame}
    (hroute : routeCANFrame p.emulator.router ⟨[]⟩ inputs cf = .ok (router, ⟨sent⟩)) :
    Follows json m s₀ (o ++ [.handled false inputs cf])
      { p with
        emulator := { p.emulator with router := router }
        can := { p.can with toCANManager := ⟨p.can.txQueue ++ sent⟩ } } := by
  refine ⟨h.selected.routeCANFrame hroute, h.filters, h.inbox, ?_⟩
  rw [List.flatMap_append, List.flatMap_append]
  show s₀.converse json (_ ++ [.frame inputs cf]) =
    .ok (_, _ ++ [] ++ (p.can.held ++ (p.can.txQueue ++ sent)))
  rw [Emulator.converse_concat (.frame inputs cf) h.conversation]
  show Except.map _ (Except.map _ (routeCANFrame p.emulator.router ⟨[]⟩ inputs cf)) = _
  rw [hroute, List.append_nil, ← List.append_assoc p.can.held, ← List.append_assoc]
  rfl

end Follows

variable (json s₀) in
/-- The step is the receiver's, and the first frame of the inbox is one that the emulator
cannot go on after either. It is the last thing that is seen. -/
def ReadsPast (p : Program) (o : List Occurrence) (event : ProgramEvent)
    (seen : List Occurrence) : Prop :=
  ∃ failed inputs first rest err, event = .receive failed inputs ∧ p.inbox = first :: rest ∧
    seen.getLast? = some (.action (.called () first.frame)) ∧
    s₀.converse json (o.flatMap stimuli ++ [.frame inputs first.frame]) = .error err

variable (json m s₀) in
/-- What comes of a step: the program still follows the emulator, or both have read past a
frame. -/
def Mirrors (p : Program) (o : List Occurrence) (event : ProgramEvent) :
    Option Program × List Occurrence → Prop :=
  GoesOrEnds (fun p o => Follows json m s₀ o p) (ReadsPast json s₀ p o event) o

namespace Follows

/-- A frame of its own tells the program nothing. -/
theorem own (h : Follows json m s₀ o p) (inputs : Inputs) (cf : CANFrame) :
    Follows json m s₀ (o ++ [.handled true inputs cf]) p := by
  refine ⟨h.selected, h.filters, h.inbox, ?_⟩
  rw [List.flatMap_append, List.flatMap_append]
  show s₀.converse json (_ ++ []) = .ok (_, _ ++ [] ++ _)
  rw [List.append_nil, List.append_nil]
  exact h.conversation

/-- A frame that was polled is handed to the one callback. -/
theorem polled (h : Follows json m s₀ o p) (hpolling : p.can.rxThread = .polling) (cf : CANFrame) :
    (p.can.step (.rxLoop (.frame cf))).2 = [.polled p.can.socket, .called () cf] := by
  show (p.can.rxLoop (.frame cf)).2 = _
  unfold ThreadedCANManager.rxLoop
  rw [hpolling]
  dsimp only
  rw [h.callbacks]
  rfl

theorem handle (h : Follows json m s₀ o p) (failed : Bool) (inputs : Inputs)
    (hpolling : p.can.rxThread = .polling) {first : Waiting} {rest : List Waiting}
    (hinbox : p.inbox = first :: rest) :
    Mirrors json m s₀ p o (.receive failed inputs) (p.handle inputs first rest) := by
  have hrest : ∀ w ∈ rest, w.own = true → standardId w.frame = 0x7E8 := by
    intro w hw
    exact h.inbox w (hinbox ▸ List.mem_cons_of_mem _ hw)
  have hdevice : Follows json m s₀ _ { p with can := _, inbox := rest } :=
    h.device rfl (p.can.step_filters (.rxLoop (.frame first.frame))) hrest
  have hactions := h.polled hpolling first.frame
  unfold Program.handle
  -- the step of the device first, and then what the callback does
  generalize p.can.step (.rxLoop (.frame first.frame)) = device at hdevice hactions
  obtain ⟨can, actions⟩ := device
  dsimp only at hdevice hactions ⊢
  rw [h.callBack_callbacks]
  cases hfirst : first.own with
  | true =>
    have hid := h.inbox first (hinbox ▸ List.mem_cons_self) hfirst
    have hroute : routeCANFrame p.emulator.router can.toCANManager inputs first.frame = _ :=
      routeCANFrame_own h.selected can.toCANManager inputs hid
    rw [hroute]
    show Follows json m s₀ (o ++ (_ ++ _)) _
    rw [← List.append_assoc]
    exact hdevice.own inputs first.frame
  | false =>
    rw [routeCANFrame_eq]
    cases hroute : routeCANFrame p.emulator.router ⟨[]⟩ inputs first.frame with
    | error err =>
      -- the emulator reads past the same frame
      refine ⟨failed, inputs, first, rest, err, rfl, hinbox, ?_, ?_⟩
      · rw [hactions]
        rfl
      · rw [Emulator.converse_concat (.frame inputs first.frame) h.conversation]
        show Except.map _ (Except.map _ (routeCANFrame p.emulator.router ⟨[]⟩ inputs _)) = _
        rw [hroute]
        rfl
    | ok r =>
      obtain ⟨router, ⟨sent⟩⟩ := r
      show Follows json m s₀ (o ++ (_ ++ _)) _
      rw [← List.append_assoc]
      exact hdevice.other hroute

theorem receive (h : Follows json m s₀ o p) (failed : Bool) (inputs : Inputs) :
    Mirrors json m s₀ p o (.receive failed inputs) (p.receive failed inputs) := by
  unfold Program.receive
  split
  next hreads =>
    split
    next hinbox => exact h.device rfl (p.can.step_filters (.rxLoop .nothing)) h.inbox
    next first rest hinbox => exact h.handle failed inputs hreads.1 hinbox
  next => exact h.device rfl (p.can.step_filters (.rxLoop .failed)) h.inbox

/-- The API and the main loop send nothing. -/
theorem stimulus (h : Follows json m s₀ o p) (event : Emulator.Event) {x : Stimulus}
    {occurrence : Occurrence} (hseen : stimuli occurrence = [x])
    (hsent : transmitted occurrence = [])
    (hrespond : p.emulator.respond json x = .ok (p.emulator.step json event, [])) :
    Follows json m s₀ (o ++ [occurrence])
      { p with emulator := p.emulator.step json event } := by
  refine ⟨(Emulator.step_kept unaffected_config p.emulator event).selected h.selected, h.filters,
    h.inbox, ?_⟩
  rw [List.flatMap_append, List.flatMap_append, List.flatMap_singleton, List.flatMap_singleton,
    hseen, hsent, Emulator.converse_concat x h.conversation, hrespond, List.append_nil]
  show Except.ok (_, _ ++ []) = _
  rw [List.append_nil]

theorem next (h : Follows json m s₀ o p) (hstart : Selected m s₀.router)
    (event : ProgramEvent) : Mirrors json m s₀ p o event (p.next json event) := by
  cases event with
  | arrive cf =>
    show Follows json m s₀ (o ++ []) _
    rw [List.append_nil]
    split
    · refine ⟨h.selected, h.filters, ?_, h.conversation⟩
      intro w hw hown
      rcases List.mem_append.mp hw with hbefore | hnew
      · exact h.inbox w hbefore hown
      · -- what arrives is not its own
        obtain rfl := List.mem_singleton.mp hnew
        exact nomatch hown
    · exact h
  | start socket configured =>
    exact h.device rfl (p.can.step_filters (.start socket configured)) h.inbox
  | stop => exact h.device rfl (p.can.step_filters .stop) h.inbox
  | join =>
    show Follows json m s₀ _ (if _ then _ else _)
    split
    · exact h.device rfl (p.can.step_filters .join) h.inbox
    · exact h.device rfl (p.can.step_filters .join) (List.forall_mem_nil _)
  | transmit written looped => exact h.transmit hstart written looped
  | receive failed inputs => exact h.receive failed inputs
  | request call => exact h.stimulus (.request call) (x := .request call) rfl rfl rfl
  | round i => exact h.stimulus (.round i) (x := .round i) rfl rfl rfl

end Follows

/-- However the program has been run. -/
theorem mirrors_run (json : JsonLibrary Doc) (boot : Manufacturer → Boot) (settings : Settings)
    (events : List ProgramEvent) :
    GoesOrEnds (fun p o => Follows json (configuredClass settings.active) (start boot settings) o p)
      (fun o => ∃ before event after p front last, events = before ++ event :: after ∧
        feed (step json) (some (new (start boot settings))) before = (some p, front) ∧
        Follows json (configuredClass settings.active) (start boot settings) ([] ++ front) p ∧
        ReadsPast json (start boot settings) p ([] ++ front) event last ∧ o = front ++ last)
      [] (feed (step json) (some (new (start boot settings))) events) := by
  have hstart := start_selected boot settings
  have hstep : ∀ p o event,
      Follows json (configuredClass settings.active) (start boot settings) o p →
        Mirrors json (configuredClass settings.active) (start boot settings) p o event
          (step json (some p) event) :=
    fun _ _ event h => h.next hstart event
  exact feed_goesOrEnds (fun _ => rfl) hstep events (follows_new hstart)

/-- As long as it goes on it follows the emulator. -/
theorem follows_run {boot : Manufacturer → Boot} {settings : Settings}
    {events : List ProgramEvent}
    (hrun : feed (step json) (some (new (start boot settings))) events = (some p, o)) :
    Follows json (configuredClass settings.active) (start boot settings) o p := by
  have hmirrors := mirrors_run json boot settings events
  rw [hrun] at hmirrors
  exact hmirrors

end Program

end EcuMult.Main
