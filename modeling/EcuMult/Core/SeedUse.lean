import EcuMult.Core.SessionHistory

/-!
# How often a seed can be answered

A seed is meant to be answered once, in the session it was asked for in.
`SessionManager` erases it in one place only: `lock()`. An accepted `sendKey`
leaves it pending, and so do the two ways into the DEFAULT session, although
they take the unlocked level away as `lock()` does. Until the next
`requestSeed` the same key is accepted again.

* `sendKey_accepted_iff`: a key is accepted exactly if it fits the pending seed;
* `single_use_when`: seeds are used once in runs that enter DEFAULT only when no
  seed is pending, and send fitting keys only for a level that is not the
  unlocked one;
* `single_use_not_per_step`: no condition on the steps says exactly when, as the
  object does not know whether its seed has been used.
-/

namespace EcuMult.Core

open EcuMult.Lib

namespace SessionManager

/-! ## What spends a seed -/

/-- The step is a `sendKey` that succeeds. -/
def AcceptsKey (sm : SessionManager) : Op → Prop
  | .sendKey level key now => (sm.sendKey level key now).2 = true
  | _ => False

/-- The step changes to the DEFAULT session, by a request or by a timeout. -/
def EntersDefault (sm : SessionManager) : Op → Prop
  | .changeSession session now => session = .default ∧ (sm.changeSession session now).2 = true
  | .tick readings => sm.TimesOut readings
  | _ => False

/-- No seed is answered twice, and none after a change to DEFAULT: after an
accepted key or such a change, a key is accepted only if a seed was issued in
between. -/
def SingleUse (start : SessionManager) (ops : List Op) : Prop :=
  ∀ before op between level key now after,
    ops = before ++ op :: between ++ .sendKey level key now :: after →
      AcceptsKey (run step start before) op ∨ EntersDefault (run step start before) op →
        ((run step start (before ++ op :: between)).sendKey level key now).2 = true →
          Sometime step IssuesSeed (step (run step start before) op) between

/-! ## Which keys are accepted -/

/-- A key for the pending seed: of its level, and one that the validator takes
for it. -/
structure Fits (sm : SessionManager) (level : UInt8) (key : Bytes) : Prop where
  level : level = sm.activeSeedLevel
  pending : sm.lastSeed ≠ []
  validated : ∃ validator, sm.keyValidator = some validator ∧ validator sm.lastSeed key = true

theorem sendKey_accepted_iff (sm : SessionManager) (level : UInt8) (key : Bytes) (now : Int) :
    (sm.sendKey level key now).2 = true ↔ Fits sm level key := by
  constructor
  · intro haccepted
    rcases sm.sendKey_cases level key now with hrejected | ⟨validator, hlevel, hseed, hval, hok, -⟩
    · rw [hrejected] at haccepted
      cases haccepted
    · exact ⟨hlevel, hseed, validator, hval, hok⟩
  · intro hfits
    obtain ⟨validator, hval, hok⟩ := hfits.validated
    rw [sendKey_valid hfits.level hfits.pending hval hok now]

/-! ## Single use -/

/-- The object shows that its seed is not to be answered any more: there is none,
or its level is unlocked. -/
def Spent (sm : SessionManager) : Prop :=
  sm.lastSeed = [] ∨ sm.securityLevel.toByte = sm.activeSeedLevel

/-- The step keeps clear of a seed that may have been used. A key that fits is for
another level than the unlocked one, and DEFAULT is entered without a seed
pending. -/
def KeepsClear (sm : SessionManager) : Op → Prop
  | .sendKey level key _ => Fits sm level key → level ≠ sm.securityLevel.toByte
  | .changeSession session _ =>
    session = .default → sm.isSessionAllowed session = true → sm.lastSeed = []
  | .tick readings => sm.TimesOut readings → sm.lastSeed = []
  | _ => True

/-- No key is accepted for a seed that is spent. -/
theorem Spent.rejects {sm : SessionManager} (h : Spent sm) {level : UInt8} {key : Bytes}
    {now : Int} (hclear : KeepsClear sm (.sendKey level key now)) :
    ¬ (sm.sendKey level key now).2 = true := by
  rw [sendKey_accepted_iff]
  intro hfits
  rcases h with hnone | hunlocked
  · exact hfits.pending hnone
  · exact hclear hfits (hfits.level.trans hunlocked.symm)

theorem tick_lastSeed {sm : SessionManager} (h : sm.lastSeed = []) (readings : TickReadings) :
    (sm.tick readings).1.lastSeed = [] := by
  have hexpired : (sm.expireSession readings).1.lastSeed = [] := by
    by_cases hout : sm.TimesOut readings
    · rw [expireSession_timesOut hout]
      exact h
    · rw [expireSession_not_timesOut hout]
      exact h
  by_cases hrelock : sm.Relocks readings
  · rw [tick_relocks hrelock]
    rfl
  · rw [tick_not_relocks hrelock]
    exact hexpired

/-- Another session than DEFAULT is entered with the level and the seed as they are. -/
theorem changeSession_spent {sm : SessionManager} {session : UDSSession} {now : Int}
    (hclear : KeepsClear sm (.changeSession session now))
    (h : Spent sm ∨ EntersDefault sm (.changeSession session now)) :
    Spent (sm.changeSession session now).1 := by
  rcases sm.changeSession_cases session now with ⟨-, heq⟩ | ⟨hallowed, heq⟩
  · rw [heq]
    refine h.resolve_right ?_
    rintro ⟨-, henters⟩
    rw [heq] at henters
    cases henters
  · rw [heq]
    by_cases hdefault : session = .default
    · exact Or.inl (hclear hdefault hallowed)
    · have hspent : Spent sm := h.resolve_right fun henters => hdefault henters.1
      unfold Spent
      rw [if_neg hdefault]
      exact hspent

theorem tick_spent {sm : SessionManager} {readings : TickReadings}
    (hclear : KeepsClear sm (.tick readings)) (h : Spent sm ∨ sm.TimesOut readings) :
    Spent (sm.tick readings).1 := by
  by_cases hout : sm.TimesOut readings
  · exact Or.inl (tick_lastSeed (hclear hout) readings)
  · have hspent : Spent sm := h.resolve_right hout
    by_cases hrelock : sm.Relocks readings
    · rw [tick_relocks hrelock]
      exact Or.inl rfl
    · rw [tick_not_relocks hrelock, expireSession_not_timesOut hout]
      exact hspent

/-- **A used seed is spent, and stays so.** An accepted key unlocks the level of the
seed; entering DEFAULT leaves no seed behind; and what is spent is only made good
by a new seed. -/
theorem step_spent {sm : SessionManager} {op : Op} (hclear : KeepsClear sm op)
    (hissue : ¬ IssuesSeed sm op) (h : Spent sm ∨ AcceptsKey sm op ∨ EntersDefault sm op) :
    Spent (step sm op) := by
  cases op with
  | changeSession session now =>
    exact changeSession_spent hclear (h.imp_right fun hused => hused.resolve_left id)
  | requestSeed level draw =>
    show Spent (sm.requestSeed level draw).1
    rcases sm.requestSeed_cases level draw with ⟨-, heq⟩ | ⟨_, -, heq⟩
    · rw [heq]
      exact h.resolve_right fun hused => hused.elim id id
    · exact absurd (show (sm.requestSeed level draw).2 = true by rw [heq]) hissue
  | sendKey level key now =>
    show Spent (sm.sendKey level key now).1
    rcases sm.sendKey_cases level key now with heq | ⟨_, hlevel, -, -, -, heq⟩
    · rw [heq]
      refine h.resolve_right fun hused => hused.elim (fun haccepts => ?_) id
      have haccepted : (sm.sendKey level key now).2 = true := haccepts
      rw [heq] at haccepted
      cases haccepted
    · rw [heq]
      exact Or.inr hlevel
  | lock => exact Or.inl rfl
  | tick readings =>
    exact tick_spent hclear (h.imp_right fun hused => hused.resolve_left id)
  | _ => exact h.resolve_right fun hused => hused.elim id id

/-- Unlock level 1, and send the same key again. -/
theorem not_always_single_use :
    ¬ ∀ (now₁ now₂ : Int) (ops : List Op), SingleUse (new now₁ now₂) ops := by
  intro h
  have hused := h 0 0 (exchange ++ [.sendKey 1 [0xED, 0xCB] 4])
    (exchange.take 2) (.sendKey 1 [0xED, 0xCB] 3) [] 1 [0xED, 0xCB] 4 [] rfl (Or.inl rfl) rfl
  exact hused

/-- **When seeds are used once.** In every run whose steps keep clear of seeds that may
have been used. -/
theorem single_use_when (start : SessionManager) (ops : List Op)
    (hclear : Throughout step KeepsClear start ops) : SingleUse start ops := by
  intro before op between level key now after hops hused haccepted
  rw [hops] at hclear
  obtain ⟨hfront, hlast, -⟩ := (throughout_append ..).mp hclear
  obtain ⟨hop, hbetween⟩ := ((throughout_append ..).mp hfront).2
  rw [sometime_iff]
  intro hnone
  by_cases hissue : IssuesSeed (run step start before) op
  · -- the step that uses a seed does not issue one
    cases op with
    | requestSeed level draw => exact hused.elim id id
    | _ => exact hissue
  · have hspent := step_spent hop hissue (Or.inr hused)
    have hkept := (hbetween.and hnone).keeps (I := Spent)
      (fun _ _ hstep hs => step_spent hstep.1 hstep.2 (Or.inl hs)) between hspent
    rw [run_append, run_cons] at hlast haccepted
    exact hkept.rejects hlast haccepted

/-- Level 1 is unlocked and then level 3, each with a seed of its own; after `lock()` the
sessions change, and level 1 is unlocked again. -/
def careful : List Op :=
  exchange ++
    [.requestSeed 3 0, .sendKey 3 [0xED, 0xCB] 4, .lock, .changeSession .extended 5,
      .changeSession .default 6, .requestSeed 1 0, .sendKey 1 [0xED, 0xCB] 7]

theorem single_use_when_careful : SingleUse (new 0 0) careful :=
  single_use_when (new 0 0) careful
    ⟨trivial, trivial, fun _ => by decide, trivial, fun _ => by decide, trivial,
      fun _ _ => rfl, fun _ _ => rfl, trivial, fun _ => by decide, trivial⟩

/-- Unlock level 1, and answer another seed for it. -/
theorem single_use_renewed :
    SingleUse (new 0 0) (exchange ++ [.requestSeed 1 0, .sendKey 1 [0xED, 0xCB] 4]) := by
  intro before op between level key now after hops hused _
  unfold exchange at hops
  match before with
  | [] =>
    obtain ⟨rfl, -⟩ := List.cons.inj hops
    exact (hused.elim id id).elim
  | [_] =>
    simp only [List.cons_append, List.nil_append, List.cons.injEq] at hops
    obtain ⟨-, rfl, -⟩ := hops
    exact (hused.elim id id).elim
  | [_, _] =>
    simp only [List.cons_append, List.nil_append, List.cons.injEq] at hops
    obtain ⟨rfl, rfl, rfl, hrest⟩ := hops
    -- behind the first key comes the new seed
    cases between with
    | nil => exact nomatch (List.cons.inj hrest).1
    | cons b between =>
      obtain ⟨rfl, -⟩ := List.cons.inj hrest
      exact Or.inl rfl
  | [_, _, _] =>
    simp only [List.cons_append, List.nil_append, List.cons.injEq] at hops
    obtain ⟨-, -, -, rfl, -⟩ := hops
    exact (hused.elim id id).elim
  | [_, _, _, _] =>
    simp only [List.cons_append, List.nil_append, List.cons.injEq] at hops
    exact absurd hops.2.2.2.2.2.symm (List.append_ne_nil_of_right_ne_nil _ (List.cons_ne_nil _ _))
  | _ :: _ :: _ :: _ :: _ :: before =>
    simp only [List.cons_append, List.nil_append, List.cons.injEq] at hops
    exact absurd hops.2.2.2.2.2.symm (List.append_ne_nil_of_right_ne_nil _ (List.cons_ne_nil _ _))

/-- **No condition on the steps is exact.** The second key for level 1 is sent in one and
the same state, with another seed asked for in between and without. -/
theorem single_use_not_per_step :
    ¬ ∃ P : SessionManager → Op → Prop, ∀ ops,
      SingleUse (new 0 0) ops ↔ Throughout step P (new 0 0) ops := by
  rintro ⟨P, hexact⟩
  have hrenewed := (hexact _).mp single_use_renewed
  obtain ⟨hfirst, -, hsecond, -⟩ := (throughout_append ..).mp hrenewed
  have hreplayed : Throughout step P (new 0 0) (exchange ++ [.sendKey 1 [0xED, 0xCB] 4]) :=
    (throughout_append ..).mpr ⟨hfirst, hsecond, trivial⟩
  have hused := (hexact _).mpr hreplayed (exchange.take 2) (.sendKey 1 [0xED, 0xCB] 3) [] 1
    [0xED, 0xCB] 4 [] rfl (Or.inl rfl) rfl
  exact hused

end SessionManager

end EcuMult.Core
