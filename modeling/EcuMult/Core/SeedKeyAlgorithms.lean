import EcuMult.Core.SessionHistory

/-!
# One algorithm for all levels

`setSeedKeyAlgorithm` takes a security level along with a seed generator and a
key validator, and drops it: there is one slot, and the last registration has
it. This file compares the outcome of `requestSeed` and `sendKey` for a level
with the outcome under the functions last registered *for that level*, in any
state that a fresh object can reach.

* `installed`: what is in the slot is what was registered last, for whatever
  level;
* `decidedBy_iff`: two algorithms cannot be told apart by a level's calls
  exactly if they give the same seeds, and accept the same keys for a pending
  seed of the level;
* `perLevel_iff` puts the two together.
-/

namespace EcuMult.Core

open EcuMult.Lib

/-- The arguments of a registration but for its level. -/
structure Algorithm where
  seedGen : Option SeedGenerator
  validator : Option KeyValidator

namespace Algorithm

/-- Nothing registered. -/
def unregistered : Algorithm := ⟨none, none⟩

def seed (a : Algorithm) (draw : Nat) : Option Bytes := a.seedGen.map fun seedGen => seedGen draw []

def accepts (a : Algorithm) (seed key : Bytes) : Bool :=
  a.validator.any fun validator => validator seed key

end Algorithm

namespace SessionManager

/-! ## Registrations -/

/-- The algorithm registered last, when only registrations for levels with `p`
count. -/
def register (p : UInt8 → Bool) (a : Algorithm) : Op → Algorithm
  | .setSeedKeyAlgorithm level seedGen validator => if p level then ⟨seedGen, validator⟩ else a
  | _ => a

def lastRegistered (ops : List Op) : Algorithm := run (register fun _ => true) .unregistered ops

def lastRegisteredFor (level : UInt8) (ops : List Op) : Algorithm :=
  run (register fun other => other = level) .unregistered ops

/-- What is in the slot. -/
def algorithm (sm : SessionManager) : Algorithm := ⟨sm.seedGenerator, sm.keyValidator⟩

def install (sm : SessionManager) (a : Algorithm) : SessionManager :=
  { sm with seedGenerator := a.seedGen, keyValidator := a.validator }

/-- Only a registration changes the slot. -/
theorem step_algorithm (sm : SessionManager) (op : Op) :
    (step sm op).algorithm = register (fun _ => true) sm.algorithm op := by
  cases op with
  | changeSession session now =>
    show (sm.changeSession session now).1.algorithm = sm.algorithm
    rcases sm.changeSession_cases session now with ⟨-, heq⟩ | ⟨-, heq⟩
    · rw [heq]
    · rw [heq]
      rfl
  | requestSeed level draw =>
    show (sm.requestSeed level draw).1.algorithm = sm.algorithm
    rcases sm.requestSeed_cases level draw with ⟨-, heq⟩ | ⟨_, -, heq⟩
    · rw [heq]
    · rw [heq]
      rfl
  | sendKey level key now =>
    show (sm.sendKey level key now).1.algorithm = sm.algorithm
    rcases sm.sendKey_cases level key now with heq | ⟨_, -, -, -, -, heq⟩
    · rw [heq]
    · rw [heq]
      rfl
  | tick readings =>
    have hsession : (sm.expireSession readings).1.algorithm = sm.algorithm := by
      by_cases hout : sm.TimesOut readings
      · rw [expireSession_timesOut hout]
        rfl
      · rw [expireSession_not_timesOut hout]
    show (sm.tick readings).1.algorithm = sm.algorithm
    by_cases hrelock : sm.Relocks readings
    · rw [tick_relocks hrelock]
      exact hsession
    · rw [tick_not_relocks hrelock]
      exact hsession
  | _ => rfl

/-- **One slot.** What is installed is what was registered last. -/
theorem installed (now₁ now₂ : Int) (ops : List Op) :
    (run step (new now₁ now₂) ops).algorithm = lastRegistered ops :=
  run_hom step_algorithm ops (new now₁ now₂)

/-! ## Outcomes -/

/-- All that a call did and returned, but for the installed functions. -/
def outcome (r : SessionManager × Bool) : SessionManager × Bool :=
  (r.1.install .unregistered, r.2)

/-- The calls for `level` go as they would with `a` installed. -/
def DecidedBy (sm : SessionManager) (level : UInt8) (a : Algorithm) : Prop :=
  (∀ draw,
    outcome (sm.requestSeed level draw) = outcome ((sm.install a).requestSeed level draw)) ∧
  ∀ key now,
    outcome (sm.sendKey level key now) = outcome ((sm.install a).sendKey level key now)

/-- No call for `level` can tell `a` from `b`: the seeds are the same, and so
are the keys for a seed that is pending for the level. -/
structure Alike (sm : SessionManager) (level : UInt8) (a b : Algorithm) : Prop where
  seeds : ∀ draw, a.seed draw = b.seed draw
  keys : level = sm.activeSeedLevel → sm.lastSeed ≠ [] →
    ∀ key, a.accepts sm.lastSeed key = b.accepts sm.lastSeed key

/-- What a request does with the seed it got, if it got one. -/
def afterSeed (sm : SessionManager) (level : UInt8) : Option Bytes → SessionManager × Bool
  | none => (sm, false)
  | some seed => ({ sm with activeSeedLevel := level, lastSeed := seed }, true)

theorem requestSeed_outcome (sm : SessionManager) (a : Algorithm) (level : UInt8) (draw : Nat) :
    outcome ((sm.install a).requestSeed level draw) =
      afterSeed (sm.install .unregistered) level (a.seed draw) := by
  obtain ⟨seedGen, validator⟩ := a
  cases seedGen with
  | none => rfl
  | some seedGen => rfl

theorem afterSeed_inj {sm : SessionManager} {level : UInt8} {x y : Option Bytes}
    (h : afterSeed sm level x = afterSeed sm level y) : x = y := by
  have hsucceeds := congrArg Prod.snd h
  cases x with
  | none =>
    cases y with
    | none => rfl
    | some _ => cases hsucceeds
  | some seed =>
    cases y with
    | none => cases hsucceeds
    | some seed' =>
      have hseed : seed = seed' := congrArg (fun r => r.1.lastSeed) h
      rw [hseed]

/-- What a key does for a level, if the pending seed is of that level and the
validator takes it. -/
theorem sendKey_outcome (sm : SessionManager) (a : Algorithm) (level : UInt8) (key : Bytes)
    (now : Int) :
    outcome ((sm.install a).sendKey level key now) =
      if (level = sm.activeSeedLevel ∧ sm.lastSeed ≠ []) ∧ a.accepts sm.lastSeed key = true then
        ({ sm.install .unregistered with
            securityLevel := ⟨level⟩, securityUnlockTime := now }, true)
      else (sm.install .unregistered, false) := by
  obtain ⟨seedGen, validator⟩ := a
  rcases (sm.install ⟨seedGen, validator⟩).sendKey_cases level key now with
    hrejected | ⟨validator', hlevel, hseed, hval, hok, haccepted⟩
  · rw [hrejected]
    split
    · next hfits =>
      obtain ⟨⟨hlevel, hseed⟩, hok⟩ := hfits
      obtain ⟨validator', rfl, hok⟩ := (Option.any_eq_true _ _).mp hok
      have hpending : level = (sm.install ⟨seedGen, some validator'⟩).activeSeedLevel := hlevel
      have haccepted := sendKey_valid hpending hseed rfl hok now
      rw [hrejected] at haccepted
      cases congrArg Prod.snd haccepted
    · rfl
  · obtain rfl : validator = some validator' := hval
    rw [haccepted, if_pos ⟨⟨hlevel, hseed⟩, hok⟩]
    rfl

/-- **Telling algorithms apart.** -/
theorem decidedBy_iff (sm : SessionManager) (level : UInt8) (a b : Algorithm) :
    DecidedBy (sm.install a) level b ↔ Alike sm level a b := by
  have hreplaced : (sm.install a).install b = sm.install b := rfl
  unfold DecidedBy
  rw [hreplaced]
  constructor
  · intro h
    obtain ⟨hseeds, hkeys⟩ := h
    refine ⟨fun draw => ?_, fun hlevel hpending key => ?_⟩
    · have hdraw := hseeds draw
      rw [requestSeed_outcome, requestSeed_outcome] at hdraw
      exact afterSeed_inj hdraw
    · have hpair : level = sm.activeSeedLevel ∧ sm.lastSeed ≠ [] := ⟨hlevel, hpending⟩
      have hkey := congrArg Prod.snd (hkeys key 0)
      rw [sendKey_outcome, sendKey_outcome, apply_ite Prod.snd, apply_ite Prod.snd] at hkey
      simp only [hpair, ne_eq, not_false_eq_true, and_self, true_and] at hkey
      cases ha : a.accepts sm.lastSeed key <;> cases hb : b.accepts sm.lastSeed key <;>
        simp [ha, hb] at hkey ⊢
  · intro h
    refine ⟨fun draw => by rw [requestSeed_outcome, requestSeed_outcome, h.seeds draw], ?_⟩
    intro key now
    rw [sendKey_outcome, sendKey_outcome]
    by_cases hpair : level = sm.activeSeedLevel ∧ sm.lastSeed ≠ []
    · rw [h.keys hpair.1 hpair.2 key]
    · rw [if_neg (fun hfits => hpair hfits.1), if_neg (fun hfits => hpair hfits.1)]

/-! ## Per level -/

/-- Seeds `01` for level 1 and `02` for level 2. -/
def twoLevels : List Op :=
  [.setSeedKeyAlgorithm 1 (some fun _ _ => [0x01]) none,
    .setSeedKeyAlgorithm 2 (some fun _ _ => [0x02]) none]

/-- Asked for a seed of level 1, the object gives the one of level 2. -/
theorem not_always_perLevel :
    ¬ ∀ (now₁ now₂ : Int) (ops : List Op) (level : UInt8),
      DecidedBy (run step (new now₁ now₂) ops) level (lastRegisteredFor level ops) := by
  intro h
  have hseed := congrArg (fun r => r.1.lastSeed) ((h 0 0 twoLevels 1).1 0)
  exact absurd hseed (by decide)

/-- **When algorithms are per level.** After any run, the calls for a level go
by the functions last registered for it exactly if those cannot be told from
the ones registered last for any level; and a registration, for another level
too, leaves those calls alone exactly if it brings functions that cannot be
told from the ones before. -/
theorem perLevel_iff (now₁ now₂ : Int) (ops : List Op) (level : UInt8) :
    let sm := run step (new now₁ now₂) ops
    (DecidedBy sm level (lastRegisteredFor level ops) ↔
      Alike sm level (lastRegistered ops) (lastRegisteredFor level ops)) ∧
    ∀ other seedGen validator,
      DecidedBy (sm.setSeedKeyAlgorithm other seedGen validator) level sm.algorithm ↔
        Alike sm level ⟨seedGen, validator⟩ (lastRegistered ops) := by
  intro sm
  have hslot : sm.algorithm = lastRegistered ops := installed now₁ now₂ ops
  have hself : sm = sm.install (lastRegistered ops) := by rw [← hslot]; rfl
  refine ⟨?_, fun other seedGen validator => ?_⟩
  · have hiff := decidedBy_iff sm level (lastRegistered ops) (lastRegisteredFor level ops)
    rwa [← hself] at hiff
  · rw [hslot]
    exact decidedBy_iff sm level ⟨seedGen, validator⟩ (lastRegistered ops)

end SessionManager

end EcuMult.Core
