import EcuMult.Manufacturers.Base

/-!
# The seed/key handshake over service 0x27

A tester asks for a seed with an odd sub-function `L` and sends the key with
the even sub-function after it, `L + 1`; that is what the comment in
`handleSecurityAccess` says too. The code maps a key request to the level
`level | 0x01`, which for an even `level` is the odd number *above* it, not the
one below: the key for `L` is looked for under `L + 2`.

* `sendKey_level`: a key request `m` is weighed against the seed of `m | 0x01`.
* `handshake_stuck`: so with a seed pending the handshake never completes.
* `key_below_unlocks`: the key request that does unlock `L` is `L - 1`.
-/

namespace EcuMult.Manufacturers.BaseManufacturer

open EcuMult.Lib EcuMult.Core

/-- A handshake for an odd `level` with key function `k`: the request for a
seed, and if it is granted with a nonempty seed, the key request one above is
accepted and unlocks `level`, while no other key request changes the security
level. -/
def Handshake (k : Bytes → Bytes) (level : UInt8) (asked answered : Inputs)
    (e : BaseManufacturer) : Prop :=
  let granted := e.handleSecurityAccess asked level []
  let seed := granted.1.sessionManager.lastSeed
  granted.2.head? = some 0x67 → seed ≠ [] →
    (granted.1.handleSecurityAccess answered (level + 1) (k seed)).2 = [0x67, level + 1] ∧
    (granted.1.handleSecurityAccess answered (level + 1) (k seed)).1.sessionManager.securityLevel =
      ⟨level⟩ ∧
    ∀ m key, m &&& 0x01 = 0 → m ≠ level + 1 →
      (granted.1.handleSecurityAccess answered m key).1.sessionManager.securityLevel =
        granted.1.sessionManager.securityLevel

section

variable {e : BaseManufacturer} {level : UInt8} {seedGen : SeedGenerator} {validator : KeyValidator}

/-- With a generator installed, every request for a seed is granted. -/
theorem requestSeed_granted (hodd : level &&& 0x01 = 0x01)
    (hgen : e.sessionManager.seedGenerator = some seedGen) (asked : Inputs) :
    e.handleSecurityAccess asked level [] =
      ({ e with
          sessionManager :=
            { e.sessionManager with
              activeSeedLevel := level
              lastSeed := seedGen asked.draw [] } }, [0x67, level]) := by
  have hrequest : e.sessionManager.requestSeed level asked.draw =
      ({ e.sessionManager with
          activeSeedLevel := level
          lastSeed := seedGen asked.draw [] }, true) := by
    rcases e.sessionManager.requestSeed_cases level asked.draw with
      ⟨hnone, -⟩ | ⟨seedGen', hsome, hissued⟩
    · rw [hgen] at hnone
      cases hnone
    · rw [hgen] at hsome
      obtain rfl : seedGen = seedGen' := Option.some.inj hsome
      exact hissued
  unfold handleSecurityAccess
  rw [if_pos hodd, hrequest]
  rfl

/-- A key request for a level other than the pending seed's is refused and
changes nothing. -/
theorem sendKey_level (heven : ¬ level &&& 0x01 = 0x01)
    (hlevel : level ||| 0x01 ≠ e.sessionManager.activeSeedLevel) (answered : Inputs) (key : Bytes) :
    e.handleSecurityAccess answered level key = (e, negative 0x27 0x35) := by
  have hrejected : e.sessionManager.sendKey (level ||| 0x01) key answered.now₁ =
      (e.sessionManager, false) := by
    unfold SessionManager.sendKey
    exact if_pos (Or.inl hlevel)
  unfold handleSecurityAccess
  rw [if_neg heven, hrejected]
  rfl

/-- The number after an odd one is even, and its `| 0x01` is not that odd one. -/
theorem level_above (hodd : level &&& 0x01 = 0x01) :
    ¬ (level + 1) &&& 0x01 = 0x01 ∧ (level + 1) ||| 0x01 ≠ level := by
  have hall : ∀ l : UInt8, l &&& 0x01 = 0x01 →
      ¬ (l + 1) &&& 0x01 = 0x01 ∧ (l + 1) ||| 0x01 ≠ l :=
    forall_uint8 (by decide +kernel)
  exact hall level hodd

/-- The number before it is even too, and its `| 0x01` is. -/
theorem level_below (hodd : level &&& 0x01 = 0x01) :
    ¬ (level - 1) &&& 0x01 = 0x01 ∧ (level - 1) ||| 0x01 = level := by
  have hall : ∀ l : UInt8, l &&& 0x01 = 0x01 →
      ¬ (l - 1) &&& 0x01 = 0x01 ∧ (l - 1) ||| 0x01 = l :=
    forall_uint8 (by decide +kernel)
  exact hall level hodd

/-- A seed is granted, its key is refused: no handshake completes. -/
theorem handshake_stuck (k : Bytes → Bytes) (hodd : level &&& 0x01 = 0x01)
    (hgen : e.sessionManager.seedGenerator = some seedGen) (asked answered : Inputs)
    (hseed : seedGen asked.draw [] ≠ []) : ¬ Handshake k level asked answered e := by
  intro hcompletes
  obtain ⟨heven, habove⟩ := level_above hodd
  have hgranted := requestSeed_granted hodd hgen asked
  unfold Handshake at hcompletes
  rw [hgranted] at hcompletes
  obtain ⟨hanswer, -, -⟩ := hcompletes rfl hseed
  rw [sendKey_level heven habove answered] at hanswer
  -- `[0x7F, 0x27, 0x35]` is no positive response
  exact absurd (congrArg List.length hanswer) (show ¬ 3 = 2 by omega)

/-- The key request *below* the level is the one that unlocks it. -/
theorem key_below_unlocks (hodd : level &&& 0x01 = 0x01) {key : Bytes}
    (hactive : e.sessionManager.activeSeedLevel = level) (hseed : e.sessionManager.lastSeed ≠ [])
    (hval : e.sessionManager.keyValidator = some validator)
    (hok : validator e.sessionManager.lastSeed key = true) (answered : Inputs) :
    (e.handleSecurityAccess answered (level - 1) key).2 = [0x67, level - 1] ∧
    (e.handleSecurityAccess answered (level - 1) key).1.sessionManager.securityLevel = ⟨level⟩ := by
  obtain ⟨heven, hbelow⟩ := level_below hodd
  have haccepted := SessionManager.sendKey_valid hactive.symm hseed hval hok answered.now₁
  unfold handleSecurityAccess
  rw [if_neg heven, hbelow, haccepted]
  exact ⟨rfl, rfl⟩

end

/-! ## The handshake -/

/-- A fresh ECU with a seed/key algorithm registered. -/
def withAlgorithm (seedGen : SeedGenerator) (validator : KeyValidator) : BaseManufacturer :=
  let e := new 0 0 (ProtocolRouter.getConfigFor .ford) 0
  { e with sessionManager := e.sessionManager.setSeedKeyAlgorithm 1 seedGen validator }

/-- The key of an algorithm that wants the complement of the seed. -/
def complement (seed : Bytes) : Bytes := seed.map (· ^^^ 0xFF)

/-- Not even a fresh ECU completes it: asked for the seed `12 34` of level 1,
it answers the key `ED CB` with `7F 27 35`. -/
theorem not_handshake :
    ¬ ∀ (seedGen : SeedGenerator) (validator : KeyValidator) (k : Bytes → Bytes),
      (∀ seed, seed ≠ [] → validator seed (k seed) = true) →
        ∀ level : UInt8, level &&& 0x01 = 0x01 → level ≤ 0xFD →
          ∀ asked answered, Handshake k level asked answered (withAlgorithm seedGen validator) := by
  intro h
  have hcompletes := h (fun _ _ => [0x12, 0x34]) (fun seed key => key = complement seed) complement
    (fun _ _ => decide_eq_true rfl) 0x01 rfl (by decide) ⟨0, 0, 0, 0⟩ ⟨1, 1, 0, 0⟩
  exact handshake_stuck _ rfl rfl _ _ (List.cons_ne_nil _ _) hcompletes

/-- **The handshake never completes.** With any generator installed, in any
state and for any key function and validator, a handshake for an odd level has
the promised outcome only if it ends before it starts: with the empty seed. -/
theorem handshake_iff (seedGen : SeedGenerator) (k : Bytes → Bytes) (e : BaseManufacturer)
    (hgen : e.sessionManager.seedGenerator = some seedGen) (level : UInt8)
    (hodd : level &&& 0x01 = 0x01) (asked answered : Inputs) :
    Handshake k level asked answered e ↔ seedGen asked.draw [] = [] := by
  constructor
  · intro hcompletes
    by_contra hseed
    exact handshake_stuck k hodd hgen asked answered hseed hcompletes
  · intro hempty
    unfold Handshake
    rw [requestSeed_granted hodd hgen asked]
    intro granted seed _ hseed
    exact absurd hempty hseed

theorem handshake_iff_complement :
    Handshake complement 0x01 ⟨0, 0, 0, 0⟩ ⟨1, 1, 0, 0⟩
        (withAlgorithm (fun _ _ => [0x12, 0x34]) fun seed key => key = complement seed) ↔
      (fun _ _ => [0x12, 0x34] : SeedGenerator) 0 [] = [] :=
  handshake_iff (fun _ _ => [0x12, 0x34]) complement
    (withAlgorithm (fun _ _ => [0x12, 0x34]) fun seed key => key = complement seed) rfl
    0x01 rfl ⟨0, 0, 0, 0⟩ ⟨1, 1, 0, 0⟩

end EcuMult.Manufacturers.BaseManufacturer
