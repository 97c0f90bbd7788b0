import EcuMult.Core.SecurityManager

/-!
# The keys of `SecurityManager`

What each of the nine algorithms accepts is worked out once, as a function
from seeds to keys (`Checks`): which bytes are looked at, and what the key has
to be. Then:

* `keys_bijective`: on lists of just the bytes looked at, seeds and keys are
  paired one to one;
* `one_key_iff`: of an issued seed, there is just one key exactly if no
  algorithm is registered. The algorithms have no opinion on what comes after
  the bytes they look at, and none of them knows how long the seeds are that
  its level issues.
-/

namespace EcuMult.Core

open EcuMult.Lib

namespace SecurityManager

/-! ## What an algorithm checks -/

/-- `algo` looks at the first `n` bytes, and wants those of the key to be `f`
of those of the seed, which no other seed has. -/
structure Checks (n : Nat) (f : Bytes → Bytes) (algo : SeedKeyAlgorithm) : Prop where
  generates : ∀ seed key, algo seed key true = seed
  short : ∀ seed key, key.length < n ∨ seed.length < n → algo seed key false = []
  verdict : ∀ seed key, ¬ (key.length < n ∨ seed.length < n) →
    algo seed key false = if key.take n = f (seed.take n) then [1] else [0]
  length : ∀ seed, seed.length = n → (f seed).length = n
  injective : ∀ seed seed', seed.length = n → seed'.length = n → f seed = f seed' → seed = seed'

namespace Checks

variable {n : Nat} {f : Bytes → Bytes} {algo : SeedKeyAlgorithm}

theorem accepts_iff (h : Checks n f algo) (seed key : Bytes) :
    algo seed key false = [1] ↔
      ¬ (key.length < n ∨ seed.length < n) ∧ key.take n = f (seed.take n) := by
  by_cases hshort : key.length < n ∨ seed.length < n
  · rw [h.short seed key hshort]
    exact ⟨fun hnil => absurd hnil (by decide), fun hboth => absurd hshort hboth.1⟩
  · rw [h.verdict seed key hshort]
    split
    · next hkey => exact ⟨fun _ => ⟨hshort, hkey⟩, fun _ => rfl⟩
    · next hkey => exact ⟨fun hone => absurd hone (by decide), fun hboth => absurd hboth.2 hkey⟩

theorem oneToOne (h : Checks n f algo) :
    OneToOne n (fun seed key => algo seed key false = [1]) := by
  apply OneToOne.of_injective f h.length h.injective
  intro seed key hseed hkey
  rw [h.accepts_iff, List.take_of_length_le hkey.le, List.take_of_length_le hseed.le]
  exact ⟨fun hboth => hboth.2, fun heq => ⟨by omega, heq⟩⟩

/-- Seeds that are long enough are answered with `[1]` or `[0]`. -/
theorem rejects (h : Checks n f algo) {seed key : Bytes} (hseed : seed.length = n)
    (hkey : key.length = n) (hnot : algo seed key false ≠ [1]) : algo seed key false = [0] := by
  rw [h.verdict seed key (by omega)] at hnot ⊢
  split at hnot
  · exact absurd rfl hnot
  · next hne => rw [if_neg hne]

end Checks

/-! ## Byte by byte -/

/-- The key that a comparison wants. -/
def expectedKey (n : Nat) (expected : Bytes → Nat → UInt8) (seed : Bytes) : Bytes :=
  (List.range n).map (expected seed)

theorem expectedKey_length (n : Nat) (expected : Bytes → Nat → UInt8) (seed : Bytes) :
    (expectedKey n expected seed).length = n := by
  rw [expectedKey, List.length_map, List.length_range]

theorem expectedKey_getD {n i : Nat} (expected : Bytes → Nat → UInt8) (seed : Bytes) (hi : i < n) :
    (expectedKey n expected seed).getD i 0 = expected seed i := by
  rw [List.getD_eq_getElem _ _ (by rwa [expectedKey_length])]
  simp only [expectedKey, List.getElem_map, List.getElem_range]

theorem getD_take {bs : Bytes} {n i : Nat} (hi : i < n) : (bs.take n).getD i 0 = bs.getD i 0 := by
  rw [List.getD_eq_getElem?_getD, List.getD_eq_getElem?_getD, List.getElem?_take_of_lt hi]

/-- All places compare equal exactly if the first bytes are the key wanted. -/
theorem all_expected_iff {n : Nat} (expected : Bytes → Nat → UInt8) (seed : Bytes) {key : Bytes}
    (hkey : n ≤ key.length) :
    ((List.range n).all fun i => key.getD i 0 == expected seed i) = true ↔
      key.take n = expectedKey n expected seed := by
  rw [List.all_eq_true]
  constructor
  · intro hall
    apply OneToOne.eq_of_getD 0 (List.length_take_of_le hkey) (expectedKey_length n expected seed)
    intro i hi
    rw [getD_take hi, expectedKey_getD expected seed hi]
    exact eq_of_beq (hall i (List.mem_range.mpr hi))
  · intro htake i hi
    have hlt := List.mem_range.mp hi
    rw [← getD_take hlt, htake, expectedKey_getD expected seed hlt]
    exact beq_self_eq_true _

/-- A comparison checks the key it wants, if that depends on the first bytes
of the seed only, and determines them. -/
theorem comparing_checks {n : Nat} {expected : Bytes → Nat → UInt8}
    (hlocal : ∀ seed i, i < n → expected (seed.take n) i = expected seed i)
    (hinj : ∀ seed seed', (∀ i, i < n → expected seed i = expected seed' i) →
      ∀ i, i < n → seed.getD i 0 = seed'.getD i 0) :
    Checks n (expectedKey n expected) (comparing n expected) where
  generates := fun seed key => rfl
  short := by
    intro seed key hshort
    show (if key.length < n ∨ seed.length < n then [] else _) = []
    rw [if_pos hshort]
  verdict := by
    intro seed key hlong
    have htake : expectedKey n expected (seed.take n) = expectedKey n expected seed :=
      List.map_congr_left fun i hi => hlocal seed i (List.mem_range.mp hi)
    show (if key.length < n ∨ seed.length < n then []
      else if ((List.range n).all fun i => key.getD i 0 == expected seed i) = true then [1]
      else [0]) = _
    rw [if_neg hlong, htake]
    exact if_congr (all_expected_iff expected seed (by omega)) rfl rfl
  length := fun seed _ => expectedKey_length n expected seed
  injective := by
    intro seed seed' hseed hseed' hkeys
    apply OneToOne.eq_of_getD 0 hseed hseed'
    apply hinj seed seed'
    intro i hi
    rw [← expectedKey_getD expected seed hi, hkeys, expectedKey_getD expected seed' hi]

/-- The common case: each byte of the key comes from the byte of the seed at
the same place, which can be computed back. -/
theorem bytewise_checks {n : Nat} {f g : Nat → UInt8 → UInt8} (hg : ∀ i b, g i (f i b) = b) :
    Checks n (expectedKey n fun seed i => f i (seed.getD i 0))
      (comparing n fun seed i => f i (seed.getD i 0)) := by
  apply comparing_checks
  · intro seed i hi
    rw [getD_take hi]
  · intro seed seed' hkeys i hi
    rw [← hg i (seed.getD i 0), hkeys i hi, hg i (seed'.getD i 0)]

theorem gmAlgorithm28bit_checks : ∃ f, Checks 4 f gmAlgorithm28bit := by
  have hback : ∀ (i : Nat) (b : UInt8),
      ~~~(~~~(b + 0x55 + UInt8.ofNat i)) - UInt8.ofNat i - 0x55 = b := by
    intro i b
    rw [UInt8.not_not, UInt8.add_sub_cancel, UInt8.add_sub_cancel]
  exact ⟨_, bytewise_checks (f := fun i b => ~~~(b + 0x55 + UInt8.ofNat i))
    (g := fun i b => ~~~b - UInt8.ofNat i - 0x55) hback⟩

theorem gmAlgorithm40bit_checks : ∃ f, Checks 5 f gmAlgorithm40bit := by
  -- 27 · 19 ≡ 1 modulo 256
  have hback : ∀ b : UInt8, (b * 0x1B + 0x4A - 0x4A) * 19 = b := forall_uint8 (by decide +kernel)
  exact ⟨_, bytewise_checks (f := fun _ b => b * 0x1B + 0x4A) (g := fun _ b => (b - 0x4A) * 19)
    fun _ => hback⟩

theorem fordAlgorithm_checks : ∃ f, Checks 4 f fordAlgorithm := by
  have hback : ∀ (i : Nat) (b : UInt8),
      ((b ^^^ 0x5A) + UInt8.ofNat i - UInt8.ofNat i) ^^^ 0x5A = b := by
    intro i b
    rw [UInt8.add_sub_cancel, UInt8.xor_assoc, UInt8.xor_self, UInt8.xor_zero]
  exact ⟨_, bytewise_checks (f := fun i b => (b ^^^ 0x5A) + UInt8.ofNat i)
    (g := fun i b => (b - UInt8.ofNat i) ^^^ 0x5A) hback⟩

theorem toyotaAlgorithm_checks : ∃ f, Checks 4 f toyotaAlgorithm := by
  have hback : ∀ b : UInt8, (((b + 0xAA) ^^^ 0x55) ^^^ 0x55) - 0xAA = b :=
    forall_uint8 (by decide +kernel)
  exact ⟨_, bytewise_checks (f := fun _ b => (b + 0xAA) ^^^ 0x55)
    (g := fun _ b => (b ^^^ 0x55) - 0xAA) fun _ => hback⟩

theorem mercedesAlgorithm_checks : ∃ f, Checks 8 f mercedesAlgorithm := by
  -- 29 · 53 ≡ 1 modulo 256
  have hback : ∀ b : UInt8, (b * 0x1D + 0x3B - 0x3B) * 53 = b := forall_uint8 (by decide +kernel)
  exact ⟨_, bytewise_checks (f := fun _ b => b * 0x1D + 0x3B) (g := fun _ b => (b - 0x3B) * 53)
    fun _ => hback⟩

theorem hondaAlgorithm_checks : ∃ f, Checks 4 f hondaAlgorithm := by
  have hback : ∀ b : UInt8, (b ^^^ 0x5C) ^^^ 0x5C = b := forall_uint8 (by decide +kernel)
  exact ⟨_, bytewise_checks (f := fun _ b => b ^^^ 0x5C) (g := fun _ b => b ^^^ 0x5C)
    fun _ => hback⟩

/-! ## Across bytes -/

/-- Two bits move from each byte into the one before it; the four bytes are a
ring. A byte comes back from the key's byte at its place, which has its lower
six bits, and the one before that, which has its upper two. -/
theorem vwAlgorithm_checks : ∃ f, Checks 4 f vwAlgorithm := by
  have hback : ∀ a b c : UInt8,
      ((((c <<< 2) ||| (a >>> 6)) ^^^ 0x3C ^^^ 0x3C) <<< 6) |||
        ((((a <<< 2) ||| (b >>> 6)) ^^^ 0x3C ^^^ 0x3C) >>> 2) = a := by
    intro a b c
    have hc : ∀ c : UInt8, c <<< 2 <<< 6 = 0 := forall_uint8 (by decide +kernel)
    have hb : ∀ b : UInt8, b >>> 6 >>> 2 = 0 := forall_uint8 (by decide +kernel)
    have ha : ∀ a : UInt8, (a >>> 6 <<< 6) ||| (a <<< 2 >>> 2) = a :=
      forall_uint8 (by decide +kernel)
    rw [UInt8.xor_assoc, UInt8.xor_self, UInt8.xor_zero, UInt8.xor_assoc, UInt8.xor_self,
      UInt8.xor_zero, UInt8.shiftLeft_or, UInt8.shiftRight_or, hc, hb, UInt8.zero_or,
      UInt8.or_zero, ha]
  refine ⟨_, comparing_checks ?_ ?_⟩
  · intro seed i hi
    rw [getD_take hi, getD_take (Nat.mod_lt _ (by decide))]
  · intro seed seed' hkeys i hi
    -- the place before `i`, around the ring
    obtain ⟨j, hj, hnext⟩ : ∃ j, j < 4 ∧ (j + 1) % 4 = i := ⟨(i + 3) % 4, by omega, by omega⟩
    have hbefore := hkeys j hj
    rw [hnext] at hbefore
    calc seed.getD i 0 = _ := (hback (seed.getD i 0) (seed.getD ((i + 1) % 4) 0)
          (seed.getD j 0)).symm
      _ = _ := by rw [hbefore, hkeys i hi]
      _ = seed'.getD i 0 := hback (seed'.getD i 0) (seed'.getD ((i + 1) % 4) 0) (seed'.getD j 0)

/-- BMW's key byte also has the seed byte before it in it. -/
def bmwExpected (seed : Bytes) (i : Nat) : UInt8 :=
  seed.getD i 0 ^^^ 0x87 ^^^ (if i = 0 then 0 else seed.getD (i - 1) 0)

/-- What the loop carries along is the byte before. -/
theorem bmwAlgorithm_eq : bmwAlgorithm = comparing 4 bmwExpected := by
  funext seed key gen
  have hrange : List.range 4 = [0, 1, 2, 3] := rfl
  simp only [bmwAlgorithm, comparing, bmwExpected, hrange, List.foldl_cons, List.foldl_nil,
    List.all_cons, List.all_nil, Bool.true_and, Bool.and_true, Bool.and_assoc]
  rfl

/-- The seed comes back from the first byte on. -/
theorem bmwAlgorithm_checks : ∃ f, Checks 4 f bmwAlgorithm := by
  rw [bmwAlgorithm_eq]
  refine ⟨_, comparing_checks ?_ ?_⟩
  · intro seed i hi
    rw [bmwExpected, bmwExpected, getD_take hi, getD_take (Nat.lt_of_le_of_lt (Nat.sub_le i 1) hi)]
  · intro seed seed' hkeys i
    induction i with
    | zero =>
      intro hi
      have hkey := hkeys 0 hi
      exact (UInt8.xor_left_inj _).mp ((UInt8.xor_left_inj _).mp hkey)
    | succ i ih =>
      intro hi
      have hkey : seed.getD (i + 1) 0 ^^^ 0x87 ^^^ seed.getD i 0 =
          seed'.getD (i + 1) 0 ^^^ 0x87 ^^^ seed'.getD i 0 := hkeys (i + 1) hi
      rw [ih (by omega)] at hkey
      exact (UInt8.xor_left_inj _).mp ((UInt8.xor_left_inj _).mp hkey)

/-- The key that Nissan's comparison of words wants. -/
def nissanKey (seed : Bytes) : Bytes :=
  bytes32 (~~~be32 (seed.getD 0 0) (seed.getD 1 0) (seed.getD 2 0) (seed.getD 3 0) + 0xA5A5A5A5)

theorem eq_four {bs : Bytes} (h : bs.length = 4) :
    bs = [bs.getD 0 0, bs.getD 1 0, bs.getD 2 0, bs.getD 3 0] := by
  apply OneToOne.eq_of_getD 0 h rfl
  intro i hi
  match i, hi with
  | 0, _ => rfl
  | 1, _ => rfl
  | 2, _ => rfl
  | 3, _ => rfl

theorem nissanAlgorithm_checks : ∃ f, Checks 4 f nissanAlgorithm := by
  refine ⟨nissanKey, fun seed key => rfl, ?_, ?_, fun seed _ => rfl, ?_⟩
  · intro seed key hshort
    show (if key.length < 4 ∨ seed.length < 4 then [] else _) = []
    rw [if_pos hshort]
  · intro seed key hlong
    have htake : key.take 4 = [key.getD 0 0, key.getD 1 0, key.getD 2 0, key.getD 3 0] := by
      have hfour := eq_four (List.length_take_of_le (show 4 ≤ key.length by omega))
      rwa [getD_take (by decide), getD_take (by decide), getD_take (by decide),
        getD_take (by decide)] at hfour
    show (if key.length < 4 ∨ seed.length < 4 then [] else
      if be32 (key.getD 0 0) (key.getD 1 0) (key.getD 2 0) (key.getD 3 0) =
        ~~~be32 (seed.getD 0 0) (seed.getD 1 0) (seed.getD 2 0) (seed.getD 3 0) + 0xA5A5A5A5
      then [1] else [0]) = _
    rw [if_neg hlong, htake, nissanKey, getD_take (by decide), getD_take (by decide),
      getD_take (by decide), getD_take (by decide)]
    exact if_congr (be32_eq_iff ..) rfl rfl
  · intro seed seed' hseed hseed' hkeys
    have hnot := (UInt32.add_left_inj _).mp (bytes32_inj hkeys)
    rw [eq_four hseed, eq_four hseed', ← bytes32_be32, ← bytes32_be32, UInt32.not_inj.mp hnot]

/-- All nine are checks. -/
theorem builtIn_checks {n : Nat} {algo : SeedKeyAlgorithm} (h : (n, algo) ∈ builtIn) :
    ∃ f, Checks n f algo := by
  simp only [builtIn, List.mem_cons, List.not_mem_nil, or_false, Prod.mk.injEq] at h
  rcases h with ⟨rfl, rfl⟩ | ⟨rfl, rfl⟩ | ⟨rfl, rfl⟩ | ⟨rfl, rfl⟩ | ⟨rfl, rfl⟩ | ⟨rfl, rfl⟩ |
    ⟨rfl, rfl⟩ | ⟨rfl, rfl⟩ | ⟨rfl, rfl⟩
  · exact gmAlgorithm28bit_checks
  · exact gmAlgorithm40bit_checks
  · exact fordAlgorithm_checks
  · exact toyotaAlgorithm_checks
  · exact bmwAlgorithm_checks
  · exact vwAlgorithm_checks
  · exact mercedesAlgorithm_checks
  · exact hondaAlgorithm_checks
  · exact nissanAlgorithm_checks

/-! ## Pairs of seeds and keys -/

/-- **One to one.** Each of the nine algorithms pairs up the seeds and the keys
of the length it looks at; a key that fits one such seed is turned down for
every other. -/
theorem keys_bijective {n : Nat} {algo : SeedKeyAlgorithm} (h : (n, algo) ∈ builtIn) :
    OneToOne n (fun seed key => algo seed key false = [1]) ∧
    ∀ seed seed' key : Bytes, seed.length = n → seed'.length = n → key.length = n →
      algo seed key false = [1] → seed' ≠ seed → algo seed' key false = [0] := by
  obtain ⟨f, hchecks⟩ := builtIn_checks h
  refine ⟨hchecks.oneToOne, ?_⟩
  intro seed seed' key hseed hseed' hkey haccepts hne
  exact hchecks.rejects hseed' hkey
    (hchecks.oneToOne.other_rejected hseed hseed' hkey hne haccepts)

/-- Nissan's words, which carry over byte borders. -/
theorem keys_bijective_nissan :
    (4, nissanAlgorithm) ∈ builtIn ∧
    OneToOne 4 (fun seed key => nissanAlgorithm seed key false = [1]) ∧
    nissanAlgorithm [0x12, 0x34, 0x56, 0x79] [0x93, 0x71, 0x4F, 0x2C] false = [0] := by
  have hmem : (4, nissanAlgorithm) ∈ builtIn := by
    simp only [builtIn, List.mem_cons, true_or, or_true]
  exact ⟨hmem, (keys_bijective hmem).1, (keys_bijective hmem).2 [0x12, 0x34, 0x56, 0x78]
    [0x12, 0x34, 0x56, 0x79] [0x93, 0x71, 0x4F, 0x2C] rfl rfl rfl (by decide) (by decide)⟩

/-! ## Keys for an issued seed -/

/-- The default rule: the complement of the seed, and nothing else. -/
theorem validateKey_default {sm : SecurityManager} {manufacturer : Text} {level : UInt8}
    (hnone : sm.algorithms.lookup (manufacturer, level) = none) (seed key : Bytes) :
    sm.validateKey manufacturer level seed key = true ↔ key = seed.map (· ^^^ 0xFF) := by
  rw [validateKey, hnone]
  simp only [Bool.and_eq_true, beq_iff_eq]
  constructor
  · exact fun hboth => hboth.2
  · intro hkey
    refine ⟨?_, hkey⟩
    rw [hkey, List.length_map]

/-- A registered algorithm decides by what it answers. -/
theorem validateKey_checks {sm : SecurityManager} {manufacturer : Text} {level : UInt8}
    {algo : SeedKeyAlgorithm} {n : Nat} {f : Bytes → Bytes}
    (hfound : sm.algorithms.lookup (manufacturer, level) = some algo) (hchecks : Checks n f algo)
    (seed key : Bytes) :
    sm.validateKey manufacturer level seed key = true ↔ algo seed key false = [1] := by
  rw [validateKey, hfound]
  show (algo seed key false).head? == some 1 ↔ _
  rw [beq_iff_eq]
  by_cases hshort : key.length < n ∨ seed.length < n
  · rw [hchecks.short seed key hshort]
    decide
  · rw [hchecks.verdict seed key hshort]
    split <;> decide

/-- A key that is accepted stays so with a byte behind it. -/
theorem Checks.accepts_longer {n : Nat} {f : Bytes → Bytes} {algo : SeedKeyAlgorithm}
    (h : Checks n f algo) {seed key : Bytes} (haccepts : algo seed key false = [1]) (b : UInt8) :
    algo seed (key ++ [b]) false = [1] := by
  rw [h.accepts_iff] at haccepts ⊢
  obtain ⟨hlong, hkey⟩ := haccepts
  rw [List.length_append, List.take_append_of_le_length (by omega)]
  exact ⟨by omega, hkey⟩

/-- A manager with one algorithm registered. -/
def fordLevel1 : SecurityManager := new.registerAlgorithm "Ford".toList 1 fordAlgorithm

/-- A Ford seed, and a key with one byte too many. -/
theorem not_always_one_key :
    ¬ ∀ (sm : SecurityManager) (manufacturer : Text) (level : UInt8) (draw : Nat → UInt8),
      (∀ algo, sm.algorithms.lookup (manufacturer, level) = some algo →
        ∃ n, (n, algo) ∈ builtIn) →
      ∃! key, sm.validateKey manufacturer level (sm.generateSeed manufacturer level draw) key =
        true := by
  intro h
  have hbuiltIn : ∀ algo, fordLevel1.algorithms.lookup ("Ford".toList, 1) = some algo →
      ∃ n, (n, algo) ∈ builtIn := by
    intro algo hfound
    obtain rfl : fordAlgorithm = algo := Option.some.inj hfound
    exact ⟨4, by simp only [builtIn, List.mem_cons, true_or, or_true]⟩
  have hseed : fordLevel1.generateSeed "Ford".toList 1 (fun _ => 0) = [0, 0, 0, 0] := rfl
  have hunique := h fordLevel1 "Ford".toList 1 (fun _ => 0) hbuiltIn
  rw [hseed] at hunique
  have hexact : fordLevel1.validateKey "Ford".toList 1 [0, 0, 0, 0] [0x5A, 0x5B, 0x5C, 0x5D] =
      true := by decide
  have hlonger : fordLevel1.validateKey "Ford".toList 1 [0, 0, 0, 0] [0x5A, 0x5B, 0x5C, 0x5D, 0] =
      true := by decide
  exact absurd (hunique.unique hexact hlonger) (by decide)

/-- **When there is one key.** Of a seed that is issued, exactly if no
algorithm is registered for the manufacturer and the level. -/
theorem one_key_iff (sm : SecurityManager) (manufacturer : Text) (level : UInt8)
    (draw : Nat → UInt8)
    (hbuiltIn : ∀ algo, sm.algorithms.lookup (manufacturer, level) = some algo →
      ∃ n, (n, algo) ∈ builtIn) :
    (∃! key, sm.validateKey manufacturer level (sm.generateSeed manufacturer level draw) key =
      true) ↔ sm.algorithms.lookup (manufacturer, level) = none := by
  constructor
  · intro hunique
    cases hfound : sm.algorithms.lookup (manufacturer, level) with
    | none => rfl
    | some algo =>
      obtain ⟨n, hmem⟩ := hbuiltIn algo hfound
      obtain ⟨f, hchecks⟩ := builtIn_checks hmem
      obtain ⟨key, hkey, honly⟩ := hunique
      have haccepts := (validateKey_checks hfound hchecks _ key).mp hkey
      have hlonger := (validateKey_checks hfound hchecks _ (key ++ [0])).mpr
        (hchecks.accepts_longer haccepts 0)
      have hlength := congrArg List.length (honly _ hlonger)
      rw [List.length_append, List.length_singleton] at hlength
      omega
  · intro hnone
    refine ⟨(sm.generateSeed manufacturer level draw).map (· ^^^ 0xFF),
      (validateKey_default hnone _ _).mpr rfl, ?_⟩
    intro key hkey
    exact (validateKey_default hnone _ _).mp hkey

/-- For level 3 of a fresh manager: eight bytes, complemented. -/
theorem one_key_iff_default :
    new.algorithms.lookup ("Ford".toList, 3) = none ∧
    ∃! key, new.validateKey "Ford".toList 3 (new.generateSeed "Ford".toList 3 UInt8.ofNat) key =
      true := by
  have hnone : new.algorithms.lookup ("Ford".toList, 3) = none := rfl
  have hbuiltIn : ∀ algo, new.algorithms.lookup ("Ford".toList, 3) = some algo →
      ∃ n, (n, algo) ∈ builtIn := by
    intro algo hfound
    rw [hnone] at hfound
    cases hfound
  exact ⟨hnone, (one_key_iff new "Ford".toList 3 UInt8.ofNat hbuiltIn).mpr hnone⟩

end SecurityManager

end EcuMult.Core
