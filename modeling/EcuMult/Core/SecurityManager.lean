import EcuMult.Lib.OneToOne
import EcuMult.Lib.Text
import Mathlib.Data.List.AList

/-!
# `SecurityManager`: seeds, keys and the makers' algorithms

`src/core/security.cpp`. A `SeedKeyAlgorithm` does two things, told apart by
its last argument: turn the drawn bytes into a seed, or check a key. Checking
answers with a byte list, and `validateKey` takes `[1]` at its head for a yes.

Mirroring notes:
- The random bytes of `generateSeed` are an argument, by position.
- All nine algorithms give the drawn bytes out as the seed, look at the first
  few bytes of seed and key, and answer `[]` if there are fewer. Seven of them
  compare byte by byte (`comparing`); BMW's carries the last seed byte along,
  and Nissan's compares 32-bit words.
- The bytes are added and multiplied as `int` and cut to `uint8_t` before they
  are compared, which is arithmetic on `UInt8`.
-/

namespace EcuMult.Core

open EcuMult.Lib

/-- Seed, key, and whether to generate. -/
abbrev SeedKeyAlgorithm := Bytes → Bytes → Bool → Bytes

structure SecurityManager where
  algorithms : AList fun _ : Text × UInt8 => SeedKeyAlgorithm
  seedSizes : AList fun _ : UInt8 => Nat

namespace SecurityManager

def new : SecurityManager where
  algorithms := ∅
  seedSizes := (((∅ : AList fun _ : UInt8 => Nat).insert 1 4).insert 2 4).insert 3 8

def registerAlgorithm (sm : SecurityManager) (manufacturer : Text) (level : UInt8)
    (algo : SeedKeyAlgorithm) : SecurityManager :=
  { sm with algorithms := sm.algorithms.insert (manufacturer, level) algo }

def setSeedSize (sm : SecurityManager) (level : UInt8) (size : Nat) : SecurityManager :=
  { sm with seedSizes := sm.seedSizes.insert level size }

def getSeedSize (sm : SecurityManager) (level : UInt8) : Nat :=
  (sm.seedSizes.lookup level).getD 4

def generateSeed (sm : SecurityManager) (manufacturer : Text) (level : UInt8)
    (draw : Nat → UInt8) : Bytes :=
  let seed := (List.range (sm.getSeedSize level)).map draw
  match sm.algorithms.lookup (manufacturer, level) with
  | some algo => algo seed [] true
  | none => seed

def validateKey (sm : SecurityManager) (manufacturer : Text) (level : UInt8)
    (seed key : Bytes) : Bool :=
  match sm.algorithms.lookup (manufacturer, level) with
  | some algo => (algo seed key false).head? == some 1
  | none => seed.length == key.length && key == seed.map (· ^^^ 0xFF)

/-! ## The algorithms -/

/-- A comparison of the first `n` bytes of the key with what is expected at
each place. -/
def comparing (n : Nat) (expected : Bytes → Nat → UInt8) : SeedKeyAlgorithm := fun seed key gen =>
  if gen then seed
  else if key.length < n ∨ seed.length < n then []
  else if (List.range n).all fun i => key.getD i 0 == expected seed i then [1]
  else [0]

def gmAlgorithm28bit : SeedKeyAlgorithm :=
  comparing 4 fun seed i => ~~~(seed.getD i 0 + 0x55 + UInt8.ofNat i)

def gmAlgorithm40bit : SeedKeyAlgorithm :=
  comparing 5 fun seed i => seed.getD i 0 * 0x1B + 0x4A

def fordAlgorithm : SeedKeyAlgorithm :=
  comparing 4 fun seed i => (seed.getD i 0 ^^^ 0x5A) + UInt8.ofNat i

def toyotaAlgorithm : SeedKeyAlgorithm :=
  comparing 4 fun seed i => (seed.getD i 0 + 0xAA) ^^^ 0x55

/-- The loop keeps whether all bytes fitted so far, and the last seed byte. -/
def bmwAlgorithm : SeedKeyAlgorithm := fun seed key gen =>
  if gen then seed
  else if key.length < 4 ∨ seed.length < 4 then []
  else
    let loop := (List.range 4).foldl
      (fun (s : Bool × UInt8) i =>
        (s.1 && key.getD i 0 == seed.getD i 0 ^^^ 0x87 ^^^ s.2, seed.getD i 0))
      (true, 0)
    if loop.1 then [1] else [0]

def vwAlgorithm : SeedKeyAlgorithm :=
  comparing 4 fun seed i =>
    ((seed.getD i 0 <<< 2) ||| (seed.getD ((i + 1) % 4) 0 >>> 6)) ^^^ 0x3C

def mercedesAlgorithm : SeedKeyAlgorithm :=
  comparing 8 fun seed i => seed.getD i 0 * 0x1D + 0x3B

def hondaAlgorithm : SeedKeyAlgorithm :=
  comparing 4 fun seed i => seed.getD i 0 ^^^ 0x5C

def nissanAlgorithm : SeedKeyAlgorithm := fun seed key gen =>
  if gen then seed
  else if key.length < 4 ∨ seed.length < 4 then []
  else
    let seed32 := be32 (seed.getD 0 0) (seed.getD 1 0) (seed.getD 2 0) (seed.getD 3 0)
    let key32 := be32 (key.getD 0 0) (key.getD 1 0) (key.getD 2 0) (key.getD 3 0)
    if key32 = ~~~seed32 + 0xA5A5A5A5 then [1] else [0]

/-- The nine algorithms, each with the number of bytes it looks at. -/
def builtIn : List (Nat × SeedKeyAlgorithm) :=
  [(4, gmAlgorithm28bit), (5, gmAlgorithm40bit), (4, fordAlgorithm), (4, toyotaAlgorithm),
    (4, bmwAlgorithm), (4, vwAlgorithm), (8, mercedesAlgorithm), (4, hondaAlgorithm),
    (4, nissanAlgorithm)]

end SecurityManager

end EcuMult.Core
