import EcuMult.Lib.Bytes

/-!
# The checksum of `OBD2Standard`

`src/protocols/obd2_standard.cpp`, `calculateChecksum` and `verifyChecksum`: the
sum of the bytes in a byte, and the check that the last byte is the sum of the
others. The check accepts what the calculation appends, and the change of a
single byte never goes unseen (`accepts_and_catches`).

Mirroring notes:
- The sum is written twice in the source, and here.
-/

namespace EcuMult.Protocols.OBD2Standard

open EcuMult.Lib

def calculateChecksum (data : Bytes) : UInt8 := data.foldl (· + ·) 0 &&& 0xFF

def verifyChecksum (data : Bytes) : Bool :=
  match data.getLast? with
  -- `data.empty()`
  | none => false
  | some cs => data.dropLast.foldl (· + ·) 0 &&& 0xFF == cs

/-- Lists of the same length that differ in exactly one position. -/
def DiffersInOne (f g : Bytes) : Prop :=
  f.length = g.length ∧ ∃ i : Nat, f[i]? ≠ g[i]? ∧ ∀ j : Nat, j ≠ i → f[j]? = g[j]?

/-! ## One position -/

/-- The first position is the one, or the rest has it. -/
theorem DiffersInOne.cons {x y : UInt8} {f g : Bytes} (h : DiffersInOne (x :: f) (y :: g)) :
    (x ≠ y ∧ f = g) ∨ (x = y ∧ DiffersInOne f g) := by
  obtain ⟨hlength, i, hi, hothers⟩ := h
  cases i with
  | zero =>
    refine Or.inl ⟨fun hxy => hi (congrArg some hxy), ?_⟩
    apply List.ext_getElem?
    intro j
    exact hothers (j + 1) (Nat.succ_ne_zero j)
  | succ i =>
    have hxy : some x = some y := hothers 0 (Nat.succ_ne_zero i).symm
    refine Or.inr ⟨Option.some.inj hxy, Nat.succ.inj hlength, i, hi, fun j hj => ?_⟩
    exact hothers (j + 1) fun h => hj (Nat.succ.inj h)

/-- The lists around the position. -/
theorem DiffersInOne.split {f g : Bytes} (h : DiffersInOne f g) :
    ∃ (before rest : Bytes) (x y : UInt8),
      x ≠ y ∧ f = before ++ x :: rest ∧ g = before ++ y :: rest := by
  induction f generalizing g with
  | nil =>
    obtain ⟨hlength, i, hi, -⟩ := h
    obtain rfl : g = [] := List.eq_nil_of_length_eq_zero hlength.symm
    exact absurd rfl hi
  | cons x f ih =>
    cases g with
    | nil => cases h.1
    | cons y g =>
      rcases h.cons with ⟨hne, rfl⟩ | ⟨rfl, hrest⟩
      · exact ⟨[], f, x, y, hne, rfl, rfl⟩
      · obtain ⟨before, rest, a, b, hne, rfl, rfl⟩ := ih hrest
        exact ⟨x :: before, rest, a, b, hne, rfl, rfl⟩

/-! ## The check -/

/-- The check, of a list taken apart at its last byte. -/
theorem verifyChecksum_concat (data : Bytes) (cs : UInt8) :
    verifyChecksum (data ++ [cs]) = true ↔ byteSum data % 256 = cs.toNat := by
  unfold verifyChecksum
  rw [List.getLast?_concat, List.dropLast_concat]
  show (data.foldl (· + ·) 0 &&& 0xFF == cs) = true ↔ _
  rw [beq_iff_eq, ← UInt8.toNat_inj, foldl_add_mask_toNat]

/-- The sum of the bytes sees one of them change. -/
theorem byteSum_ne (before rest : Bytes) {x y : UInt8} (hne : x ≠ y) :
    byteSum (before ++ x :: rest) % 256 ≠ byteSum (before ++ y :: rest) % 256 := by
  have hx : x.toNat < 256 := x.toNat_lt
  have hy : y.toNat < 256 := y.toNat_lt
  have hvalues : x.toNat ≠ y.toNat := fun h => hne (UInt8.toNat_inj.mp h)
  rw [byteSum_append, byteSum_append, byteSum_cons, byteSum_cons]
  omega

/-- At most one of two lists that differ in one position passes. -/
theorem DiffersInOne.not_both {f g : Bytes} (h : DiffersInOne f g)
    (hf : verifyChecksum f = true) : verifyChecksum g = false := by
  obtain ⟨before, rest, x, y, hne, rfl, rfl⟩ := h.split
  rw [← Bool.not_eq_true]
  intro hg
  rcases List.eq_nil_or_concat rest with rfl | ⟨rest, cs, rfl⟩
  · -- the checksum itself changes, under the same sum
    have hx := (verifyChecksum_concat before x).mp hf
    have hy := (verifyChecksum_concat before y).mp hg
    exact hne (UInt8.toNat_inj.mp (hx.symm.trans hy))
  · -- the sum changes, over the same checksum
    have hsplit : ∀ b : UInt8,
        before ++ b :: (rest ++ [cs]) = (before ++ b :: rest) ++ [cs] := by
      intro b
      rw [List.append_assoc, List.cons_append]
    rw [List.concat_eq_append, hsplit, verifyChecksum_concat] at hf hg
    exact byteSum_ne before rest hne (hf.trans hg.symm)

/-- **The checksum accepts what it produces and catches a change of one byte.** -/
theorem accepts_and_catches :
    (∀ data, verifyChecksum (data ++ [calculateChecksum data]) = true) ∧
      ∀ f g, verifyChecksum f = true → DiffersInOne f g → verifyChecksum g = false := by
  constructor
  · intro data
    rw [verifyChecksum_concat, calculateChecksum, foldl_add_mask_toNat]
  · intro f g hf hone
    exact hone.not_both hf

/-- A frame, and the frame with its second byte changed. -/
theorem second_byte_caught :
    verifyChecksum [0x41, 0x0C, 0x4D] = true ∧ verifyChecksum [0x41, 0x0D, 0x4D] = false := by
  have hone : DiffersInOne [0x41, 0x0C, 0x4D] [0x41, 0x0D, 0x4D] := by
    refine ⟨rfl, 1, by decide, fun j hj => ?_⟩
    match j with
    | 0 => rfl
    | 1 => exact absurd rfl hj
    | _ + 2 => rfl
  exact ⟨accepts_and_catches.1 [0x41, 0x0C], accepts_and_catches.2 _ _ (by decide) hone⟩

end EcuMult.Protocols.OBD2Standard
