import EcuMult.Lib.Bytes

/-!
# Bit maps in a byte string

Bits counted through the bytes, most significant first, as protocols do that
answer which of a range of things they have. Setting a bit sets that one and
leaves the others (`bit_setBit`), so that the bits of a map filled by a loop
are those that the loop named (`bit_foldl`).
-/

namespace EcuMult.Lib

/-- Bit `i`, most significant first. -/
def bit (bs : Bytes) (i : Nat) : Bool := (bs.getD (i / 8) 0).toNat.testBit (7 - i % 8)

/-- `bs[i / 8] |= 1 << (7 - i % 8)`. -/
def setBit (bs : Bytes) (i : Nat) : Bytes :=
  bs.modify (i / 8) fun byte => byte ||| 1 <<< UInt8.ofNat (7 - i % 8)

@[simp] theorem length_setBit (bs : Bytes) (i : Nat) : (setBit bs i).length = bs.length :=
  List.length_modify ..

theorem bit_replicate (n i : Nat) : bit (List.replicate n 0) i = false := by
  have hbyte : (List.replicate n (0 : UInt8)).getD (i / 8) 0 = 0 := by
    rw [List.getD_eq_getElem?_getD, List.getElem?_replicate]
    split <;> rfl
  rw [bit, hbyte]
  exact Nat.zero_testBit _

/-- The mask of a bit, as a number. -/
theorem mask_toNat {k : Nat} (hk : k < 8) : ((1 : UInt8) <<< UInt8.ofNat k).toNat = 2 ^ k := by
  have hcases : ∀ k : Fin 8, ((1 : UInt8) <<< UInt8.ofNat k.val).toNat = 2 ^ k.val := by decide
  exact hcases ⟨k, hk⟩

/-- **A bit is set, and the others stay.** -/
theorem bit_setBit {bs : Bytes} {i : Nat} (hi : i < 8 * bs.length) (j : Nat) :
    bit (setBit bs i) j = (decide (i = j) || bit bs j) := by
  have hmask := mask_toNat (show 7 - i % 8 < 8 by omega)
  unfold bit setBit
  rw [List.getD_eq_getElem?_getD, List.getD_eq_getElem?_getD, List.getElem?_modify]
  by_cases hbyte : i / 8 = j / 8
  · -- the byte that is written: it was there, and its bits are told apart below 8
    have hlt : j / 8 < bs.length := by omega
    have hsame : decide (7 - i % 8 = 7 - j % 8) = decide (i = j) := by
      rw [decide_eq_decide]
      omega
    simp only [if_pos hbyte]
    rw [List.getElem?_eq_getElem hlt]
    show (bs[j / 8] ||| 1 <<< UInt8.ofNat (7 - i % 8)).toNat.testBit (7 - j % 8) =
      (decide (i = j) || bs[j / 8].toNat.testBit (7 - j % 8))
    rw [UInt8.toNat_or, Nat.testBit_or, hmask, Nat.testBit_two_pow, hsame, Bool.or_comm]
  · have hne : i ≠ j := fun h => hbyte (h ▸ rfl)
    simp only [if_neg hbyte]
    rw [Option.map_eq_map, Option.map_id', decide_eq_false hne, Bool.false_or]

variable {α : Type*}

/-- **A loop sets the bits that it names**, among those of the map. -/
theorem bit_foldl (p : α → Bool) (f : α → Nat) {xs : List α} {bs : Bytes}
    (hfits : ∀ x ∈ xs, p x = true → f x < 8 * bs.length) (j : Nat) :
    bit (xs.foldl (fun bs x => if p x then setBit bs (f x) else bs) bs) j = true ↔
      (∃ x ∈ xs, p x = true ∧ f x = j) ∨ bit bs j = true := by
  induction xs generalizing bs with
  | nil =>
    constructor
    · exact Or.inr
    · intro h
      rcases h with ⟨x, hx, -⟩ | h
      · cases hx
      · exact h
  | cons x rest ih =>
    rw [List.foldl_cons]
    by_cases hx : p x = true
    · rw [if_pos hx]
      have hrest : ∀ y ∈ rest, p y = true → f y < 8 * (setBit bs (f x)).length := by
        intro y hy hpy
        rw [length_setBit]
        exact hfits y (List.mem_cons_of_mem _ hy) hpy
      have hset := bit_setBit (hfits x (List.mem_cons_self ..) hx) j
      rw [ih hrest, hset, Bool.or_eq_true, decide_eq_true_iff]
      constructor
      · intro h
        rcases h with ⟨y, hy, hnamed⟩ | hj | hj
        · exact Or.inl ⟨y, List.mem_cons_of_mem _ hy, hnamed⟩
        · exact Or.inl ⟨x, List.mem_cons_self .., hx, hj⟩
        · exact Or.inr hj
      · intro h
        rcases h with ⟨y, hy, hpy, hj⟩ | hj
        · rcases List.mem_cons.mp hy with rfl | hy
          · exact Or.inr (Or.inl hj)
          · exact Or.inl ⟨y, hy, hpy, hj⟩
        · exact Or.inr (Or.inr hj)
    · rw [if_neg hx, ih fun y hy => hfits y (List.mem_cons_of_mem _ hy)]
      refine or_congr_left ⟨fun h => ?_, fun h => ?_⟩
      · obtain ⟨y, hy, hnamed⟩ := h
        exact ⟨y, List.mem_cons_of_mem _ hy, hnamed⟩
      · obtain ⟨y, hy, hpy, hj⟩ := h
        rcases List.mem_cons.mp hy with rfl | hy
        · exact absurd hpy hx
        · exact ⟨y, hy, hpy, hj⟩

end EcuMult.Lib
