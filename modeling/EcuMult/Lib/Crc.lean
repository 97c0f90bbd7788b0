import EcuMult.Lib.Bytes
import Mathlib.Logic.Function.Iterate

/-!
# Cyclic redundancy checks

A register of `w` bits that is shifted down one bit at a time, with a
polynomial added whenever a one falls out. All of it is linear in exclusive
or, so whether two byte strings leave the same register depends only on their
difference, byte by byte.

If the top bit of the polynomial is set, the top bit of the register tells
what fell out last, and the shift can be undone (`step_preimage`): a register
that is small after `n` shifts was the same number, `n` bits further up,
before. This bounds from the end of a difference what the register was at its
beginning, and a difference of at most `w` bits that starts from zero and ends
in zero is no difference (`window_zero`).
-/

namespace EcuMult.Lib.Crc

variable {w : Nat} (poly : BitVec w)

/-- One bit. -/
def step (c : BitVec w) : BitVec w := if c.getLsbD 0 then (c >>> 1) ^^^ poly else c >>> 1

/-- One byte: added at the lower end, then eight bits. -/
def absorb (c : BitVec w) (b : UInt8) : BitVec w := (step poly)^[8] (c ^^^ b.toBitVec.setWidth w)

def feed (c : BitVec w) (bs : Bytes) : BitVec w := bs.foldl (absorb poly) c

@[simp] theorem feed_nil (c : BitVec w) : feed poly c [] = c := rfl

@[simp] theorem feed_cons (c : BitVec w) (b : UInt8) (bs : Bytes) :
    feed poly c (b :: bs) = feed poly (absorb poly c b) bs := rfl

theorem feed_append (c : BitVec w) (as bs : Bytes) :
    feed poly c (as ++ bs) = feed poly (feed poly c as) bs :=
  List.foldl_append ..

/-! ## Linearity -/

theorem xor_xor_xor_comm (a b c d : BitVec w) :
    (a ^^^ b) ^^^ (c ^^^ d) = (a ^^^ c) ^^^ (b ^^^ d) := by
  rw [BitVec.xor_assoc, ← BitVec.xor_assoc b, BitVec.xor_comm b c, BitVec.xor_assoc c,
    ← BitVec.xor_assoc]

theorem step_xor (a b : BitVec w) : step poly (a ^^^ b) = step poly a ^^^ step poly b := by
  unfold step
  rw [BitVec.getLsbD_xor, BitVec.ushiftRight_xor_distrib]
  cases a.getLsbD 0 <;> cases b.getLsbD 0
  · rfl
  · exact BitVec.xor_assoc ..
  · show (a >>> 1 ^^^ b >>> 1) ^^^ poly = (a >>> 1 ^^^ poly) ^^^ b >>> 1
    rw [BitVec.xor_assoc, BitVec.xor_comm (b >>> 1), BitVec.xor_assoc]
  · show a >>> 1 ^^^ b >>> 1 = (a >>> 1 ^^^ poly) ^^^ (b >>> 1 ^^^ poly)
    rw [xor_xor_xor_comm, BitVec.xor_self, BitVec.xor_zero]

theorem steps_xor (n : Nat) (a b : BitVec w) :
    (step poly)^[n] (a ^^^ b) = (step poly)^[n] a ^^^ (step poly)^[n] b := by
  induction n generalizing a b with
  | zero => rfl
  | succ n ih =>
    rw [Function.iterate_succ_apply, Function.iterate_succ_apply, Function.iterate_succ_apply,
      step_xor, ih]

theorem absorb_xor (c c' : BitVec w) (b b' : UInt8) :
    absorb poly (c ^^^ c') (b ^^^ b') = absorb poly c b ^^^ absorb poly c' b' := by
  unfold absorb
  rw [UInt8.toBitVec_xor, BitVec.setWidth_xor, xor_xor_xor_comm, steps_xor]

/-- **Linearity.** The difference of two registers is what the difference of
the bytes leaves of the difference before. -/
theorem feed_xor {as bs : Bytes} (hlength : as.length = bs.length) (c c' : BitVec w) :
    feed poly (c ^^^ c') (List.zipWith (· ^^^ ·) as bs) = feed poly c as ^^^ feed poly c' bs := by
  induction as generalizing bs c c' with
  | nil =>
    obtain rfl := List.length_eq_zero_iff.mp hlength.symm
    rfl
  | cons a as ih =>
    cases bs with
    | nil => exact absurd hlength (Nat.succ_ne_zero _)
    | cons b bs =>
      rw [List.zipWith_cons_cons, feed_cons, feed_cons, feed_cons, absorb_xor]
      exact ih (Nat.succ.inj hlength) _ _

/-! ## Undoing the shift -/

section

variable {poly} (hpoly : poly.msb = true)
include hpoly

theorem width_pos : 0 < w := by
  rcases Nat.eq_zero_or_pos w with rfl | hpos
  · exact absurd hpoly (by rw [BitVec.of_length_zero (x := poly)]; decide)
  · exact hpos

/-- The top bit tells what fell out. -/
theorem step_msb (c : BitVec w) : (step poly c).msb = c.getLsbD 0 := by
  have hpos := width_pos hpoly
  have hshifted : (c >>> 1).msb = false := by
    rw [BitVec.msb_ushiftRight]
    rfl
  unfold step
  split
  · next hbit => rw [BitVec.msb_xor, hshifted, hpoly, hbit]; rfl
  · next hbit => rw [hshifted, Bool.eq_false_iff.mpr hbit]

theorem step_preimage {c : BitVec w} {m : Nat} (hm : m < w) (hsmall : (step poly c).toNat < 2 ^ m) :
    c.toNat = 2 * (step poly c).toNat := by
  have hbit : c.getLsbD 0 = false := by
    rw [← step_msb hpoly, BitVec.msb_eq_decide]
    have hle : 2 ^ m ≤ 2 ^ (w - 1) := Nat.pow_le_pow_right (by decide) (by omega)
    exact decide_eq_false (by omega)
  have heven : c.toNat % 2 = 0 := by
    rw [BitVec.getLsbD, Nat.testBit_zero, decide_eq_false_iff_not] at hbit
    omega
  have hstep : step poly c = c >>> 1 := by
    rw [step, hbit]
    rfl
  rw [hstep, BitVec.toNat_ushiftRight, Nat.shiftRight_eq_div_pow]
  omega

theorem steps_preimage {c : BitVec w} {n m : Nat} (hnm : m + n ≤ w)
    (hsmall : ((step poly)^[n] c).toNat < 2 ^ m) :
    c.toNat = 2 ^ n * ((step poly)^[n] c).toNat := by
  induction n generalizing c with
  | zero => rw [Function.iterate_zero_apply, Nat.pow_zero, Nat.one_mul]
  | succ n ih =>
    rw [Function.iterate_succ_apply] at hsmall ⊢
    have hbefore := ih (by omega) hsmall
    have hbound : (step poly c).toNat < 2 ^ (n + m) := by
      rw [hbefore, Nat.pow_add]
      exact Nat.mul_lt_mul_of_pos_left hsmall (Nat.two_pow_pos n)
    rw [step_preimage hpoly (show n + m < w by omega) hbound, hbefore, Nat.pow_succ,
      Nat.mul_comm (2 ^ n) 2, Nat.mul_assoc]

end

/-! ## Differences that end in zero -/

/-- Bytes that change nothing. -/
def Zeros (ds : Bytes) : Prop := ∀ d ∈ ds, d = 0

theorem toNat_zero : (0 : BitVec w).toNat = 0 := BitVec.toNat_zero

theorem step_zero : step poly 0 = 0 := by
  unfold step
  rw [if_neg (by simp)]
  exact BitVec.zero_ushiftRight ..

theorem absorb_zero : absorb poly 0 0 = 0 := by
  unfold absorb
  have hzero : (0 : BitVec w) ^^^ (0 : UInt8).toBitVec.setWidth w = 0 := by simp
  rw [hzero]
  exact Function.iterate_fixed (step_zero poly) 8

theorem feed_zeros {ds : Bytes} (h : Zeros ds) : feed poly 0 ds = 0 := by
  induction ds with
  | nil => rfl
  | cons d ds ih =>
    obtain ⟨rfl, hrest⟩ := List.forall_mem_cons.mp h
    rw [feed_cons, absorb_zero]
    exact ih hrest

/-- Where two strings agree, their difference is zero. -/
theorem difference_eq_zero {as bs : Bytes} {j : Nat} {d : UInt8} (hsame : as[j]? = bs[j]?)
    (hd : (List.zipWith (· ^^^ ·) as bs)[j]? = some d) : d = 0 := by
  rw [List.getElem?_zipWith_eq_some] at hd
  obtain ⟨a, b, ha, hb, rfl⟩ := hd
  obtain rfl : a = b := Option.some.inj (ha.symm.trans (hsame.trans hb))
  exact UInt8.xor_self

theorem eq_of_zeros {as bs : Bytes} (hlength : as.length = bs.length)
    (hzeros : Zeros (List.zipWith (· ^^^ ·) as bs)) : as = bs := by
  induction as generalizing bs with
  | nil => exact (List.length_eq_zero_iff.mp hlength.symm).symm
  | cons a as ih =>
    cases bs with
    | nil => exact absurd hlength (Nat.succ_ne_zero _)
    | cons b bs =>
      obtain ⟨hab, hrest⟩ := List.forall_mem_cons.mp hzeros
      rw [UInt8.xor_eq_zero_iff.mp hab, ih (Nat.succ.inj hlength) hrest]

section

variable {poly} (hpoly : poly.msb = true)
include hpoly

/-- What was in the register before a byte, from what is in it afterwards. -/
theorem absorb_preimage {c : BitVec w} {b : UInt8} {m : Nat} (hm : m + 8 ≤ w)
    (hsmall : (absorb poly c b).toNat < 2 ^ m) :
    c.toNat ^^^ b.toNat = 2 ^ 8 * (absorb poly c b).toNat := by
  have hb : b.toNat < 2 ^ 8 := b.toNat_lt
  have hwide : (b.toBitVec.setWidth w).toNat = b.toNat := by
    rw [BitVec.toNat_setWidth]
    exact Nat.mod_eq_of_lt (Nat.lt_of_lt_of_le hb (Nat.pow_le_pow_right (by decide) (by omega)))
  rw [← hwide, ← BitVec.toNat_xor]
  exact steps_preimage hpoly hm hsmall

/-- A register that some bytes take to zero has no more bits than they have. -/
theorem feed_eq_zero_bound {ds : Bytes} {c : BitVec w} (hfits : 8 * ds.length ≤ w)
    (hzero : feed poly c ds = 0) : c.toNat < 2 ^ (8 * ds.length) := by
  induction ds generalizing c with
  | nil =>
    obtain rfl : c = 0 := hzero
    exact Nat.two_pow_pos _
  | cons d ds ih =>
    rw [List.length_cons, Nat.mul_add] at hfits ⊢
    have hd : d.toNat < 2 ^ (8 * ds.length + 8) :=
      Nat.lt_of_lt_of_le d.toNat_lt (Nat.pow_le_pow_right (by decide) (Nat.le_add_left ..))
    have hafter := ih (by omega) hzero
    have hsum : c.toNat ^^^ d.toNat < 2 ^ (8 * ds.length + 8) := by
      rw [absorb_preimage hpoly hfits hafter, Nat.pow_add, Nat.mul_comm]
      exact Nat.mul_lt_mul_of_pos_right hafter (Nat.two_pow_pos 8)
    have hback : c.toNat = (c.toNat ^^^ d.toNat) ^^^ d.toNat := by
      rw [Nat.xor_assoc, Nat.xor_self, Nat.xor_zero]
    rw [hback]
    exact Nat.xor_lt_two_pow hsum hd

/-- **Short differences show.** Bytes that all fit into the register, and take
it from zero to zero, are zero. -/
theorem window_zero {ds : Bytes} (hfits : 8 * ds.length ≤ w) (hzero : feed poly 0 ds = 0) :
    Zeros ds := by
  induction ds with
  | nil => exact List.forall_mem_nil _
  | cons d ds ih =>
    rw [List.length_cons, Nat.mul_add] at hfits
    have hafter : (absorb poly 0 d).toNat < _ := feed_eq_zero_bound hpoly (by omega) hzero
    have hdigit := absorb_preimage hpoly hfits hafter
    rw [toNat_zero, Nat.zero_xor] at hdigit
    have hd : d.toNat < 2 ^ 8 := d.toNat_lt
    obtain rfl : d = 0 := UInt8.toNat_inj.mp (show d.toNat = 0 by omega)
    rw [feed_cons, absorb_zero] at hzero
    exact List.forall_mem_cons.mpr ⟨rfl, ih (by omega) hzero⟩

/-- And a register that is not zero stays so, as long as nothing is added. -/
theorem feed_zeros_eq_zero {ds : Bytes} (hzeros : Zeros ds) {c : BitVec w}
    (hfits : 8 ≤ w) (hzero : feed poly c ds = 0) : c = 0 := by
  induction ds generalizing c with
  | nil => exact hzero
  | cons d ds ih =>
    obtain ⟨rfl, hrest⟩ := List.forall_mem_cons.mp hzeros
    have hafter : absorb poly c 0 = 0 := ih hrest hzero
    have hdigit := absorb_preimage (m := 0) (b := 0) (c := c) hpoly (by omega)
      (by rw [hafter]; exact Nat.one_pos)
    rw [hafter, toNat_zero, Nat.mul_zero] at hdigit
    apply BitVec.eq_of_toNat_eq
    rw [toNat_zero]
    exact (Nat.xor_zero _).symm.trans hdigit

/-- **Bursts are detected.** Byte strings of one length that differ, but only
at `k` consecutive places, with no more than the `w` bits of the register,
leave different registers behind. -/
theorem burst_detected {as bs : Bytes} (hlength : as.length = bs.length) (hne : as ≠ bs)
    {i k : Nat} (hk : 0 < k) (hfits : 8 * k ≤ w)
    (hwithin : ∀ j, as[j]? ≠ bs[j]? → i ≤ j ∧ j < i + k) (c : BitVec w) :
    feed poly c as ≠ feed poly c bs := by
  intro hsame
  let ds := List.zipWith (· ^^^ ·) as bs
  have hzero : feed poly 0 ds = 0 := by
    have hdiff := feed_xor poly hlength c c
    rwa [hsame, BitVec.xor_self, BitVec.xor_self] at hdiff
  have houtside : ∀ j d, ¬ (i ≤ j ∧ j < i + k) → ds[j]? = some d → d = 0 := by
    intro j d hj hd
    exact difference_eq_zero (not_not.mp fun hdiffer => hj (hwithin j hdiffer)) hd
  -- before the window, in it, and behind it
  have hbefore : Zeros (ds.take i) := by
    intro d hd
    obtain ⟨j, hj, hget⟩ := List.mem_take_iff_getElem.mp hd
    exact houtside j d (by omega) (List.getElem?_eq_some_iff.mpr ⟨by omega, hget⟩)
  have hbehind : Zeros ((ds.drop i).drop k) := by
    rw [List.drop_drop]
    intro d hd
    obtain ⟨j, hj, hget⟩ := List.mem_drop_iff_getElem.mp hd
    exact houtside (i + k + j) d (by omega) (List.getElem?_eq_some_iff.mpr ⟨by omega, hget⟩)
  have hsplit : ds = ds.take i ++ ((ds.drop i).take k ++ (ds.drop i).drop k) := by
    rw [List.take_append_drop, List.take_append_drop]
  rw [hsplit, feed_append, feed_zeros poly hbefore, feed_append] at hzero
  have hwindow : Zeros ((ds.drop i).take k) := by
    have hlen : ((ds.drop i).take k).length ≤ k := List.length_take_le ..
    exact window_zero hpoly (by omega) (feed_zeros_eq_zero hpoly hbehind (by omega) hzero)
  have hzeros : Zeros ds := by
    rw [hsplit]
    intro d hd
    rcases List.mem_append.mp hd with hd | hd
    · exact hbefore d hd
    · exact (List.mem_append.mp hd).elim (hwindow d) (hbehind d)
  exact hne (eq_of_zeros hlength hzeros)

end

end EcuMult.Lib.Crc
