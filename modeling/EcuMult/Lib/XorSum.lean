import EcuMult.Lib.Bytes

/-!
# Exclusive or of a byte string

The weakest of the checksums: one changed byte is seen (`xorSum_replace`), and the order
of the bytes is not (`xorSum_swap`).
-/

namespace EcuMult.Lib

def xorSum (bs : Bytes) : UInt8 := bs.foldl (· ^^^ ·) 0

theorem foldl_xor (c : UInt8) (bs : Bytes) : bs.foldl (· ^^^ ·) c = c ^^^ xorSum bs := by
  unfold xorSum
  induction bs generalizing c with
  | nil => exact UInt8.xor_zero.symm
  | cons b bs ih => rw [List.foldl_cons, List.foldl_cons, ih, ih (0 ^^^ b), UInt8.zero_xor,
      UInt8.xor_assoc]

@[simp] theorem xorSum_cons (b : UInt8) (bs : Bytes) : xorSum (b :: bs) = b ^^^ xorSum bs := by
  rw [xorSum, List.foldl_cons, foldl_xor, UInt8.zero_xor]

@[simp] theorem xorSum_append (as bs : Bytes) : xorSum (as ++ bs) = xorSum as ^^^ xorSum bs := by
  rw [xorSum, List.foldl_append]
  exact foldl_xor _ bs

theorem xorSum_swap (as bs : Bytes) : xorSum (as ++ bs) = xorSum (bs ++ as) := by
  rw [xorSum_append, xorSum_append, UInt8.xor_comm]

/-- What is added twice is not there. -/
theorem xor_twice (a b : UInt8) : a ^^^ (a ^^^ b) = b := by
  rw [← UInt8.xor_assoc, UInt8.xor_self, UInt8.zero_xor]

/-- **A changed byte is seen.** -/
theorem xorSum_replace (before rest : Bytes) (x y : UInt8) :
    xorSum (before ++ y :: rest) = xorSum (before ++ x :: rest) ↔ y = x := by
  rw [xorSum_append, xorSum_append, xorSum_cons, xorSum_cons,
    UInt8.xor_right_inj, UInt8.xor_left_inj]

end EcuMult.Lib
