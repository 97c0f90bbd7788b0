import EcuMult.Lib.XorSum
import EcuMult.Security.SecureComm

/-!
# Signatures

`src/security/secure_comm.cpp`, `sign` and `verify`. A signature is one byte, the
exclusive or of the data and of the session key. It tells a message with one changed
byte from the original, under every key. It does not tell who has signed: whoever has
seen one signature has those of all messages (`signatures_shift`).

Mirroring notes:
- `handleSecuredMessage` is a constant, nothing calls `xorShift`, and both are left out.
-/

namespace EcuMult.Security.SecureCommunication

open EcuMult.Lib

/-- The two loops, over the data and over the key. -/
def sign (s : SecureCommunication) (data : Bytes) : Bytes :=
  [s.sessionKey.foldl (· ^^^ ·) (data.foldl (· ^^^ ·) 0)]

def verify (s : SecureCommunication) (data signature : Bytes) : Bool := s.sign data == signature

variable (s : SecureCommunication)

theorem sign_eq (data : Bytes) : s.sign data = [xorSum data ^^^ xorSum s.sessionKey] := by
  unfold sign
  rw [foldl_xor]
  rfl

/-- One message's signature is another's if the messages have one sum. -/
theorem verify_sign_iff (data data' : Bytes) :
    s.verify data' (s.sign data) = true ↔ xorSum data' = xorSum data := by
  rw [verify, beq_iff_eq, sign_eq, sign_eq, List.cons.injEq, and_iff_left rfl,
    UInt8.xor_left_inj]

/-- A signature for `data`, made into one for `data'`. The key is not asked for. -/
def shift (data data' signature : Bytes) : Bytes :=
  signature.map (xorSum data ^^^ xorSum data' ^^^ ·)

theorem shift_shift (data data' signature : Bytes) :
    shift data' data (shift data data' signature) = signature := by
  have hback : ∀ b : UInt8, xorSum data' ^^^ xorSum data ^^^
      (xorSum data ^^^ xorSum data' ^^^ b) = b := by
    intro b
    rw [UInt8.xor_comm (xorSum data'), xor_twice]
  unfold shift
  rw [List.map_map]
  exact (List.map_congr_left fun b _ => hback b).trans (List.map_id _)

theorem shift_sign (data data' : Bytes) : shift data data' (s.sign data) = s.sign data' := by
  have hsum : xorSum data ^^^ xorSum data' ^^^ (xorSum data ^^^ xorSum s.sessionKey) =
      xorSum data' ^^^ xorSum s.sessionKey := by
    rw [UInt8.xor_comm (xorSum data), UInt8.xor_assoc, xor_twice]
  rw [sign_eq, sign_eq]
  exact congrArg (fun b => [b]) hsum

/-- **What a signature is worth.** Under every key a changed byte is caught, while two
halves that change places are not; and what is accepted for one message is, shifted,
accepted for every other, and nothing else is. -/
theorem signatures_shift (s : SecureCommunication) :
    (∀ before rest x y,
      s.verify (before ++ y :: rest) (s.sign (before ++ x :: rest)) = true ↔ y = x) ∧
    (∀ as bs, s.verify (bs ++ as) (s.sign (as ++ bs)) = true) ∧
    ∀ data data' signature,
      s.verify data' (shift data data' signature) = s.verify data signature := by
  refine ⟨fun before rest x y => ?_, fun as bs => ?_, fun data data' signature => ?_⟩
  · rw [verify_sign_iff]
    exact xorSum_replace before rest x y
  · rw [verify_sign_iff]
    exact xorSum_swap bs as
  · rw [Bool.eq_iff_iff, verify, verify, beq_iff_eq, beq_iff_eq]
    constructor
    · intro h
      rw [← shift_sign s data' data, h, shift_shift]
    · intro h
      rw [← shift_sign s data data', h]

end EcuMult.Security.SecureCommunication
