import EcuMult.Lib.Bytes
import EcuMult.Lib.Runs

/-!
# `SecureCommunication`: the session cipher

`src/security/secure_comm.cpp`. The data is combined with the session key byte
by byte, the key repeated as often as it takes, and decryption is encryption.
So what is encrypted is decrypted again, whatever the key, unless there is no
key to repeat: `setSessionKey` takes the empty one, and the index modulo its
length is then a division by zero (`decrypts_iff`).

Mirroring notes:
- `encrypt` and `decrypt` ignore their `key` parameter, which is left out.
- The random bytes of `rotateKey` are an argument, by position.
- The message counter is read by nothing and left out.
- `none` is the undefined behaviour of a modulus of zero.
-/

namespace EcuMult.Security

open EcuMult.Lib

structure SecureCommunication where
  sessionKey : Bytes
  deriving DecidableEq, Repr

namespace SecureCommunication

def new : SecureCommunication where
  sessionKey := [0x01, 0x02, 0x03, 0x04, 0x05, 0x06, 0x07, 0x08]

/-- `i % n`, of unsigned numbers. -/
def checkedMod (i n : Nat) : Option Nat := if n = 0 then none else some (i % n)

/-- The loop of `encrypt`, from index `i` on. -/
def encryptFrom (key : Bytes) : Nat → Bytes → Option Bytes
  | _, [] => some []
  | i, b :: rest => do
    -- `session_key_[i % session_key_.size()]`
    let j ← checkedMod i key.length
    let k ← key[j]?
    let result ← encryptFrom key (i + 1) rest
    return (b ^^^ k) :: result

def encrypt (s : SecureCommunication) (data : Bytes) : Option Bytes :=
  encryptFrom s.sessionKey 0 data

def decrypt (s : SecureCommunication) (data : Bytes) : Option Bytes := s.encrypt data

def setSessionKey (_ : SecureCommunication) (key : Bytes) : SecureCommunication where
  sessionKey := key

def rotateKey (s : SecureCommunication) (draw : Nat → UInt8) : SecureCommunication where
  sessionKey := (List.range s.sessionKey.length).map draw

/-- The calls that write the key. -/
inductive KeyOp
  | setSessionKey (key : Bytes)
  | rotateKey (draw : Nat → UInt8)

def step (s : SecureCommunication) : KeyOp → SecureCommunication
  | .setSessionKey key => s.setSessionKey key
  | .rotateKey draw => s.rotateKey draw

/-- The key that was installed last, the one of the constructor if none was. -/
def installed : Bytes → List KeyOp → Bytes
  | key, [] => key
  | _, .setSessionKey key :: ops => installed key ops
  | key, .rotateKey _ :: ops => installed key ops

/-- The data comes back, and every index on the way is defined. -/
def RoundTrip (s : SecureCommunication) (data : Bytes) : Prop :=
  ∃ cipher, s.encrypt data = some cipher ∧ s.decrypt cipher = some data

/-! ## The loop -/

/-- One pass: the byte of the key is there, if the key is not empty. -/
theorem encryptFrom_cons {key : Bytes} (hkey : key ≠ []) (i : Nat) :
    ∃ k, ∀ b rest, encryptFrom key i (b :: rest) =
      (encryptFrom key (i + 1) rest).map ((b ^^^ k) :: ·) := by
  have hpos : 0 < key.length := List.length_pos_iff.mpr hkey
  have hmod : checkedMod i key.length = some (i % key.length) := if_neg (by omega)
  have hlt : i % key.length < key.length := Nat.mod_lt _ hpos
  refine ⟨key[i % key.length], fun b rest => ?_⟩
  rw [encryptFrom, hmod, Option.bind_eq_bind, Option.bind_some, List.getElem?_eq_getElem hlt]
  cases encryptFrom key (i + 1) rest with
  | none => rfl
  | some result => rfl

theorem xor_cancel (b k : UInt8) : b ^^^ k ^^^ k = b := by
  rw [UInt8.xor_assoc, UInt8.xor_self, UInt8.xor_zero]

/-- **Encrypting twice.** From every index, under every key that has a byte. -/
theorem encryptFrom_twice {key : Bytes} (hkey : key ≠ []) (data : Bytes) (i : Nat) :
    ∃ cipher, encryptFrom key i data = some cipher ∧ encryptFrom key i cipher = some data := by
  induction data generalizing i with
  | nil => exact ⟨[], rfl, rfl⟩
  | cons b rest ih =>
    obtain ⟨cipher, hthere, hback⟩ := ih (i + 1)
    obtain ⟨k, hpass⟩ := encryptFrom_cons hkey i
    refine ⟨(b ^^^ k) :: cipher, ?_, ?_⟩
    · rw [hpass, hthere, Option.map_some]
    · rw [hpass, hback, Option.map_some, xor_cancel]

/-- Without a key the first byte is one too many. -/
theorem roundTrip_state_iff (s : SecureCommunication) (data : Bytes) :
    RoundTrip s data ↔ data = [] ∨ s.sessionKey ≠ [] := by
  constructor
  · intro h
    obtain ⟨cipher, hthere, -⟩ := h
    by_contra hnot
    obtain ⟨hdata, hkey⟩ := not_or.mp hnot
    obtain ⟨b, rest, rfl⟩ := List.exists_cons_of_ne_nil hdata
    rw [encrypt, not_not.mp hkey] at hthere
    cases hthere
  · intro h
    rcases h with rfl | hkey
    · exact ⟨[], rfl, rfl⟩
    · exact encryptFrom_twice hkey data 0

/-! ## Keys -/

/-- Rotating replaces the bytes of the key, not their number. -/
theorem length_sessionKey (ops : List KeyOp) :
    ∀ {s : SecureCommunication} {key : Bytes}, s.sessionKey.length = key.length →
      (run step s ops).sessionKey.length = (installed key ops).length := by
  induction ops with
  | nil =>
    intro s key h
    exact h
  | cons op ops ih =>
    intro s key h
    cases op with
    | setSessionKey new => exact ih rfl
    | rotateKey draw =>
      refine ih (show ((List.range s.sessionKey.length).map draw).length = key.length from ?_)
      rw [List.length_map, List.length_range, h]

/-- **When the data comes back.** Whatever keys were installed and rotated: if
and only if the last one installed has a byte, or the data has none. -/
theorem decrypts_iff (ops : List KeyOp) (data : Bytes) :
    RoundTrip (run step new ops) data ↔ data = [] ∨ installed new.sessionKey ops ≠ [] := by
  have hlength : (run step new ops).sessionKey.length = (installed new.sessionKey ops).length :=
    length_sessionKey ops rfl
  have hempty : (run step new ops).sessionKey = [] ↔ installed new.sessionKey ops = [] := by
    rw [← List.length_eq_zero_iff, ← List.length_eq_zero_iff, hlength]
  rw [roundTrip_state_iff]
  exact or_congr_right (not_congr hempty)

/-- One byte under the empty key. -/
theorem empty_key_divides_by_zero :
    (run step new [.setSessionKey []]).encrypt [0x00] = none ∧
      ¬ RoundTrip (run step new [.setSessionKey []]) [0x00] := by
  refine ⟨by decide, fun h => ?_⟩
  obtain ⟨cipher, hthere, -⟩ := h
  cases hthere

end SecureCommunication

end EcuMult.Security
