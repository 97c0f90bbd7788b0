import Mathlib.Data.Nat.Bitwise

/-!
# Bytes, nibbles and big-endian words

Arithmetic readings of the masks and shifts that byte-oriented protocols are
written with: the low and the high nibble of a byte, a byte put together from
a tag and a nibble, and a 16-bit word split into bytes and put back together.
-/

namespace EcuMult.Lib

/-- A byte string: a C++ `std::vector<uint8_t>`. -/
abbrev Bytes := List UInt8

/-- A property of every byte follows from its 256 cases. -/
theorem forall_uint8 {p : UInt8 → Prop} (h : ∀ n : Fin 256, p (UInt8.ofFin n)) (b : UInt8) :
    p b := by
  simpa using h b.toFin

/-- The sum of the bytes, as a number. -/
def byteSum (bs : Bytes) : Nat := (bs.map UInt8.toNat).sum

/-- Bytes added up in a byte: their sum modulo 256. -/
theorem foldl_add_toNat (bs : Bytes) (b : UInt8) :
    (bs.foldl (· + ·) b).toNat = (b.toNat + byteSum bs) % 256 := by
  induction bs generalizing b with
  | nil =>
    show b.toNat = (b.toNat + 0) % 256
    rw [Nat.add_zero, Nat.mod_eq_of_lt b.toNat_lt]
  | cons x bs ih =>
    show (bs.foldl (· + ·) (b + x)).toNat = (b.toNat + (x.toNat + byteSum bs)) % 256
    rw [ih, UInt8.toNat_add]
    omega

theorem foldl_add_mask_toNat (bs : Bytes) :
    (bs.foldl (· + ·) 0 &&& 0xFF).toNat = byteSum bs % 256 := by
  have hmask : ∀ b : UInt8, b &&& 0xFF = b := forall_uint8 (by decide +kernel)
  rw [hmask, foldl_add_toNat]
  show (0 + byteSum bs) % 256 = byteSum bs % 256
  rw [Nat.zero_add]

theorem byteSum_append (bs cs : Bytes) : byteSum (bs ++ cs) = byteSum bs + byteSum cs := by
  unfold byteSum
  rw [List.map_append, List.sum_append]

theorem byteSum_cons (b : UInt8) (bs : Bytes) : byteSum (b :: bs) = b.toNat + byteSum bs := rfl

/-! ## Nibbles -/

/-- The upper four bits, in place. -/
def hiNibble (b : UInt8) : UInt8 := b &&& 0xF0

/-- The lower four bits. -/
def loNibble (b : UInt8) : UInt8 := b &&& 0x0F

theorem loNibble_toNat (b : UInt8) : (loNibble b).toNat = b.toNat % 16 := by
  rw [loNibble, UInt8.toNat_and]
  exact Nat.and_two_pow_sub_one_eq_mod b.toNat 4

theorem loNibble_of_lt {b : UInt8} (h : b.toNat < 16) : loNibble b = b := by
  apply UInt8.toNat_inj.mp
  rw [loNibble_toNat]
  exact Nat.mod_eq_of_lt h

theorem or_and_distrib (a b c : UInt8) : (a ||| b) &&& c = a &&& c ||| b &&& c :=
  UInt8.toBitVec_inj.mp BitVec.and_or_distrib_right

/-- A tag in the upper nibble is read back past whatever the lower one holds. -/
theorem hiNibble_tag {tag v : UInt8} (htag : hiNibble tag = tag) :
    hiNibble (tag ||| loNibble v) = tag := by
  have hlow : ∀ v : UInt8, (v &&& 0x0F) &&& 0xF0 = 0 :=
    forall_uint8 (by decide +kernel)
  rw [hiNibble] at htag
  rw [hiNibble, loNibble, or_and_distrib, htag, hlow, UInt8.or_zero]

/-- And the lower nibble past a tag that leaves it free. -/
theorem loNibble_tag {tag v : UInt8} (htag : loNibble tag = 0) :
    loNibble (tag ||| loNibble v) = loNibble v := by
  rw [loNibble] at htag
  rw [loNibble, loNibble, or_and_distrib, htag, UInt8.and_assoc, UInt8.and_self, UInt8.zero_or]

/-! ## Big-endian 16-bit words -/

/-- The word whose bytes, most significant first, are `hi` and `lo`. -/
def be16 (hi lo : UInt8) : UInt16 := (hi.toUInt16 <<< 8) ||| lo.toUInt16

/-- The most significant byte. -/
def hiByte (w : UInt16) : UInt8 := ((w >>> 8) &&& 0xFF).toUInt8

/-- The least significant byte. -/
def loByte (w : UInt16) : UInt8 := (w &&& 0xFF).toUInt8

theorem be16_toNat (hi lo : UInt8) : (be16 hi lo).toNat = hi.toNat * 256 + lo.toNat := by
  have hhi : hi.toNat < 2 ^ 8 := hi.toNat_lt
  have hlo : lo.toNat < 2 ^ 8 := lo.toNat_lt
  have hshift : (hi.toUInt16 <<< 8).toNat = hi.toNat <<< 8 := by
    rw [UInt16.toNat_shiftLeft, UInt8.toNat_toUInt16]
    show hi.toNat <<< 8 % 2 ^ 16 = hi.toNat <<< 8
    rw [Nat.shiftLeft_eq]
    exact Nat.mod_eq_of_lt (by omega)
  rw [be16, UInt16.toNat_or, hshift, UInt8.toNat_toUInt16,
    ← Nat.shiftLeft_add_eq_or_of_lt hlo, Nat.shiftLeft_eq]

theorem hiByte_toNat (w : UInt16) : (hiByte w).toNat = w.toNat / 256 := by
  have hw : w.toNat < 2 ^ 16 := w.toNat_lt
  have hmask : (w.toNat >>> 8) &&& 0xFF = w.toNat / 256 := by
    rw [Nat.shiftRight_eq_div_pow]
    have hmod : (w.toNat / 2 ^ 8) &&& 0xFF = w.toNat / 2 ^ 8 % 2 ^ 8 :=
      Nat.and_two_pow_sub_one_eq_mod (w.toNat / 2 ^ 8) 8
    rw [hmod]
    omega
  rw [hiByte, UInt16.toNat_toUInt8, UInt16.toNat_and, UInt16.toNat_shiftRight]
  show (w.toNat >>> 8 &&& 0xFF) % 2 ^ 8 = _
  rw [hmask]
  omega

theorem loByte_toNat (w : UInt16) : (loByte w).toNat = w.toNat % 256 := by
  have hmask : w.toNat &&& 0xFF = w.toNat % 256 := Nat.and_two_pow_sub_one_eq_mod w.toNat 8
  rw [loByte, UInt16.toNat_toUInt8, UInt16.toNat_and]
  show (w.toNat &&& 0xFF) % 2 ^ 8 = _
  rw [hmask]
  omega

/-- Splitting a word into bytes and reading them back is the identity. -/
@[simp] theorem be16_hiByte_loByte (w : UInt16) : be16 (hiByte w) (loByte w) = w := by
  apply UInt16.toNat_inj.mp
  rw [be16_toNat, hiByte_toNat, loByte_toNat]
  omega

/-! ## Big-endian 32-bit words -/

/-- The bytes of a 32-bit word, most significant first. -/
def bytes32 (w : UInt32) : Bytes :=
  [((w >>> 24) &&& 0xFF).toUInt8, ((w >>> 16) &&& 0xFF).toUInt8, ((w >>> 8) &&& 0xFF).toUInt8,
    (w &&& 0xFF).toUInt8]

/-- The word whose bytes, most significant first, are these. -/
def be32 (b₀ b₁ b₂ b₃ : UInt8) : UInt32 :=
  (b₀.toUInt32 <<< 24) ||| (b₁.toUInt32 <<< 16) ||| (b₂.toUInt32 <<< 8) ||| b₃.toUInt32

/-- A byte moved up, and what lies below it. -/
theorem shiftLeft_or_toNat (b : UInt8) (k : Nat) {low : UInt32} (hk : k ≤ 24)
    (hlow : low.toNat < 2 ^ k) :
    ((b.toUInt32 <<< UInt32.ofNat k) ||| low).toNat = b.toNat * 2 ^ k + low.toNat := by
  have hb : b.toNat < 2 ^ 8 := b.toNat_lt
  have hk32 : (UInt32.ofNat k).toNat % 32 = k := by
    rw [UInt32.toNat_ofNat_of_lt' (show k < 2 ^ 32 by omega)]
    omega
  have hfits : b.toNat * 2 ^ k < 2 ^ 32 := by
    calc b.toNat * 2 ^ k < 2 ^ 8 * 2 ^ k := Nat.mul_lt_mul_of_pos_right hb (Nat.two_pow_pos k)
      _ ≤ 2 ^ 8 * 2 ^ 24 := Nat.mul_le_mul_left _ (Nat.pow_le_pow_right (by decide) hk)
      _ = 2 ^ 32 := by decide
  rw [UInt32.toNat_or, UInt32.toNat_shiftLeft, hk32, UInt8.toNat_toUInt32, Nat.shiftLeft_eq,
    Nat.mod_eq_of_lt hfits, ← Nat.shiftLeft_eq, Nat.shiftLeft_add_eq_or_of_lt hlow]

theorem be32_toNat (b₀ b₁ b₂ b₃ : UInt8) :
    (be32 b₀ b₁ b₂ b₃).toNat =
      b₀.toNat * 16777216 + b₁.toNat * 65536 + b₂.toNat * 256 + b₃.toNat := by
  have h₁ : b₁.toNat < 256 := b₁.toNat_lt
  have h₂ : b₂.toNat < 256 := b₂.toNat_lt
  have h₃ : b₃.toNat < 256 := b₃.toNat_lt
  have hlow : (b₂.toUInt32 <<< 8 ||| b₃.toUInt32).toNat = b₂.toNat * 256 + b₃.toNat :=
    shiftLeft_or_toNat b₂ 8 (by decide) h₃
  have hmid : (b₁.toUInt32 <<< 16 ||| (b₂.toUInt32 <<< 8 ||| b₃.toUInt32)).toNat =
      b₁.toNat * 65536 + (b₂.toNat * 256 + b₃.toNat) := by
    rw [← hlow]
    exact shiftLeft_or_toNat b₁ 16 (by decide) (show _ < 65536 by omega)
  have hword : (be32 b₀ b₁ b₂ b₃).toNat =
      b₀.toNat * 16777216 + (b₁.toUInt32 <<< 16 ||| (b₂.toUInt32 <<< 8 ||| b₃.toUInt32)).toNat := by
    rw [be32, UInt32.or_assoc, UInt32.or_assoc]
    exact shiftLeft_or_toNat b₀ 24 (by decide) (show _ < 16777216 by omega)
  rw [hword, hmid, ← Nat.add_assoc, ← Nat.add_assoc]

/-- A byte of a word, as a digit of its value in base 256. -/
theorem byte_toNat (w : UInt32) (k : Nat) (hk : k ≤ 24) :
    ((w >>> UInt32.ofNat k) &&& 0xFF).toUInt8.toNat = w.toNat / 2 ^ k % 256 := by
  have hk32 : (UInt32.ofNat k).toNat % 32 = k := by
    rw [UInt32.toNat_ofNat_of_lt' (show k < 2 ^ 32 by omega)]
    omega
  have hmask : w.toNat / 2 ^ k &&& (0xFF : UInt32).toNat = w.toNat / 2 ^ k % 256 :=
    Nat.and_two_pow_sub_one_eq_mod _ 8
  rw [UInt32.toNat_toUInt8, UInt32.toNat_and, UInt32.toNat_shiftRight, hk32,
    Nat.shiftRight_eq_div_pow, hmask, show 2 ^ 8 = 256 by decide, Nat.mod_mod]

/-- Bytes make up a word exactly if they are its bytes. -/
theorem be32_eq_iff (b₀ b₁ b₂ b₃ : UInt8) (w : UInt32) :
    be32 b₀ b₁ b₂ b₃ = w ↔ [b₀, b₁, b₂, b₃] = bytes32 w := by
  have hw : w.toNat < 4294967296 := w.toNat_lt
  have h₀ : b₀.toNat < 256 := b₀.toNat_lt
  have h₁ : b₁.toNat < 256 := b₁.toNat_lt
  have h₂ : b₂.toNat < 256 := b₂.toNat_lt
  have h₃ : b₃.toNat < 256 := b₃.toNat_lt
  have hd₀ := byte_toNat w 24 (by decide)
  have hd₁ := byte_toNat w 16 (by decide)
  have hd₂ := byte_toNat w 8 (by decide)
  have hd₃ : (w &&& 0xFF).toUInt8.toNat = w.toNat % 256 := by
    have hdigit := byte_toNat w 0 (by decide)
    rwa [Nat.pow_zero, Nat.div_one, show UInt32.ofNat 0 = 0 from rfl, UInt32.shiftRight_zero]
      at hdigit
  show _ ↔ [b₀, b₁, b₂, b₃] = [_, _, _, _]
  rw [← UInt32.toNat_inj, be32_toNat, List.cons.injEq, List.cons.injEq, List.cons.injEq,
    List.cons.injEq, ← UInt8.toNat_inj, ← UInt8.toNat_inj, ← UInt8.toNat_inj, ← UInt8.toNat_inj]
  constructor
  · intro hword
    refine ⟨hd₀.symm ▸ ?_, hd₁.symm ▸ ?_, hd₂.symm ▸ ?_, hd₃.symm ▸ ?_, rfl⟩ <;> omega
  · intro hdigits
    obtain ⟨e₀, e₁, e₂, e₃, -⟩ := hdigits
    have e₀' := e₀.trans hd₀
    have e₁' := e₁.trans hd₁
    have e₂' := e₂.trans hd₂
    have e₃' := e₃.trans hd₃
    omega

theorem bytes32_be32 (b₀ b₁ b₂ b₃ : UInt8) : bytes32 (be32 b₀ b₁ b₂ b₃) = [b₀, b₁, b₂, b₃] :=
  ((be32_eq_iff b₀ b₁ b₂ b₃ _).mp rfl).symm

theorem bytes32_inj {w w' : UInt32} (h : bytes32 w = bytes32 w') : w = w' :=
  ((be32_eq_iff _ _ _ _ w).mpr rfl).symm.trans ((be32_eq_iff _ _ _ _ w').mpr h)

/-! ## Sequences of words -/

/-- Words one after the other, each most significant byte first. -/
def bigEndian (ws : List UInt16) : Bytes := ws.flatMap fun w => [hiByte w, loByte w]

theorem bigEndian_length (ws : List UInt16) : (bigEndian ws).length = 2 * ws.length := by
  induction ws with
  | nil => rfl
  | cons w ws ih =>
    show (bigEndian ws).length + 2 = 2 * (ws.length + 1)
    omega

/-- The `i`-th word is read back from its two bytes. -/
theorem be16_bigEndian :
    ∀ (ws : List UInt16) (i : Nat), i < ws.length →
      some (be16 ((bigEndian ws).getD (2 * i) 0) ((bigEndian ws).getD (2 * i + 1) 0)) = ws[i]? := by
  intro ws
  induction ws with
  | nil =>
    intro i h
    exact absurd h (Nat.not_lt_zero i)
  | cons w ws ih =>
    intro i h
    cases i with
    | zero =>
      show some (be16 (hiByte w) (loByte w)) = some w
      rw [be16_hiByte_loByte]
    | succ i =>
      rw [List.length_cons] at h
      exact ih i (by omega)

end EcuMult.Lib
