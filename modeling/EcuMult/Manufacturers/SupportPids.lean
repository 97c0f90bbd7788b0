import EcuMult.Manufacturers.Base

/-!
# The PIDs that ask which PIDs there are

PIDs 0x00, 0x20, 0x40, ... of Mode 01 ask for a bitmap of the 32 PIDs behind
them; `setupDefaultPIDs` registers the first two as such ("bitmask"). Nothing
in `handleMode01` or `encodePIDResponse` treats them apart. No sensor is behind
them, so their value is 0, and the default branch of the encoder makes one or
two bytes of it.

`support_answer` is what they answer, over every table, and `never_advertised`
that it is never a bitmap.
-/

namespace EcuMult.Manufacturers.BaseManufacturer

open EcuMult.Lib

/-- `handleMode01` refuses the PID. -/
def Refuses (e : BaseManufacturer) (noise : ℚ) (pid : UInt8) : Prop :=
  (e.handleMode01 noise pid).head? = some 0x7F

/-- The answer to the support PID `b` is a bitmap of the 32 PIDs behind it, most
significant bit first: those that are not refused. -/
def Advertises (e : BaseManufacturer) (noise : ℚ) (b : UInt8) : Prop :=
  ∃ payload : Bytes, e.handleMode01 noise b = 0x41 :: b :: payload ∧ payload.length = 4 ∧
    ∀ i < 32, (payload.getD (i / 8) 0).toNat.testBit (7 - i % 8) = true ↔
      ¬ e.Refuses noise (b + 1 + UInt8.ofNat i)

theorem support_cases {b : UInt8} (hb : b % 0x20 = 0) :
    b = 0x00 ∨ b = 0x20 ∨ b = 0x40 ∨ b = 0x60 ∨ b = 0x80 ∨ b = 0xA0 ∨ b = 0xC0 ∨ b = 0xE0 := by
  revert hb
  exact forall_uint8 (p := fun b => b % 0x20 = 0 → b = 0x00 ∨ b = 0x20 ∨ b = 0x40 ∨ b = 0x60 ∨
    b = 0x80 ∨ b = 0xA0 ∨ b = 0xC0 ∨ b = 0xE0) (by decide +kernel) b

theorem sensorValue_support (e : BaseManufacturer) (noise : ℚ) {b : UInt8} (hb : b % 0x20 = 0) :
    e.sensorValue noise b = 0 := by
  rcases support_cases hb with rfl | rfl | rfl | rfl | rfl | rfl | rfl | rfl <;> rfl

/-- A support PID falls into the default branch of the encoder. -/
theorem encodeValue_support (formula : Text) {b : UInt8} (hb : b % 0x20 = 0) (value : ℚ) :
    PIDTable.encodeValue formula b value =
      if Text.contains "256".toList formula then PIDTable.word (truncUInt16 value)
      else [truncUInt8 value] := by
  rcases support_cases hb with rfl | rfl | rfl | rfl | rfl | rfl | rfl | rfl <;> rfl

/-- **The answer to a support PID**, whatever else the table has. -/
theorem support_answer (e : BaseManufacturer) (noise : ℚ) {b : UInt8} (hb : b % 0x20 = 0)
    {entry : PIDEntry} (hentry : e.pidTable.getPIDEntry b = some entry) :
    e.handleMode01 noise b = 0x41 :: b ::
      if Text.contains "256".toList entry.formula then [0, 0] else [0] := by
  have hzero8 : truncUInt8 0 = 0 := by decide +kernel
  have hzero16 : truncUInt16 0 = 0 := by decide +kernel
  unfold handleMode01 PIDTable.encodePIDResponse
  rw [hentry]
  show 0x41 :: b :: PIDTable.encodeValue entry.formula b (e.sensorValue noise b) = _
  rw [sensorValue_support e noise hb, encodeValue_support entry.formula hb, hzero8, hzero16]
  rfl

theorem not_advertises (e : BaseManufacturer) (noise : ℚ) {b : UInt8} (hb : b % 0x20 = 0)
    {entry : PIDEntry} (hentry : e.pidTable.getPIDEntry b = some entry) :
    ¬ e.Advertises noise b := by
  intro h
  obtain ⟨payload, hanswer, hfour, -⟩ := h
  have hpayload := hanswer.symm.trans (support_answer e noise hb hentry)
  have hlength := congrArg List.length (List.cons.inj (List.cons.inj hpayload).2).2
  rw [hfour] at hlength
  split at hlength <;> simp at hlength

/-- An ECU as constructed, asked for PID 0x00. -/
theorem default_not_advertised :
    ¬ (new 0 0 (Core.ProtocolRouter.getConfigFor .bmw) 0).Advertises 0 0x00 :=
  not_advertises (new 0 0 (Core.ProtocolRouter.getConfigFor .bmw) 0) 0 (by decide) rfl

/-- **Never a bitmap.** Whatever the table, a support PID that it has is answered
with one or two zero bytes, and never with the bitmap of what is answered. -/
theorem never_advertised (e : BaseManufacturer) (noise : ℚ) (b : UInt8) (hb : b % 0x20 = 0)
    (entry : PIDEntry) (hentry : e.pidTable.getPIDEntry b = some entry) :
    e.handleMode01 noise b = 0x41 :: b ::
        (if Text.contains "256".toList entry.formula then [0, 0] else [0]) ∧
      ¬ e.Advertises noise b :=
  ⟨support_answer e noise hb hentry, not_advertises e noise hb hentry⟩

/-- The same ECU, asked for PID 0x20. -/
theorem never_advertised_default :
    (new 0 0 (Core.ProtocolRouter.getConfigFor .bmw) 0).handleMode01 0 0x20 = 0x41 :: 0x20 ::
        (if Text.contains "256".toList "bitmask".toList then [0, 0] else [0]) ∧
      ¬ (new 0 0 (Core.ProtocolRouter.getConfigFor .bmw) 0).Advertises 0 0x20 :=
  never_advertised (new 0 0 (Core.ProtocolRouter.getConfigFor .bmw) 0) 0 0x20 (by decide)
    (PIDTable.entry 0x20 0 0 "bitmask") rfl

end EcuMult.Manufacturers.BaseManufacturer
