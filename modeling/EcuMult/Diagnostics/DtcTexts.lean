import EcuMult.Diagnostics.DtcHistory

/-!
# The texts of trouble codes

`DTCManager::decodeCode` has two copies, as its counterpart has: `decodeGMDTC` in
`src/protocols/gmlan.cpp` and `dtcCodeToString` in `src/manufacturers/chevrolet.cpp`.
They are one function (`decoders_agree`).

A nibble from ten on is printed with two digits, and so `0x01B0` and `0x0B10` are both
`P01110`. A text of five characters is of one code (`decodeCode_unique`), and the
store does not show it twice: `display_unique`.
-/

namespace EcuMult.Diagnostics

open EcuMult.Lib DTCManager

/-- `switch (code & 0xC000)` without a default. -/
def letterText (code : UInt16) : Text :=
  if code &&& 0xC000 = 0x0000 then ['P']
  else if code &&& 0xC000 = 0x4000 then ['C']
  else if code &&& 0xC000 = 0x8000 then ['B']
  else if code &&& 0xC000 = 0xC000 then ['U']
  else []

/-- The text of both copies. -/
def decodeWith (letter : UInt16 → Text) (code : UInt16) : Text :=
  letter code ++ (decimal (nibble code 12) ++ decimal (nibble code 8) ++
    decimal (nibble code 4) ++ decimal (nibble code 0))

def GMLANProtocol.decodeGMDTC (code : UInt16) : Text := decodeWith letterText code

def ChevroletGM.dtcCodeToString (code : UInt16) : Text := decodeWith letterText code

/-- The default is not reached. -/
theorem letterText_eq (code : UInt16) : letterText code = [letter code] := by
  have hread := letterBits?_letter code
  unfold letterText
  unfold letter at hread ⊢
  split_ifs at hread ⊢
  · rfl
  · rfl
  · rfl
  · rfl
  · have hnone : letterBits? '?' = none := rfl
    rw [hnone] at hread
    cases hread

/-- **Three decoders, one function.** -/
theorem decoders_agree (code : UInt16) :
    GMLANProtocol.decodeGMDTC code = decodeCode code ∧
      ChevroletGM.dtcCodeToString code = decodeCode code := by
  have hsame : decodeWith letterText code = decodeCode code := by
    unfold decodeWith
    rw [letterText_eq]
    rfl
  exact ⟨hsame, hsame⟩

/-- **A text of five characters is of one code.** -/
theorem decodeCode_unique {c d : UInt16} (hfive : (decodeCode c).length = 5)
    (hsame : decodeCode d = decodeCode c) : d = c := by
  obtain ⟨hc12, hc8, hc4, hc0⟩ := (decodeCode_length c).mp hfive
  obtain ⟨hd12, hd8, hd4, hd0⟩ := (decodeCode_length d).mp (hsame ▸ hfive)
  rw [decodeCode_digits hc12 hc8 hc4 hc0, decodeCode_digits hd12 hd8 hd4 hd0] at hsame
  simp only [List.cons.injEq, and_true] at hsame
  obtain ⟨-, h12, h8, h4, h0⟩ := hsame
  apply UInt16.toNat_inj.mp
  rw [toNat_nibbles d, toNat_nibbles c, digitChar_inj hd12 hc12 h12, digitChar_inj hd8 hc8 h8,
    digitChar_inj hd4 hc4 h4, digitChar_inj hd0 hc0 h0]

example : decodeCode 0x01B0 = decodeCode 0x0B10 := by decide

/-- **Shown once.** After any calls, two entries with one display code of five
characters are one entry. -/
theorem DTCManager.display_unique (ops : List Op) :
    ∀ a ∈ (run step new ops).getAllDTCs, ∀ b ∈ (run step new ops).getAllDTCs,
      a.displayCode.length = 5 → b.displayCode = a.displayCode → b = a := by
  intro a ha b hb hfive hsame
  obtain ⟨c, hc⟩ := mem_getAllDTCs_iff.mp ha
  obtain ⟨d, hd⟩ := mem_getAllDTCs_iff.mp hb
  -- an entry has the text of the code it is found under
  have htext : ∀ code dtc, (run step new ops).dtcs.lookup code = some dtc →
      dtc.displayCode = decodeCode code := by
    intro code dtc hlookup
    have hnew : new.dtcs.lookup code = (none : Option Episode).map (Episode.entry code) := rfl
    rw [follow_run hnew] at hlookup
    obtain ⟨_, -, rfl⟩ := Option.map_eq_some_iff.mp hlookup
    rfl
  rw [htext c a hc] at hfive hsame
  rw [htext d b hd] at hsame
  obtain rfl : d = c := decodeCode_unique hfive hsame
  exact Option.some.inj (hd.symm.trans hc)

/-- Two codes that were added. -/
def twoFaults : List Op :=
  [.addDTC 0x0101 "Mass Air Flow".toList .moderate false 0,
    .addDTC 0x0420 "Catalyst".toList .minor true 5]

/-- The first of them, as the store has it. -/
def massAirFlow : DTC where
  code := 0x0101
  displayCode := "P0101".toList
  description := "Mass Air Flow".toList
  severity := .moderate
  isPending := false
  isPermanent := false
  occurrenceCount := 1
  firstOccurrence := 0
  lastOccurrence := 0

theorem DTCManager.display_unique_two :
    massAirFlow ∈ (run step new twoFaults).getAllDTCs ∧
    ∀ b ∈ (run step new twoFaults).getAllDTCs, b.displayCode = "P0101".toList →
      b = massAirFlow :=
  have hmem : massAirFlow ∈ (run step new twoFaults).getAllDTCs := by decide
  ⟨hmem, fun b hb => display_unique twoFaults massAirFlow hmem b hb rfl⟩

end EcuMult.Diagnostics
