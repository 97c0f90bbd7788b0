import EcuMult.Lib.Quantise
import EcuMult.Manufacturers.PidTable
import EcuMult.Protocols.Obd2Standard

/-!
# Do the PID encoder and the PID decoder agree?

`encodePIDResponse` is written by PID, `decodePID` by formula. Here the two are
put side by side: for every numeric PID that both tables have and every value
in its range, does the standard's decoder read the encoded bytes as the value,
up to one quantisation step?

Each PID is a *linear code*: the decoder reads a raw byte or word `r` as
`q * r + off`, and the encoder stores `enc v`, truncated. `ByteCode` and
`WordCode` say so of a PID, and reduce the question to one about `enc`, `q` and
`off`, which `EcuMult.Lib.Quantise` answers. There are three kinds of PIDs:

* those whose `enc` undoes `q` and `off` always agree;
* those that fall into the default branch, or into the branch of the
  temperatures, with a step other than one agree for few values;
* those with a bias in the default branch never agree.

`agrees_iff` is the answer for all of them.
-/

namespace EcuMult.Manufacturers.PIDTable

open EcuMult.Lib EcuMult.Protocols.OBD2Standard

/-- The change of a PID's formula for one unit of its raw value. -/
def quantum (pid : UInt8) : ℚ :=
  match getPIDs.lookup pid with
  | none => 0
  | some info =>
    if 'B' ∈ info.formula then decodePID pid [0, 1] - decodePID pid [0, 0]
    else decodePID pid [1] - decodePID pid [0]

/-- The data bytes of the answer for `v` decode to within one step of `v`. -/
def Agrees (pid : UInt8) (v : ℚ) : Prop :=
  |decodePID pid ((setupDefaultPIDs.encodePIDResponse pid v).drop 2) - v| ≤ quantum pid

/-! ## Linear codes -/

/-- `pid` is decoded from its first byte, and `enc` is what is stored there. -/
structure ByteCode (pid : UInt8) (q off : ℚ) (enc : ℚ → ℚ) : Prop where
  encodes : ∀ v, ∃ rest,
    (setupDefaultPIDs.encodePIDResponse pid v).drop 2 = truncUInt8 (enc v) :: rest
  decodes : ∀ b rest, decodePID pid (b :: rest) = q * b.toNat + off
  unit : quantum pid = decodePID pid [1] - decodePID pid [0]

/-- `pid` is decoded from its first two bytes. -/
structure WordCode (pid : UInt8) (q : ℚ) (enc : ℚ → ℚ) : Prop where
  encodes : ∀ v, (setupDefaultPIDs.encodePIDResponse pid v).drop 2 = word (truncUInt16 (enc v))
  decodes : ∀ b c, decodePID pid [b, c] = q * (b.toNat * 256 + c.toNat)
  unit : quantum pid = decodePID pid [0, 1] - decodePID pid [0, 0]

section

variable {pid : UInt8} {q off : ℚ} {enc : ℚ → ℚ} {v : ℚ}

theorem ByteCode.agrees_quantises (code : ByteCode pid q off enc) (v : ℚ) :
    Agrees pid v ↔ Quantises q off (truncUInt8 (enc v)).toNat v := by
  obtain ⟨rest, hbytes⟩ := code.encodes v
  have hquantum : quantum pid = q := by
    rw [code.unit, code.decodes, code.decodes]
    push_cast [show (1 : UInt8).toNat = 1 from rfl, show (0 : UInt8).toNat = 0 from rfl]
    ring
  unfold Agrees Quantises
  rw [hbytes, code.decodes, hquantum]
  push_cast
  rfl

theorem WordCode.agrees_quantises (code : WordCode pid q enc) (v : ℚ) :
    Agrees pid v ↔ Quantises q 0 (truncUInt16 (enc v)).toNat v := by
  have hquantum : quantum pid = q := by
    rw [code.unit, code.decodes, code.decodes]
    push_cast [show (1 : UInt8).toNat = 1 from rfl, show (0 : UInt8).toNat = 0 from rfl]
    ring
  have hword : ((hiByte (truncUInt16 (enc v))).toNat : ℚ) * 256 +
      (loByte (truncUInt16 (enc v))).toNat = (truncUInt16 (enc v)).toNat := by
    rw [hiByte_toNat, loByte_toNat]
    exact_mod_cast Nat.div_add_mod' _ 256
  unfold Agrees Quantises
  rw [code.encodes, word, code.decodes, hquantum, hword, add_zero]
  push_cast
  rfl

/-- An encoder that undoes the decoder, on the values that fit a byte. -/
theorem ByteCode.agrees (code : ByteCode pid q off enc) (hq : 0 < q)
    (henc : enc v = (v - off) / q) (hlo : off ≤ v) (hhi : v < q * 256 + off) : Agrees pid v := by
  have hpos : 0 ≤ (v - off) / q := div_nonneg (by linarith) hq.le
  have hlt : (v - off) / q < 256 := by
    rw [div_lt_iff₀ hq]
    linarith
  rw [code.agrees_quantises, henc, truncUInt8_toNat hpos hlt]
  exact quantises_floor hq v

theorem WordCode.agrees (code : WordCode pid q enc) (hq : 0 < q) (henc : enc v = v / q)
    (hlo : 0 ≤ v) (hhi : v < q * 65536) : Agrees pid v := by
  have hlt : v / q < 65536 := by
    rw [div_lt_iff₀ hq]
    linarith
  rw [code.agrees_quantises, henc, truncUInt16_toNat (div_nonneg hlo hq.le) hlt]
  have hfloor : Quantises q 0 ⌊(v - 0) / q⌋ v := quantises_floor hq v
  rwa [sub_zero] at hfloor

/-- An encoder that stores the value itself, for a step less than a half. -/
theorem WordCode.agrees_unscaled (code : WordCode pid q id) (hq : 0 < q) (hhalf : q < 1 / 2)
    (hlo : 0 ≤ v) (hhi : v < 65536) : Agrees pid v ↔ v ≤ q := by
  rw [code.agrees_quantises, id, truncUInt16_toNat hlo hhi]
  exact quantises_unscaled hq hhalf hlo

theorem ByteCode.agrees_unscaled (code : ByteCode pid q 0 id) (hq : 0 < q) (hhalf : q < 1 / 2)
    (hlo : 0 ≤ v) (hhi : v < 256) : Agrees pid v ↔ v ≤ q := by
  rw [code.agrees_quantises, id, truncUInt8_toNat hlo hhi]
  exact quantises_unscaled hq hhalf hlo

/-- An encoder that stores the value itself, for a code around 128. -/
theorem ByteCode.not_agrees (code : ByteCode pid q (-128 * q) id) (hhalf : 1 / 2 ≤ q) (hone : q ≤ 1)
    (hlo : -128 * q ≤ v) (hhi : v < 128) : ¬ Agrees pid v := by
  have hraw : ((truncUInt8 v).toNat : Int) = trunc v % 256 := by
    unfold truncUInt8
    rw [UInt8.toNat_ofNat']
    omega
  rw [code.agrees_quantises, id, hraw]
  exact not_quantises_unbiased hhalf hone hlo hhi

end

/-! ## The PIDs by family -/

/-- `A-40`: the encoder adds the 40 that the formula takes off. -/
def temperaturePIDs : List UInt8 := [0x05, 0x0F, 0x46, 0x5C]

/-- `A`. -/
def plainPIDs : List UInt8 := [0x0B, 0x0D, 0x1C, 0x33]

/-- `A*0.005`. -/
def oxygenPIDs : List UInt8 := [0x14, 0x15]

/-- `A*100/255`, encoded in the branch of the temperatures. -/
def loadPIDs : List UInt8 := [0x04, 0x11, 0x2F]

/-- `(A-128)*100/128`, encoded in the default branch. -/
def fuelTrimPIDs : List UInt8 := [0x06, 0x07, 0x08, 0x09]

/-- `((A*256)+B)`. -/
def counterPIDs : List UInt8 := [0x1F, 0x21, 0x31]

theorem temperature_code {pid : UInt8} (h : pid ∈ temperaturePIDs) :
    ByteCode pid 1 (-40) (· + 40) := by
  simp only [temperaturePIDs, List.mem_cons, List.not_mem_nil, or_false] at h
  have hformula : ∀ b : UInt8, (b.toNat : ℚ) - 40 = 1 * b.toNat + -40 := fun b => by ring
  rcases h with rfl | rfl | rfl | rfl <;>
    exact ⟨fun v => ⟨[], rfl⟩, fun b rest => hformula b, rfl⟩

theorem plain_code {pid : UInt8} (h : pid ∈ plainPIDs) : ByteCode pid 1 0 id := by
  simp only [plainPIDs, List.mem_cons, List.not_mem_nil, or_false] at h
  have hformula : ∀ b : UInt8, (b.toNat : ℚ) = 1 * b.toNat + 0 := fun b => by ring
  rcases h with rfl | rfl | rfl | rfl <;>
    exact ⟨fun v => ⟨[], rfl⟩, fun b rest => hformula b, rfl⟩

theorem pressure_code : ByteCode 0x0A 3 0 (· / 3) := by
  have hformula : ∀ b : UInt8, (b.toNat : ℚ) * 3 = 3 * b.toNat + 0 := fun b => by ring
  exact ⟨fun v => ⟨[], rfl⟩, fun b rest => hformula b, rfl⟩

theorem oxygen_code {pid : UInt8} (h : pid ∈ oxygenPIDs) : ByteCode pid 0.005 0 (· / 0.005) := by
  simp only [oxygenPIDs, List.mem_cons, List.not_mem_nil, or_false] at h
  have hformula : ∀ b : UInt8, (b.toNat : ℚ) * 0.005 = 0.005 * b.toNat + 0 := fun b => by ring
  rcases h with rfl | rfl <;>
    exact ⟨fun v => ⟨List.replicate 5 0x80, rfl⟩, fun b rest => hformula b, rfl⟩

theorem load_code {pid : UInt8} (h : pid ∈ loadPIDs) : ByteCode pid (100 / 255) 0 (· + 40) := by
  simp only [loadPIDs, List.mem_cons, List.not_mem_nil, or_false] at h
  have hformula : ∀ b : UInt8, (b.toNat : ℚ) * 100 / 255 = 100 / 255 * b.toNat + 0 :=
    fun b => by ring
  rcases h with rfl | rfl | rfl <;>
    exact ⟨fun v => ⟨[], rfl⟩, fun b rest => hformula b, rfl⟩

theorem relativeThrottle_code : ByteCode 0x45 (100 / 255) 0 id := by
  have hformula : ∀ b : UInt8, (b.toNat : ℚ) * 100 / 255 = 100 / 255 * b.toNat + 0 :=
    fun b => by ring
  exact ⟨fun v => ⟨[], rfl⟩, fun b rest => hformula b, rfl⟩

theorem fuelTrim_code {pid : UInt8} (h : pid ∈ fuelTrimPIDs) :
    ByteCode pid (100 / 128) (-128 * (100 / 128)) id := by
  simp only [fuelTrimPIDs, List.mem_cons, List.not_mem_nil, or_false] at h
  have hformula : ∀ b : UInt8, ((b.toNat : ℚ) - 128) * 100 / 128 =
      100 / 128 * b.toNat + -128 * (100 / 128) := fun b => by ring
  rcases h with rfl | rfl | rfl | rfl <;>
    exact ⟨fun v => ⟨[], rfl⟩, fun b rest => hformula b, rfl⟩

theorem timingAdvance_code : ByteCode 0x0E (1 / 2) (-128 * (1 / 2)) id := by
  have hformula : ∀ b : UInt8, ((b.toNat : ℚ) - 128) / 2 = 1 / 2 * b.toNat + -128 * (1 / 2) :=
    fun b => by ring
  exact ⟨fun v => ⟨[], rfl⟩, fun b rest => hformula b, rfl⟩

theorem counter_code {pid : UInt8} (h : pid ∈ counterPIDs) : WordCode pid 1 id := by
  simp only [counterPIDs, List.mem_cons, List.not_mem_nil, or_false] at h
  have hformula : ∀ b c : UInt8, (b.toNat : ℚ) * 256 + c.toNat = 1 * (b.toNat * 256 + c.toNat) :=
    fun b c => by ring
  rcases h with rfl | rfl | rfl <;> exact ⟨fun v => rfl, hformula, rfl⟩

theorem engineRPM_code : WordCode 0x0C (1 / 4) (· * 4) := by
  have hformula : ∀ b c : UInt8, ((b.toNat : ℚ) * 256 + c.toNat) / 4 =
      1 / 4 * (b.toNat * 256 + c.toNat) := fun b c => by ring
  exact ⟨fun v => rfl, hformula, rfl⟩

theorem maf_code : WordCode 0x10 (1 / 100) (· * 100) := by
  have hformula : ∀ b c : UInt8, ((b.toNat : ℚ) * 256 + c.toNat) / 100 =
      1 / 100 * (b.toNat * 256 + c.toNat) := fun b c => by ring
  exact ⟨fun v => rfl, hformula, rfl⟩

theorem voltage_code : WordCode 0x42 (1 / 1000) (· * 1000) := by
  have hformula : ∀ b c : UInt8, ((b.toNat : ℚ) * 256 + c.toNat) / 1000 =
      1 / 1000 * (b.toNat * 256 + c.toNat) := fun b c => by ring
  exact ⟨fun v => rfl, hformula, rfl⟩

theorem fuelRail_code : WordCode 0x22 0.079 id := by
  have hformula : ∀ b c : UInt8, ((b.toNat : ℚ) * 256 + c.toNat) * 0.079 =
      0.079 * (b.toNat * 256 + c.toNat) := fun b c => by ring
  exact ⟨fun v => rfl, hformula, rfl⟩

theorem absoluteLoad_code : WordCode 0x43 (100 / 255) id := by
  have hformula : ∀ b c : UInt8, ((b.toNat : ℚ) * 256 + c.toNat) * 100 / 255 =
      100 / 255 * (b.toNat * 256 + c.toNat) := fun b c => by ring
  exact ⟨fun v => rfl, hformula, rfl⟩

theorem equivalenceRatio_code : WordCode 0x44 (1 / 32768) id := by
  have hformula : ∀ b c : UInt8, ((b.toNat : ℚ) * 256 + c.toNat) / 32768 =
      1 / 32768 * (b.toNat * 256 + c.toNat) := fun b c => by ring
  exact ⟨fun v => rfl, hformula, rfl⟩

/-- The values for which 40 more than the whole part, in 255ths of a hundred,
is close to the value: around the crossing of the two scales. -/
def NearCrossing (v : ℚ) : Prop :=
  (6300 / 255 ≤ v ∧ v < 25) ∨ (6400 / 255 ≤ v ∧ v ≤ 6600 / 255) ∨ (26 ≤ v ∧ v ≤ 6700 / 255)

/-- Of the raw values only 64, 65 and 66 are read close to what they stand
for. -/
theorem quantises_nearCrossing (v : ℚ) :
    Quantises (100 / 255) 0 (⌊v⌋ + 40) v ↔ NearCrossing v := by
  rw [quantises_iff]
  push_cast
  have hfloor : (⌊v⌋ : ℚ) ≤ v := Int.floor_le v
  have hnext : v < ⌊v⌋ + 1 := Int.lt_floor_add_one v
  have hcase : ⌊v⌋ ≤ 23 ∨ ⌊v⌋ = 24 ∨ ⌊v⌋ = 25 ∨ ⌊v⌋ = 26 ∨ 27 ≤ ⌊v⌋ := by omega
  unfold NearCrossing
  rcases hcase with hn | hn | hn | hn | hn
  · -- below, the reading is too high
    have hq : (⌊v⌋ : ℚ) ≤ 23 := by exact_mod_cast hn
    constructor
    · intro hbounds
      exact absurd hbounds.1 (by linarith)
    · intro hnear
      rcases hnear with hnear | hnear | hnear <;> exact absurd hnear.1 (by linarith)
  · rw [hn] at hfloor hnext ⊢
    push_cast at hfloor hnext ⊢
    constructor
    · intro hbounds
      obtain ⟨hbelow, -⟩ := hbounds
      exact Or.inl ⟨by linarith, by linarith⟩
    · intro hnear
      rcases hnear with ⟨hl, hr⟩ | ⟨hl, hr⟩ | ⟨hl, hr⟩ <;> exact ⟨by linarith, by linarith⟩
  · rw [hn] at hfloor hnext ⊢
    push_cast at hfloor hnext ⊢
    constructor
    · intro hbounds
      obtain ⟨hbelow, habove⟩ := hbounds
      exact Or.inr (Or.inl ⟨by linarith, by linarith⟩)
    · intro hnear
      rcases hnear with ⟨hl, hr⟩ | ⟨hl, hr⟩ | ⟨hl, hr⟩ <;> exact ⟨by linarith, by linarith⟩
  · rw [hn] at hfloor hnext ⊢
    push_cast at hfloor hnext ⊢
    constructor
    · intro hbounds
      obtain ⟨-, habove⟩ := hbounds
      exact Or.inr (Or.inr ⟨by linarith, by linarith⟩)
    · intro hnear
      rcases hnear with ⟨hl, hr⟩ | ⟨hl, hr⟩ | ⟨hl, hr⟩ <;> exact ⟨by linarith, by linarith⟩
  · -- above, it is too low
    have hq : (27 : ℚ) ≤ ⌊v⌋ := by exact_mod_cast hn
    constructor
    · intro hbounds
      exact absurd hbounds.2 (by linarith)
    · intro hnear
      rcases hnear with hnear | hnear | hnear <;> exact absurd hnear.2 (by linarith)

/-- A percentage stored as a temperature. -/
theorem load_agrees {pid : UInt8} (h : pid ∈ loadPIDs) {v : ℚ} (hlo : 0 ≤ v) (hhi : v ≤ 100) :
    Agrees pid v ↔ NearCrossing v := by
  have hraw : ((truncUInt8 (v + 40)).toNat : Int) = ⌊v⌋ + 40 := by
    rw [truncUInt8_toNat (by linarith) (by linarith)]
    exact Int.floor_add_ofNat v 40
  rw [(load_code h).agrees_quantises, hraw]
  exact quantises_nearCrossing v

/-! ## All numeric PIDs -/

/-- The PIDs whose encoder undoes the formula. -/
def matchedPIDs : List UInt8 :=
  temperaturePIDs ++ plainPIDs ++ oxygenPIDs ++ counterPIDs ++ [0x0A, 0x0C, 0x10, 0x42]

/-- The values of a PID for which encoder and decoder agree. -/
def AgreesWhen (pid : UInt8) (v : ℚ) : Prop :=
  if pid ∈ matchedPIDs then True
  else if pid ∈ loadPIDs then NearCrossing v
  else if pid = 0x22 then v ≤ 0.079
  else if pid = 0x43 ∨ pid = 0x45 then v ≤ 100 / 255
  else if pid = 0x44 then v ≤ 1 / 32768
  else False

/-- The bounds of an entry are those of its family. -/
theorem range_of {family : List UInt8} {lo hi : ℚ}
    (hfamily : ∀ e ∈ defaultPIDs, e.pid ∈ family → lo ≤ e.minVal ∧ e.maxVal ≤ hi)
    {pid : UInt8} {entry : PIDEntry} (hentry : setupDefaultPIDs.getPIDEntry pid = some entry)
    (hpid : pid ∈ family) {v : ℚ} (hlo : entry.minVal ≤ v) (hhi : v ≤ entry.maxVal) :
    lo ≤ v ∧ v ≤ hi := by
  have hfound : (assign PIDEntry.pid defaultPIDs ∅).lookup pid = some entry := hentry
  obtain ⟨hmem, rfl⟩ := lookup_assign_empty hfound
  obtain ⟨hmin, hmax⟩ := hfamily entry hmem hpid
  exact ⟨hmin.trans hlo, hhi.trans hmax⟩

/-- The matched PIDs agree on their whole range. -/
theorem matched_agrees {pid : UInt8} {entry : PIDEntry}
    (hentry : setupDefaultPIDs.getPIDEntry pid = some entry) (h : pid ∈ matchedPIDs)
    {v : ℚ} (hlo : entry.minVal ≤ v) (hhi : v ≤ entry.maxVal) : Agrees pid v := by
  simp only [matchedPIDs, List.mem_append, List.mem_cons, List.not_mem_nil, or_false] at h
  rcases h with (((h | h) | h) | h) | rfl | rfl | rfl | rfl
  · obtain ⟨hl, hh⟩ : -40 ≤ v ∧ v ≤ 215 := range_of (by decide +kernel) hentry h hlo hhi
    exact (temperature_code h).agrees (by norm_num) (by ring) hl (by linarith)
  · obtain ⟨hl, hh⟩ : 0 ≤ v ∧ v ≤ 255 := range_of (by decide +kernel) hentry h hlo hhi
    exact (plain_code h).agrees (by norm_num) (by rw [id]; ring) hl (by linarith)
  · obtain ⟨hl, hh⟩ : 0 ≤ v ∧ v ≤ 1.275 := range_of (by decide +kernel) hentry h hlo hhi
    exact (oxygen_code h).agrees (by norm_num) (by ring) hl (by linarith)
  · obtain ⟨hl, hh⟩ : 0 ≤ v ∧ v ≤ 65535 := range_of (by decide +kernel) hentry h hlo hhi
    exact (counter_code h).agrees (by norm_num) (by rw [id]; ring) hl (by linarith)
  · obtain ⟨hl, hh⟩ : 0 ≤ v ∧ v ≤ 765 :=
      range_of (by decide +kernel) hentry (List.mem_singleton.mpr rfl) hlo hhi
    exact pressure_code.agrees (by norm_num) (by ring) hl (by linarith)
  · obtain ⟨hl, hh⟩ : 0 ≤ v ∧ v ≤ 16383.75 :=
      range_of (by decide +kernel) hentry (List.mem_singleton.mpr rfl) hlo hhi
    exact engineRPM_code.agrees (by norm_num) (by ring) hl (by linarith)
  · obtain ⟨hl, hh⟩ : 0 ≤ v ∧ v ≤ 655.35 :=
      range_of (by decide +kernel) hentry (List.mem_singleton.mpr rfl) hlo hhi
    exact maf_code.agrees (by norm_num) (by ring) hl (by linarith)
  · obtain ⟨hl, hh⟩ : 0 ≤ v ∧ v ≤ 65.535 :=
      range_of (by decide +kernel) hentry (List.mem_singleton.mpr rfl) hlo hhi
    exact voltage_code.agrees (by norm_num) (by ring) hl (by linarith)

/-- The biased PIDs agree nowhere. -/
theorem biased_not_agrees {pid : UInt8} {entry : PIDEntry}
    (hentry : setupDefaultPIDs.getPIDEntry pid = some entry) (h : pid ∈ fuelTrimPIDs ∨ pid = 0x0E)
    {v : ℚ} (hlo : entry.minVal ≤ v) (hhi : v ≤ entry.maxVal) : ¬ Agrees pid v := by
  rcases h with h | rfl
  · obtain ⟨hl, hh⟩ : -100 ≤ v ∧ v ≤ 99.2 := range_of (by decide +kernel) hentry h hlo hhi
    exact (fuelTrim_code h).not_agrees (by norm_num) (by norm_num) (by linarith) (by linarith)
  · obtain ⟨hl, hh⟩ : -64 ≤ v ∧ v ≤ 63.5 :=
      range_of (by decide +kernel) hentry (List.mem_singleton.mpr rfl) hlo hhi
    exact timingAdvance_code.not_agrees (by norm_num) (by norm_num) (by linarith) (by linarith)

/-- A numeric PID is matched, biased, a percentage stored as a temperature, or
stored without its scale. -/
theorem numeric_cases {pid : UInt8} {info : PIDInfo} (hinfo : getPIDs.lookup pid = some info)
    (hnumeric : info.formula ≠ "bitmask".toList) :
    pid ∈ matchedPIDs ∨ (pid ∈ fuelTrimPIDs ∨ pid = 0x0E) ∨ pid ∈ loadPIDs ∨
      pid = 0x22 ∨ pid = 0x43 ∨ pid = 0x44 ∨ pid = 0x45 := by
  have hall : ∀ i ∈ standardPIDs, i.formula ≠ "bitmask".toList →
      i.pid ∈ matchedPIDs ∨ (i.pid ∈ fuelTrimPIDs ∨ i.pid = 0x0E) ∨ i.pid ∈ loadPIDs ∨
        i.pid = 0x22 ∨ i.pid = 0x43 ∨ i.pid = 0x44 ∨ i.pid = 0x45 := by decide
  obtain ⟨hmem, rfl⟩ := lookup_assign_empty hinfo
  exact hall info hmem hnumeric

/-- A throttle position of one half is sent as 90, and 90 is read as 35.3 %. -/
theorem not_always_agrees :
    ¬ ∀ (pid : UInt8) (entry : PIDEntry) (info : PIDInfo),
      setupDefaultPIDs.getPIDEntry pid = some entry → getPIDs.lookup pid = some info →
      info.formula ≠ "bitmask".toList → ∀ v, entry.minVal ≤ v → v ≤ entry.maxVal →
        Agrees pid v := by
  intro h
  have hhalf : Agrees 0x11 50 :=
    h 0x11 (entry 0x11 0 100 "A*100/255") (info 0x11 1 0 100 "A*100/255") rfl rfl (by decide) 50
      (by show (0 : ℚ) ≤ 50; norm_num) (by show (50 : ℚ) ≤ 100; norm_num)
  rw [load_agrees (by decide) (by norm_num) (by norm_num)] at hhalf
  rcases hhalf with ⟨-, hr⟩ | ⟨-, hr⟩ | ⟨-, hr⟩ <;> norm_num at hr

/-- **Where encoder and decoder agree.** For every numeric PID of both tables
and every value in its range, the data bytes of the answer decode to within one
quantisation step of the value exactly under `AgreesWhen`. -/
theorem agrees_iff {pid : UInt8} {entry : PIDEntry} {info : PIDInfo}
    (hentry : setupDefaultPIDs.getPIDEntry pid = some entry)
    (hinfo : getPIDs.lookup pid = some info) (hnumeric : info.formula ≠ "bitmask".toList)
    {v : ℚ} (hlo : entry.minVal ≤ v) (hhi : v ≤ entry.maxVal) :
    Agrees pid v ↔ AgreesWhen pid v := by
  rcases numeric_cases hinfo hnumeric with h | h | h | rfl | rfl | rfl | rfl
  · -- the encoder undoes the formula
    have hwhen : AgreesWhen pid v := by
      unfold AgreesWhen
      rw [if_pos h]
      trivial
    exact iff_of_true (matched_agrees hentry h hlo hhi) hwhen
  · -- the bias is not added
    have hwhen : ¬ AgreesWhen pid v := by
      rcases h with h | rfl
      · simp only [fuelTrimPIDs, List.mem_cons, List.not_mem_nil, or_false] at h
        rcases h with rfl | rfl | rfl | rfl <;> exact id
      · exact id
    exact iff_of_false (biased_not_agrees hentry h hlo hhi) hwhen
  · -- an offset takes the place of the scale
    obtain ⟨hl, hh⟩ : 0 ≤ v ∧ v ≤ 100 := range_of (by decide +kernel) hentry h hlo hhi
    have hunmatched : pid ∉ matchedPIDs := by
      simp only [loadPIDs, List.mem_cons, List.not_mem_nil, or_false] at h
      rcases h with rfl | rfl | rfl <;> decide
    unfold AgreesWhen
    rw [if_neg hunmatched, if_pos h]
    exact load_agrees h hl hh
  · -- from here on the value is stored without its scale
    obtain ⟨hl, hh⟩ : 0 ≤ v ∧ v ≤ 5177.265 :=
      range_of (by decide +kernel) hentry (List.mem_singleton.mpr rfl) hlo hhi
    exact fuelRail_code.agrees_unscaled (by norm_num) (by norm_num) hl (by linarith)
  · obtain ⟨hl, hh⟩ : 0 ≤ v ∧ v ≤ 25700 :=
      range_of (by decide +kernel) hentry (List.mem_singleton.mpr rfl) hlo hhi
    exact absoluteLoad_code.agrees_unscaled (by norm_num) (by norm_num) hl (by linarith)
  · obtain ⟨hl, hh⟩ : 0 ≤ v ∧ v ≤ 2 :=
      range_of (by decide +kernel) hentry (List.mem_singleton.mpr rfl) hlo hhi
    exact equivalenceRatio_code.agrees_unscaled (by norm_num) (by norm_num) hl (by linarith)
  · obtain ⟨hl, hh⟩ : 0 ≤ v ∧ v ≤ 100 :=
      range_of (by decide +kernel) hentry (List.mem_singleton.mpr rfl) hlo hhi
    exact relativeThrottle_code.agrees_unscaled (by norm_num) (by norm_num) hl (by linarith)

theorem agrees_iff_idle : Agrees 0x0C 750 ↔ AgreesWhen 0x0C 750 :=
  @agrees_iff 0x0C (entry 0x0C 0 16383.75 "((A*256)+B)/4")
    (info 0x0C 2 0 16383.75 "((A*256)+B)/4") rfl rfl (by decide) 750
    (by show (0 : ℚ) ≤ 750; norm_num) (by show (750 : ℚ) ≤ 16383.75; norm_num)

end EcuMult.Manufacturers.PIDTable
