import EcuMult.Lib.Text

/-!
# `VINDecoder`: vehicle identification numbers

`src/diagnostics/vin_decoder.cpp`. A number has 17 characters: three for the
maker, five to describe the vehicle, a check character, one for the model year
and seven more.

Mirroring notes:
- `none` is the `out_of_range` that `unordered_map::at` throws.
- `toupper` is that of the C locale, which leaves all but the 26 letters alone.
- `year` is not initialised for a number that is too short; `model` and
  `vehicle_type` are never set.

`generateVIN` puts its year letter at the place of the check character, and a
digit at the place of the year, so what it generates is never valid
(`never_decodes_back`).
-/

namespace EcuMult.Diagnostics

open EcuMult.Lib

structure VINInfo where
  vin : Text
  wmi : Text
  vds : Text
  vis : Text
  manufacturer : Text
  make : Text
  year : Option Nat
  country : Text
  deriving DecidableEq, Repr

namespace VINDecoder

/-! ## Check characters -/

def getWeightMap : List (Char × Nat) :=
  [('1', 8), ('2', 7), ('3', 6), ('4', 5), ('5', 4), ('6', 3), ('7', 2), ('8', 10), ('9', 9),
    ('0', 1)]

def getTransliterationMap : List (Char × Nat) :=
  [('A', 1), ('B', 2), ('C', 3), ('D', 4), ('E', 5), ('F', 6), ('G', 7), ('H', 8), ('J', 1),
    ('K', 2), ('L', 3), ('M', 4), ('N', 5), ('P', 7), ('R', 9), ('S', 2), ('T', 3), ('U', 4),
    ('V', 5), ('W', 6), ('X', 7), ('Y', 8), ('Z', 9)]

/-- The value of a character, once it is upper case. -/
def transliterate (c : Char) : Option Nat :=
  if c.isDigit then some (c.toNat - '0'.toNat) else getTransliterationMap.lookup c

/-- The body of the loop: the ninth place is passed over. -/
def addPlace (vin : Text) (sum i : Nat) : Option Nat :=
  if i = 8 then some sum
  else do
    let value ← transliterate (vin.getD i ' ').toUpper
    let weight ← getWeightMap.lookup (Char.ofNat ('0'.toNat + i % 10))
    some (sum + value * weight)

/-- A remainder modulo eleven as a character. -/
def checkChar (remainder : Nat) : Char :=
  if remainder = 10 then 'X' else Char.ofNat ('0'.toNat + remainder)

def calculateChecksum (vin : Text) : Option Char :=
  if vin.length < 17 then some '0'
  else do
    let sum ← (List.range 17).foldlM (addPlace vin) 0
    some (checkChar (sum % 11))

def validateChecksum (vin : Text) : Option Bool :=
  if vin.length ≠ 17 then some false
  else do
    let actual := vin.getD 8 ' '
    let expected ← calculateChecksum vin
    some (actual == expected || actual == 'X')

/-! ## Decoding -/

def getModelYear (code : Char) : Nat :=
  let code := code.toUpper
  if 'A' ≤ code ∧ code ≤ 'Y' then 1980 + (code.toNat - 'A'.toNat)
  else if '1' ≤ code ∧ code ≤ '9' then 2001 + (code.toNat - '1'.toNat)
  else 0

def getCountry (wmi : Text) : Text :=
  match wmi with
  | [] => "Unknown".toList
  | first :: _ =>
    if 'A' ≤ first ∧ first ≤ 'H' then "USA".toList
    else if first = 'J' then "Japan".toList
    else if 'K' ≤ first ∧ first ≤ 'L' then "Korea".toList
    else if 'N' ≤ first ∧ first ≤ 'T' then "Europe".toList
    else if first = 'V' then "France".toList
    else if first = 'W' then "Germany".toList
    else if first = 'X' then "Netherlands".toList
    else if first = 'Z' then "Italy".toList
    else "Other".toList

/-- The makes, each with the codes that stand for it. -/
def makes : List (String × List String) :=
  [("Chevrolet", ["1G1", "1G2", "1G3"]), ("Ford", ["1FA", "1FB", "1FC"]),
    ("Toyota", ["JT2", "JT3", "JT4"]), ("BMW", ["WBA", "WBS", "WBE"]),
    ("Volkswagen", ["WVW", "WVG"]), ("Mercedes-Benz", ["WDB", "WDD", "WDC"]),
    ("Honda", ["JHM", "JHG"]), ("Nissan", ["JN1", "JN8"]), ("Hyundai/Kia", ["KMH", "KNA"])]

def getMakeFromWMI (wmi : Text) : Text :=
  if wmi.length < 3 then "Unknown".toList
  else
    match makes.find? fun make => make.2.any fun code => code.toList == wmi with
    | some make => make.1.toList
    | none => "Other".toList

def decode (vin : Text) : VINInfo :=
  if vin.length < 17 then ⟨[], [], [], [], [], [], none, []⟩
  else
    let wmi := vin.take 3
    { vin := vin
      wmi := wmi
      vds := (vin.drop 3).take 6
      vis := (vin.drop 9).take 8
      manufacturer := getMakeFromWMI wmi
      make := getMakeFromWMI wmi
      year := some (getModelYear (vin.getD 9 ' '))
      country := getCountry wmi }

/-! ## Generating -/

/-- The makes `generateVIN` knows, each with the code it gives it. -/
def generatedMakes : List (String × String) :=
  [("Chevrolet", "1G1"), ("Ford", "1FA"), ("Toyota", "JT2"), ("BMW", "WBA"),
    ("Volkswagen", "WVW"), ("Mercedes", "WDB"), ("Honda", "JHM"), ("Nissan", "JN1")]

/-- The model is cast to `void`, and the year is not looked at. -/
def generateVIN (manufacturer _model : Text) (_year : Int) : Text :=
  let wmi :=
    match generatedMakes.find? fun make => make.1.toList == manufacturer with
    | some make => make.2
    | none => "XXX"
  wmi.toList ++ "ZZZ1Z".toList ++ "K".toList ++ "8W123456".toList

/-- What a generated number should be: valid, and decoded to what it was
generated from. -/
structure DecodesBack (manufacturer model : Text) (year : Int) : Prop where
  length : (generateVIN manufacturer model year).length = 17
  valid : validateChecksum (generateVIN manufacturer model year) = some true
  decodedYear : (decode (generateVIN manufacturer model year)).year.map Int.ofNat = some year
  decodedMake : (∃ make ∈ generatedMakes, manufacturer = make.1.toList) →
    (decode (generateVIN manufacturer model year)).manufacturer = manufacturer

/-- There are nine generated numbers. -/
theorem generateVIN_cases (manufacturer model : Text) (year : Int) :
    (∃ make ∈ generatedMakes, manufacturer = make.1.toList ∧
      generateVIN manufacturer model year = make.2.toList ++ "ZZZ1ZK8W123456".toList) ∨
    (¬ ∃ make ∈ generatedMakes, manufacturer = make.1.toList) ∧
      generateVIN manufacturer model year = "XXXZZZ1ZK8W123456".toList := by
  unfold generateVIN
  cases hfound : generatedMakes.find? fun make => make.1.toList == manufacturer with
  | some make =>
    have hfits := List.find?_some hfound
    have hname : make.1.toList = manufacturer := eq_of_beq hfits
    refine Or.inl ⟨make, List.mem_of_find?_eq_some hfound, hname.symm, ?_⟩
    show make.2.toList ++ "ZZZ1Z".toList ++ "K".toList ++ "8W123456".toList = _
    rw [List.append_assoc, List.append_assoc]
    rfl
  | none =>
    refine Or.inr ⟨?_, rfl⟩
    intro hknown
    obtain ⟨make, hmem, rfl⟩ := hknown
    exact List.find?_eq_none.mp hfound make hmem (beq_self_eq_true _)

/-- What a number with a known make's code comes to: wrong check character,
the year of an `8`, and the make but for Mercedes, which has another name. -/
theorem generated_known :
    ∀ make ∈ generatedMakes,
      validateChecksum (make.2.toList ++ "ZZZ1ZK8W123456".toList) = some false ∧
      (decode (make.2.toList ++ "ZZZ1ZK8W123456".toList)).year = some 2008 ∧
      ((decode (make.2.toList ++ "ZZZ1ZK8W123456".toList)).manufacturer = make.1.toList ↔
        make.1.toList ≠ "Mercedes".toList) := by
  decide

theorem generated_unknown :
    validateChecksum "XXXZZZ1ZK8W123456".toList = some false ∧
    (decode "XXXZZZ1ZK8W123456".toList).year = some 2008 := by
  decide

/-- A Chevrolet of 2008: all but the check character. -/
theorem not_always_decodes_back :
    ¬ ∀ (manufacturer model : Text) (year : Int), 1980 ≤ year → year ≤ 2009 →
      DecodesBack manufacturer model year := by
  intro h
  have hvalid := (h "Chevrolet".toList "Silverado".toList 2008 (by decide) (by decide)).valid
  exact absurd hvalid (by decide)

/-- **No generated number decodes back.** All have 17 characters, are of 2008,
and have a check character that is wrong, whatever they are generated from;
the make is right but for Mercedes. -/
theorem never_decodes_back (manufacturer model : Text) (year : Int) :
    ¬ DecodesBack manufacturer model year ∧
    (generateVIN manufacturer model year).length = 17 ∧
    validateChecksum (generateVIN manufacturer model year) = some false ∧
    (decode (generateVIN manufacturer model year)).year = some 2008 ∧
    ((∃ make ∈ generatedMakes, manufacturer = make.1.toList) →
      ((decode (generateVIN manufacturer model year)).manufacturer = manufacturer ↔
        manufacturer ≠ "Mercedes".toList)) := by
  have hnever : validateChecksum (generateVIN manufacturer model year) = some false →
      ¬ DecodesBack manufacturer model year := by
    intro hfalse hback
    rw [hback.valid] at hfalse
    exact absurd hfalse (by decide)
  rcases generateVIN_cases manufacturer model year with ⟨make, hmem, rfl, heq⟩ | ⟨hnone, heq⟩
  · obtain ⟨hvalid, hyear, hmake⟩ := generated_known make hmem
    have hlength : ∀ make ∈ generatedMakes,
        (make.2.toList ++ "ZZZ1ZK8W123456".toList).length = 17 := by decide
    rw [← heq] at hvalid hyear hmake
    exact ⟨hnever hvalid, heq ▸ hlength make hmem, hvalid, hyear, fun _ => hmake⟩
  · obtain ⟨hvalid, hyear⟩ := generated_unknown
    rw [← heq] at hvalid hyear
    exact ⟨hnever hvalid, heq ▸ rfl, hvalid, hyear, fun hknown => absurd hknown hnone⟩

end VINDecoder

end EcuMult.Diagnostics
