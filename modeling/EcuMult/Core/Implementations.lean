import EcuMult.Manufacturers.Base

/-!
# `ProtocolRouter`: the registered manufacturers

`src/core/protocol_router.cpp`: the map of registered ECUs and the one that is
selected. `getCurrentImplementation()` gives out a pointer; whoever changes the
object behind it puts the changed object back with `putCurrent`.

Mirroring notes:
- The map's values are the objects' states. Each registered class has the id it
  is registered under.
- Frames are routed to the selected object's `handleCanFrame`, which is
  modelled with the dispatchers.
-/

namespace EcuMult.Core

open EcuMult.Lib EcuMult.Manufacturers

structure ProtocolRouter where
  implementations : AList fun _ : Manufacturer => BaseManufacturer
  currentManufacturer : Manufacturer

namespace ProtocolRouter

def new : ProtocolRouter where
  implementations := ∅
  currentManufacturer := .unknown

/-- The object afterwards, and whether the manufacturer was free. -/
def registerManufacturer (r : ProtocolRouter) (mfr : Manufacturer) (impl : BaseManufacturer) :
    ProtocolRouter × Bool :=
  if mfr ∈ r.implementations then (r, false)
  else ({ r with implementations := r.implementations.insert mfr impl }, true)

/-- The object afterwards, and whether the manufacturer is registered. -/
def selectManufacturer (r : ProtocolRouter) (mfr : Manufacturer) : ProtocolRouter × Bool :=
  match r.implementations.lookup mfr with
  | none => (r, false)
  | some impl =>
    let impl := impl.onManufacturerSelected (getConfigFor mfr)
    ({ implementations := r.implementations.insert mfr impl, currentManufacturer := mfr }, true)

def getCurrentImplementation (r : ProtocolRouter) : Option BaseManufacturer :=
  r.implementations.lookup r.currentManufacturer

/-- Put a changed object back. -/
def putCurrent (r : ProtocolRouter) (impl : BaseManufacturer) : ProtocolRouter :=
  { r with implementations := r.implementations.insert r.currentManufacturer impl }

/-- Change the selected object, if there is one. -/
def modifyCurrent (r : ProtocolRouter) (f : BaseManufacturer → BaseManufacturer) : ProtocolRouter :=
  match r.getCurrentImplementation with
  | none => r
  | some impl => r.putCurrent (f impl)

def manufacturerToString (mfr : Manufacturer) : Text :=
  match mfr with
  | .chevrolet => "chevrolet".toList
  | .ford => "ford".toList
  | .toyota => "toyota".toList
  | .bmw => "bmw".toList
  | .volkswagen => "volkswagen".toList
  | .mercedes => "mercedes".toList
  | .honda => "honda".toList
  | .nissan => "nissan".toList
  | .hyundai => "hyundai".toList
  | .unknown => "unknown".toList

def stringToManufacturer (str : Text) : Manufacturer :=
  let lower := str.map Char.toLower
  let among (names : List String) := names.any fun name => lower = name.toList
  if among ["chevrolet", "gm", "chevy"] then .chevrolet
  else if among ["ford"] then .ford
  else if among ["toyota"] then .toyota
  else if among ["bmw"] then .bmw
  else if among ["volkswagen", "vw", "audi"] then .volkswagen
  else if among ["mercedes", "mercedes-benz", "benz"] then .mercedes
  else if among ["honda"] then .honda
  else if among ["nissan"] then .nissan
  else if among ["hyundai", "kia"] then .hyundai
  else .unknown

/-- What a manufacturer is called is how it is asked for. -/
theorem stringToManufacturer_toString (mfr : Manufacturer) :
    stringToManufacturer (manufacturerToString mfr) = mfr := by
  cases mfr <;> decide

/-! ## What is registered -/

/-- The first registration counts. -/
theorem registerManufacturer_lookup (r : ProtocolRouter) (m mfr : Manufacturer)
    (impl : BaseManufacturer) :
    (r.registerManufacturer m impl).1.implementations.lookup mfr =
      (r.implementations.lookup mfr).or (if mfr = m then some impl else none) := by
  unfold registerManufacturer
  by_cases hmem : m ∈ r.implementations
  · rw [if_pos hmem]
    by_cases hmfr : mfr = m
    · obtain ⟨before, hbefore⟩ := Option.isSome_iff_exists.mp (AList.lookup_isSome.mpr hmem)
      rw [hmfr, hbefore, Option.some_or]
    · rw [if_neg hmfr, Option.or_none]
  · rw [if_neg hmem]
    by_cases hmfr : mfr = m
    · rw [if_pos hmfr, hmfr, AList.lookup_eq_none.mpr hmem, Option.none_or]
      exact AList.lookup_insert _
    · rw [if_neg hmfr, Option.or_none]
      exact AList.lookup_insert_ne hmfr

/-- Several in a row. -/
theorem registerEach_lookup (ecu : Manufacturer → BaseManufacturer) (mfr : Manufacturer) :
    ∀ (mfrs : List Manufacturer) (r : ProtocolRouter),
      (mfrs.foldl (fun r m => (r.registerManufacturer m (ecu m)).1) r).implementations.lookup mfr =
        (r.implementations.lookup mfr).or (if mfr ∈ mfrs then some (ecu mfr) else none) := by
  intro mfrs
  induction mfrs with
  | nil => exact fun r => (Option.or_none).symm
  | cons m rest ih =>
    intro r
    rw [List.foldl_cons, ih, registerManufacturer_lookup, Option.or_assoc]
    congr 1
    by_cases hmfr : mfr = m
    · have hmem : mfr ∈ m :: rest := hmfr ▸ List.mem_cons_self ..
      rw [if_pos hmfr, if_pos hmem, Option.some_or, hmfr]
    · rw [if_neg hmfr, Option.none_or]
      have hiff : mfr ∈ m :: rest ↔ mfr ∈ rest := by
        rw [List.mem_cons, or_iff_right hmfr]
      rw [if_congr hiff rfl rfl]

/-! ## The selected object -/

@[simp] theorem putCurrent_getCurrent (r : ProtocolRouter) (impl : BaseManufacturer) :
    (r.putCurrent impl).getCurrentImplementation = some impl :=
  AList.lookup_insert _

@[simp] theorem modifyCurrent_getCurrent (r : ProtocolRouter)
    (f : BaseManufacturer → BaseManufacturer) :
    (r.modifyCurrent f).getCurrentImplementation = r.getCurrentImplementation.map f := by
  unfold modifyCurrent
  cases hcurrent : r.getCurrentImplementation with
  | none => exact hcurrent
  | some impl => exact putCurrent_getCurrent r (f impl)

/-- A manufacturer that is registered can be selected, and is. -/
theorem selectManufacturer_registered {r : ProtocolRouter} {mfr : Manufacturer}
    {impl : BaseManufacturer} (h : r.implementations.lookup mfr = some impl) :
    (r.selectManufacturer mfr).2 = true ∧
      (r.selectManufacturer mfr).1.getCurrentImplementation =
        some (impl.onManufacturerSelected (getConfigFor mfr)) := by
  unfold selectManufacturer
  rw [h]
  exact ⟨rfl, AList.lookup_insert _⟩

theorem selectManufacturer_unregistered {r : ProtocolRouter} {mfr : Manufacturer}
    (h : r.implementations.lookup mfr = none) : r.selectManufacturer mfr = (r, false) := by
  unfold selectManufacturer
  rw [h]

end ProtocolRouter

end EcuMult.Core
