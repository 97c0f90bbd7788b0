import EcuMult.Lib.Text

/-!
# `ProtocolRouter`: the manufacturers and their configurations

`src/core/protocol_router.cpp`. All configurations share one pair of physical
CAN ids and one functional id. The names are the tester's: `tx_id` is what the
tester sends on, so a request *arrives* with `tx_id`, and answers go out under
`rx_id`.
-/

namespace EcuMult.Core

open EcuMult.Lib

inductive Manufacturer
  | chevrolet
  | ford
  | toyota
  | bmw
  | volkswagen
  | mercedes
  | honda
  | nissan
  | hyundai
  | unknown
  deriving DecidableEq, Repr

inductive ActiveProtocol
  | obd2
  | uds
  | kwp2000
  | gmlan
  | hondaHds
  | nissanConsult
  | fordMsCan
  | toyotaMode21
  deriving DecidableEq, Repr

structure ManufacturerConfig where
  id : Manufacturer
  name : Text
  protocol : ActiveProtocol
  rxId : UInt32
  txId : UInt32
  functionalId : UInt32
  bitrate : Int
  vinPrefix : Text
  deriving DecidableEq, Repr

namespace ProtocolRouter

/-- The part of a configuration that all manufacturers share. -/
def config (id : Manufacturer) (name : String) (protocol : ActiveProtocol) (vinPrefix : String) :
    ManufacturerConfig where
  id := id
  name := name.toList
  protocol := protocol
  rxId := 0x7E8
  txId := 0x7E0
  functionalId := 0x7DF
  bitrate := 500000
  vinPrefix := vinPrefix.toList

def getConfigFor (mfr : Manufacturer) : ManufacturerConfig :=
  match mfr with
  | .chevrolet => config mfr "Chevrolet/GM" .gmlan "1G1"
  | .ford => config mfr "Ford" .fordMsCan "1FA"
  | .toyota => config mfr "Toyota" .toyotaMode21 "JT2"
  | .bmw => config mfr "BMW" .uds "WBA"
  | .volkswagen => config mfr "Volkswagen/Audi" .uds "WVW"
  | .mercedes => config mfr "Mercedes-Benz" .uds "WDB"
  | .honda => config mfr "Honda" .hondaHds "JHM"
  | .nissan => config mfr "Nissan" .nissanConsult "JN1"
  | .hyundai => config mfr "Hyundai/Kia" .uds "KMH"
  | .unknown => config mfr "Unknown" .obd2 "XXX"

@[simp] theorem getConfigFor_rxId (mfr : Manufacturer) : (getConfigFor mfr).rxId = 0x7E8 := by
  cases mfr <;> rfl

@[simp] theorem getConfigFor_txId (mfr : Manufacturer) : (getConfigFor mfr).txId = 0x7E0 := by
  cases mfr <;> rfl

@[simp] theorem getConfigFor_functionalId (mfr : Manufacturer) :
    (getConfigFor mfr).functionalId = 0x7DF := by
  cases mfr <;> rfl

end ProtocolRouter

end EcuMult.Core
