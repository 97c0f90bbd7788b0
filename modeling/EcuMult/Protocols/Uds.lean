import EcuMult.Lib.Bytes

/-!
# `UDSProtocol`: building and classifying responses

`src/protocols/uds.cpp`. A positive response begins with the service plus
`0x40`, a negative one with `0x7F`. The classifier takes the first byte for
positive if it lies from `0x40` to `0x7F`. That leaves no room for the services
from `0x83` on, and it takes in `0x7F` (`classifiers_agree_iff`).

Mirroring notes:
- The reason of a negative response is any byte.
-/

namespace EcuMult.Protocols.UDSProtocol

open EcuMult.Lib

inductive Service
  | sessionControl
  | ecuReset
  | securityAccess
  | commControl
  | testerPresent
  | accessTiming
  | securedDataTrans
  | controlDTCSetting
  | responseOnEvent
  | linkControl
  | readDataById
  | readMemByAddr
  | readScalingData
  | readDataPeriodic
  | readDTCInfo
  | writeDataById
  | writeMemByAddr
  | routineControl
  | requestDownload
  | requestUpload
  | transferData
  | requestTransferExit
  | writeDTC
  | ioControlById
  | inputOutputControl
  deriving DecidableEq, Repr

def Service.toByte : Service → UInt8
  | .sessionControl => 0x10
  | .ecuReset => 0x11
  | .securityAccess => 0x27
  | .commControl => 0x28
  | .testerPresent => 0x3E
  | .accessTiming => 0x83
  | .securedDataTrans => 0x84
  | .controlDTCSetting => 0x85
  | .responseOnEvent => 0x86
  | .linkControl => 0x87
  | .readDataById => 0x22
  | .readMemByAddr => 0x23
  | .readScalingData => 0x24
  | .readDataPeriodic => 0x2A
  | .readDTCInfo => 0x19
  | .writeDataById => 0x2E
  | .writeMemByAddr => 0x3D
  | .routineControl => 0x31
  | .requestDownload => 0x34
  | .requestUpload => 0x35
  | .transferData => 0x36
  | .requestTransferExit => 0x37
  | .writeDTC => 0x14
  | .ioControlById => 0x2F
  | .inputOutputControl => 0x30

def buildPositiveResponse (service : UInt8) (data : Bytes) : Bytes := (service + 0x40) :: data

def buildNegativeResponse (service nrc : UInt8) : Bytes := [0x7F, service, nrc]

def isPositiveResponse (responseByte : UInt8) : Bool := responseByte &&& 0xC0 = 0x40

def isNegativeResponse (responseByte : UInt8) : Bool := responseByte = 0x7F

def getServiceFromResponse (responseByte : UInt8) : UInt8 :=
  if isPositiveResponse responseByte then responseByte - 0x40 else 0xFF

/-! ## What the classifiers should say -/

/-- Of a positive response: it is positive, not negative, and of the service. -/
structure TakenForPositive (service : Service) (response : Bytes) : Prop where
  positive : isPositiveResponse (response.headD 0) = true
  notNegative : isNegativeResponse (response.headD 0) = false
  service : getServiceFromResponse (response.headD 0) = service.toByte

/-- Of a negative response: it is negative, not positive, and of no service. -/
structure TakenForNegative (response : Bytes) : Prop where
  negative : isNegativeResponse (response.headD 0) = true
  notPositive : isPositiveResponse (response.headD 0) = false
  noService : ∀ service : Service, getServiceFromResponse (response.headD 0) ≠ service.toByte

/-- The classifier leaves room for the services below `0x40`. -/
theorem isPositiveResponse_iff (service : UInt8) :
    isPositiveResponse (service + 0x40) = true ↔ service < 0x40 :=
  forall_uint8 (p := fun b => isPositiveResponse (b + 0x40) = true ↔ b < 0x40)
    (by decide +kernel) service

/-- The response of a service is never `0x7F`: there is no service `0x3F`. -/
theorem isNegativeResponse_service (service : Service) :
    isNegativeResponse (service.toByte + 0x40) = false := by
  cases service <;> rfl

theorem takenForPositive_iff (service : Service) (payload : Bytes) :
    TakenForPositive service (buildPositiveResponse service.toByte payload) ↔
      service.toByte < 0x40 := by
  constructor
  · intro h
    exact (isPositiveResponse_iff service.toByte).mp h.positive
  · intro hlow
    have hpositive := (isPositiveResponse_iff service.toByte).mpr hlow
    refine ⟨hpositive, isNegativeResponse_service service, ?_⟩
    show (if isPositiveResponse (service.toByte + 0x40) then service.toByte + 0x40 - 0x40
      else 0xFF) = service.toByte
    rw [if_pos hpositive, UInt8.add_sub_cancel]

/-- What is right about a negative response, and what is not. -/
theorem negative_taken (service nrc : UInt8) :
    isNegativeResponse ((buildNegativeResponse service nrc).headD 0) = true ∧
      isPositiveResponse ((buildNegativeResponse service nrc).headD 0) = true ∧
      ∀ other : Service,
        getServiceFromResponse ((buildNegativeResponse service nrc).headD 0) ≠ other.toByte := by
  refine ⟨?_, ?_, fun other => ?_⟩
  · show isNegativeResponse 0x7F = true
    decide
  · show isPositiveResponse 0x7F = true
    decide
  · -- `0x3F`, between the last of one block of services and the first of another
    have hservice : getServiceFromResponse 0x7F = 0x3F := by decide
    show getServiceFromResponse 0x7F ≠ other.toByte
    rw [hservice]
    cases other <;> decide

/-- **When the classifiers agree with the builders.** On a positive response, if
and only if the service is below `0x40`; on a negative response never. -/
theorem classifiers_agree_iff (service : Service) (payload : Bytes) (nrc : UInt8) :
    (TakenForPositive service (buildPositiveResponse service.toByte payload) ↔
        service.toByte < 0x40) ∧
      ¬ TakenForNegative (buildNegativeResponse service.toByte nrc) := by
  refine ⟨takenForPositive_iff service payload, fun h => ?_⟩
  have hpositive := (negative_taken service.toByte nrc).2.1
  rw [h.notPositive] at hpositive
  cases hpositive

/-- The refusal of a read is positive, and the response to the timing service is
not. -/
theorem refusal_positive :
    isPositiveResponse ((buildNegativeResponse 0x22 0x12).headD 0) = true ∧
      ¬ TakenForNegative (buildNegativeResponse 0x22 0x12) ∧
      ¬ TakenForPositive .accessTiming (buildPositiveResponse Service.accessTiming.toByte []) := by
  refine ⟨by decide, fun h => ?_, fun h => ?_⟩
  · exact absurd h.notPositive (by decide)
  · exact absurd h.positive (by decide)

end EcuMult.Protocols.UDSProtocol
