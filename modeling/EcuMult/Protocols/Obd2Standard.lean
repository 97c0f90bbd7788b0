import EcuMult.Lib.Table
import EcuMult.Lib.Text
import Mathlib.Algebra.Order.Ring.Rat

/-!
# `OBD2Standard`: the standard's PIDs and codes

`src/protocols/obd2_standard.cpp`: the table of standard PIDs with the formula
of each, the decoder that interprets the formulas, and the big-endian bytes of
a trouble code.

Mirroring notes:
- Sensor values are exact rationals.
- A PID's name and unit are read by nothing and left out.
- `encodePID` and `supportedPIDs` ignore their arguments in the source.
-/

namespace EcuMult.Protocols.OBD2Standard

open EcuMult.Lib

structure PIDInfo where
  pid : UInt8
  dataBytes : UInt8
  minVal : ℚ
  maxVal : ℚ
  formula : Text
  deriving DecidableEq, Repr

def info (pid dataBytes : UInt8) (minVal maxVal : ℚ) (formula : String) : PIDInfo where
  pid := pid
  dataBytes := dataBytes
  minVal := minVal
  maxVal := maxVal
  formula := formula.toList

/-- The entries of `initPIDs`. -/
def standardPIDs : List PIDInfo :=
  [info 0x00 4 0 0 "bitmask",
    info 0x01 4 0 0 "bitmask",
    info 0x03 2 0 0 "bitmask",
    info 0x04 1 0 100 "A*100/255",
    info 0x05 1 (-40) 215 "A-40",
    info 0x06 1 (-100) 99.2 "(A-128)*100/128",
    info 0x07 1 (-100) 99.2 "(A-128)*100/128",
    info 0x08 1 (-100) 99.2 "(A-128)*100/128",
    info 0x09 1 (-100) 99.2 "(A-128)*100/128",
    info 0x0A 1 0 765 "A*3",
    info 0x0B 1 0 255 "A",
    info 0x0C 2 0 16383.75 "((A*256)+B)/4",
    info 0x0D 1 0 255 "A",
    info 0x0E 1 (-64) 63.5 "(A-128)/2",
    info 0x0F 1 (-40) 215 "A-40",
    info 0x10 2 0 655.35 "((A*256)+B)/100",
    info 0x11 1 0 100 "A*100/255",
    info 0x13 1 0 0 "bitmask",
    info 0x14 2 0 1.275 "A*0.005",
    info 0x15 2 0 1.275 "A*0.005",
    info 0x1C 1 0 0 "A",
    info 0x1F 2 0 65535 "((A*256)+B)",
    info 0x20 4 0 0 "bitmask",
    info 0x21 2 0 65535 "((A*256)+B)",
    info 0x22 2 0 5177.265 "((A*256)+B)*0.079",
    info 0x2F 1 0 100 "A*100/255",
    info 0x31 2 0 65535 "((A*256)+B)",
    info 0x33 1 0 255 "A",
    info 0x42 2 0 65.535 "((A*256)+B)/1000",
    info 0x43 2 0 25700 "((A*256)+B)*100/255",
    info 0x44 2 0 2 "((A*256)+B)/32768",
    info 0x45 1 0 100 "A*100/255",
    info 0x46 1 (-40) 215 "A-40",
    info 0x5C 1 (-40) 210 "A-40"]

def getPIDs : AList fun _ : UInt8 => PIDInfo :=
  assign PIDInfo.pid standardPIDs ∅

/-- The comparisons of `decodePID`; an unknown formula decodes to 0. -/
def evalFormula (formula : Text) (A B : ℚ) : ℚ :=
  if formula = "A".toList then A
  else if formula = "A-40".toList then A - 40
  else if formula = "A*100/255".toList then A * 100 / 255
  else if formula = "A*3".toList then A * 3
  else if formula = "(A-128)/2".toList then (A - 128) / 2
  else if formula = "A*0.005".toList then A * 0.005
  else if formula = "(A-128)*100/128".toList then (A - 128) * 100 / 128
  else if formula = "((A*256)+B)/4".toList then (A * 256 + B) / 4
  else if formula = "((A*256)+B)/100".toList then (A * 256 + B) / 100
  else if formula = "((A*256)+B)".toList then A * 256 + B
  else if formula = "((A*256)+B)*0.079".toList then (A * 256 + B) * 0.079
  else if formula = "((A*256)+B)/1000".toList then (A * 256 + B) / 1000
  else if formula = "((A*256)+B)*100/255".toList then (A * 256 + B) * 100 / 255
  else if formula = "((A*256)+B)/32768".toList then (A * 256 + B) / 32768
  else 0

/-- `data.size() > i ? data[i] : 0`. -/
def dataByte (data : Bytes) (i : Nat) : ℚ := ((data.getD i 0).toNat : ℚ)

def decodePID (pid : UInt8) (data : Bytes) : ℚ :=
  match getPIDs.lookup pid with
  | none => 0
  | some info =>
    if data = [] then 0 else evalFormula info.formula (dataByte data 0) (dataByte data 1)

/-! ## Trouble codes -/

def encodeDTC (code : UInt16) : Bytes := [hiByte code, loByte code]

/-- 0 when the pair is not there. -/
def decodeDTC (data : Bytes) (offset : Nat) : UInt16 :=
  if offset + 1 ≥ data.length then 0 else be16 (data.getD offset 0) (data.getD (offset + 1) 0)

end EcuMult.Protocols.OBD2Standard
