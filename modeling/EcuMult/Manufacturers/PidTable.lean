import EcuMult.Lib.Table
import EcuMult.Lib.Text
import EcuMult.Lib.Truncate

/-!
# The PID table of an ECU

`src/manufacturers/base.cpp`, `setupDefaultPIDs`, `addPID` and
`encodePIDResponse`: which PIDs Mode 01 answers, and how a sensor value becomes
the bytes of an answer. The encoder is a `switch` on the PID, which looks at
the formula of the table only in its default branch, and there only for
whether `256` occurs in it.

Mirroring notes:
- Sensor values are exact rationals.
- An entry's name, unit and (never assigned) functions are read by nothing and
  left out.
-/

namespace EcuMult.Manufacturers

open EcuMult.Lib

structure PIDEntry where
  pid : UInt8
  minVal : ℚ
  maxVal : ℚ
  formula : Text
  deriving DecidableEq, Repr

/-- `pid_table_`. -/
abbrev PIDTable := AList fun _ : UInt8 => PIDEntry

/-- A negative response: `0x7F`, the service and the reason. -/
def negative (service nrc : UInt8) : Bytes := [0x7F, service, nrc]

namespace PIDTable

def addPID (table : PIDTable) (entry : PIDEntry) : PIDTable := table.insert entry.pid entry

def entry (pid : UInt8) (minVal maxVal : ℚ) (formula : String) : PIDEntry where
  pid := pid
  minVal := minVal
  maxVal := maxVal
  formula := formula.toList

/-- The calls of `addPID` in `setupDefaultPIDs`. -/
def defaultPIDs : List PIDEntry :=
  [entry 0x00 0 0 "bitmask",
    entry 0x01 0 0 "bitmask",
    entry 0x03 0 0 "bitmask",
    entry 0x04 0 100 "A*100/255",
    entry 0x05 (-40) 215 "A-40",
    entry 0x06 (-100) 99.2 "(A-128)*100/128",
    entry 0x07 (-100) 99.2 "(A-128)*100/128",
    entry 0x08 (-100) 99.2 "(A-128)*100/128",
    entry 0x09 (-100) 99.2 "(A-128)*100/128",
    entry 0x0A 0 765 "A*3",
    entry 0x0B 0 255 "A",
    entry 0x0C 0 16383.75 "((A*256)+B)/4",
    entry 0x0D 0 255 "A",
    entry 0x0E (-64) 63.5 "(A-128)/2",
    entry 0x0F (-40) 215 "A-40",
    entry 0x10 0 655.35 "((A*256)+B)/100",
    entry 0x11 0 100 "A*100/255",
    entry 0x12 0 0 "bitmask",
    entry 0x13 0 0 "bitmask",
    entry 0x14 0 1.275 "A*0.005",
    entry 0x15 0 1.275 "A*0.005",
    entry 0x16 0 1.275 "A*0.005",
    entry 0x17 0 1.275 "A*0.005",
    entry 0x1C 0 0 "A",
    entry 0x1F 0 65535 "((A*256)+B)",
    entry 0x20 0 0 "bitmask",
    entry 0x21 0 65535 "((A*256)+B)",
    entry 0x22 0 5177.265 "((A*256)+B)*0.079",
    entry 0x2F 0 100 "A*100/255",
    entry 0x31 0 65535 "((A*256)+B)",
    entry 0x33 0 255 "A",
    entry 0x3C (-40) 6513.5 "((A*256)+B)/10-40",
    entry 0x42 0 65.535 "((A*256)+B)/1000",
    entry 0x43 0 25700 "((A*256)+B)*100/255",
    entry 0x44 0 2 "((A*256)+B)/32768",
    entry 0x45 0 100 "A*100/255",
    entry 0x46 (-40) 215 "A-40",
    entry 0x49 0 100 "A*100/255",
    entry 0x4A 0 100 "A*100/255",
    entry 0x4B 0 100 "A*100/255",
    entry 0x4C 0 100 "A*100/255",
    entry 0x50 0 2550 "A*10",
    entry 0x5C (-40) 210 "A-40",
    entry 0x5D (-210) 301.992 "((A*256)+B)*0.0000305-210",
    entry 0x5E 0 3212.8 "((A*256)+B)*0.05"]

/-- `setupDefaultPIDs` on an empty table. -/
def setupDefaultPIDs : PIDTable := defaultPIDs.foldl addPID ∅

def getPIDEntry (table : PIDTable) (pid : UInt8) : Option PIDEntry := table.lookup pid

/-- Two bytes, most significant first. -/
def word (w : UInt16) : Bytes := [hiByte w, loByte w]

/-- The `switch` of `encodePIDResponse`. -/
def encodeValue (formula : Text) (pid : UInt8) (value : ℚ) : Bytes :=
  match pid with
  | 0x0C => word (truncUInt16 (value * 4))
  | 0x0D => [truncUInt8 value]
  | 0x04 | 0x05 | 0x0F | 0x11 | 0x2F | 0x46 | 0x5C => [truncUInt8 (value + 40)]
  | 0x10 => word (truncUInt16 (value * 100))
  | 0x14 | 0x15 | 0x16 | 0x17 => truncUInt8 (value / 0.005) :: List.replicate 5 0x80
  | 0x0B => [truncUInt8 value]
  | 0x0A => [truncUInt8 (value / 3)]
  | 0x1F | 0x21 | 0x31 => word (truncUInt16 value)
  | 0x42 => word (truncUInt16 (value * 1000))
  | _ =>
    if Text.contains "256".toList formula then word (truncUInt16 value) else [truncUInt8 value]

def encodePIDResponse (table : PIDTable) (pid : UInt8) (value : ℚ) : Bytes :=
  match table.getPIDEntry pid with
  | none => negative 0x01 0x12
  | some entry => 0x41 :: pid :: encodeValue entry.formula pid value

end PIDTable

end EcuMult.Manufacturers
