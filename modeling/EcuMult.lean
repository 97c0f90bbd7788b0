import EcuMult.Lib.Bytes
import EcuMult.Lib.Bitmap
import EcuMult.Lib.Runs
import EcuMult.Lib.Attempts
import EcuMult.Lib.Streams
import EcuMult.Lib.Reassembly
import EcuMult.Lib.Text
import EcuMult.Lib.TextInput
import EcuMult.Lib.Truncate
import EcuMult.Lib.Quantise
import EcuMult.Lib.Json
import EcuMult.Lib.Table
import EcuMult.Lib.Http
import EcuMult.Lib.Exposition
import EcuMult.Lib.OneToOne
import EcuMult.Lib.Bounded
import EcuMult.Lib.Tally
import EcuMult.Lib.Rotation
import EcuMult.Lib.Crc
import EcuMult.Lib.XorSum
import EcuMult.Protocols.CanTp
import EcuMult.Protocols.CanTpRefine
import EcuMult.Protocols.CanTpTransfer
import EcuMult.Protocols.CanTpNumbering
import EcuMult.Protocols.CanTpSuccession
import EcuMult.Protocols.CanTpConcurrent
import EcuMult.Protocols.CanTpLengths
import EcuMult.Protocols.CanTpArithmetic
import EcuMult.Protocols.Obd2Standard
import EcuMult.Protocols.Obd2Checksum
import EcuMult.Protocols.Kwp2000
import EcuMult.Protocols.Uds
import EcuMult.Protocols.Gmlan
import EcuMult.Core.SessionManager
import EcuMult.Core.SessionHistory
import EcuMult.Core.SessionTick
import EcuMult.Core.SeedUse
import EcuMult.Core.SeedKeyAlgorithms
import EcuMult.Core.SecurityManager
import EcuMult.Core.SecurityKeys
import EcuMult.Core.ProtocolRouter
import EcuMult.Core.CanManager
import EcuMult.Core.CanThreads
import EcuMult.Core.CanProgress
import EcuMult.Simulation.VehicleProfile
import EcuMult.Simulation.RpmProfile
import EcuMult.Simulation.SensorSimulator
import EcuMult.Simulation.DrivingCycle
import EcuMult.Simulation.CycleSchedule
import EcuMult.Simulation.Environment
import EcuMult.Simulation.FaultInjector
import EcuMult.Diagnostics.DtcCode
import EcuMult.Diagnostics.DtcEncoders
import EcuMult.Diagnostics.DtcManager
import EcuMult.Diagnostics.DtcHistory
import EcuMult.Diagnostics.DtcTexts
import EcuMult.Diagnostics.Calibration
import EcuMult.Diagnostics.VinDecoder
import EcuMult.Diagnostics.VinStandard
import EcuMult.Diagnostics.FreezeFrame
import EcuMult.Diagnostics.Readiness
import EcuMult.Manufacturers.PidTable
import EcuMult.Manufacturers.PidBitmap
import EcuMult.Manufacturers.PidCodec
import EcuMult.Manufacturers.DtcList
import EcuMult.Manufacturers.Base
import EcuMult.Manufacturers.SupportPids
import EcuMult.Manufacturers.DtcStore
import EcuMult.Manufacturers.FaultMemory
import EcuMult.Manufacturers.ProfileFaults
import EcuMult.Manufacturers.ConfirmedFaults
import EcuMult.Manufacturers.SensorOverrides
import EcuMult.Manufacturers.SilentTester
import EcuMult.Manufacturers.SecurityAccess
import EcuMult.Manufacturers.Dispatch
import EcuMult.Manufacturers.Distance
import EcuMult.Manufacturers.Branches
import EcuMult.Manufacturers.IndexSafety
import EcuMult.Manufacturers.EcuRuns
import EcuMult.Manufacturers.Addressing
import EcuMult.Manufacturers.Responses
import EcuMult.Manufacturers.ResponseLength
import EcuMult.Manufacturers.SingleFrames
import EcuMult.Core.Implementations
import EcuMult.Manufacturers.Routing
import EcuMult.Logging.ReplayAnalyzer
import EcuMult.Logging.LoadFile
import EcuMult.Logging.ReplayCursor
import EcuMult.Logging.TrafficAnalysis
import EcuMult.Logging.CanLogger
import EcuMult.Logging.LogHistory
import EcuMult.Logging.MetricsExporter
import EcuMult.Api.RestApi
import EcuMult.Api.Responses
import EcuMult.Api.RequestSafety
import EcuMult.Security.AccessControl
import EcuMult.Security.Accounts
import EcuMult.Security.Lockout
import EcuMult.Security.SecureComm
import EcuMult.Security.Signatures
import EcuMult.Lib.Sql
import EcuMult.Database.DbManager
import EcuMult.Database.Persistence
import EcuMult.Database.SqlText
import EcuMult.Main.Emulator
import EcuMult.Main.Routes
import EcuMult.Main.Loop
import EcuMult.Main.FailedRequests
import EcuMult.Main.Odometer
import EcuMult.Main.ProfileSync
import EcuMult.Main.Readings
import EcuMult.Main.Conversation
import EcuMult.Main.Program
import EcuMult.Main.Sessions
import EcuMult.Main.Server
import EcuMult.Main.Rounds
import EcuMult.Main.StoredFaults
import EcuMult.Main.Telemetry
import EcuMult.Main.Engine
