import EcuMult.Lib.TextInput

/-!
# `ReplayAnalyzer`: recording and loading

`src/logging/replay_analyzer.cpp`, the part that writes frames to a file and
reads them back. A line of the file is made by `formatCANEntry`, for instance

    2024-01-01 00:00:00.000 0x7e8 RX 01 02 03

and `loadFile` takes its words apart as time, identifier, direction and data.
The time as written is two words, though. So the time of day is read as the
identifier, the identifier as the direction, and the data bytes are looked for
where the direction stands: `parseLine_format`. `replay_iff` is what is left of
the round trip.

Mirroring notes:
- Time points are numbers of nanoseconds, and `localtime`, which depends on the
  time zone, is a parameter.
- A file is what was written to it. Whether a file can be opened is an argument;
  the disk does not fill up.
- `speed_multiplier` is ignored by the code. The report of `analyze` is in
  `TrafficAnalysis`.
-/

namespace EcuMult.Logging

open EcuMult.Lib

/-- `struct tm`, with the ranges that `localtime` promises. -/
structure Tm where
  sec : Nat
  min : Nat
  hour : Nat
  mday : Nat
  mon : Nat
  year : Int
  sec_le : sec ≤ 60
  min_lt : min < 60
  hour_lt : hour < 24
  mday_le : 1 ≤ mday ∧ mday ≤ 31
  mon_lt : mon < 12

/-- `std::setw(width) << std::setfill('0')`. -/
def zeroPadded (width : Nat) (t : Text) : Text := t.leftpad width '0'

def Tm.date (tm : Tm) : Text :=
  signedDecimal (tm.year + 1900) ++ '-' :: zeroPadded 2 (decimal (tm.mon + 1)) ++
    '-' :: zeroPadded 2 (decimal tm.mday)

def Tm.time (tm : Tm) : Text :=
  zeroPadded 2 (decimal tm.hour) ++ ':' :: (zeroPadded 2 (decimal tm.min) ++
    ':' :: zeroPadded 2 (decimal tm.sec))

/-- `std::put_time(&tm, "%Y-%m-%d %H:%M:%S")`. -/
def putTime (tm : Tm) : Text := tm.date ++ ' ' :: tm.time

/-- An output file: what is in it, and the state of the stream. -/
structure Ofstream where
  isOpen : Bool
  good : Bool
  written : Text
  deriving DecidableEq, Repr

namespace Ofstream

def closed : Ofstream where
  isOpen := false
  good := true
  written := []

/-- `open(path)`, which fails on a stream that is open already. -/
def openFile (file : Ofstream) (granted : Bool) : Ofstream :=
  if file.isOpen || !granted then { file with good := false }
  else { isOpen := true, good := true, written := [] }

def close (file : Ofstream) : Ofstream := { file with isOpen := false }

def write (file : Ofstream) (t : Text) : Ofstream :=
  if file.good then { file with written := file.written ++ t } else file

end Ofstream

structure CANLogEntry where
  timestamp : Int
  canId : UInt32
  data : Bytes
  isTx : Bool
  deriving DecidableEq, Repr

/-- What was on the bus. -/
def CANLogEntry.frame (entry : CANLogEntry) : UInt32 × Bytes × Bool :=
  (entry.canId, entry.data, entry.isTx)

structure ReplayAnalyzer where
  frames : List CANLogEntry
  replayPosition : Nat
  replaying : Bool
  recording : Bool
  recordingFile : Ofstream
  recordingPath : Text
  deriving DecidableEq, Repr

namespace ReplayAnalyzer

def new : ReplayAnalyzer where
  frames := []
  replayPosition := 0
  replaying := false
  recording := false
  recordingFile := .closed
  recordingPath := []

/-! ## Writing -/

section Recording

variable (localtime : Int → Tm)

/-- `std::chrono::system_clock::to_time_t`. -/
def toTimeT (timestamp : Int) : Int := timestamp.tdiv 1000000000

def milliseconds (timestamp : Int) : Int := (timestamp.tdiv 1000000).tmod 1000

def formatCANEntry (entry : CANLogEntry) : Text :=
  putTime (localtime (toTimeT entry.timestamp)) ++
    '.' :: zeroPadded 3 (signedDecimal (milliseconds entry.timestamp)) ++
    ' ' :: '0' :: 'x' :: hexadecimal entry.canId.toNat ++
    (if entry.isTx then [' ', 'T', 'X'] else [' ', 'R', 'X']) ++
    entry.data.flatMap fun b => ' ' :: zeroPadded 2 (hexadecimal b.toNat)

/-- `startRecording(path)`; `granted` says whether the file can be opened. -/
def startRecording (ra : ReplayAnalyzer) (path : Text) (granted : Bool) : ReplayAnalyzer × Bool :=
  let ra := { ra with recordingPath := path, recordingFile := ra.recordingFile.openFile granted }
  if !ra.recordingFile.isOpen then (ra, false) else ({ ra with recording := true }, true)

def stopRecording (ra : ReplayAnalyzer) : ReplayAnalyzer :=
  let ra := { ra with recording := false }
  if ra.recordingFile.isOpen then { ra with recordingFile := ra.recordingFile.close } else ra

def isRecording (ra : ReplayAnalyzer) : Bool := ra.recording

/-- `recordFrame(can_id, data, tx)` at the time `now`. -/
def recordFrame (now : Int) (ra : ReplayAnalyzer) (canId : UInt32) (data : Bytes) (tx : Bool) :
    ReplayAnalyzer :=
  let entry : CANLogEntry := { timestamp := now, canId, data, isTx := tx }
  let ra :=
    if ra.recording && ra.recordingFile.isOpen then
      { ra with recordingFile := ra.recordingFile.write (formatCANEntry localtime entry ++ ['\n']) }
    else ra
  { ra with frames := ra.frames ++ [entry] }

/-- One `recordFrame` for each entry, at its time. -/
def recordAll (ra : ReplayAnalyzer) (calls : List CANLogEntry) : ReplayAnalyzer :=
  calls.foldl (fun ra c => ra.recordFrame localtime c.timestamp c.canId c.data c.isTx) ra

end Recording

/-! ## Reading -/

/-- `while (ss >> std::hex >> byte)`: the low bytes of the numbers in `ss`. Every
number takes a character at least, so there are not more than `fuel` of them. -/
def readBytes : Nat → Text → Bytes
  | 0, _ => []
  | fuel + 1, ss =>
    match readHex ss with
    | none => []
    | some (byte, rest) => UInt8.ofNat byte.toNat :: readBytes fuel rest

/-- The body of the loop of `loadFile`. A new entry has the time point 0. -/
def parseLine (line : Text) : Except StoiError CANLogEntry :=
  let (_, ss) := extract line
  let (idStr, ss) := extract ss
  let (dirStr, ss) := extract ss
  match stoul idStr with
  | .error e => .error e
  | .ok canId =>
    .ok { timestamp := 0, canId, data := readBytes ss.length ss, isTx := dirStr = ['T', 'X'] }

/-- The loop of `loadFile`: an exception leaves the entries that were read. -/
def loadLines (ra : ReplayAnalyzer) : List Text → ReplayAnalyzer × Except StoiError Bool
  | [] => (ra, .ok true)
  | line :: rest =>
    match parseLine line with
    | .error e => (ra, .error e)
    | .ok entry => loadLines { ra with frames := ra.frames ++ [entry] } rest

/-- `loadFile(path)` of a file with this content; none is a file that cannot be
opened. -/
def loadFile (ra : ReplayAnalyzer) (file : Option Text) : ReplayAnalyzer × Except StoiError Bool :=
  match file with
  | none => (ra, .ok false)
  | some content => loadLines { ra with frames := [] } (getlines '\n' content)

def getAllFrames (ra : ReplayAnalyzer) : List CANLogEntry := ra.frames

/-! ## The recorded text -/

section Recording

variable (localtime : Int → Tm)

/-- Recording to a file that can be written. -/
def Recording (ra : ReplayAnalyzer) : Prop :=
  ra.recording = true ∧ ra.recordingFile.isOpen = true ∧ ra.recordingFile.good = true

theorem recordFrame_recording {ra : ReplayAnalyzer} (h : ra.Recording) (c : CANLogEntry) :
    ra.recordFrame localtime c.timestamp c.canId c.data c.isTx =
      { ra with
        recordingFile := { ra.recordingFile with
          written := ra.recordingFile.written ++ (formatCANEntry localtime c ++ ['\n']) }
        frames := ra.frames ++ [c] } := by
  obtain ⟨frames, position, replaying, recording, file, path⟩ := ra
  obtain ⟨isOpen, good, written⟩ := file
  obtain ⟨rfl, rfl, rfl⟩ : recording = true ∧ isOpen = true ∧ good = true := h
  rfl

/-- **What is recorded**: a line for each call, behind what the file had. -/
theorem recordAll_recording (calls : List CANLogEntry) {ra : ReplayAnalyzer} (h : ra.Recording) :
    (recordAll localtime ra calls).recordingFile.written = ra.recordingFile.written ++
        calls.flatMap fun c => formatCANEntry localtime c ++ ['\n'] := by
  induction calls generalizing ra with
  | nil => exact (List.append_nil _).symm
  | cons c rest ih =>
    show (recordAll localtime (ra.recordFrame localtime c.timestamp c.canId c.data c.isTx)
      rest).recordingFile.written = _
    rw [recordFrame_recording localtime h c]
    have hstill : ({ ra with
        recordingFile := { ra.recordingFile with
          written := ra.recordingFile.written ++ (formatCANEntry localtime c ++ ['\n']) }
        frames := ra.frames ++ [c] } : ReplayAnalyzer).Recording := h
    rw [ih hstill, List.flatMap_cons, List.append_assoc]

end Recording

/-! ## The text, read back -/

section Reading

variable (localtime : Int → Tm)

/-- The second word of a line: the time of day, down to milliseconds. -/
def clock (entry : CANLogEntry) : Text :=
  (localtime (toTimeT entry.timestamp)).time ++
    '.' :: zeroPadded 3 (signedDecimal (milliseconds entry.timestamp))

/-- What stands behind the identifier of a line. -/
def trailer (entry : CANLogEntry) : Text :=
  (if entry.isTx then 'T' else 'R') :: 'X' ::
    entry.data.flatMap fun b => ' ' :: zeroPadded 2 (hexadecimal b.toNat)

/-- The words of a line. -/
theorem formatCANEntry_eq (entry : CANLogEntry) :
    formatCANEntry localtime entry =
      (localtime (toTimeT entry.timestamp)).date ++ ' ' :: (clock localtime entry ++
        ' ' :: (('0' :: 'x' :: hexadecimal entry.canId.toNat) ++ ' ' :: trailer entry)) := by
  unfold formatCANEntry clock trailer putTime
  cases entry.isTx <;> simp

theorem solid_zeroPadded {t : Text} (h : Solid t) (width : Nat) : Solid (zeroPadded width t) :=
  h.leftpad (by decide) width

theorem solid_date (tm : Tm) : Solid tm.date :=
  ((solid_signedDecimal _).append ((solid_zeroPadded (solid_decimal _) 2).cons (by decide))).append
    ((solid_zeroPadded (solid_decimal _) 2).cons (by decide))

theorem solid_clock (entry : CANLogEntry) : Solid (clock localtime entry) := by
  have htwo : ∀ n, Solid (zeroPadded 2 (decimal n)) := fun n => solid_zeroPadded (solid_decimal n) 2
  have hseconds : Solid ('.' :: zeroPadded 3 (signedDecimal (milliseconds entry.timestamp))) :=
    (solid_zeroPadded (solid_signedDecimal _) 3).cons (by decide)
  have htime : Solid (localtime (toTimeT entry.timestamp)).time :=
    (htwo _).append (((htwo _).append ((htwo _).cons (by decide))).cons (by decide))
  exact htime.append hseconds

theorem newline_notMem_trailer (entry : CANLogEntry) : '\n' ∉ trailer entry := by
  have hdirection : (if entry.isTx then 'T' else 'R') ≠ '\n' := by
    cases entry.isTx <;> decide
  intro hmem
  rcases List.mem_cons.mp hmem with hc | hmem
  · exact hdirection hc.symm
  · rcases List.mem_cons.mp hmem with hc | hmem
    · exact absurd hc (by decide)
    · obtain ⟨b, -, hb⟩ := List.mem_flatMap.mp hmem
      rcases List.mem_cons.mp hb with hc | hb
      · exact absurd hc (by decide)
      · exact (solid_zeroPadded (solid_hexadecimal b.toNat) 2).notMem (by decide) hb

/-- No line ends early. -/
theorem newline_notMem_format (entry : CANLogEntry) : '\n' ∉ formatCANEntry localtime entry := by
  have hid : '\n' ∉ '0' :: 'x' :: hexadecimal entry.canId.toNat :=
    (((solid_hexadecimal _).cons (by decide)).cons (by decide)).notMem (by decide)
  have hblank : '\n' ≠ ' ' := by decide
  rw [formatCANEntry_eq]
  intro hmem
  rcases List.mem_append.mp hmem with hmem | hmem
  · exact (solid_date _).notMem (by decide) hmem
  · rcases List.mem_append.mp (List.mem_of_ne_of_mem hblank hmem) with hmem | hmem
    · exact (solid_clock localtime entry).notMem (by decide) hmem
    · rcases List.mem_append.mp (List.mem_of_ne_of_mem hblank hmem) with hmem | hmem
      · exact hid hmem
      · exact newline_notMem_trailer entry (List.mem_of_ne_of_mem hblank hmem)

/-- The two digits of the hour, read as a hexadecimal number. -/
def hourAsHex (tm : Tm) : UInt32 := UInt32.ofNat (16 * (tm.hour / 10) + tm.hour % 10)

/-- The identifier that the second word makes. -/
theorem stoul_clock (entry : CANLogEntry) :
    stoul (clock localtime entry) = .ok (hourAsHex (localtime (toTimeT entry.timestamp))) := by
  have htwo : ∀ h < 24, zeroPadded 2 (decimal h) ≠ [] ∧
      (zeroPadded 2 (decimal h)).all isHexDigit = true ∧
      ofHexDigits (zeroPadded 2 (decimal h)) = 16 * (h / 10) + h % 10 := by decide
  obtain ⟨hne, hdigits, hvalue⟩ := htwo _ (localtime (toTimeT entry.timestamp)).hour_lt
  have hlt := (localtime (toTimeT entry.timestamp)).hour_lt
  have hfits : ofHexDigits (zeroPadded 2 (decimal (localtime (toTimeT entry.timestamp)).hour)) <
      2 ^ 32 := by
    rw [hvalue]
    omega
  unfold clock Tm.time
  rw [List.append_assoc, List.cons_append,
    stoul_digits hne (List.all_eq_true.mp hdigits) (by decide) (by decide) _ hfits, hvalue]
  rfl

/-- The data bytes are looked for where the direction stands. -/
theorem readBytes_trailer (fuel : Nat) (entry : CANLogEntry) :
    readBytes fuel (' ' :: trailer entry) = [] := by
  have hnone : readHex (' ' :: trailer entry) = none := by
    unfold trailer
    cases entry.isTx <;> rfl
  cases fuel with
  | zero => rfl
  | succ fuel =>
    unfold readBytes
    rw [hnone]

/-- **What a line of the file is read as**: nothing of the frame is left. -/
theorem parseLine_format (entry : CANLogEntry) :
    parseLine (formatCANEntry localtime entry) =
      .ok { timestamp := 0, canId := hourAsHex (localtime (toTimeT entry.timestamp)), data := [],
            isTx := false } := by
  have hblank : isSpace ' ' = true := by decide
  have hdate : (localtime (toTimeT entry.timestamp)).date ≠ [] := by
    unfold Tm.date
    simp
  have hclock : clock localtime entry ≠ [] := by
    unfold clock
    simp
  have hid : Solid ('0' :: 'x' :: hexadecimal entry.canId.toNat) :=
    ((solid_hexadecimal _).cons (by decide)).cons (by decide)
  unfold parseLine
  rw [formatCANEntry_eq, extract_word hdate (solid_date _) hblank]
  dsimp only
  rw [extract_blank hblank, extract_word hclock (solid_clock localtime entry) hblank]
  dsimp only
  rw [extract_blank hblank, extract_word (List.cons_ne_nil _ _) hid hblank]
  dsimp only
  rw [stoul_clock, readBytes_trailer]
  rfl

/-- The entry that is read where this one was written. -/
def reread (entry : CANLogEntry) : CANLogEntry where
  timestamp := 0
  canId := hourAsHex (localtime (toTimeT entry.timestamp))
  data := []
  isTx := false

theorem loadLines_format (entries : List CANLogEntry) (ra : ReplayAnalyzer) :
    loadLines ra (entries.map (formatCANEntry localtime)) =
      ({ ra with frames := ra.frames ++ entries.map (reread localtime) }, .ok true) := by
  induction entries generalizing ra with
  | nil =>
    rw [List.map_nil, List.map_nil, List.append_nil]
    rfl
  | cons entry rest ih =>
    rw [List.map_cons]
    unfold loadLines
    rw [parseLine_format]
    dsimp only
    rw [ih, List.append_assoc]
    rfl

/-- **What a recording is loaded as.** -/
theorem loadFile_recorded (ra reader : ReplayAnalyzer) (path : Text)
    (hclosed : ra.recordingFile.isOpen = false) (calls : List CANLogEntry) :
    reader.loadFile
        (some (recordAll localtime (ra.startRecording path true).1 calls).recordingFile.written) =
      ({ reader with frames := calls.map (reread localtime) }, .ok true) := by
  have hopened : (ra.startRecording path true).1 =
      { ra with recordingPath := path, recording := true,
                recordingFile := { isOpen := true, good := true, written := [] } } := by
    unfold startRecording Ofstream.openFile
    rw [hclosed]
    rfl
  have hrecording : (ra.startRecording path true).1.Recording := by
    rw [hopened]
    exact ⟨rfl, rfl, rfl⟩
  have hempty : (ra.startRecording path true).1.recordingFile.written = [] := by
    rw [hopened]
  rw [recordAll_recording localtime calls hrecording, hempty, List.nil_append]
  show loadLines { reader with frames := [] } (getlines '\n' _) = _
  rw [getlines_flatMap fun entry _ => newline_notMem_format localtime entry, loadLines_format]
  rfl

/-- A received frame with two data bytes, at midnight. -/
def reply : CANLogEntry where
  timestamp := 0
  canId := 0x7E8
  data := [0x41, 0x0C]
  isTx := false

def midnight : Tm where
  sec := 0
  min := 0
  hour := 0
  mday := 1
  mon := 0
  year := 70
  sec_le := by decide
  min_lt := by decide
  hour_lt := by decide
  mday_le := by decide
  mon_lt := by decide

/-- It comes back with the identifier 0x000 and no data. -/
theorem reply_lost :
    (new.loadFile (some (recordAll (fun _ => midnight) (new.startRecording [] true).1
      [reply]).recordingFile.written)).1.frames.map CANLogEntry.frame ≠
        [reply].map CANLogEntry.frame := by
  rw [loadFile_recorded (fun _ => midnight) new new [] rfl]
  decide

/-- **When a recording replays as recorded.** Any calls, written to a file and
loaded, give one frame for each call. They are the recorded frames if and only
if every one was received, had no data, and had the digits of the hour at
which it was recorded for an identifier. -/
theorem replay_iff (ra reader : ReplayAnalyzer) (path : Text)
    (hclosed : ra.recordingFile.isOpen = false) (calls : List CANLogEntry) :
    let recorder := recordAll localtime (ra.startRecording path true).1 calls
    let loaded := reader.loadFile (some recorder.recordingFile.written)
    loaded.2 = .ok true ∧ loaded.1.frames.length = calls.length ∧
      (loaded.1.frames.map CANLogEntry.frame = calls.map CANLogEntry.frame ↔
        ∀ c ∈ calls, c.isTx = false ∧ c.data = [] ∧
          c.canId = hourAsHex (localtime (toTimeT c.timestamp))) := by
  intro recorder loaded
  have hloaded : loaded = ({ reader with frames := calls.map (reread localtime) }, .ok true) :=
    loadFile_recorded localtime ra reader path hclosed calls
  rw [hloaded]
  refine ⟨rfl, List.length_map _, ?_⟩
  rw [List.map_map, List.map_inj_left]
  have hframe : ∀ c : CANLogEntry, (CANLogEntry.frame ∘ reread localtime) c = c.frame ↔
      c.isTx = false ∧ c.data = [] ∧ c.canId = hourAsHex (localtime (toTimeT c.timestamp)) := by
    intro c
    unfold CANLogEntry.frame reread
    simp only [Function.comp_apply, Prod.mk.injEq]
    exact ⟨fun ⟨hid, hdata, htx⟩ => ⟨htx.symm, hdata.symm, hid.symm⟩,
      fun ⟨htx, hdata, hid⟩ => ⟨hid.symm, hdata.symm, htx.symm⟩⟩
  exact forall₂_congr fun c _ => hframe c

/-- The same frame. -/
theorem replay_iff_reply :
    let recorder := recordAll (fun _ => midnight) (new.startRecording [] true).1 [reply]
    let loaded := new.loadFile (some recorder.recordingFile.written)
    loaded.2 = .ok true ∧ loaded.1.frames.length = [reply].length ∧
      (loaded.1.frames.map CANLogEntry.frame = [reply].map CANLogEntry.frame ↔
        ∀ c ∈ [reply], c.isTx = false ∧ c.data = [] ∧ c.canId = hourAsHex midnight) :=
  replay_iff (fun _ => midnight) new new [] rfl [reply]

end Reading

end ReplayAnalyzer

end EcuMult.Logging
