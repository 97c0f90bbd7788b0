import EcuMult.Lib.TextInput
import EcuMult.Logging.CanLogger
import EcuMult.Logging.ReplayAnalyzer

/-!
# The log of a program

`src/logging/can_logger.cpp`, with all that a program calls: messages of each level,
frames, and `setLevel` in between. A message is written if it is not below the level
of that moment. What is written goes on where an earlier run has stopped, and which
file of the chain holds what is known from it: `history_follow`.

Mirroring notes:
- `trace` to `critical` are `log` with their levels.
- The names of the levels are ASCII: `::tolower` is `Char.toLower` on them.
-/

namespace EcuMult.Logging

open EcuMult.Lib

/-- `levelFromString`. -/
def LogLevel.ofText (s : Text) : LogLevel :=
  let lower := s.map Char.toLower
  if lower = "trace".toList then .trace
  else if lower = "debug".toList then .debug
  else if lower = "info".toList then .info
  else if lower = "warning".toList ∨ lower = "warn".toList then .warning
  else if lower = "error".toList then .error
  else if lower = "critical".toList ∨ lower = "fatal".toList then .critical
  else .info

/-- Levels are read back by name, in any case. -/
theorem LogLevel.ofText_name {s : Text} {level : LogLevel}
    (h : s.map Char.toLower = level.name.map Char.toLower) : ofText s = level := by
  unfold ofText
  rw [h]
  cases level <;> decide

namespace CANLogger

/-- What `logCANFrame` makes of a frame. -/
def frameText (tx : Bool) (canId : UInt32) (data : Bytes) : Text :=
  (if tx then "TX".toList else "RX".toList) ++ " ID:0x".toList ++ hexadecimal canId.toNat ++
    " [".toList ++ [' '].intercalate (data.map fun b => zeroPadded 2 (hexadecimal b.toNat)) ++
    "]".toList

example : frameText true 0x7E8 [0x41, 0x0C] = "TX ID:0x7e8 [41 0c]".toList := by decide

def logCANFrame (lg : CANLogger) (timestamp : Text) (tx : Bool) (canId : UInt32) (data : Bytes) :
    CANLogger :=
  lg.log timestamp .trace (frameText tx canId data)

def setLevel (lg : CANLogger) (level : LogLevel) : CANLogger := { lg with level := level }

/-- The calls of a program. -/
inductive LogOp
  | log (call : LogCall)
  | logCANFrame (timestamp : Text) (tx : Bool) (canId : UInt32) (data : Bytes)
  | setLevel (level : LogLevel)
  deriving DecidableEq, Repr

def perform (lg : CANLogger) : LogOp → CANLogger
  | .log call => lg.step call
  | .logCANFrame timestamp tx canId data => lg.logCANFrame timestamp tx canId data
  | .setLevel level => lg.setLevel level

/-- The lines that are written, from a level on. -/
def passed : LogLevel → List LogOp → List Text
  | _, [] => []
  | level, .log call :: ops => written level [call] ++ passed level ops
  | level, .logCANFrame timestamp tx canId data :: ops =>
    written level [⟨timestamp, .trace, frameText tx canId data⟩] ++ passed level ops
  | _, .setLevel level :: ops => passed level ops

/-- The files and the memory stand for these lines, written after what was left by an
earlier run. -/
structure Stands (logPath : Text) (maxSize maxFiles : Int) (left : List Text) (lg : CANLogger)
    (lines : List Text) : Prop where
  recent : lg.recentLogs = lines.rtake 1000
  chain : Chain logPath maxSize maxFiles lg (run (fileLine maxSize) (opened left) lines)

section Stands

variable {logPath : Text} {maxSize maxFiles : Int} {left : List Text} {lg : CANLogger}
  {lines : List Text}

theorem Stands.setLevel (h : Stands logPath maxSize maxFiles left lg lines) (level : LogLevel) :
    Stands logPath maxSize maxFiles left (lg.setLevel level) lines :=
  ⟨h.recent, h.chain.path, h.chain.size, h.chain.max, h.chain.live, h.chain.position,
    h.chain.holds⟩

theorem writeLog_level (lg : CANLogger) (line : Text) : (lg.writeLog line).level = lg.level := by
  obtain ⟨files, position, hwrite⟩ := writeLog_frame lg line
  rw [hwrite]
  rfl

theorem Stands.writeLog (h : Stands logPath maxSize maxFiles left lg lines) (line : Text) :
    Stands logPath maxSize maxFiles left (lg.writeLog line) (lines ++ [line]) := by
  refine ⟨run_recentLogs [line] h.recent, ?_⟩
  rw [run_append]
  exact h.chain.writeLog line

/-- A message is a line, or nothing. -/
theorem Stands.step (h : Stands logPath maxSize maxFiles left lg lines) (call : LogCall) :
    Stands logPath maxSize maxFiles left (lg.step call) (lines ++ written lg.level [call]) ∧
      (lg.step call).level = lg.level := by
  unfold CANLogger.step log
  by_cases hbelow : call.level.toNat < lg.level.toNat
  · rw [if_pos hbelow, written_cons_below hbelow]
    refine ⟨?_, rfl⟩
    rw [show written lg.level [] = [] from rfl, List.append_nil]
    exact h
  · rw [if_neg hbelow, written_cons_passed hbelow]
    exact ⟨h.writeLog _, writeLog_level lg _⟩

theorem Stands.run (ops : List LogOp) :
    ∀ {lg : CANLogger} {lines : List Text}, Stands logPath maxSize maxFiles left lg lines →
      Stands logPath maxSize maxFiles left (run perform lg ops) (lines ++ passed lg.level ops) := by
  induction ops with
  | nil =>
    intro lg lines h
    rw [show passed lg.level [] = [] from rfl, List.append_nil]
    exact h
  | cons op ops ih =>
    intro lg lines h
    cases op with
    | log call =>
      obtain ⟨hstep, hlevel⟩ := h.step call
      have hrest := ih hstep
      rw [hlevel, List.append_assoc] at hrest
      exact hrest
    | logCANFrame timestamp tx canId data =>
      -- a frame is a message of the lowest level
      obtain ⟨hstep, hlevel⟩ := h.step ⟨timestamp, .trace, frameText tx canId data⟩
      have hrest := ih hstep
      rw [hlevel, List.append_assoc] at hrest
      exact hrest
    | setLevel level => exact ih (h.setLevel level)

end Stands

theorem opened_flatten (left : List Text) :
    (opened left).reverse.flatten = left.reverse.flatten := by
  cases left with
  | nil => rfl
  | cons live rest => rfl

theorem opened_tail (left : List Text) : (opened left).tail = left.tail := by
  cases left with
  | nil => rfl
  | cons live rest => rfl

theorem opened_ne_nil (left : List Text) : opened left ≠ [] := by
  cases left with
  | nil => exact List.cons_ne_nil _ _
  | cons live rest => exact List.cons_ne_nil _ _

/-- **The log of a program.** After any calls, of what was not below the level at its
time: it is all there behind what an earlier run has left, cut into files none of which
is closed before it is full, and of these the chain holds the newest. The last thousand
lines are remembered. -/
theorem history_follow (logPath : Text) (level : LogLevel) (maxSize maxFiles : Int)
    {files : Files Text Text} {left : List Text} (hleft : files.Holds (slot logPath) id left)
    (hfew : left.length ≤ kept maxFiles) (ops : List LogOp) :
    ∃ all : List Text,
      (run perform (new logPath level maxSize maxFiles files) ops).files.Holds (slot logPath) id
        (all.take (kept maxFiles)) ∧
      all = run (fileLine maxSize) (opened left) (passed level ops) ∧
      all.reverse.flatten = left.reverse.flatten ++ render (passed level ops) ∧
      (∀ text ∈ all.tail, text ∈ left.tail ∨ maxSize ≤ text.length) ∧
      ∀ count, (run perform (new logPath level maxSize maxFiles files) ops).getRecentLogs count =
        ((passed level ops).rtake 1000).rtake count := by
  obtain ⟨files', position, hnew⟩ := new_frame logPath level maxSize maxFiles files
  have hstart : Stands logPath maxSize maxFiles left (new logPath level maxSize maxFiles files)
      [] := by
    refine ⟨?_, new_chain hleft hfew level maxSize⟩
    rw [hnew, List.rtake_nil]
  have hlevel : (new logPath level maxSize maxFiles files).level = level := by rw [hnew]
  have h := hstart.run ops
  rw [hlevel, List.nil_append] at h
  obtain ⟨hflatten, htail⟩ := run_fileLine maxSize (passed level ops) (opened_ne_nil left)
  rw [opened_flatten] at hflatten
  rw [opened_tail] at htail
  refine ⟨_, h.chain.holds, rfl, hflatten, htail, fun count => ?_⟩
  rw [getRecentLogs_eq, h.recent]

/-- Calls that fill three files; the first frame is below the level. -/
def busy : List LogOp :=
  [.log ⟨"t0".toList, .info, "a".toList⟩, .logCANFrame "t1".toList false 0x7E0 [0x3E],
    .log ⟨"t2".toList, .info, "b".toList⟩, .setLevel .trace,
    .logCANFrame "t3".toList true 0x7E8 [0x7E], .log ⟨"t4".toList, .info, "c".toList⟩,
    .log ⟨"t5".toList, .info, "d".toList⟩, .log ⟨"t6".toList, .error, "e".toList⟩]

/-- What was left is gone, with the lines that were added to it. -/
theorem history_follow_rotates :
    (run perform (new "log".toList .info 20 2
        (Function.update (fun _ => none) "log".toList (some "old\n".toList))) busy).files.Holds
      (slot "log".toList) id
      ["[t6] [ERROR] e\n".toList, "[t4] [INFO] c\n[t5] [INFO] d\n".toList,
        "[t3] [TRACE] TX ID:0x7e8 [7e]\n".toList] := by
  have hleft : Files.Holds (slot "log".toList) id
      (Function.update (fun _ => none) "log".toList (some "old\n".toList)) ["old\n".toList] := by
    intro i
    cases i with
    | zero => exact Function.update_self ..
    | succ i =>
      exact Function.update_of_ne
        (fun h => absurd (slot_injective "log".toList h) (Nat.succ_ne_zero i)) ..
  obtain ⟨all, hholds, hall, -, -, -⟩ :=
    history_follow "log".toList .info 20 2 hleft (by decide) busy
  have hthree : all.take (kept 2) =
      ["[t6] [ERROR] e\n".toList, "[t4] [INFO] c\n[t5] [INFO] d\n".toList,
        "[t3] [TRACE] TX ID:0x7e8 [7e]\n".toList] := by
    rw [hall]
    decide +kernel
  rw [hthree] at hholds
  exact hholds

end CANLogger

end EcuMult.Logging
