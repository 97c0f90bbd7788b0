import EcuMult.Lib.Bounded
import EcuMult.Lib.Rotation
import EcuMult.Lib.Runs
import EcuMult.Lib.Text

/-!
# `CANLogger`: the log files

`src/logging/can_logger.cpp`. Lines are appended to the live file until it has
the maximal size; then the files `log.1` to `log.(max - 1)` and the live file are
renamed to the next number, one after the other, and a new live file is opened.
The chain of files is one of `Lib.Rotation`, with the live file as number 0, and
what it holds is the newest part of what was written (`keeps_newest`).

Mirroring notes:
- The file system is a part of the state. Opening a file succeeds, and finds the
  position at its end; the disk does not fill up.
- `max_size_` is the number of bytes that it is compared as, a `std::streamoff`.
- The time stamp of a line is an argument. The lock and what is printed on the
  console are left out.
-/

namespace EcuMult.Logging

open EcuMult.Lib

inductive LogLevel
  | trace
  | debug
  | info
  | warning
  | error
  | critical
  deriving DecidableEq, Repr

namespace LogLevel

/-- The value of the enumerator. -/
def toNat : LogLevel → Nat
  | trace => 0
  | debug => 1
  | info => 2
  | warning => 3
  | error => 4
  | critical => 5

/-- `levelToString`. -/
def name : LogLevel → Text
  | trace => "TRACE".toList
  | debug => "DEBUG".toList
  | info => "INFO".toList
  | warning => "WARNING".toList
  | error => "ERROR".toList
  | critical => "CRITICAL".toList

end LogLevel

structure CANLogger where
  logPath : Text
  level : LogLevel
  maxSize : Int
  maxFiles : Int
  files : Files Text Text
  /-- `file_.tellp()`, if the file is open. -/
  position : Option Nat
  recentLogs : List Text

namespace CANLogger

/-- `log_path_ + "." + std::to_string(i)`. -/
def numbered (logPath : Text) (i : Nat) : Text := logPath ++ '.' :: decimal i

def openFile (lg : CANLogger) : CANLogger :=
  match lg.files lg.logPath with
  | none =>
    { lg with files := Function.update lg.files lg.logPath (some []), position := some 0 }
  | some content => { lg with position := some content.length }

/-- The constructor, on a file system. -/
def new (logPath : Text) (level : LogLevel) (maxSize maxFiles : Int) (files : Files Text Text) :
    CANLogger :=
  openFile
    { logPath := logPath
      level := level
      maxSize := maxSize
      maxFiles := maxFiles
      files := files
      position := none
      recentLogs := [] }

/-- `for (int i = n; i > 0; i--)`. -/
def renameLoop (logPath : Text) : Nat → Files Text Text → Files Text Text
  | 0, files => files
  | i + 1, files =>
    renameLoop logPath i (files.rename (numbered logPath (i + 1)) (numbered logPath (i + 2)))

def rotateIfNeeded (lg : CANLogger) : CANLogger :=
  match lg.position with
  | none => lg
  | some pos =>
    if (pos : Int) < lg.maxSize then lg
    else
      -- `file_.close()`; what has the last number is overwritten, unless nothing moves there
      let files := renameLoop lg.logPath (lg.maxFiles - 1).toNat lg.files
      openFile
        { lg with
          files := files.rename lg.logPath (numbered lg.logPath 1)
          position := none }

/-- `file_ << formatted << std::endl`. -/
def append (lg : CANLogger) (formatted : Text) : CANLogger :=
  let content := (lg.files lg.logPath).getD [] ++ formatted ++ ['\n']
  { lg with
    files := Function.update lg.files lg.logPath (some content)
    position := some content.length }

def remember (lg : CANLogger) (formatted : Text) : CANLogger :=
  let recent := lg.recentLogs ++ [formatted]
  -- here the line is in before the oldest one goes
  { lg with recentLogs := if 1000 < recent.length then recent.tail else recent }

def writeLog (lg : CANLogger) (formatted : Text) : CANLogger :=
  let lg := lg.rotateIfNeeded
  let lg := if lg.position.isSome then lg.append formatted else lg
  lg.remember formatted

/-- What `log` makes of a message. -/
def format (timestamp : Text) (level : LogLevel) (message : Text) : Text :=
  '[' :: timestamp ++ ']' :: ' ' :: '[' :: level.name ++ ']' :: ' ' :: message

def log (lg : CANLogger) (timestamp : Text) (level : LogLevel) (message : Text) : CANLogger :=
  if level.toNat < lg.level.toNat then lg else lg.writeLog (format timestamp level message)

def getRecentLogs (lg : CANLogger) (count : Nat) : List Text :=
  if lg.recentLogs.length ≤ count then lg.recentLogs
  else lg.recentLogs.drop (lg.recentLogs.length - count)

/-! ## The chain of files -/

/-- The live file, and the numbered ones. -/
def slot (logPath : Text) : Nat → Text
  | 0 => logPath
  | i + 1 => numbered logPath (i + 1)

/-- What a file holds that these lines were written to. -/
def render (lines : List Text) : Text := lines.flatMap fun line => line ++ ['\n']

/-- From `log.max_files` to `log.1` and the live file, those that exist. -/
def contents (lg : CANLogger) : List Text :=
  ((List.range (lg.maxFiles.toNat + 1)).reverse.map (slot lg.logPath)).filterMap lg.files

/-- The files are the newest part of the lines. -/
structure KeepsNewest (lg : CANLogger) (lines : List Text) : Prop where
  /-- The lines come in files, of which the first ones are gone. -/
  boundary : ∃ dropped kept : List (List Text),
    (dropped ++ kept).flatten = lines ∧ lg.contents = kept.map render
  newest : lg.contents.flatten <:+ render lines
  bounded : ∀ i : Nat, lg.maxFiles < i → lg.files (numbered lg.logPath i) = none

theorem slot_injective (logPath : Text) : Function.Injective (slot logPath) := by
  have hlive : ∀ i, slot logPath (i + 1) ≠ logPath := by
    intro i h
    have hlength := congrArg List.length h
    unfold slot numbered at hlength
    rw [List.length_append, List.length_cons] at hlength
    omega
  intro i j h
  cases i with
  | zero =>
    cases j with
    | zero => rfl
    | succ j => exact absurd h.symm (hlive j)
  | succ i =>
    cases j with
    | zero => exact absurd h (hlive i)
    | succ j => exact decimal_injective (List.cons.inj (List.append_cancel_left h)).2

/-- The loop and the last renaming shift the chain by one. -/
theorem renameLoop_eq_shift (logPath : Text) :
    ∀ (n : Nat) (files : Files Text Text),
      (renameLoop logPath n files).rename logPath (numbered logPath 1) =
        files.shift (slot logPath) (n + 1) := by
  intro n
  induction n with
  | zero => exact fun files => rfl
  | succ n ih => exact fun files => ih _

theorem render_concat (lines : List Text) (line : Text) :
    render (lines ++ [line]) = render lines ++ line ++ ['\n'] := by
  unfold render
  rw [List.flatMap_append, List.flatMap_singleton, List.append_assoc]

theorem render_flatten (blocks : List (List Text)) :
    render blocks.flatten = (blocks.map render).flatten := by
  induction blocks with
  | nil => rfl
  | cons b blocks ih =>
    rw [List.flatten_cons, List.map_cons, List.flatten_cons, ← ih]
    exact List.flatMap_append

/-! ## All files

The files that have ever been, newest first, with those that are gone. They are known from
the lines. -/

/-- A file that is full is closed, and a new one is begun. -/
def closeFull (maxSize : Int) : List Text → List Text
  | [] => []
  | live :: rest => if (live.length : Int) < maxSize then live :: rest else [] :: live :: rest

/-- A line goes to the end of the newest. -/
def appendLine (line : Text) : List Text → List Text
  | [] => []
  | live :: rest => (live ++ line ++ ['\n']) :: rest

/-- All files, once a line has been written. -/
def fileLine (maxSize : Int) (all : List Text) (line : Text) : List Text :=
  appendLine line (closeFull maxSize all)

/-- What is there when the log is opened, after an earlier run or for the first time. -/
def opened : List Text → List Text
  | [] => [[]]
  | live :: rest => live :: rest

/-- How many files are kept, the live one among them. -/
def kept (maxFiles : Int) : Nat := (maxFiles - 1).toNat + 2

theorem kept_eq {maxFiles : Int} (hmax : 1 ≤ maxFiles) : kept maxFiles = maxFiles.toNat + 1 := by
  unfold kept
  omega

/-- The texts of all files make up one text, which grows by the line. -/
theorem fileLine_flatten (maxSize : Int) {all : List Text} (h : all ≠ []) (line : Text) :
    fileLine maxSize all line ≠ [] ∧
      (fileLine maxSize all line).reverse.flatten = all.reverse.flatten ++ (line ++ ['\n']) := by
  obtain ⟨live, rest, rfl⟩ := List.exists_cons_of_ne_nil h
  unfold fileLine closeFull
  dsimp only
  split
  next =>
    refine ⟨List.cons_ne_nil _ _, ?_⟩
    show ((live ++ line ++ ['\n']) :: rest).reverse.flatten = _
    rw [List.reverse_cons, List.flatten_concat, List.reverse_cons, List.flatten_concat]
    simp only [List.append_assoc]
  next =>
    refine ⟨List.cons_ne_nil _ _, ?_⟩
    show (([] ++ line ++ ['\n']) :: live :: rest).reverse.flatten = _
    rw [List.reverse_cons, List.flatten_concat, List.nil_append]

/-- Only full files are closed. -/
theorem fileLine_tail (maxSize : Int) (all : List Text) (line : Text) :
    ∀ text ∈ (fileLine maxSize all line).tail, text ∈ all.tail ∨ maxSize ≤ text.length := by
  intro text htext
  unfold fileLine closeFull at htext
  cases all with
  | nil => exact Or.inl htext
  | cons live rest =>
    dsimp only at htext
    split at htext
    next => exact Or.inl htext
    next hfull =>
      rcases List.mem_cons.mp htext with rfl | htext
      · exact Or.inr (Int.not_lt.mp hfull)
      · exact Or.inl htext

/-- All files after some lines, if there is one before. -/
theorem run_fileLine (maxSize : Int) (lines : List Text) :
    ∀ {all : List Text}, all ≠ [] →
      (run (fileLine maxSize) all lines).reverse.flatten =
          all.reverse.flatten ++ render lines ∧
        ∀ text ∈ (run (fileLine maxSize) all lines).tail,
          text ∈ all.tail ∨ maxSize ≤ text.length := by
  induction lines with
  | nil =>
    intro all _
    exact ⟨(List.append_nil _).symm, fun text htext => Or.inl htext⟩
  | cons line lines ih =>
    intro all h
    obtain ⟨hne, hflatten⟩ := fileLine_flatten maxSize h line
    obtain ⟨hrest, htail⟩ := ih hne
    refine ⟨?_, fun text htext => ?_⟩
    · rw [run_cons, hrest, hflatten, List.append_assoc]
      rfl
    · exact (htail text htext).elim (fileLine_tail maxSize all line text) Or.inr

/-- The same of the lines in each file. -/
theorem fileLine_render (maxSize : Int) {blocks : List (List Text)} (h : blocks ≠ [])
    (line : Text) :
    ∃ blocks', blocks' ≠ [] ∧
      fileLine maxSize (blocks.map render) line = blocks'.map render ∧
      blocks'.reverse.flatten = blocks.reverse.flatten ++ [line] := by
  obtain ⟨live, rest, rfl⟩ := List.exists_cons_of_ne_nil h
  unfold fileLine closeFull
  rw [List.map_cons]
  dsimp only
  split
  next =>
    refine ⟨(live ++ [line]) :: rest, List.cons_ne_nil _ _, ?_, ?_⟩
    · rw [List.map_cons, render_concat]
      rfl
    · rw [List.reverse_cons, List.flatten_concat, List.reverse_cons, List.flatten_concat,
        List.append_assoc]
  next =>
    refine ⟨[line] :: live :: rest, List.cons_ne_nil _ _, ?_, ?_⟩
    · rw [List.map_cons, List.map_cons, ← List.nil_append [line], render_concat]
      rfl
    · rw [List.reverse_cons, List.flatten_concat]

theorem run_fileLine_render (maxSize : Int) (lines : List Text) :
    ∀ {blocks : List (List Text)}, blocks ≠ [] →
      ∃ blocks' : List (List Text),
        run (fileLine maxSize) (blocks.map render) lines = blocks'.map render ∧
        blocks'.reverse.flatten = blocks.reverse.flatten ++ lines := by
  induction lines with
  | nil => exact fun _ => ⟨_, rfl, (List.append_nil _).symm⟩
  | cons line lines ih =>
    intro blocks h
    obtain ⟨blocks', hne, hfile, hlines⟩ := fileLine_render maxSize h line
    obtain ⟨blocks'', hrest, hlines'⟩ := ih hne
    refine ⟨blocks'', ?_, ?_⟩
    · rw [run_cons, hfile, hrest]
    · rw [hlines', hlines, List.append_assoc]
      rfl

/-! ## Opening, rotating and writing -/

/-- The chain of files is the newest part of all files. -/
structure Chain (logPath : Text) (maxSize maxFiles : Int) (lg : CANLogger) (all : List Text) :
    Prop where
  path : lg.logPath = logPath
  size : lg.maxSize = maxSize
  max : lg.maxFiles = maxFiles
  live : all ≠ []
  position : lg.position = all.head?.map List.length
  holds : lg.files.Holds (slot logPath) id (all.take (kept maxFiles))

/-- Opening a file that is not there. -/
theorem openFile_missing {lg : CANLogger} (h : lg.files lg.logPath = none) :
    lg.openFile =
      { lg with files := Function.update lg.files lg.logPath (some []), position := some 0 } := by
  unfold openFile
  rw [h]

/-- A file that is not full stays. -/
theorem rotateIfNeeded_small {lg : CANLogger} {pos : Nat} (hpos : lg.position = some pos)
    (hsmall : (pos : Int) < lg.maxSize) : lg.rotateIfNeeded = lg := by
  unfold rotateIfNeeded
  rw [hpos]
  exact if_pos hsmall

/-- Else all files move on, and a new one is opened. -/
theorem rotateIfNeeded_full {lg : CANLogger} {pos : Nat} (hpos : lg.position = some pos)
    (hfull : ¬ (pos : Int) < lg.maxSize) {blocks : List Text}
    (hholds : lg.files.Holds (slot lg.logPath) id blocks) :
    lg.rotateIfNeeded =
      { lg with
        files := Function.update
          (lg.files.shift (slot lg.logPath) ((lg.maxFiles - 1).toNat + 1)) lg.logPath (some [])
        position := some 0 } := by
  have hmoved := renameLoop_eq_shift lg.logPath (lg.maxFiles - 1).toNat lg.files
  -- so that `openFile` makes a new one
  have hgone : lg.files.shift (slot lg.logPath) ((lg.maxFiles - 1).toNat + 1) lg.logPath = none :=
    (Files.shift_slot (slot_injective lg.logPath) lg.files hholds.next_none).1
  unfold rotateIfNeeded
  rw [hpos]
  dsimp only
  rw [if_neg hfull, hmoved]
  exact openFile_missing hgone

/-- The constructor goes on where an earlier run has stopped. -/
theorem new_chain {logPath : Text} {maxFiles : Int} {files : Files Text Text} {left : List Text}
    (hleft : files.Holds (slot logPath) id left) (hfew : left.length ≤ kept maxFiles)
    (level : LogLevel) (maxSize : Int) :
    Chain logPath maxSize maxFiles (new logPath level maxSize maxFiles files) (opened left) := by
  cases left with
  | nil =>
    have hopen : new logPath level maxSize maxFiles files =
        ⟨logPath, level, maxSize, maxFiles, Function.update files logPath (some []), some 0, []⟩ :=
      openFile_missing (hleft 0)
    rw [hopen]
    refine ⟨rfl, rfl, rfl, List.cons_ne_nil _ _, rfl, fun i => ?_⟩
    cases i with
    | zero => exact Function.update_self ..
    | succ i =>
      have hne : slot logPath (i + 1) ≠ logPath :=
        fun h => absurd (slot_injective logPath h) (Nat.succ_ne_zero i)
      exact (Function.update_of_ne hne ..).trans (hleft (i + 1))
  | cons live rest =>
    have hlive : files logPath = some live := hleft 0
    have hopen : new logPath level maxSize maxFiles files =
        ⟨logPath, level, maxSize, maxFiles, files, some live.length, []⟩ := by
      unfold new openFile
      dsimp only
      rw [hlive]
    rw [hopen]
    refine ⟨rfl, rfl, rfl, List.cons_ne_nil _ _, rfl, ?_⟩
    show files.Holds (slot logPath) id ((live :: rest).take (kept maxFiles))
    rw [List.take_of_length_le hfew]
    exact hleft

section Steps

variable {logPath : Text} {maxSize maxFiles : Int} {lg : CANLogger} {all : List Text}

/-- Rotating closes a full file. -/
theorem Chain.rotate (h : Chain logPath maxSize maxFiles lg all) :
    Chain logPath maxSize maxFiles lg.rotateIfNeeded (closeFull maxSize all) := by
  obtain ⟨rfl, rfl, rfl, hlive, hposition, hholds⟩ := h
  obtain ⟨live, rest, rfl⟩ := List.exists_cons_of_ne_nil hlive
  have hpos : lg.position = some live.length := hposition
  unfold closeFull
  dsimp only
  by_cases hsmall : (live.length : Int) < lg.maxSize
  · rw [if_pos hsmall, rotateIfNeeded_small hpos hsmall]
    exact ⟨rfl, rfl, rfl, hlive, hposition, hholds⟩
  · rw [if_neg hsmall, rotateIfNeeded_full hpos hsmall hholds]
    have hlength : ((live :: rest).take (kept lg.maxFiles)).length ≤ kept lg.maxFiles := by
      rw [List.length_take]
      exact Nat.min_le_left _ _
    have hshifted := Files.shift_holds (slot_injective lg.logPath) hholds hlength ([] : Text)
    rw [List.take_take, Nat.min_eq_left (by unfold kept; omega)] at hshifted
    exact ⟨rfl, rfl, rfl, List.cons_ne_nil _ _, rfl, hshifted⟩

/-- The line goes to the end of the live file. -/
theorem Chain.append (h : Chain logPath maxSize maxFiles lg all) (line : Text) :
    Chain logPath maxSize maxFiles (lg.append line) (appendLine line all) := by
  obtain ⟨live, rest, rfl⟩ := List.exists_cons_of_ne_nil h.live
  have hlive : lg.files lg.logPath = some live := by
    rw [h.path]
    exact h.holds 0
  have happend : lg.append line =
      { lg with
        files := Function.update lg.files logPath (some (live ++ line ++ ['\n']))
        position := some (live ++ line ++ ['\n']).length } := by
    unfold CANLogger.append
    rw [hlive, h.path]
    rfl
  rw [happend]
  exact ⟨h.path, h.size, h.max, List.cons_ne_nil _ _, rfl,
    Files.Holds.write (slot_injective logPath) h.holds⟩

theorem Chain.writeLog (h : Chain logPath maxSize maxFiles lg all) (line : Text) :
    Chain logPath maxSize maxFiles (lg.writeLog line) (fileLine maxSize all line) := by
  have hrotated := h.rotate
  have hopen : lg.rotateIfNeeded.position.isSome := by
    rw [hrotated.position, Option.isSome_map, List.isSome_head?]
    exact hrotated.live
  have hwrite : lg.writeLog line = (lg.rotateIfNeeded.append line).remember line := by
    unfold CANLogger.writeLog
    dsimp only
    rw [if_pos hopen]
  have happended := hrotated.append line
  rw [hwrite]
  exact ⟨happended.path, happended.size, happended.max, happended.live, happended.position,
    happended.holds⟩

/-- What a chain says about the files. -/
theorem Chain.keepsNewest (hmax : 1 ≤ maxFiles) {blocks : List (List Text)}
    (h : Chain logPath maxSize maxFiles lg (blocks.map render)) :
    KeepsNewest lg blocks.reverse.flatten := by
  have hholds := h.holds
  rw [kept_eq hmax, ← List.map_take] at hholds
  have hlength : ((blocks.take (maxFiles.toNat + 1)).map render).length ≤ maxFiles.toNat + 1 := by
    rw [List.length_map, List.length_take]
    exact Nat.min_le_left _ _
  have hcontents : lg.contents = (blocks.take (maxFiles.toNat + 1)).reverse.map render := by
    unfold contents
    rw [h.path, h.max]
    have hexisting := hholds.existing hlength
    rw [List.map_id, ← List.map_reverse] at hexisting
    exact hexisting
  have hcut : (blocks.drop (maxFiles.toNat + 1)).reverse ++
      (blocks.take (maxFiles.toNat + 1)).reverse = blocks.reverse := by
    rw [← List.reverse_append, List.take_append_drop]
  refine ⟨⟨_, _, congrArg List.flatten hcut, hcontents⟩, ?_, fun i hi => ?_⟩
  · rw [hcontents, ← render_flatten, ← hcut, List.flatten_append]
    exact ⟨render (blocks.drop (maxFiles.toNat + 1)).reverse.flatten, List.flatMap_append.symm⟩
  · rw [h.max] at hi
    obtain ⟨j, rfl⟩ : ∃ j, i = j + 1 := ⟨i - 1, by omega⟩
    rw [h.path]
    show lg.files (slot logPath (j + 1)) = none
    rw [hholds (j + 1), List.getElem?_eq_none (by omega), Option.map_none]

end Steps

/-! ## Runs -/

/-- Every run of writes files what was written. -/
theorem run_chain {logPath : Text} {maxSize maxFiles : Int} (lines : List Text) :
    ∀ {lg : CANLogger} {all : List Text}, Chain logPath maxSize maxFiles lg all →
      Chain logPath maxSize maxFiles (run writeLog lg lines)
        (run (fileLine maxSize) all lines) := by
  induction lines with
  | nil => exact id
  | cons line lines ih => exact fun h => ih (h.writeLog line)

/-- **The files keep the newest lines, in order.** Whatever is written, and however
often the files are rotated. -/
theorem keeps_newest (logPath : Text) (level : LogLevel) (maxSize maxFiles : Int)
    (files : Files Text Text) (hmax : 1 ≤ maxFiles) (hnone : ∀ i, files (slot logPath i) = none)
    (lines : List Text) :
    KeepsNewest (run writeLog (new logPath level maxSize maxFiles files) lines) lines := by
  have hleft : files.Holds (slot logPath) id ([] : List Text) := hnone
  have hstart : Chain logPath maxSize maxFiles (new logPath level maxSize maxFiles files)
      ([[]].map render) := new_chain hleft (Nat.zero_le _) level maxSize
  obtain ⟨blocks, hrun, hlines⟩ := run_fileLine_render maxSize lines (List.cons_ne_nil [] [])
  have hchain := run_chain lines hstart
  rw [hrun] at hchain
  have hnewest := hchain.keepsNewest hmax
  rw [hlines] at hnewest
  exact hnewest

/-- Three files of two lines each: of seven lines the last five are left. -/
theorem seven_lines_kept :
    let lines := ["a".toList, "b".toList, "c".toList, "d".toList, "e".toList, "f".toList,
      "g".toList]
    KeepsNewest (run writeLog (new "log".toList .info 3 2 fun _ => none) lines) lines ∧
      (run writeLog (new "log".toList .info 3 2 fun _ => none) lines).contents =
        ["c\nd\n".toList, "e\nf\n".toList, "g\n".toList] :=
  ⟨keeps_newest "log".toList .info 3 2 (fun _ => none) (by decide) (fun _ => rfl) _,
    by decide +kernel⟩

/-! ## What is remembered -/

theorem remember_recentLogs {lg : CANLogger} {lines : List Text}
    (h : lg.recentLogs = lines.rtake 1000) (line : Text) :
    (lg.remember line).recentLogs = (lines ++ [line]).rtake 1000 := by
  have hlength : (lines.rtake 1000).length ≤ 1000 := by
    rw [length_rtake]
    omega
  show (if 1000 < (lg.recentLogs ++ [line]).length then (lg.recentLogs ++ [line]).tail
    else lg.recentLogs ++ [line]) = _
  rw [h, push_eq_erase_after hlength (by decide), push_rtake (by decide)]

/-- Opening a file is a matter of the file system and the position. -/
theorem openFile_frame (lg : CANLogger) :
    ∃ files position, lg.openFile = { lg with files := files, position := position } := by
  unfold openFile
  split
  · exact ⟨_, _, rfl⟩
  · exact ⟨lg.files, _, rfl⟩

theorem new_frame (logPath : Text) (level : LogLevel) (maxSize maxFiles : Int)
    (files : Files Text Text) :
    ∃ files' position, new logPath level maxSize maxFiles files =
      ⟨logPath, level, maxSize, maxFiles, files', position, []⟩ :=
  openFile_frame ⟨logPath, level, maxSize, maxFiles, files, none, []⟩

theorem rotateIfNeeded_frame (lg : CANLogger) :
    ∃ files position, lg.rotateIfNeeded = { lg with files := files, position := position } := by
  unfold rotateIfNeeded
  split
  · exact ⟨lg.files, lg.position, rfl⟩
  · split
    · exact ⟨lg.files, lg.position, rfl⟩
    · obtain ⟨files, position, hopen⟩ := openFile_frame
        { lg with
          files := (renameLoop lg.logPath (lg.maxFiles - 1).toNat lg.files).rename lg.logPath
            (numbered lg.logPath 1)
          position := none }
      exact ⟨files, position, hopen⟩

/-- Apart from the files, a line is remembered. -/
theorem writeLog_frame (lg : CANLogger) (line : Text) :
    ∃ files position,
      lg.writeLog line = { lg.remember line with files := files, position := position } := by
  obtain ⟨files, position, hrotate⟩ := rotateIfNeeded_frame lg
  unfold writeLog
  dsimp only
  rw [hrotate]
  split
  · exact ⟨_, _, rfl⟩
  · exact ⟨files, position, rfl⟩

theorem run_recentLogs (lines : List Text) :
    ∀ {lg : CANLogger} {before : List Text}, lg.recentLogs = before.rtake 1000 →
      (run writeLog lg lines).recentLogs = (before ++ lines).rtake 1000 := by
  induction lines with
  | nil =>
    intro lg before h
    rw [List.append_nil]
    exact h
  | cons line lines ih =>
    intro lg before h
    obtain ⟨files, position, hwrite⟩ := writeLog_frame lg line
    rw [List.append_cons]
    refine ih ?_
    rw [hwrite]
    exact remember_recentLogs h line

theorem getRecentLogs_eq (lg : CANLogger) (count : Nat) :
    lg.getRecentLogs count = lg.recentLogs.rtake count := by
  unfold getRecentLogs
  split
  next hle => rw [List.rtake, Nat.sub_eq_zero_of_le hle, List.drop_zero]
  next => rfl

/-! ## Messages -/

/-- A call of `log`. -/
structure LogCall where
  timestamp : Text
  level : LogLevel
  message : Text
  deriving DecidableEq, Repr

def step (lg : CANLogger) (call : LogCall) : CANLogger :=
  lg.log call.timestamp call.level call.message

/-- The lines of the messages that are not below the level. -/
def written (level : LogLevel) (calls : List LogCall) : List Text :=
  (calls.filter fun call => decide (level.toNat ≤ call.level.toNat)).map fun call =>
    format call.timestamp call.level call.message

theorem written_cons_below {level : LogLevel} {call : LogCall}
    (h : call.level.toNat < level.toNat) (calls : List LogCall) :
    written level (call :: calls) = written level calls := by
  unfold written
  rw [List.filter_cons_of_neg (by rw [decide_eq_true_iff]; omega)]

theorem written_cons_passed {level : LogLevel} {call : LogCall}
    (h : ¬ call.level.toNat < level.toNat) (calls : List LogCall) :
    written level (call :: calls) =
      format call.timestamp call.level call.message :: written level calls := by
  unfold written
  rw [List.filter_cons_of_pos (by rw [decide_eq_true_iff]; omega), List.map_cons]

end CANLogger

end EcuMult.Logging
