import EcuMult.Logging.ReplayAnalyzer
import Mathlib.Data.List.Forall2

/-!
# `loadFile` and the lines it cannot read

A file that cannot be opened is refused before anything is changed. A line
without an identifier is not: `loadFile` has taken the old frames away by then,
`std::stoul` throws, and what is left are the frames of the lines in front of
it (`loadFile_bad`). A blank line is such a line, as its second word is empty.
-/

namespace EcuMult.Logging

open EcuMult.Lib

namespace ReplayAnalyzer

/-- The word that is read as the identifier. -/
def idWord (line : Text) : Text := (extract (extract line).2).1

/-- The identifier of the line starts with hexadecimal digits, behind a sign and
a `0x` if there are any, and has a value below `2 ^ 32`. -/
def HasId (line : Text) : Prop :=
  hexDigits (idWord line) ≠ [] ∧ ofHexDigits (hexDigits (idWord line)) < 2 ^ 32

/-- It returns, and either has one frame for each line or has left the frames
alone. -/
structure LoadsCleanly (ra : ReplayAnalyzer) (content : Text) : Prop where
  returns : ∃ loaded, (ra.loadFile (some content)).2 = .ok loaded
  unchanged : ¬ ((ra.loadFile (some content)).2 = .ok true ∧
      (ra.loadFile (some content)).1.frames.length = (getlines '\n' content).length) →
    (ra.loadFile (some content)).1.frames = ra.frames

/-! ## A line -/

theorem parseLine_ok_iff {line : Text} : (∃ entry, parseLine line = .ok entry) ↔ HasId line := by
  unfold HasId
  rw [← stoul_ok_iff]
  unfold parseLine idWord
  dsimp only
  cases hid : stoul (extract (extract line).2).1 with
  | error e => exact iff_of_false (fun ⟨_, h⟩ => nomatch h) fun ⟨_, h⟩ => nomatch h
  | ok canId => exact iff_of_true ⟨_, rfl⟩ ⟨canId, rfl⟩

/-- The entries of the lines. -/
def Parsed (lines : List Text) (entries : List CANLogEntry) : Prop :=
  List.Forall₂ (fun line entry => parseLine line = .ok entry) lines entries

theorem exists_parsed {lines : List Text} (h : ∀ line ∈ lines, HasId line) :
    ∃ entries, Parsed lines entries := by
  induction lines with
  | nil => exact ⟨[], .nil⟩
  | cons line rest ih =>
    obtain ⟨hline, hrest⟩ := List.forall_mem_cons.mp h
    obtain ⟨entry, hentry⟩ := parseLine_ok_iff.mpr hline
    obtain ⟨entries, hentries⟩ := ih hrest
    exact ⟨entry :: entries, .cons hentry hentries⟩

/-! ## The loop -/

/-- Lines that can be read are behind the loop, their entries in the list. -/
theorem loadLines_append {good : List Text} {entries : List CANLogEntry}
    (hgood : Parsed good entries) (rest : List Text) (ra : ReplayAnalyzer) :
    loadLines ra (good ++ rest) = loadLines { ra with frames := ra.frames ++ entries } rest := by
  induction hgood generalizing ra with
  | nil => rw [List.append_nil, List.nil_append]
  | @cons line entry good entries hentry _ ih =>
    rw [List.cons_append, loadLines, hentry]
    dsimp only
    rw [ih, List.append_assoc, List.singleton_append]

/-- **A file that can be read.** -/
theorem loadFile_good {content : Text} {entries : List CANLogEntry}
    (h : Parsed (getlines '\n' content) entries) (ra : ReplayAnalyzer) :
    ra.loadFile (some content) = ({ ra with frames := entries }, .ok true) := by
  have hloop := loadLines_append h [] { ra with frames := [] }
  rw [List.append_nil] at hloop
  exact hloop

/-- **A file that cannot**: the frames are those in front of the first bad
line. -/
theorem loadFile_bad {content : Text} {good rest : List Text} {bad : Text}
    {entries : List CANLogEntry} {e : StoiError}
    (hlines : getlines '\n' content = good ++ bad :: rest) (hgood : Parsed good entries)
    (hbad : parseLine bad = .error e) (ra : ReplayAnalyzer) :
    ra.loadFile (some content) = ({ ra with frames := entries }, .error e) := by
  show loadLines { ra with frames := [] } (getlines '\n' content) = _
  rw [hlines, loadLines_append hgood, loadLines, hbad]
  rfl

/-- Any lines that cannot all be read have a first one that cannot. -/
theorem exists_first_bad {lines : List Text} (h : ¬ ∀ line ∈ lines, HasId line) :
    ∃ good bad rest, lines = good ++ bad :: rest ∧ (∀ line ∈ good, HasId line) ∧ ¬ HasId bad := by
  induction lines with
  | nil => exact absurd (List.forall_mem_nil _) h
  | cons line rest ih =>
    by_cases hline : HasId line
    · have hrest : ¬ ∀ line ∈ rest, HasId line := fun hall =>
        h (List.forall_mem_cons.mpr ⟨hline, hall⟩)
      obtain ⟨good, bad, others, rfl, hgood, hbad⟩ := ih hrest
      exact ⟨line :: good, bad, others, rfl, List.forall_mem_cons.mpr ⟨hline, hgood⟩, hbad⟩
    · exact ⟨[], line, rest, rfl, List.forall_mem_nil _, hline⟩

/-- **When a file is loaded cleanly.** Of any content, if and only if every line
has an identifier. -/
theorem loadsCleanly_iff (ra : ReplayAnalyzer) (content : Text) :
    LoadsCleanly ra content ↔ ∀ line ∈ getlines '\n' content, HasId line := by
  by_cases hlines : ∀ line ∈ getlines '\n' content, HasId line
  · obtain ⟨entries, hentries⟩ := exists_parsed hlines
    refine iff_of_true ⟨⟨true, ?_⟩, fun hnot => absurd ⟨?_, ?_⟩ hnot⟩ hlines
    · rw [loadFile_good hentries]
    · rw [loadFile_good hentries]
    · rw [loadFile_good hentries]
      exact (List.Forall₂.length_eq hentries).symm
  · refine iff_of_false (fun h => ?_) hlines
    obtain ⟨good, bad, rest, heq, hgood, hbad⟩ := exists_first_bad hlines
    obtain ⟨entries, hentries⟩ := exists_parsed hgood
    obtain ⟨loaded, hloaded⟩ := h.returns
    cases hparse : parseLine bad with
    | ok entry => exact hbad (parseLine_ok_iff.mp ⟨entry, hparse⟩)
    | error e =>
      rw [loadFile_bad heq hentries hparse] at hloaded
      cases hloaded

/-- A file that is one blank line: an exception, and the frame that was there is
gone. -/
theorem loadFile_blank :
    ({ new with frames := [reply] } : ReplayAnalyzer).loadFile (some ['\n']) =
        (new, .error .invalidArgument) ∧
      ¬ LoadsCleanly { new with frames := [reply] } ['\n'] := by
  have hblank : ({ new with frames := [reply] } : ReplayAnalyzer).loadFile (some ['\n']) =
      (new, .error .invalidArgument) := by
    decide
  refine ⟨hblank, fun h => ?_⟩
  obtain ⟨loaded, hloaded⟩ := h.returns
  rw [hblank] at hloaded
  cases hloaded

end ReplayAnalyzer

end EcuMult.Logging
