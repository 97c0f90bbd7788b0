import EcuMult.Lib.TextInput

/-!
# The exposition format of metrics

A text of lines: a sample has a name, labels in braces or none, a blank, and a
value; a line that starts with `#` is a comment. `readText_lines` is the round trip for
texts in which comments stand between the samples.

The reader takes the last blank of a line as the one in front of the value, as labels
may have blanks in them.
-/

namespace EcuMult.Lib.Exposition

structure Sample where
  name : Text
  /-- What stands between the braces. -/
  labels : Text
  value : Text
  deriving DecidableEq, Repr

/-! ## Writing -/

def labelText (labels : Text) : Text := if labels = [] then [] else '{' :: (labels ++ ['}'])

def sampleLine (s : Sample) : Text := s.name ++ labelText s.labels ++ ' ' :: s.value

/-! ## Reading -/

/-- The texts in front of the last `delim` and behind it. -/
def cutLast (delim : Char) (t : Text) : Option (Text × Text) :=
  if delim ∈ t then
    some (((t.reverse.dropWhile (· ≠ delim)).drop 1).reverse,
      (t.reverse.takeWhile (· ≠ delim)).reverse)
  else none

/-- A name, and the labels behind it. -/
def readName (t : Text) : Option (Text × Text) :=
  match t.dropWhile (· ≠ '{') with
  | [] => some (t, [])
  | _ :: rest =>
    if rest.getLast? = some '}' then some (t.takeWhile (· ≠ '{'), rest.dropLast) else none

def readSample (line : Text) : Option Sample := do
  let (head, value) ← cutLast ' ' line
  let (name, labels) ← readName head
  return ⟨name, labels, value⟩

def isComment (line : Text) : Bool := line.head? = some '#'

/-- All samples of a text, if each line is one or a comment. -/
def readText (t : Text) : Option (List Sample) :=
  ((getlines '\n' t).filter fun line => !isComment line).mapM readSample

/-! ## Reading what was written -/

structure WellFormed (s : Sample) : Prop where
  name : '{' ∉ s.name ∧ '\n' ∉ s.name ∧ s.name.head? ≠ some '#'
  labels : '\n' ∉ s.labels
  value : ' ' ∉ s.value ∧ '\n' ∉ s.value

theorem cutLast_append {delim : Char} {t : Text} (h : delim ∉ t) (front : Text) :
    cutLast delim (front ++ delim :: t) = some (front, t) := by
  have hmem : delim ∈ front ++ delim :: t := List.mem_append_right _ List.mem_cons_self
  have hall : ∀ c ∈ t.reverse, decide (c ≠ delim) = true := by
    intro c hc
    exact decide_eq_true fun heq => h (heq ▸ List.mem_reverse.mp hc)
  have hstop : ¬ decide (delim ≠ delim) = true := by
    rw [decide_eq_true_eq]
    exact not_not_intro rfl
  have hreverse : (front ++ delim :: t).reverse = t.reverse ++ delim :: front.reverse := by
    rw [List.reverse_append, List.reverse_cons, List.append_assoc]
    rfl
  unfold cutLast
  rw [if_pos hmem, hreverse, List.dropWhile_append_of_pos hall, List.takeWhile_append_of_pos hall,
    List.dropWhile_cons_of_neg (p := fun c => decide (c ≠ delim)) hstop,
    List.takeWhile_cons_of_neg (p := fun c => decide (c ≠ delim)) hstop, List.append_nil,
    List.reverse_reverse]
  exact congrArg (fun r => some (r, t)) (List.reverse_reverse front)

theorem readName_labelText {name : Text} (h : '{' ∉ name) (labels : Text) :
    readName (name ++ labelText labels) = some (name, labels) := by
  have hall : ∀ c ∈ name, decide (c ≠ '{') = true := by
    intro c hc
    exact decide_eq_true fun heq => h (heq ▸ hc)
  unfold readName labelText
  by_cases hlabels : labels = []
  · rw [if_pos hlabels, List.append_nil, List.dropWhile_eq_nil_iff.mpr hall, hlabels]
  · rw [if_neg hlabels, List.dropWhile_append_of_pos hall, List.takeWhile_append_of_pos hall,
      List.dropWhile_cons_of_neg (by decide), List.takeWhile_cons_of_neg (by decide)]
    dsimp only
    rw [List.getLast?_concat, if_pos rfl, List.dropLast_concat, List.append_nil]

theorem readSample_sampleLine {s : Sample} (h : WellFormed s) :
    readSample (sampleLine s) = some s := by
  unfold readSample sampleLine
  rw [cutLast_append h.value.1]
  show (readName (s.name ++ labelText s.labels) >>= _) = _
  rw [readName_labelText h.name.1]
  rfl

theorem sampleLine_newline {s : Sample} (h : WellFormed s) : '\n' ∉ sampleLine s := by
  unfold sampleLine labelText
  rw [List.mem_append, List.mem_append, List.mem_cons]
  intro hmem
  rcases hmem with (hname | hlabels) | heq | hvalue
  · exact h.name.2.1 hname
  · split at hlabels
    · exact absurd hlabels List.not_mem_nil
    · rw [List.mem_cons, List.mem_append, List.mem_singleton] at hlabels
      rcases hlabels with heq | hlabels | heq
      · exact absurd heq (by decide)
      · exact h.labels hlabels
      · exact absurd heq (by decide)
  · exact absurd heq (by decide)
  · exact h.value.2 hvalue

theorem sampleLine_not_comment {s : Sample} (h : WellFormed s) :
    isComment (sampleLine s) = false := by
  unfold isComment sampleLine labelText
  rw [decide_eq_false_iff_not]
  cases hname : s.name with
  | nil =>
    -- then the line begins with a brace or a blank
    split
    · exact fun heq => absurd (Option.some.inj heq) (by decide)
    · exact fun heq => absurd (Option.some.inj heq) (by decide)
  | cons c rest =>
    have hhead := h.name.2.2
    rw [hname] at hhead
    exact hhead

/-- What a writer prints for a sample: comments, and the line. -/
def block (comments : List Text) (s : Sample) : List Text := comments ++ [sampleLine s]

section

variable {α : Type*} {comments : α → List Text} {sample : α → Sample}

/-- The comments are left out. -/
theorem filter_blocks {items : List α}
    (hcomments : ∀ item ∈ items, ∀ line ∈ comments item, isComment line = true)
    (hsamples : ∀ item ∈ items, WellFormed (sample item)) :
    ((items.flatMap fun item => block (comments item) (sample item)).filter
      fun line => !isComment line) = items.map fun item => sampleLine (sample item) := by
  induction items with
  | nil => rfl
  | cons item rest ih =>
    obtain ⟨hcomment, hcomments⟩ := List.forall_mem_cons.mp hcomments
    obtain ⟨hsample, hsamples⟩ := List.forall_mem_cons.mp hsamples
    have hnone : (comments item).filter (fun line => !isComment line) = [] := by
      rw [List.filter_eq_nil_iff]
      intro line hline
      rw [hcomment line hline]
      exact Bool.false_ne_true
    have hone : [sampleLine (sample item)].filter (fun line => !isComment line) =
        [sampleLine (sample item)] := by
      rw [List.filter_cons_of_pos]
      · rfl
      · rw [sampleLine_not_comment hsample]
        rfl
    rw [List.flatMap_cons, List.filter_append, ih hcomments hsamples, block, List.filter_append,
      hnone, hone]
    rfl

theorem mapM_samples {items : List α} (hsamples : ∀ item ∈ items, WellFormed (sample item)) :
    (items.map fun item => sampleLine (sample item)).mapM readSample = some (items.map sample) := by
  induction items with
  | nil => rfl
  | cons item rest ih =>
    obtain ⟨hsample, hsamples⟩ := List.forall_mem_cons.mp hsamples
    rw [List.map_cons, List.mapM_cons, readSample_sampleLine hsample, ih hsamples]
    rfl

/-- **Read as written.** A text of blocks, each line with its end, is read as the samples
in it. -/
theorem readText_lines {items : List α}
    (hcomments : ∀ item ∈ items, ∀ line ∈ comments item, '\n' ∉ line ∧ isComment line = true)
    (hsamples : ∀ item ∈ items, WellFormed (sample item)) :
    readText ((items.flatMap fun item => block (comments item) (sample item)).flatMap
      fun line => line ++ ['\n']) = some (items.map sample) := by
  have hlines : ∀ line ∈ items.flatMap fun item => block (comments item) (sample item),
      '\n' ∉ id line := by
    intro line hline
    obtain ⟨item, hitem, hline⟩ := List.mem_flatMap.mp hline
    rcases List.mem_append.mp hline with hcomment | hsample
    · exact (hcomments item hitem line hcomment).1
    · rw [List.mem_singleton.mp hsample]
      exact sampleLine_newline (hsamples item hitem)
  have hread := getlines_flatMap hlines
  rw [List.map_id] at hread
  unfold readText
  show (List.filter _ (getlines '\n' (List.flatMap (fun line => id line ++ ['\n']) _))).mapM _ = _
  rw [hread, filter_blocks (fun item hitem line hline => (hcomments item hitem line hline).2)
    hsamples]
  exact mapM_samples hsamples

end

end EcuMult.Lib.Exposition
