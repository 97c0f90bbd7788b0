import EcuMult.Lib.Exposition
import EcuMult.Lib.Runs
import EcuMult.Lib.Significant
import Mathlib.Algebra.Order.Ring.Rat
import Mathlib.Data.List.AList

/-!
# `MetricsExporter`

`src/logging/metrics_exporter.cpp`: metrics by name, and the text they are exported
as. What is found under a name after any calls is what the calls for
this name make of it, whatever happens to the others (`lookup_run`).
`exported_reads_back` says that a reader of the exposition format gets all of it back
from the text, if no name and no label breaks a line, but that values have lost all but
six digits.

Mirroring notes:
- Values are exact rationals, and none is infinite. The stream has the precision that it
  is made with.
- The iterator of an `unordered_map` gives the entries in some order, which is an
  argument of the export.
- The times of the updates are never read, and left out.
- `tolower` and `isalnum` are those of the C locale.
-/

namespace EcuMult.Logging

open EcuMult.Lib

structure Metric where
  value : ℚ
  labels : Text
  deriving DecidableEq, Repr

structure MetricsExporter where
  metrics : AList fun _ : Text => Metric

namespace MetricsExporter

/-- `metrics_[name]`, as it is changed. -/
def modify (m : MetricsExporter) (name : Text) (f : Metric → Metric) : MetricsExporter :=
  { metrics := m.metrics.insert name (f ((m.metrics.lookup name).getD ⟨0, []⟩)) }

def increment (m : MetricsExporter) (name : Text) (value : ℚ) : MetricsExporter :=
  m.modify name fun metric => { metric with value := metric.value + value }

def gauge (m : MetricsExporter) (name : Text) (value : ℚ) : MetricsExporter :=
  m.modify name fun metric => { metric with value := value }

/-- A moving average. -/
def observe (m : MetricsExporter) (name : Text) (value : ℚ) : MetricsExporter :=
  m.modify name fun metric => { metric with value := (metric.value + value) / 2 }

def set (m : MetricsExporter) (name labels : Text) (value : ℚ) : MetricsExporter :=
  m.modify name fun _ => { value, labels }

def get (m : MetricsExporter) (name : Text) : ℚ :=
  match m.metrics.lookup name with
  | some metric => metric.value
  | none => 0

def reset (m : MetricsExporter) (name : Text) : MetricsExporter :=
  { metrics := m.metrics.erase name }

def resetAll (_ : MetricsExporter) : MetricsExporter := { metrics := ∅ }

/-- The constructor. -/
def new : MetricsExporter :=
  ((((((MetricsExporter.mk ∅).gauge "ecu_frames_rx_total".toList 0).gauge
    "ecu_frames_tx_total".toList 0).gauge "ecu_dtc_count".toList 0).gauge
    "ecu_uptime_seconds".toList 0).gauge "ecu_engine_rpm".toList 0).gauge
    "ecu_vehicle_speed".toList 0 |>.gauge "ecu_battery_voltage".toList 12.6

/-! ## Built-in metrics -/

def recordCANFrame (m : MetricsExporter) (tx : Bool) : MetricsExporter :=
  m.increment (if tx then "ecu_frames_tx_total".toList else "ecu_frames_rx_total".toList) 1

/-- The service is put into a text that nothing is done with. -/
def recordDiagnosticRequest (m : MetricsExporter) (_service : UInt8) : MetricsExporter :=
  (m.increment "ecu_diag_requests_total".toList 1).increment
    "ecu_diag_requests_by_service".toList 1

def recordDTCSet (m : MetricsExporter) : MetricsExporter :=
  m.increment "ecu_dtc_set_total".toList 1

def recordSessionChange (m : MetricsExporter) (session : Text) : MetricsExporter :=
  m.set "ecu_active_session".toList ("session=\"".toList ++ session ++ "\"".toList) 1

/-! ## Export -/

def sanitizeName (name : Text) : Text :=
  (name.map Char.toLower).map fun c => if c.isAlphanum then c else '_'

/-- What a stream prints of a `double`. -/
def printDouble (value : ℚ) : Text := Significant.print 6 value

example : printDouble 1234567 = "1.23457e+06".toList := by decide +kernel

/-- The lines for one metric. -/
def metricLines (entry : Sigma fun _ : Text => Metric) : List Text :=
  let sanitized := sanitizeName entry.1
  ["# HELP ".toList ++ sanitized ++ ' ' :: entry.1,
    "# TYPE ".toList ++ sanitized ++ " gauge".toList,
    sanitized ++
      (if entry.2.labels = [] then [] else '{' :: (entry.2.labels ++ ['}'])) ++
      ' ' :: printDouble entry.2.value]

/-- With the entries in the order of the iterator. -/
def getPrometheusText (entries : List (Sigma fun _ : Text => Metric)) : Text :=
  (entries.flatMap metricLines).flatMap fun line => line ++ ['\n']

/-! ## Calls -/

inductive Op
  | increment (name : Text) (value : ℚ)
  | gauge (name : Text) (value : ℚ)
  | observe (name : Text) (value : ℚ)
  | set (name labels : Text) (value : ℚ)
  | reset (name : Text)
  | resetAll
  | recordCANFrame (tx : Bool)
  | recordDiagnosticRequest (service : UInt8)
  | recordDTCSet
  | recordSessionChange (session : Text)

def step (m : MetricsExporter) : Op → MetricsExporter
  | .increment name value => m.increment name value
  | .gauge name value => m.gauge name value
  | .observe name value => m.observe name value
  | .set name labels value => m.set name labels value
  | .reset name => m.reset name
  | .resetAll => m.resetAll
  | .recordCANFrame tx => m.recordCANFrame tx
  | .recordDiagnosticRequest service => m.recordDiagnosticRequest service
  | .recordDTCSet => m.recordDTCSet
  | .recordSessionChange session => m.recordSessionChange session

/-! ## What is found under a name -/

/-- What a change of one metric makes of another, or of itself. -/
def edit (changed : Text) (f : Metric → Metric) (name : Text) (metric : Option Metric) :
    Option Metric :=
  if name = changed then some (f (metric.getD ⟨0, []⟩)) else metric

theorem modify_lookup (m : MetricsExporter) (changed : Text) (f : Metric → Metric) (name : Text) :
    (m.modify changed f).metrics.lookup name = edit changed f name (m.metrics.lookup name) := by
  unfold modify edit
  by_cases hname : name = changed
  · subst hname
    rw [if_pos rfl]
    exact AList.lookup_insert _
  · rw [if_neg hname]
    exact AList.lookup_insert_ne hname

/-- One name's account of a call. -/
def account (name : Text) (metric : Option Metric) : Op → Option Metric
  | .increment changed value =>
    edit changed (fun metric => { metric with value := metric.value + value }) name metric
  | .gauge changed value => edit changed (fun metric => { metric with value := value }) name metric
  | .observe changed value =>
    edit changed (fun metric => { metric with value := (metric.value + value) / 2 }) name metric
  | .set changed labels value => edit changed (fun _ => { value, labels }) name metric
  | .reset forgotten => if name = forgotten then none else metric
  | .resetAll => none
  | .recordCANFrame tx =>
    edit (if tx then "ecu_frames_tx_total".toList else "ecu_frames_rx_total".toList)
      (fun metric => { metric with value := metric.value + 1 }) name metric
  | .recordDiagnosticRequest _ =>
    edit "ecu_diag_requests_by_service".toList
      (fun metric => { metric with value := metric.value + 1 }) name
      (edit "ecu_diag_requests_total".toList
        (fun metric => { metric with value := metric.value + 1 }) name metric)
  | .recordDTCSet =>
    edit "ecu_dtc_set_total".toList (fun metric => { metric with value := metric.value + 1 })
      name metric
  | .recordSessionChange session =>
    edit "ecu_active_session".toList
      (fun _ => { value := 1, labels := "session=\"".toList ++ session ++ "\"".toList }) name metric

theorem step_lookup (name : Text) (m : MetricsExporter) (op : Op) :
    (m.step op).metrics.lookup name = account name (m.metrics.lookup name) op := by
  cases op with
  | reset forgotten =>
    show (m.metrics.erase forgotten).lookup name = if name = forgotten then none else _
    by_cases hname : name = forgotten
    · subst hname
      rw [if_pos rfl, AList.lookup_erase]
    · rw [if_neg hname, AList.lookup_erase_ne hname]
  | resetAll => rfl
  | recordDiagnosticRequest service =>
    -- two counters, one after the other
    have htotal := m.modify_lookup "ecu_diag_requests_total".toList
      (fun metric => { metric with value := metric.value + 1 }) name
    have hservice := (m.increment "ecu_diag_requests_total".toList 1).modify_lookup
      "ecu_diag_requests_by_service".toList
      (fun metric => { metric with value := metric.value + 1 }) name
    exact hservice.trans (congrArg (edit _ _ name) htotal)
  | increment changed value => exact m.modify_lookup changed _ name
  | gauge changed value => exact m.modify_lookup changed _ name
  | observe changed value => exact m.modify_lookup changed _ name
  | set changed labels value => exact m.modify_lookup changed _ name
  | recordCANFrame tx => exact m.modify_lookup _ _ name
  | recordDTCSet => exact m.modify_lookup _ _ name
  | recordSessionChange session => exact m.modify_lookup _ _ name

theorem get_eq (m : MetricsExporter) (name : Text) :
    m.get name = ((m.metrics.lookup name).map Metric.value).getD 0 := by
  unfold get
  cases m.metrics.lookup name <;> rfl

/-- What is found under a name is the account of the calls for it. -/
theorem lookup_run (name : Text) (ops : List Op) (m : MetricsExporter) :
    (run step m ops).metrics.lookup name = run (account name) (m.metrics.lookup name) ops :=
  run_hom (f := fun m : MetricsExporter => m.metrics.lookup name) (step_lookup name) ops m

/-! ## What is exported -/

/-- No line is broken. -/
structure Unbroken (entry : Sigma fun _ : Text => Metric) : Prop where
  name : '\n' ∉ entry.1
  labels : '\n' ∉ entry.2.labels

/-- The sample that a metric is exported as. -/
def sample (entry : Sigma fun _ : Text => Metric) : Exposition.Sample where
  name := sanitizeName entry.1
  labels := entry.2.labels
  value := printDouble entry.2.value

theorem sanitizeName_all (name : Text) :
    ∀ c ∈ sanitizeName name, c.isAlphanum = true ∨ c = '_' := by
  intro c hc
  obtain ⟨b, -, heq⟩ := List.mem_map.mp hc
  by_cases hb : b.isAlphanum = true
  · rw [if_pos hb] at heq
    exact Or.inl (heq ▸ hb)
  · rw [if_neg hb] at heq
    exact Or.inr heq.symm

theorem notMem_sanitizeName {c : Char} (h : c.isAlphanum = false) (hc : c ≠ '_') (name : Text) :
    c ∉ sanitizeName name := by
  intro hmem
  rcases sanitizeName_all name c hmem with halnum | heq
  · rw [h] at halnum
    cases halnum
  · exact hc heq

theorem sample_wellFormed {entry : Sigma fun _ : Text => Metric} (h : Unbroken entry) :
    Exposition.WellFormed (sample entry) where
  name := by
    refine ⟨notMem_sanitizeName (by decide) (by decide) _,
      notMem_sanitizeName (by decide) (by decide) _, ?_⟩
    intro hhead
    -- a `#` has been replaced
    exact notMem_sanitizeName (by decide) (by decide) entry.1 (List.mem_of_mem_head? hhead)
  labels := h.labels
  value :=
    ⟨(Significant.solid_print 6 _).notMem (by decide),
      (Significant.solid_print 6 _).notMem (by decide)⟩

/-- What is left of a value: six of its digits. It is off by one part in two hundred
thousand at most, and exact if it has no more digits than that. -/
structure ReadsSixDigits (s : Exposition.Sample) (value : ℚ) : Prop where
  read : Significant.read s.value = some (Significant.rounded 6 value)
  error : |Significant.rounded 6 value - value| ≤ |value| / 200000
  few : ∀ (n : ℕ) (e : ℤ), n < 10 ^ 6 → |value| = n * 10 ^ e → Significant.rounded 6 value = value

theorem sample_reads (entry : Sigma fun _ : Text => Metric) :
    ReadsSixDigits (sample entry) entry.2.value where
  read := Significant.read_print (by decide) _
  error := by
    have herror := Significant.rounded_error 6 entry.2.value
    rw [show (1 - (6 : ℕ) : ℤ) = -5 by decide] at herror
    norm_num at herror ⊢
    linarith
  few _ _ hn hvalue := Significant.rounded_exact hn hvalue

/-- The two comment lines. -/
def comments (entry : Sigma fun _ : Text => Metric) : List Text :=
  ["# HELP ".toList ++ sanitizeName entry.1 ++ ' ' :: entry.1,
    "# TYPE ".toList ++ sanitizeName entry.1 ++ " gauge".toList]

theorem comments_wellFormed {entry : Sigma fun _ : Text => Metric} (h : Unbroken entry) :
    ∀ line ∈ comments entry, '\n' ∉ line ∧ Exposition.isComment line = true := by
  have hname : '\n' ∉ sanitizeName entry.1 := notMem_sanitizeName (by decide) (by decide) _
  have hhelp : '\n' ∉ "# HELP ".toList := by decide
  have htype : '\n' ∉ "# TYPE ".toList := by decide
  have hgauge : '\n' ∉ " gauge".toList := by decide
  intro line hline
  rcases List.mem_cons.mp hline with rfl | hline
  · refine ⟨?_, rfl⟩
    simp only [List.mem_append, List.mem_cons, hhelp, hname, h.name, or_false, false_or]
    decide
  · obtain rfl := List.mem_singleton.mp hline
    refine ⟨?_, rfl⟩
    simp only [List.mem_append, htype, hname, hgauge, or_false, not_false_eq_true]

theorem readText_getPrometheusText {entries : List (Sigma fun _ : Text => Metric)}
    (h : ∀ entry ∈ entries, Unbroken entry) :
    Exposition.readText (getPrometheusText entries) = some (entries.map sample) := by
  have hcomments : ∀ entry ∈ entries, ∀ line ∈ comments entry,
      '\n' ∉ line ∧ Exposition.isComment line = true :=
    fun entry hentry => comments_wellFormed (h entry hentry)
  have hsamples : ∀ entry ∈ entries, Exposition.WellFormed (sample entry) :=
    fun entry hentry => sample_wellFormed (h entry hentry)
  exact Exposition.readText_lines hcomments hsamples

/-! ## After any calls -/

/-- The names and labels of a call that a caller chooses. -/
def texts : Op → List Text
  | .increment name _ | .gauge name _ | .observe name _ => [name]
  | .set name labels _ => [name, labels]
  | .recordSessionChange session => [session]
  | .reset _ | .resetAll | .recordCANFrame _ | .recordDiagnosticRequest _ | .recordDTCSet => []

def AllUnbroken (m : MetricsExporter) : Prop := ∀ entry ∈ m.metrics.entries, Unbroken entry

theorem allUnbroken_iff (m : MetricsExporter) :
    m.AllUnbroken ↔
      ∀ name metric, m.metrics.lookup name = some metric → Unbroken ⟨name, metric⟩ := by
  have hmem : ∀ name metric, m.metrics.lookup name = some metric ↔
      ⟨name, metric⟩ ∈ m.metrics.entries := fun _ _ => AList.mem_lookup_iff
  constructor
  · intro h name metric hfound
    exact h _ ((hmem name metric).mp hfound)
  · intro h entry hentry
    exact h entry.1 entry.2 ((hmem entry.1 entry.2).mpr hentry)

theorem modify_allUnbroken {m : MetricsExporter} (h : m.AllUnbroken) {name : Text}
    (hname : '\n' ∉ name) {f : Metric → Metric}
    (hf : ∀ metric, '\n' ∉ metric.labels → '\n' ∉ (f metric).labels) :
    (m.modify name f).AllUnbroken := by
  rw [allUnbroken_iff] at h ⊢
  intro other metric hfound
  rw [modify_lookup] at hfound
  unfold edit at hfound
  split at hfound
  next hother =>
    refine ⟨hother ▸ hname, ?_⟩
    rw [← Option.some.inj hfound]
    refine hf _ ?_
    -- a metric that was not there begins without labels
    cases hbefore : m.metrics.lookup other with
    | none => exact List.not_mem_nil
    | some before => exact (h other before hbefore).labels
  next => exact h other metric hfound

theorem step_allUnbroken {m : MetricsExporter} {op : Op} (h : m.AllUnbroken)
    (hop : ∀ t ∈ texts op, '\n' ∉ t) : (m.step op).AllUnbroken := by
  cases op with
  | increment name value => exact modify_allUnbroken h (hop name List.mem_cons_self) fun _ => id
  | gauge name value => exact modify_allUnbroken h (hop name List.mem_cons_self) fun _ => id
  | observe name value => exact modify_allUnbroken h (hop name List.mem_cons_self) fun _ => id
  | set name labels value =>
    exact modify_allUnbroken h (hop name List.mem_cons_self) fun _ _ =>
      hop labels (List.mem_cons_of_mem _ List.mem_cons_self)
  | reset name =>
    intro entry hentry
    exact h entry ((List.kerase_sublist name m.metrics.entries).subset hentry)
  | resetAll => exact List.forall_mem_nil _
  | recordCANFrame tx =>
    refine modify_allUnbroken h ?_ fun _ => id
    cases tx <;> decide
  | recordDiagnosticRequest service =>
    have htotal : (m.increment "ecu_diag_requests_total".toList 1).AllUnbroken :=
      modify_allUnbroken h (by decide) fun _ => id
    have hservice : '\n' ∉ "ecu_diag_requests_by_service".toList := by decide
    exact modify_allUnbroken htotal hservice fun _ => id
  | recordDTCSet =>
    have hname : '\n' ∉ "ecu_dtc_set_total".toList := by decide
    exact modify_allUnbroken h hname fun _ => id
  | recordSessionChange session =>
    have hname : '\n' ∉ "ecu_active_session".toList := by decide
    have hsession : '\n' ∉ "session=\"".toList ++ session ++ "\"".toList := by
      have hfront : '\n' ∉ "session=\"".toList := by decide
      have hback : '\n' ∉ "\"".toList := by decide
      rw [List.mem_append, List.mem_append]
      exact fun h => h.elim (fun h => h.elim hfront (hop session List.mem_cons_self)) hback
    exact modify_allUnbroken h hname fun _ _ => hsession

theorem new_allUnbroken : new.AllUnbroken := by
  have htexts : ∀ entry ∈ new.metrics.entries, '\n' ∉ entry.1 ∧ '\n' ∉ entry.2.labels := by decide
  exact fun entry hentry => ⟨(htexts entry hentry).1, (htexts entry hentry).2⟩

/-- **What is exported reads back.** After any calls with names and labels that break no
line, and whatever the order of the map: a reader of the text finds one sample for
each metric, with the labels that the calls for its name have given it and six digits
of the value that they have made of it, and nothing else. The name is the sanitized
one. -/
theorem exported_reads_back (ops : List Op) (hops : ∀ op ∈ ops, ∀ t ∈ texts op, '\n' ∉ t)
    {entries : List (Sigma fun _ : Text => Metric)}
    (horder : entries.Perm (run step new ops).metrics.entries) :
    Exposition.readText (getPrometheusText entries) = some (entries.map sample) ∧
      (∀ entry ∈ entries, ReadsSixDigits (sample entry) entry.2.value) ∧
      (entries.map Sigma.fst).Nodup ∧
      ∀ name metric, ⟨name, metric⟩ ∈ entries ↔
        run (account name) (new.metrics.lookup name) ops = some metric := by
  have hstep : ∀ (m : MetricsExporter) (op : Op), m.AllUnbroken →
      (∀ t ∈ texts op, '\n' ∉ t) → (m.step op).AllUnbroken :=
    fun _ _ h hop => step_allUnbroken h hop
  have hunbroken : (run step new ops).AllUnbroken :=
    run_inv_inputs hstep ops new_allUnbroken hops
  refine ⟨readText_getPrometheusText fun entry hentry => ?_, fun entry _ => sample_reads entry,
    ?_, ?_⟩
  · exact hunbroken entry (horder.mem_iff.mp hentry)
  · exact (horder.map Sigma.fst).nodup_iff.mpr (run step new ops).metrics.nodupKeys
  · intro name metric
    have hiff : (run step new ops).metrics.lookup name = some metric ↔
        ⟨name, metric⟩ ∈ (run step new ops).metrics.entries := AList.mem_lookup_iff
    rw [horder.mem_iff, ← hiff, lookup_run]

/-- A session, and a gauge with more than six digits. -/
theorem exported_reads_back_session :
    let ops := [.recordDTCSet, .recordSessionChange "extended".toList,
      .gauge "odometer m".toList 1234567]
    let entries := (run step new ops).metrics.entries
    Exposition.readText (getPrometheusText entries) = some (entries.map sample) ∧
      (∀ entry ∈ entries, ReadsSixDigits (sample entry) entry.2.value) ∧
      (entries.map Sigma.fst).Nodup ∧
      ∀ name metric, ⟨name, metric⟩ ∈ entries ↔
        run (account name) (new.metrics.lookup name) ops = some metric :=
  exported_reads_back _ (by decide) (List.Perm.refl _)

end MetricsExporter

end EcuMult.Logging
