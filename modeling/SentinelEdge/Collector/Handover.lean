import SentinelEdge.Analysis.Withholding
import SentinelEdge.Collector.Lateness
import SentinelEdge.Domain.Timestamp

/-! # Handing observations over to the analysis

What the collector accepts is analysed in the order of its acceptance. Both hold an
observation to the same measurement contract, but the landslide adapter keeps a
rain history of its own, whose times must not fall and which it reads a day back.
The collector may accept what is late.
-/

namespace SentinelEdge.Collector

open Foundation Domain Analysis

variable {P : Platform}

/-- What the clocks show of an observation: how long its analysis takes, and the
    offset that its time of observation is written with. -/
structure Readings where
  latencyMs : Domain.Observation → ℚ
  utcOffset : Domain.Observation → Int

/-- `now - timedelta(hours=24)` of the landslide adapter. -/
def Readings.dayBefore (readings : Readings) (o : Domain.Observation) : Except Error Timestamp :=
  (Timestamp.mk o.observedAt (readings.utcOffset o)).add (-(24 * Landslide.hour))

/-- `analyze` on the calendar: with rain of its source on record the landslide adapter
    looks a day back. -/
def analyzeDated (P : Platform) (readings : Readings) (o : Domain.Observation) : AnalysisCall AnalysisResult := do
  let result ← analyze P (readings.latencyMs o) o
  let a ← Call.read id
  if o.hazard = .landslide && !(a.history o.sourceId).isEmpty then do
    let _ ← Call.lift (readings.dayBefore o)
    pure result
  else pure result

/-- One observation after the other. -/
def analyzeAll (P : Platform) (readings : Readings) : List Domain.Observation → AnalysisCall (List AnalysisResult)
  | [] => pure []
  | o :: rest => do
      let result ← analyzeDated P readings o
      let results ← analyzeAll P readings rest
      pure (result :: results)

/-- An engine that has seen nothing. -/
def newEngine : AnalysisEngine := ⟨Dict.empty⟩

/-- The observation tells the landslide adapter about rain at the source. -/
def BringsRain (source : String) (o : Domain.Observation) : Prop :=
  o.sourceId = source ∧ o.hazard = .landslide ∧ (sanitized o).values.get? "rainfall_mm_h" ≠ none

/-- After the others the observation brings no rain from an earlier time, and if rain
    of its source is on record the calendar reaches a day further back. -/
structure InOrder (readings : Readings) (before : List Domain.Observation) (o : Domain.Observation) : Prop where
  rising : BringsRain o.sourceId o → ∀ earlier ∈ before, BringsRain o.sourceId earlier → earlier.observedAt ≤ o.observedAt
  dated : o.hazard = .landslide → (∃ rain ∈ before ++ [o], BringsRain o.sourceId rain) →
    ∃ start, readings.dayBefore o = .ok start

/-- Each of the observations is in order after those before it. -/
def Orderly (readings : Readings) : List Domain.Observation → List Domain.Observation → Prop
  | _, [] => True
  | before, o :: rest => InOrder readings before o ∧ Orderly readings (before ++ [o]) rest

/-! ## The rain history -/

/-- The history of a source after the observations: its last point is the latest. -/
inductive Remembers (source : String) (before : List Domain.Observation) : Landslide.RainHistory → Prop where
  | dry (none : ∀ o ∈ before, ¬ BringsRain source o) : Remembers source before []
  | wet {history : Landslide.RainHistory} {last : DateTime × ℚ} (ends : history.getLast? = some last)
      (known : ∃ o ∈ before, BringsRain source o ∧ o.observedAt = last.1)
      (latest : ∀ o ∈ before, BringsRain source o → o.observedAt ≤ last.1) : Remembers source before history

section Histories

variable {source : String} {before : List Domain.Observation} {history recorded : Landslide.RainHistory}
  {o : Domain.Observation}

theorem prune_getLast? (cutoff : DateTime) (history : Landslide.RainHistory) :
    (Landslide.prune cutoff history).getLast? = history.getLast? := by
  induction history with
  | nil => rfl
  | cons first rest ih =>
      cases rest with
      | nil => rfl
      | cons second rest =>
          unfold Landslide.prune
          split
          · rw [ih, List.getLast?_cons_cons]
          · rfl

/-- Rain that is recorded is the last point of the history. -/
theorem recordRain_ok (call : Landslide.recordRain history o = .ok recorded) :
    (o.values.get? "rainfall_mm_h" = none ∧ recorded = history) ∨
      (o.values.get? "rainfall_mm_h" ≠ none ∧ ∃ rate, recorded.getLast? = some (o.observedAt, rate)) := by
  unfold Landslide.recordRain at call
  cases rain : o.values.get? "rainfall_mm_h" with
  | none =>
      rw [rain] at call
      cases call
      exact .inl ⟨rfl, rfl⟩
  | some rate =>
      refine .inr ⟨by simp, max 0 rate, ?_⟩
      rw [rain] at call
      simp only at call
      repeat' split at call
      all_goals cases call
      all_goals simp [prune_getLast?]

theorem Remembers.empty_iff (remembers : Remembers source before history) :
    history = [] ↔ ∀ o ∈ before, ¬ BringsRain source o := by
  cases remembers with
  | dry none => simpa using none
  | wet ends known latest =>
      constructor
      · rintro rfl
        cases ends
      · intro none
        obtain ⟨o, member, rain, -⟩ := known
        exact absurd rain (none o member)

/-- Rain is stale exactly when it falls behind earlier rain of its source. -/
theorem Remembers.stale_iff (remembers : Remembers o.sourceId before history) :
    o.hazard = .landslide ∧ Landslide.RainStale history (sanitized o) ↔
      BringsRain o.sourceId o ∧ ∃ earlier ∈ before, BringsRain o.sourceId earlier ∧ o.observedAt < earlier.observedAt := by
  constructor
  · rintro ⟨hazard, rain, last, ends, behind⟩
    refine ⟨⟨rfl, hazard, rain⟩, ?_⟩
    cases remembers with
    | dry none => cases ends
    | wet ends' known latest =>
        rw [ends'] at ends
        cases ends
        obtain ⟨earlier, member, brings, at_last⟩ := known
        exact ⟨earlier, member, brings, at_last ▸ behind⟩
  · rintro ⟨⟨-, hazard, rain⟩, earlier, member, brings, behind⟩
    refine ⟨hazard, rain, ?_⟩
    cases remembers with
    | dry none => exact absurd brings (none earlier member)
    | @wet _ last ends known latest => exact ⟨last, ends, lt_of_lt_of_le behind (latest earlier member brings)⟩

/-- Another observation that brings no rain of the source changes nothing. -/
theorem Remembers.skip (remembers : Remembers source before history) (none : ¬ BringsRain source o) :
    Remembers source (before ++ [o]) history := by
  cases remembers with
  | dry dry =>
      refine .dry ?_
      intro other member
      rcases List.mem_append.mp member with old | new
      · exact dry other old
      · rwa [List.mem_singleton.mp new]
  | wet ends known latest =>
      obtain ⟨earlier, member, brings⟩ := known
      refine .wet ends ⟨earlier, List.mem_append_left _ member, brings⟩ ?_
      intro other member brings
      rcases List.mem_append.mp member with old | new
      · exact latest other old brings
      · rw [List.mem_singleton.mp new] at brings
        exact absurd brings none

/-- Rain that is recorded is the latest. -/
theorem Remembers.record (remembers : Remembers source before history) (here : o.sourceId = source)
    (hazard : o.hazard = .landslide) (call : Landslide.recordRain history (sanitized o) = .ok recorded) :
    Remembers source (before ++ [o]) recorded := by
  rcases recordRain_ok call with ⟨none, rfl⟩ | ⟨rain, rate, ends⟩
  · refine remembers.skip ?_
    rintro ⟨-, -, rain⟩
    exact rain none
  · subst here
    have fresh : ¬ Landslide.RainStale history (sanitized o) := by
      intro stale
      obtain ⟨error, raised⟩ := (Landslide.recordRain_raises_iff history (sanitized o)).mpr stale
      rw [call] at raised
      cases raised
    refine .wet ends ⟨o, by simp, ⟨rfl, hazard, rain⟩, rfl⟩ ?_
    intro other member brings
    rcases List.mem_append.mp member with old | new
    · by_contra behind
      exact fresh (remembers.stale_iff.mpr ⟨⟨rfl, hazard, rain⟩, other, old, brings, not_le.mp behind⟩).2
    · rw [List.mem_singleton.mp new]
      exact le_refl _

end Histories

/-! ## Analysing what was accepted -/

section Analyses

variable {a a' : AnalysisEngine} {readings : Readings} {before log : List Domain.Observation} {o : Domain.Observation}

/-- An analysis that returns has recorded the rain of its observation and nothing else. -/
theorem analyze_remembers {latencyMs : ℚ} {result : AnalysisResult} (call : analyze P latencyMs o a = (.ok result, a'))
    (remembers : ∀ source, Remembers source before (a.history source)) (source : String) :
    Remembers source (before ++ [o]) (a'.history source) := by
  obtain ⟨⟨clean, report⟩, _, checked, rest⟩ := Call.bind_ok.mp call
  rw [Call.lift_apply, Prod.mk.injEq] at checked
  obtain ⟨checked, rfl⟩ := checked
  unfold sanitize at checked
  split at checked
  · cases checked
    obtain ⟨hazardous, _, adapted, done⟩ := Call.bind_ok.mp rest
    cases done
    have same : (sanitized o).hazard = o.hazard := rfl
    cases hazard : o.hazard with
    | landslide =>
        simp only [adapt, same, hazard, Call.read_bind] at adapted
        obtain ⟨⟨_, history⟩, _, analyzed, stored⟩ := Call.bind_ok.mp adapted
        rw [Call.lift_apply, Prod.mk.injEq] at analyzed
        obtain ⟨analyzed, rfl⟩ := analyzed
        cases stored
        unfold Landslide.analyze at analyzed
        split at analyzed
        · cases analyzed
        · cases recording : Landslide.recordRain (a.history (sanitized o).sourceId) (sanitized o) with
          | error e =>
              rw [recording] at analyzed
              cases analyzed
          | ok recorded =>
              rw [recording] at analyzed
              cases analyzed
              by_cases here : o.sourceId = source
              · have written : ({ a with rainHistory := a.rainHistory.insert (sanitized o).sourceId history }).history source =
                    history := by
                  simp [AnalysisEngine.history, sanitized, here]
                rw [written]
                exact (remembers source).record here hazard (here ▸ recording)
              · have kept : ({ a with rainHistory := a.rainHistory.insert (sanitized o).sourceId history }).history source =
                    a.history source := by
                  simp [AnalysisEngine.history, Dict.get?_insert, sanitized, Ne.symm here]
                rw [kept]
                exact (remembers source).skip fun brings => here brings.1
    | wildfire | flood | earthquake =>
        simp only [adapt, same, hazard] at adapted
        rw [Call.lift_apply, Prod.mk.injEq] at adapted
        rw [← adapted.2]
        refine (remembers source).skip ?_
        rintro ⟨-, landslide, -⟩
        rw [hazard] at landslide
        cases landslide
  · cases checked

theorem analyzeDated_remembers {result : AnalysisResult} (call : analyzeDated P readings o a = (.ok result, a'))
    (remembers : ∀ source, Remembers source before (a.history source)) (source : String) :
    Remembers source (before ++ [o]) (a'.history source) := by
  obtain ⟨_, a₁, analyzed, rest⟩ := Call.bind_ok.mp call
  have same : a' = a₁ := by
    rw [Call.read_bind] at rest
    split at rest
    · obtain ⟨_, _, subtracted, done⟩ := Call.bind_ok.mp rest
      rw [Call.lift_apply, Prod.mk.injEq] at subtracted
      obtain ⟨-, rfl⟩ := subtracted
      cases done
      rfl
    · cases rest
      rfl
  rw [same]
  exact analyze_remembers analyzed remembers source

/-- An observation that keeps its contract is analysed exactly when it is in order. -/
theorem analyzeDated_returns_iff (remembers : ∀ source, Remembers source before (a.history source))
    (valid : (validate o).valid = true) :
    (∃ result a', analyzeDated P readings o a = (.ok result, a')) ↔ InOrder readings before o := by
  have rises : Analyzable a o ↔
      (BringsRain o.sourceId o → ∀ earlier ∈ before, BringsRain o.sourceId earlier → earlier.observedAt ≤ o.observedAt) := by
    rw [Analyzable, (remembers o.sourceId).stale_iff]
    simp only [valid, true_and, not_and, not_exists, not_lt]
  constructor
  · rintro ⟨result, a', call⟩
    obtain ⟨result', _, analyzed, rest⟩ := Call.bind_ok.mp call
    have analyzable : Analyzable a o := (analyze_ok_iff P (readings.latencyMs o) a o).mp ⟨result', congrArg Prod.fst analyzed⟩
    refine ⟨rises.mp analyzable, ?_⟩
    rintro hazard ⟨rain, member, brings⟩
    have wet := mt (analyze_remembers analyzed remembers o.sourceId).empty_iff.mp fun none => none rain member brings
    simp only [Call.read_bind, id, hazard, decide_true, Bool.true_and, Bool.not_eq_true', List.isEmpty_eq_false_iff] at rest
    rw [if_pos wet] at rest
    obtain ⟨start, _, subtracted, -⟩ := Call.bind_ok.mp rest
    exact ⟨start, congrArg Prod.fst subtracted⟩
  · intro order
    obtain ⟨result, a', analyzed, -⟩ := analyze_answers P (readings.latencyMs o) (rises.mpr order.rising)
    refine ⟨stamp P o (expire (sanitized o) (withReasons result (validate o))), a', ?_⟩
    rw [analyzeDated, Call.bind_of_ok analyzed]
    simp only [Call.read_bind, id]
    split
    · next wet =>
        simp only [Bool.and_eq_true, decide_eq_true_eq, Bool.not_eq_true', List.isEmpty_eq_false_iff] at wet
        have empty := mt (analyze_remembers analyzed remembers o.sourceId).empty_iff.mpr wet.2
        simp only [not_forall, not_not] at empty
        obtain ⟨rain, member, brings⟩ := empty
        obtain ⟨start, subtracted⟩ := order.dated wet.1 ⟨rain, member, brings⟩
        exact Call.bind_of_ok (by rw [Call.lift_apply, subtracted])
    · rfl

theorem analyzeAll_returns_iff (remembers : ∀ source, Remembers source before (a.history source))
    (valid : ∀ o ∈ log, (validate o).valid = true) :
    (∃ results a', analyzeAll P readings log a = (.ok results, a')) ↔ Orderly readings before log := by
  induction log generalizing a before with
  | nil => exact iff_of_true ⟨[], a, rfl⟩ trivial
  | cons o log ih =>
      have first := @analyzeDated_returns_iff P _ readings _ _ remembers (valid o (by simp))
      have later : ∀ o ∈ log, (validate o).valid = true := fun o member => valid o (by simp [member])
      constructor
      · rintro ⟨results, a', call⟩
        obtain ⟨result, a₁, analyzed, rest⟩ := Call.bind_ok.mp call
        obtain ⟨others, a₂, followed, -⟩ := Call.bind_ok.mp rest
        exact ⟨first.mp ⟨result, a₁, analyzed⟩,
          (ih (analyzeDated_remembers analyzed remembers) later).mp ⟨others, a₂, followed⟩⟩
      · rintro ⟨order, orderly⟩
        obtain ⟨result, a₁, analyzed⟩ := first.mpr order
        obtain ⟨others, a₂, followed⟩ := (ih (analyzeDated_remembers analyzed remembers) later).mpr orderly
        refine ⟨result :: others, a₂, ?_⟩
        rw [analyzeAll, Call.bind_of_ok analyzed, Call.bind_of_ok followed]
        rfl

end Analyses

/-! ## Accepting observations -/

namespace StreamingSourceCollector

/-- A call on the collector, or the configuration of a source. -/
inductive Intake where
  | call (op : Operation)
  | configure (sourceId sourceKind location : String) (maxLatenessSeconds : Option ℚ)

def takeIn (P : Platform) (c : StreamingSourceCollector) : Intake → StreamingSourceCollector
  | .call op => step P c op
  | .configure sourceId sourceKind location maxLatenessSeconds =>
      (configureSource sourceId sourceKind location maxLatenessSeconds c).2

/-- What the collector accepts, as it hands it on. -/
def takenIn (P : Platform) (c : StreamingSourceCollector) : Intake → List Domain.Observation
  | .call op => (accepted P c op).map Observation.toObservation
  | .configure _ _ _ _ => []

/-- All that a new collector on the store accepts. -/
def intake (P : Platform) (capacity : Int) (cursorStore : SourceCursorStore) (ops : List Intake) : List Domain.Observation :=
  (Foundation.run (traced (takeIn P) (takenIn P)) (create capacity validate cursorStore, []) ops).2

theorem keeps_record (P : Platform) (sourceId : String) (updated : SourceHealth) (now : DateTime) :
    Call.Keeps measurements (record P sourceId updated now) := by
  intro c
  obtain ⟨s, after⟩ := record_health P sourceId updated now c
  rw [after]

theorem keeps_markOverdue (P : Platform) (now : DateTime) (thresholdSeconds : Int) (items : List (String × SourceHealth)) :
    Call.Keeps measurements (markOverdue P now thresholdSeconds items) := by
  induction items with
  | nil => exact Call.Keeps.pure _
  | cons item items ih =>
      refine Call.Keeps.bind ?_ fun _ => ih
      unfold markOne
      split
      · exact keeps_record P item.1 (staled item.2) now
      · exact Call.Keeps.pure _

theorem keeps_configureSource (sourceId sourceKind location : String) (maxLatenessSeconds : Option ℚ) :
    Call.Keeps measurements (configureSource sourceId sourceKind location maxLatenessSeconds) := by
  unfold configureSource
  cases SourceKind.ofString sourceKind with
  | none => exact Call.Keeps.raise _
  | some kind =>
      refine Call.Keeps.bind (Call.Keeps.lift _) fun _ => Call.Keeps.bind (Call.Keeps.read _) fun _ => ?_
      split
      · exact Call.Keeps.raise _
      · exact Call.Keeps.bind (Call.Keeps.modify fun _ => rfl) fun _ => Call.Keeps.pure _

/-- The measurement contract stays as it was built in. -/
theorem takeIn_measurements (P : Platform) (c : StreamingSourceCollector) (op : Intake) :
    (takeIn P c op).measurements = c.measurements := by
  cases op with
  | configure sourceId sourceKind location maxLatenessSeconds =>
      exact keeps_configureSource sourceId sourceKind location maxLatenessSeconds c
  | call op =>
      cases op with
      | ingest o =>
          have ingests := ingest_ingests P c o
          show (ingest P o c).2.measurements = c.measurements
          generalize (ingest P o c).1 = r at ingests
          generalize (ingest P o c).2 = c' at ingests ⊢
          cases ingests <;> rfl
      | markStale now thresholdSeconds =>
          exact (Call.Keeps.bind (Call.Keeps.read _) fun items => keeps_markOverdue P now thresholdSeconds items) c
      | markFailed sourceId reason now =>
          refine (Call.Keeps.bind (Call.Keeps.read _) fun current => ?_ : Call.Keeps measurements (markFailed P sourceId reason now)) c
          cases current with
          | none => exact Call.Keeps.raise _
          | some current => exact keeps_record P sourceId (failed reason current) now

/-- What is accepted keeps the measurement contract. -/
theorem Accepts.valid {c : StreamingSourceCollector} {o : Observation} (accepts : c.Accepts P o) :
    (c.measurements o.toObservation).valid = true := by
  obtain ⟨state, reasons, examined, -, -⟩ := accepts
  unfold examine at examined
  split at examined
  · cases examined
  · split at examined
    · cases examined
    · next valid => exact not_not.mp valid

theorem intake_valid (P : Platform) (capacity : Int) (cursorStore : SourceCursorStore) (ops : List Intake) :
    ∀ o ∈ intake P capacity cursorStore ops, (validate o).valid = true := by
  refine (run_invariant (I := fun x : StreamingSourceCollector × List Domain.Observation =>
    x.1.measurements = validate ∧ ∀ o ∈ x.2, (validate o).valid = true) ?_ ⟨rfl, by simp⟩ ops).2
  rintro ⟨c, log⟩ op ⟨contract, before⟩
  refine ⟨(takeIn_measurements P c op).trans contract, ?_⟩
  intro o member
  rcases List.mem_append.mp member with old | new
  · exact before o old
  · cases op with
    | configure sourceId sourceKind location maxLatenessSeconds => cases new
    | call op =>
        obtain ⟨taken, inside, rfl⟩ := List.mem_map.mp new
        cases op with
        | ingest o =>
            rcases accepted_ingest P c o with ⟨nothing, -⟩ | ⟨one, accepts⟩
            · rw [nothing] at inside
              cases inside
            · rw [one, List.mem_singleton] at inside
              rw [inside, ← contract]
              exact accepts.valid
        | markStale now thresholdSeconds => cases inside
        | markFailed sourceId reason now => cases inside

/-- Whatever a collector accepts, in any run, is analysed in the order of acceptance
    exactly when no rain comes after later rain of its source and the calendar reaches a
    day behind every observation of a slope with rain on record. -/
theorem accepted_can_be_analyzed_iff (P : Platform) (capacity : Int) (cursorStore : SourceCursorStore) (ops : List Intake)
    (readings : Readings) :
    (∃ results a', analyzeAll P readings (intake P capacity cursorStore ops) newEngine = (.ok results, a')) ↔
      Orderly readings [] (intake P capacity cursorStore ops) :=
  analyzeAll_returns_iff (fun _ => .dry (by simp)) (intake_valid P capacity cursorStore ops)

/-- A reading of the rain gauge on the slope. -/
def rainfall (sequence : Nat) (observedAt : DateTime) : Observation where
  observationId := UUID.ofNat sequence
  correlationId := UUID.ofNat 0
  sourceId := "gauge-1"
  hazard := .landslide
  sourceMode := .live
  bootId := "boot"
  observedAt := observedAt
  receivedAt := 2000000
  values := Dict.empty.insert "rainfall_mm_h" 4
  units := Dict.empty.insert "rainfall_mm_h" "mm/h"
  qualityFlags := []
  sourceLineage := "gauge"
  clockEpoch := 0
  measurements := [{
    observedPropertyId := "rainfall_mm_h"
    value := 4
    unit := "mm/h"
    statistic := .rate
    sourceValueKey := "rainfall_mm_h" }]
  sequence := sequence

/-- Its second reading is late, by less than the half second it may be. -/
def lateRain : List Intake := [
  .configure "gauge-1" "imu" "slope" none,
  .call (.ingest (rainfall 1 1000000)),
  .call (.ingest (rainfall 2 800000))]

/-- The collector accepts the late reading and the analysis raises. -/
theorem late_rain_raises :
    (intake Platform.mixing 256 {} lateRain).map Domain.Observation.observedAt = [1000000, 800000] ∧
    (analyzeAll Platform.mixing ⟨fun _ => 0, fun _ => 0⟩ (intake Platform.mixing 256 {} lateRain) newEngine).1.isOk =
      false := by
  decide +kernel

end StreamingSourceCollector

end SentinelEdge.Collector
