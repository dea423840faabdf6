import SentinelEdge.Analysis.Withholding
import SentinelEdge.Incidents.Lifecycle

/-! # Expired data and open alerts

The analysis service turns data older than five seconds into a normal reading
with no score; the incident engine takes a normal reading as negative evidence.
Between them expired data opens the resolution of an alert unless the analysis
is refused, withheld, known already or late.
-/

namespace SentinelEdge.Incidents

open Foundation Domain Storage
open Analysis (AnalysisEngine Analyzable Withheld Expired analyze analyze_expired analyze_ok_iff analysisId profileOf)

variable {P : Platform} {e : Engine P}

/-- The analysis of an observation leaves the incident of its hazard RESOLVING. -/
def OpensResolution (e : Engine P) (a : AnalysisEngine) (latencyMs : ℚ) (o : Observation) (acceptedAt : DateTime) : Prop :=
  ∃ result, (analyze P latencyMs o a).1 = .ok result ∧
    ∃ c ∈ (applyAnalysis result acceptedAt e).2.current.get? o.hazard, c.state = .resolving

/-- An analysis changes the state of an incident only in order, to what it calls for. -/
theorem applyAnalysis_state (inv : Invariant e) {analysis : AnalysisResult} (acceptedAt : DateTime) {c : IncidentRecord}
    (found : e.current.get? analysis.hazard = some c) :
    ∃ c', (applyAnalysis analysis acceptedAt e).2.current.get? analysis.hazard = some c' ∧
      (c'.state = c.state ∨ InOrder e analysis ∧ c'.state = (assess (some c) analysis).1) := by
  rcases applyAnalysis_cases inv.well analysis acceptedAt with
    unchanged | ⟨c', s', found', -, -, -, -, after⟩ | ⟨s', inOrder, -, -, -, after⟩
  · rw [unchanged]
    exact ⟨c, found, .inl rfl⟩
  · obtain rfl := Option.some.inj (found.symm.trans found')
    rw [after]
    exact ⟨_, Dict.get?_insert_self _ _ _, .inl rfl⟩
  · rw [after, found]
    exact ⟨_, Dict.get?_insert_self _ _ _, .inr ⟨inOrder, rfl⟩⟩

/-- A normal reading in order opens the resolution of an alert. -/
theorem applyAnalysis_opens (inv : Invariant e) {analysis : AnalysisResult} (acceptedAt : DateTime) {c : IncidentRecord}
    (found : e.current.get? analysis.hazard = some c) (alert : c.state = .suspected ∨ c.state = .confirmed)
    (inOrder : InOrder e analysis) (certain : ¬ (analysis.abstained ∨ analysis.coverage = .blind))
    (normal : analysis.stateHint = .normal) :
    ∃ c', (applyAnalysis analysis acceptedAt e).2.current.get? analysis.hazard = some c' ∧ c'.state = .resolving := by
  have target : (assess (some c) analysis).1 = .resolving := by simp [assess, certain, normal, alert]
  have legal : (assess (some c) analysis).1 ∈ allowed (previousState (some c)) := by
    rw [target]
    rcases alert with suspected | confirmed
    · simp [previousState, suspected, allowed]
    · simp [previousState, confirmed, allowed]
  have succeeds : Succeeds (some c) (nextRecord P (some c) analysis acceptedAt) := by
    refine nextRecord_succeeds acceptedAt ?_ ?_ legal
    · rintro c' ⟨⟩
      exact (inv.current_mem found).2.symm
    · rintro c' ⟨⟩
      exact (inOrder c found).1
  have fits : Fits e.store (nextRecord P (some c) analysis acceptedAt) (analysisIntent e (some c) analysis acceptedAt) := by
    refine ⟨inv.fresh_version (found ▸ succeeds) found, ?_⟩
    -- RESOLVING calls for no notification
    have quiet : analysisIntent e (some c) analysis acceptedAt = none := by
      refine if_pos (.inl ?_)
      show (assess (some c) analysis).1 ∉ notifyStates
      rw [target]
      decide
    rw [quiet]
    rintro item ⟨⟩
  obtain ⟨s', -, written⟩ := applyInOrder_of_fits inv.well legal fits
  rw [applyAnalysis_of_inOrder inOrder, found, written]
  exact ⟨_, Dict.get?_insert_self _ _ _, target⟩

theorem inOrder_expired_iff {o : Observation} {result : AnalysisResult} (expired : Expired P o result) {c : IncidentRecord}
    (found : e.current.get? o.hazard = some c) :
    InOrder e result ↔ ¬ (analysisId P o (profileOf o.hazard) ∈ c.analysisIds ∨
      ∃ w ∈ c.eventTimeWatermark, o.observedAt < w) := by
  have stamped : eventTime result = o.observedAt := by rw [eventTime, expired.eventTime]; rfl
  simp only [InOrder, expired.hazard, expired.analysisId, found, Option.mem_some_iff, forall_eq', not_or, isLate, stamped]
  cases c.eventTimeWatermark <;> simp

/-- A channel of the river gauge, as an observation derives it from its values. -/
def gaugeChannel (key unit : String) (statistic : MeasurementStatistic) (value : ℚ) : MeasurementValue where
  observedPropertyId := key
  value := value
  unit := unit
  statistic := statistic
  orientation := some "positive-up"
  reference := some "local-datum-unqualified:gauge"
  sourceValueKey := key

/-- Channels of the river gauge that arrive six seconds after they were read. -/
def expiredReading (channels : List MeasurementValue) : Observation where
  observationId := UUID.ofNat 2
  correlationId := UUID.ofNat 2
  sourceId := "gauge"
  hazard := .flood
  sourceMode := .live
  bootId := "boot"
  observedAt := 2
  receivedAt := 6000002
  values := channels.foldl (fun d m => d.insert m.sourceValueKey m.value) Dict.empty
  units := channels.foldl (fun d m => d.insert m.sourceValueKey m.unit) Dict.empty
  qualityFlags := []
  sourceLineage := "gauge"
  clockEpoch := 0
  measurements := channels

def calmRise : MeasurementValue := gaugeChannel "rate_of_rise_m_per_h" "m/h" .rate 0

def calmLevel : MeasurementValue := gaugeChannel "water_level_m" "m" .instantaneous (1 / 10)

end SentinelEdge.Incidents
