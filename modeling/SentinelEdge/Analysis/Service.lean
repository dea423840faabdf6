import SentinelEdge.Foundation.Call
import SentinelEdge.Analysis.Hazards
import SentinelEdge.Analysis.Measurements

/-! # The analysis service

`AnalysisEnrichmentEngine` with the default registry and adapters: sanitize,
analyse, take the contribution of expired data away, and stamp the result.
-/

namespace SentinelEdge.Analysis

open Foundation Domain

/-- The state behind the service: the rain history of the landslide adapter. -/
structure AnalysisEngine where
  rainHistory : Dict String Landslide.RainHistory

abbrev AnalysisCall (α : Type) := Call AnalysisEngine Error α

def AnalysisEngine.history (a : AnalysisEngine) (sourceId : String) : Landslide.RainHistory :=
  (a.rainHistory.get? sourceId).getD []

/-- `self._adapters[observation.hazard].analyze(observation)` -/
def adapt (P : Platform) (latencyMs : ℚ) (o : Observation) : AnalysisCall HazardResult :=
  match o.hazard with
  | .wildfire => Call.lift (Wildfire.analyze latencyMs o)
  | .flood => Call.lift (Flood.analyze Flood.developmentProfile none o)
  | .earthquake => Call.lift (Earthquake.analyze P o)
  | .landslide => do
      let analyzed ← Call.read (fun a =>
        Landslide.analyze Landslide.developmentProfile none (a.history o.sourceId) o)
      let (result, history) ← Call.lift analyzed
      Call.modify (fun a => { a with rainHistory := a.rainHistory.insert o.sourceId history })
      pure result

/-- The reasons of the report that go into the result. -/
def withReasons (result : HazardResult) (report : MeasurementContractReport) : HazardResult :=
  { result with reasonCodes := sortedSet (result.reasonCodes ++
      report.reasonCodes.filter (fun code => startsWith code ["quality_", "uncertainty_", "reference_"])) }

/-- Data older than five seconds contributes nothing. -/
def expire (o : Observation) (result : HazardResult) : HazardResult :=
  if 5000 < o.captureAgeMs then
    { result with
      score := 0
      stateHint := .normal
      reasonCodes := sortedSet (result.reasonCodes ++ ["source_ttl_expired_zero_contribution"]) }
  else result

/-- The id an analysis of the observation gets. -/
def analysisId (P : Platform) (o : Observation) (modelProfileId : String) : UUID :=
  P.uuid5 ("sentinel-analysis:" ++ o.observationId.str ++ ":" ++ modelProfileId)

/-- The result with the fields it takes from the observation. -/
def stamp (P : Platform) (o : Observation) (result : HazardResult) : AnalysisResult where
  analysisId := analysisId P o result.modelProfileId
  observationId := result.observationId
  correlationId := o.correlationId
  bootId := o.bootId
  sourceMode := o.sourceMode
  hazard := result.hazard
  score := result.score
  stateHint := result.stateHint
  features := result.features
  coverage := result.coverage
  abstained := result.abstained
  reasonCodes := result.reasonCodes
  modelProfileId := result.modelProfileId
  sourceLineage := o.sourceLineage
  configHashes := []
  incidentIdHint := none
  producedAt := o.receivedAt
  eventTime := some o.observedAt

/-- `analyze` -/
def analyze (P : Platform) (latencyMs : ℚ) (o : Observation) : AnalysisCall AnalysisResult := do
  let (clean, report) ← Call.lift (sanitize o)
  let result ← adapt P latencyMs clean
  pure (stamp P o (expire clean (withReasons result report)))

/-- What keeps its contract goes to the adapter, sanitized. -/
theorem analyze_of_valid (P : Platform) (latencyMs : ℚ) (a : AnalysisEngine) {o : Observation}
    (valid : (validate o).valid = true) :
    analyze P latencyMs o a = (adapt P latencyMs (sanitized o) >>= fun result =>
      pure (stamp P o (expire (sanitized o) (withReasons result (validate o))))) a := by
  have clean : sanitize o = .ok (sanitized o, validate o) := if_pos valid
  rw [analyze, clean]
  exact Call.bind_of_ok (Call.lift_apply (.ok (sanitized o, validate o)) a)

end SentinelEdge.Analysis
