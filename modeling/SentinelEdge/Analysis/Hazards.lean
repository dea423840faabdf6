import Mathlib.Algebra.Order.Floor.Defs
import Mathlib.Data.Rat.Floor
import Mathlib.Data.List.Sort
import SentinelEdge.Domain.Incidents
import SentinelEdge.Domain.Observations

/-! # Hazard adapters

The four adapters turn a sanitized observation into a score, a state hint and
the coverage behind them. Only the landslide adapter keeps state: the rainfall
history of each source.
-/

namespace SentinelEdge.Analysis

open Foundation Domain

/-! ## Numbers -/

/-- `max(0.0, min(1.0, x))` -/
def clamp (x : ℚ) : ℚ := max 0 (min 1 x)

/-- `round(x)`: to the nearest integer, halves to the even one. -/
def round (x : ℚ) : Int :=
  let below := ⌊x⌋
  let rest := x - below
  if rest < 1 / 2 then below
  else if 1 / 2 < rest then below + 1
  else if below % 2 = 0 then below else below + 1

/-- `float(flag)` -/
def indicator (flag : Bool) : ℚ := if flag then 1 else 0

/-- `values.get(key, default)` -/
def reading (o : Observation) (key : String) (fallback : ℚ) : ℚ := (o.values.get? key).getD fallback

def isPresent (o : Observation) (key : String) : Bool := (o.values.get? key).isSome

/-! ## Thresholds -/

structure ThresholdDecision where
  state : IncidentState
  abstained : Bool
  reasonCode : Option String := none
  deriving DecidableEq

/-- The margin of `decide_with_margin` when none is given. -/
def defaultMargin : ℚ := 0.03

/-- `decide_with_margin` -/
def decideWithMargin (score : ℚ) (thresholds : List (ℚ × IncidentState)) (margin : ℚ) :
    Except Error ThresholdDecision :=
  let ordered := thresholds.insertionSort (fun a b => a.1 ≤ b.1)
  if ¬ (0 ≤ score ∧ score ≤ 1) then .error (.valueError "score must be within [0,1]")
  else if margin < 0 then .error (.valueError "threshold margin must be non-negative")
  else if ordered.any (fun t => ¬ (0 ≤ t.1 ∧ t.1 ≤ 1)) then .error (.valueError "thresholds must be within [0,1]")
  else if (ordered.zip ordered.tail).any (fun pair => pair.2.1 ≤ pair.1.1) then
    .error (.valueError "thresholds must be strictly increasing")
  else if ordered.any (fun t => |score - t.1| ≤ margin) then
    .ok { state := .watch, abstained := true, reasonCode := some "decision_threshold_margin_abstention" }
  else .ok {
    state := ordered.foldl (fun state t => if t.1 ≤ score then t.2 else state) .normal
    abstained := false }

/-- Ordered thresholds of one channel. -/
structure Ladder where
  watch : ℚ
  suspected : ℚ
  confirmed : ℚ
  nonneg : 0 ≤ watch
  watch_lt : watch < suspected
  suspected_lt : suspected < confirmed

/-- The score of a channel: 0 below WATCH, then linear on each step. -/
def Ladder.score (l : Ladder) (value : ℚ) : ℚ :=
  if value < l.watch then 0
  else if value < l.suspected then 0.25 + 0.29 * ((value - l.watch) / (l.suspected - l.watch))
  else if value < l.confirmed then 0.55 + 0.29 * ((value - l.suspected) / (l.confirmed - l.suspected))
  else min 1 (0.85 + 0.15 * ((value - l.confirmed) / max l.confirmed 0.000000001))

/-- The fields an adapter sets in its `AnalysisResult`. -/
structure HazardResult where
  observationId : UUID
  hazard : HazardKind
  score : ℚ
  stateHint : IncidentState
  features : List (String × ℚ)
  coverage : CoverageState
  abstained : Bool
  reasonCodes : List String
  modelProfileId : String

/-! ## Wildfire -/

namespace Wildfire

def smoke (o : Observation) : ℚ := clamp (reading o "smoke_score" 0)

def flame (o : Observation) : ℚ := clamp (reading o "flame_score" 0)

def persistence (o : Observation) : ℚ := clamp (reading o "temporal_persistence" 0)

def score (o : Observation) : ℚ := min 1 (0.55 * smoke o + 0.30 * flame o + 0.15 * persistence o)

def thresholds : List (ℚ × IncidentState) := [(0.30, .watch), (0.55, .suspected), (0.80, .confirmed)]

/-- `health_reasons` -/
def healthReasons (o : Observation) : List String :=
  (if reading o "camera_luminance" 128 < 12 ∨ "camera_dark" ∈ o.qualityFlags then ["camera_dark"] else []) ++
  (if reading o "camera_blur_score" 100 < 20 ∨ "camera_blurred" ∈ o.qualityFlags then ["camera_blurred"] else []) ++
  (if 0.85 < clamp (reading o "camera_occlusion_fraction" 0) ∨ "camera_occluded" ∈ o.qualityFlags then
    ["camera_occluded"] else []) ++
  (if clamp (reading o "camera_frame_change" 1) ≤ 0.01 ∨ "camera_frozen" ∈ o.qualityFlags then
    ["camera_frozen"] else [])

def coverage (health : List String) : CoverageState :=
  if 2 ≤ health.length ∨ "camera_frozen" ∈ health then .blind
  else if health.isEmpty then .sufficient else .partially

/-- The state and abstention after the persistence guard. -/
def conclude (o : Observation) (decision : ThresholdDecision) : IncidentState × Bool :=
  let abstained : Bool := coverage (healthReasons o) ≠ .sufficient ∨ decision.abstained
  let (state, abstained) : IncidentState × Bool :=
    if persistence o < 0.50 ∧ (decision.state = .suspected ∨ decision.state = .confirmed) then (.watch, true)
    else (decision.state, abstained)
  (if abstained ∧ state ≠ .normal ∧ state ≠ .watch then .watch else state, abstained)

def reasonCodes (o : Observation) (decision : ThresholdDecision) : List String :=
  sortedSet (healthReasons o ++ ["camera_sector_only"] ++
    (if (conclude o decision).2 then ["visual_quality_abstention"] else []) ++
    (if persistence o < 0.50 then ["temporal_persistence_insufficient"] else []) ++ decision.reasonCode.toList)

/-- `latencyMs` is what the performance counter gives for the call. -/
def features (o : Observation) (latencyMs : ℚ) : List (String × ℚ) :=
  let regionX := clamp (reading o "stage2_region_center_x" 0.5)
  let regionY := clamp (reading o "stage2_region_center_y" 0.5)
  let regionSmoke := clamp (reading o "stage2_region_smoke_score" (smoke o))
  let regionFlame := clamp (reading o "stage2_region_flame_score" (flame o))
  [("smoke", smoke o),
   ("flame", flame o),
   ("persistence", persistence o),
   ("camera_luminance", reading o "camera_luminance" 128),
   ("camera_blur_score", reading o "camera_blur_score" 100),
   ("camera_occlusion_fraction", clamp (reading o "camera_occlusion_fraction" 0)),
   ("camera_frame_change", clamp (reading o "camera_frame_change" 1)),
   ("stage1_score", score o),
   ("stage1_uncertainty", min 1 (0.60 * (1 - persistence o) + 0.40 * (1 - max (smoke o) (flame o)))),
   ("stage1_latency_ms", latencyMs),
   ("stage2_score", round (min 1 (0.65 * regionSmoke + 0.35 * regionFlame) * 1000000) / 1000000),
   ("stage2_region_center_x", regionX),
   ("stage2_region_center_y", regionY),
   ("camera_sector_index", min 8 (⌊regionY * 3⌋ * 3 + ⌊regionX * 3⌋ : Int)),
   ("stage2_latency_ms", latencyMs)]

/-- `WildfireAdapter.analyze` -/
def analyze (latencyMs : ℚ) (o : Observation) : Except Error HazardResult :=
  if o.hazard ≠ .wildfire then .error (.valueError "wildfire adapter received another hazard")
  else match decideWithMargin (score o) thresholds defaultMargin with
    | .error error => .error error
    | .ok decision => .ok {
        observationId := o.observationId
        hazard := o.hazard
        score := score o
        stateHint := (conclude o decision).1
        features := features o latencyMs
        coverage := coverage (healthReasons o)
        abstained := (conclude o decision).2
        reasonCodes := reasonCodes o decision
        modelProfileId := "wildfire-deterministic-v2" }

end Wildfire

/-! ## Earthquake -/

namespace Earthquake

def axes : List String := ["accel_x", "accel_y", "accel_z"]

def missing (o : Observation) : List String := axes.filter (fun key => ¬ isPresent o key)

/-- `vibration`: acceleration beyond gravity. -/
def vibration (P : Platform) (o : Observation) : ℚ :=
  let x := reading o "accel_x" 0
  let y := reading o "accel_y" 0
  let z := reading o "accel_z" 0
  max 0 (P.sqrt (x * x + y * y + z * z) - 1)

def rawScore (P : Platform) (o : Observation) : ℚ := min 1 (vibration P o / 0.75)

def quantized (acceleration : ℚ) : Int := max (-128) (min 127 (round (acceleration * 64)))

def classifyInt8 (acceleration : ℚ) : String :=
  if 54 ≤ quantized acceleration then "earthquake-like"
  else if quantized acceleration ≤ 12 then "nonseismic"
  else "uncertain"

def thresholds : List (ℚ × IncidentState) := [(0.20, .watch), (0.45, .suspected), (0.85, .confirmed)]

/-- The score and state after an unsafe clock or a missing axis. -/
def cap (capped : Bool) (result : ℚ × IncidentState) : ℚ × IncidentState :=
  if capped then (min result.1 0.54, if 0.20 ≤ min result.1 0.54 then .watch else .normal) else result

/-- `EarthquakeAdapter.analyze` -/
def analyze (P : Platform) (o : Observation) : Except Error HazardResult :=
  if o.hazard ≠ .earthquake then .error (.valueError "earthquake adapter received another hazard")
  else match decideWithMargin (rawScore P o) thresholds defaultMargin with
    | .error error => .error error
    | .ok decision =>
        let clockUnsafe : Bool := 0 < o.clockEpoch
        let incomplete := ¬ (missing o).isEmpty
        let (score, state) := cap incomplete (cap clockUnsafe (rawScore P o, decision.state))
        .ok {
          observationId := o.observationId
          hazard := o.hazard
          score := score
          stateHint := state
          features := [
            ("dynamic_acceleration_g", vibration P o),
            ("int8_quantized_acceleration", quantized (vibration P o)),
            ("clock_epoch", o.clockEpoch),
            ("clock_health_unsafe", indicator clockUnsafe)] ++ (missing o).map (fun key => ("missing_" ++ key, 1))
          coverage := if (missing o).isEmpty then .sufficient
            else if (missing o).length = axes.length then .blind else .partially
          abstained := if incomplete then true else decision.abstained
          reasonCodes := sortedSet (["deterministic_trigger"] ++
            (if clockUnsafe then ["clock_health_unsafe_auto_confirmation_blocked"] else []) ++
            (if incomplete then ["imu_axis_missing", "missing_data_mask_applied"] else decision.reasonCode.toList) ++
            ["classifier:" ++ classifyInt8 (vibration P o)])
          modelProfileId := "seismic-int8-1d-v1" }

end Earthquake

/-! ## Flood -/

structure ForecastMetadata where
  available : Bool
  score : Option ℚ
  horizonSeconds : Option Int
  uncertainty : Option ℚ
  profileId : Option String
  reasonCode : String

namespace ForecastMetadata

def unavailable (reasonCode : String) : ForecastMetadata := ⟨false, none, none, none, none, reasonCode⟩

/-- `from_prediction`, `none` where it raises. -/
def fromPrediction (score : ℚ) (horizonSeconds : Int) (uncertainty : ℚ) (profileId : String) : Option ForecastMetadata :=
  if ¬ (0 ≤ score ∧ score ≤ 1) then none
  else if horizonSeconds ≤ 0 ∨ ¬ (0 ≤ uncertainty ∧ uncertainty ≤ 1) ∨ isBlank profileId then none
  else some ⟨true, some score, some horizonSeconds, some uncertainty, some profileId, "validated_forecast_available"⟩

/-- `feature_values`, `none` where an assertion fails. -/
def featureValues (f : ForecastMetadata) : Option (List (String × ℚ)) :=
  if ¬ f.available then some [("forecast_available", 0)]
  else match f.score, f.horizonSeconds, f.uncertainty with
    | some score, some horizon, some uncertainty => some [
        ("forecast_available", 1), ("forecast_score", score), ("forecast_horizon_seconds", horizon),
        ("forecast_uncertainty", uncertainty)]
    | _, _, _ => none

end ForecastMetadata

namespace Flood

structure ThresholdProfile where
  profileId : String
  thresholdSource : String
  thresholdVersion : String
  waterLevel : Ladder
  rise : Ladder
  rainfall : Ladder
  provenance : isBlank profileId = false ∧ isBlank thresholdSource = false ∧ isBlank thresholdVersion = false

/-- The default `FloodThresholdProfile`. -/
def developmentProfile : ThresholdProfile where
  profileId := "flood-rules-v2"
  thresholdSource := "bundled-development-profile"
  thresholdVersion := "2026-08-02"
  waterLevel := ⟨0.50, 1.00, 1.80, by norm_num, by norm_num, by norm_num⟩
  rise := ⟨0.10, 0.25, 0.45, by norm_num, by norm_num, by norm_num⟩
  rainfall := ⟨10, 30, 50, by norm_num, by norm_num, by norm_num⟩
  provenance := by decide

/-- The optional forecast model: a score, or metadata of its own; `none` where
    it raises. -/
structure Predictor where
  predict : Observation → Option (ℚ ⊕ ForecastMetadata)
  horizonSeconds : Int := 3600
  uncertainty : ℚ := 0.25
  profileId : String := "flood-forecast-development-v1"

/-- `_channel_score` -/
def channelScore (ladder : Ladder) (value : ℚ) : ℚ := ladder.score value

def required : List String := ["rate_of_rise_m_per_h", "water_level_m"]

def missing (o : Observation) : List String := required.filter (fun key => ¬ isPresent o key)

/-- The weight and score of every channel that is present. -/
def channelScores (p : ThresholdProfile) (o : Observation) : List (ℚ × ℚ) :=
  channel "water_level_m" 0.50 p.waterLevel ++ channel "rate_of_rise_m_per_h" 0.35 p.rise ++
    channel "rainfall_mm_h" 0.15 p.rainfall
where
  channel (key : String) (weight : ℚ) (ladder : Ladder) : List (ℚ × ℚ) :=
    ((o.values.get? key).map (fun value => (weight, channelScore ladder (max 0 value)))).toList

/-- The mean of the channels present, by their weights. -/
def observedScore (p : ThresholdProfile) (o : Observation) : ℚ :=
  let scores := channelScores p o
  let total := (scores.map Prod.fst).sum
  if total ≠ 0 then (scores.map (fun s => s.1 * s.2)).sum / total else 0

/-- The metadata a predictor ends up with, `none` where anything raises. -/
def Predictor.forecast (predictor : Predictor) (o : Observation) : Option ForecastMetadata :=
  match predictor.predict o with
  | none => none
  | some (.inr metadata) => some metadata
  | some (.inl score) =>
      ForecastMetadata.fromPrediction score predictor.horizonSeconds predictor.uncertainty predictor.profileId

/-- The score with the forecast blended in, the features and the reasons it
    adds. Metadata without a score fails after its reason was added. -/
def blend (predictor : Option Predictor) (o : Observation) (score : ℚ) : ℚ × List (String × ℚ) × List String :=
  let failed := "forecast_failed_deterministic_fallback"
  match predictor with
  | none => (score, [("forecast_available", 0)], ["forecast_not_applicable"])
  | some predictor =>
      match predictor.forecast o with
      | none => (score, [("forecast_available", 0)], [failed])
      | some forecast =>
          match forecast.featureValues with
          | none => (score, [("forecast_available", 0)], [failed])
          | some features =>
              match forecast.score with
              | none => (score, features, [forecast.reasonCode, failed])
              | some predicted => (min 1 (0.85 * score + 0.15 * predicted), features, [forecast.reasonCode])

/-- The features of the channels, before forecast and missing channels. -/
def features (o : Observation) : List (String × ℚ) :=
  [("water_level_present", indicator (isPresent o "water_level_m")),
   ("rate_of_rise_present", indicator (isPresent o "rate_of_rise_m_per_h")),
   ("rainfall_present", indicator (isPresent o "rainfall_mm_h")),
   ("susceptibility_present", indicator (isPresent o "flood_susceptibility")),
   ("flood_susceptibility", clamp (reading o "flood_susceptibility" 0))] ++
  observed "water_level_m" "water_level_m" ++ observed "rate_of_rise_m_per_h" "rise_m_h" ++
    observed "rainfall_mm_h" "rain_mm_h"
where
  observed (key feature : String) : List (String × ℚ) :=
    ((o.values.get? key).map (fun value => (feature, max 0 value))).toList

/-- The state of a score with all required channels. -/
def stateOf (score : ℚ) : IncidentState :=
  if 0.85 ≤ score then .confirmed else if 0.55 ≤ score then .suspected
  else if 0.25 ≤ score then .watch else .normal

/-- `FloodAdapter.analyze` -/
def analyze (p : ThresholdProfile) (predictor : Option Predictor) (o : Observation) : Except Error HazardResult :=
  if o.hazard ≠ .flood then .error (.valueError "flood adapter received another hazard")
  else
    let (blended, forecastFeatures, forecastReasons) := blend predictor o (observedScore p o)
    let (coverage, abstained, score, state, gaps) : CoverageState × Bool × ℚ × IncidentState × List String :=
      if (missing o).length = required.length then
        (.blind, true, 0, .watch, ["required_channels_missing", "missing_data_mask_applied"])
      else if ¬ (missing o).isEmpty then
        (.partially, true, min blended 0.54, if 0.25 ≤ min blended 0.54 then .watch else .normal,
          ["required_channel_missing", "missing_data_mask_applied"])
      else (.sufficient, false, blended, stateOf blended, [])
    .ok {
      observationId := o.observationId
      hazard := o.hazard
      score := score
      stateHint := state
      features := features o ++ forecastFeatures ++ (missing o).map (fun key => ("missing_" ++ key, 1))
      coverage := coverage
      abstained := abstained
      reasonCodes := sortedSet (["threshold_source:" ++ p.thresholdSource, "threshold_version:" ++ p.thresholdVersion,
        "susceptibility_separate_from_observation", "deterministic_rules"] ++ forecastReasons ++ gaps)
      modelProfileId := p.profileId }

end Flood

/-! ## Landslide -/

structure InstabilityMetadata where
  available : Bool
  score : Option ℚ
  uncertainty : Option ℚ
  profileId : Option String
  reasonCode : String

namespace InstabilityMetadata

def unavailable (reasonCode : String) : InstabilityMetadata := ⟨false, none, none, none, reasonCode⟩

/-- `from_prediction`, `none` where it raises. -/
def fromPrediction (score uncertainty : ℚ) (profileId : String) : Option InstabilityMetadata :=
  if ¬ (0 ≤ score ∧ score ≤ 1) ∨ ¬ (0 ≤ uncertainty ∧ uncertainty ≤ 1) ∨ isBlank profileId then none
  else some ⟨true, some score, some uncertainty, some profileId, "validated_instability_available"⟩

def featureValues (i : InstabilityMetadata) : List (String × ℚ) :=
  [("instability_available", indicator i.available), ("instability_score", i.score.getD 0),
   ("instability_uncertainty", i.uncertainty.getD 0)]

end InstabilityMetadata

namespace Landslide

structure SiteProfile where
  profileId : String
  profileSource : String
  profileVersion : String
  tilt : Ladder
  vibration : Ladder
  rain1h : ℚ
  rain6h : ℚ
  rain24h : ℚ
  rain_pos : 0 < rain1h ∧ 0 < rain6h ∧ 0 < rain24h

/-- The default `LandslideSiteProfile`. -/
def developmentProfile : SiteProfile where
  profileId := "landslide-rules-v2"
  profileSource := "bundled-development-profile"
  profileVersion := "2026-08-02"
  tilt := ⟨0.15, 0.40, 0.90, by norm_num, by norm_num, by norm_num⟩
  vibration := ⟨0.08, 0.22, 0.45, by norm_num, by norm_num, by norm_num⟩
  rain1h := 20
  rain6h := 55
  rain24h := 110
  rain_pos := by norm_num

/-- The optional instability model, `none` where it raises. -/
structure Predictor where
  predict : Observation → Option (ℚ ⊕ InstabilityMetadata)
  uncertainty : ℚ := 0.25
  profileId : String := "landslide-instability-development-v1"

/-- `_movement_score` -/
def movementScore (ladder : Ladder) (value : ℚ) : ℚ := ladder.score value

/-- The rain rates of one source, oldest first. -/
abbrev RainHistory := List (DateTime × ℚ)

def hour : Int := 3600000000

/-- Drop points as long as the one after them is no later than the cutoff. -/
def prune (cutoff : DateTime) : RainHistory → RainHistory
  | first :: second :: rest => if second.1 ≤ cutoff then prune cutoff (second :: rest) else first :: second :: rest
  | short => short

/-- `_record_rain` on the history of the observation's source. -/
def recordRain (history : RainHistory) (o : Observation) : Except Error RainHistory :=
  match o.values.get? "rainfall_mm_h" with
  | none => .ok history
  | some rate =>
      let point := (o.observedAt, max 0 rate)
      match history.getLast? with
      | none => .ok (prune (o.observedAt - 24 * hour) (history ++ [point]))
      | some last =>
          if last.1 < o.observedAt then .ok (prune (o.observedAt - 24 * hour) (history ++ [point]))
          else if o.observedAt = last.1 then .ok (history.dropLast ++ [point])
          else .error (.valueError "landslide rainfall event time must increase")

/-- `_accumulation`: each rate holds until the next point or until now. -/
def accumulation (history : RainHistory) (now : DateTime) (hours : Int) : ℚ :=
  max 0 (total history)
where
  segment (point : DateTime × ℚ) (next : DateTime) : ℚ :=
    let start := max point.1 (now - hours * hour)
    let stop := min next now
    if start < stop then point.2 * ((stop - start : Int) / (hour : ℚ)) else 0
  total : RainHistory → ℚ
    | [] => 0
    | [point] => segment point now
    | point :: next :: rest => segment point next.1 + total (next :: rest)

def movementChannels : List String := ["tilt_rate_deg_h", "vibration_rms"]

def missing (o : Observation) : List String := movementChannels.filter (fun key => ¬ isPresent o key)

/-- The higher score of the movement channels that are present. -/
def movement (p : SiteProfile) (o : Observation) : ℚ :=
  ((part "tilt_rate_deg_h" p.tilt) ++ (part "vibration_rms" p.vibration)).foldr max 0
where
  part (key : String) (ladder : Ladder) : List ℚ :=
    ((o.values.get? key).map (fun value => movementScore ladder (max 0 value))).toList

def rainContext (p : SiteProfile) (history : RainHistory) (o : Observation) : ℚ :=
  max (max (min 1 (accumulation history o.observedAt 1 / p.rain1h)) (min 1 (accumulation history o.observedAt 6 / p.rain6h)))
    (min 1 (accumulation history o.observedAt 24 / p.rain24h))

def susceptibility (p : SiteProfile) (history : RainHistory) (o : Observation) : ℚ :=
  min 1 (0.45 * clamp (reading o "soil_moisture_fraction" 0) + 0.35 * rainContext p history o +
    0.20 * clamp (reading o "landslide_susceptibility" 0))

def instability (predictor : Option Predictor) (o : Observation) : InstabilityMetadata :=
  let failed := InstabilityMetadata.unavailable "instability_failed_deterministic_fallback"
  match predictor with
  | none => InstabilityMetadata.unavailable "instability_not_applicable"
  | some predictor => match predictor.predict o with
      | none => failed
      | some (.inr metadata) => metadata
      | some (.inl score) => (InstabilityMetadata.fromPrediction score predictor.uncertainty predictor.profileId).getD failed

/-- The state of a movement score; susceptibility alone gives no more than WATCH. -/
def stateOf (score susceptibility : ℚ) : IncidentState :=
  if 0.85 ≤ score then .confirmed else if 0.55 ≤ score then .suspected
  else if 0.25 ≤ max score susceptibility then .watch else .normal

def features (p : SiteProfile) (history : RainHistory) (o : Observation) : List (String × ℚ) :=
  [("soil_moisture_fraction", clamp (reading o "soil_moisture_fraction" 0)),
   ("tilt_rate_deg_h", max 0 (reading o "tilt_rate_deg_h" 0)),
   ("vibration_rms", max 0 (reading o "vibration_rms" 0)),
   ("rainfall_1h_mm", accumulation history o.observedAt 1),
   ("rainfall_6h_mm", accumulation history o.observedAt 6),
   ("rainfall_24h_mm", accumulation history o.observedAt 24),
   ("rainfall_context_score", rainContext p history o),
   ("susceptibility_score", susceptibility p history o),
   ("movement_score", movement p o),
   ("static_susceptibility", clamp (reading o "landslide_susceptibility" 0)),
   ("cadence_multiplier_recommended",
     if 0.5 ≤ rainContext p history o ∨ 0.5 ≤ reading o "seismic_context_score" 0 then 2 else 1),
   ("tilt_present", indicator (isPresent o "tilt_rate_deg_h")),
   ("vibration_present", indicator (isPresent o "vibration_rms")),
   ("soil_present", indicator (isPresent o "soil_moisture_fraction"))]

/-- `LandslideAdapter.analyze`, once the rain of the observation is recorded. -/
def conclude (p : SiteProfile) (predictor : Option Predictor) (history : RainHistory) (o : Observation) : HazardResult :=
  let score := movement p o
  let susceptible := susceptibility p history o
  let (coverage, abstained, score, state, gaps) : CoverageState × Bool × ℚ × IncidentState × List String :=
    if (missing o).length = movementChannels.length then
      (.blind, true, min 0.54 susceptible, if 0.25 ≤ susceptible then .watch else .normal,
        ["movement_channels_missing", "missing_data_mask_applied"])
    else if ¬ (missing o).isEmpty then
      let capped := if score < 0.85 then min score 0.84 else score
      (.partially, decide (score < 0.85), capped, stateOf capped susceptible,
        ["movement_channel_missing", "missing_data_mask_applied"])
    else (.sufficient, false, score, stateOf score susceptible, [])
  { observationId := o.observationId
    hazard := o.hazard
    score := score
    stateHint := state
    features := features p history o ++ (instability predictor o).featureValues ++
      (missing o).map (fun key => ("missing_" ++ key, 1))
    coverage := coverage
    abstained := abstained
    reasonCodes := sortedSet (["profile_source:" ++ p.profileSource, "profile_version:" ++ p.profileVersion,
      "susceptibility_separate_from_movement", "deterministic_movement_rules"] ++
      (if 0.5 ≤ rainContext p history o then ["rainfall_context_elevated"] else []) ++
      (if 0.5 ≤ reading o "seismic_context_score" 0 then ["seismic_context_elevated"] else []) ++ gaps ++
      [(instability predictor o).reasonCode])
    modelProfileId := p.profileId }

/-- `LandslideAdapter.analyze` on the history of the observation's source. -/
def analyze (p : SiteProfile) (predictor : Option Predictor) (history : RainHistory) (o : Observation) :
    Except Error (HazardResult × RainHistory) :=
  if o.hazard ≠ .landslide then .error (.valueError "landslide adapter received another hazard")
  else match recordRain history o with
    | .error error => .error error
    | .ok recorded => .ok (conclude p predictor recorded o, recorded)

end Landslide

end SentinelEdge.Analysis
