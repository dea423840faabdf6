import SentinelEdge.Analysis.Withholding

/-! # Reported camera health

The wildfire adapter takes a camera for healthy whose health is not reported. Which of
the four health channels have an admissible value that keeps the camera healthy once
it is reported.
-/

namespace SentinelEdge.Analysis

open Foundation Domain Qualification

/-- The observation with one more measurement under its own key. -/
def report (o : Observation) (m : MeasurementValue) : Observation :=
  { o with
    values := o.values.insert m.sourceValueKey m.value
    units := o.units.insert m.sourceValueKey m.unit
    measurements := o.measurements ++ [m] }

/-! ## One more measurement -/

theorem report_check (o : Observation) (m : MeasurementValue) :
    (report o m).measurements.foldl Scan.check {} = (o.measurements.foldl Scan.check {}).check m := by
  simp [report]

/-- A measurement of a valid report keeps its contract. -/
theorem contract_of_report {o : Observation} {m : MeasurementValue} (valid : (validate (report o m)).valid = true) :
    ∃ d, definition m.observedPropertyId = some d ∧ contractBreach m.sourceValueKey m d = none := by
  obtain ⟨clean, -⟩ := (validate_valid_iff _).mp valid
  rw [report_check] at clean
  exact (Scan.check_clean clean).2

/-- A sound measurement under a new key, of a property that needs no reference, may be added. -/
theorem report_valid {o : Observation} (valid : (validate o).valid = true) {m : MeasurementValue} {d : PropertyDefinition}
    (lacks : o.values.get? m.sourceValueKey = none) (known : definition m.observedPropertyId = some d)
    (kept : contractBreach m.sourceValueKey m d = none) (quality : m.quality = .valid) (certain : m.uncertainty ≠ none)
    (alone : d.requiresReference = false) : (validate (report o m)).valid = true := by
  obtain ⟨clean, covered⟩ := (validate_valid_iff o).mp valid
  have absent : m.sourceValueKey ∉ o.values.keys := by simp [Dict.mem_keys_iff, lacks]
  have first : m.sourceValueKey ∉ (o.measurements.foldl Scan.check {}).seen := mt (covered _).mp absent
  have checked := Scan.check_kept first known kept
  have referred (scan : Scan) : scan.refer m.sourceValueKey m d = scan := by
    unfold Scan.refer
    split <;> simp [alone]
  rw [referred] at checked
  rw [validate_valid_iff, report_check, checked]
  refine ⟨?_, ?_⟩
  · intro reason here
    exact clean reason (by simpa [Scan.accept, quality, certain] using here)
  · intro key
    have keys : (report o m).values.keys = o.values.keys ++ [m.sourceValueKey] := by
      rw [report, Dict.keys_insert, if_neg absent]
    rw [keys]
    simp [Scan.accept, quality, certain, covered key]

namespace Wildfire

def cameraChannels : List String :=
  ["camera_luminance", "camera_blur_score", "camera_occlusion_fraction", "camera_frame_change"]

/-! ## What the adapter reads -/

theorem reading_report (o : Observation) (m : MeasurementValue) (key : String) (fallback : ℚ) :
    reading (report o m) key fallback = if key = m.sourceValueKey then m.value else reading o key fallback := by
  rw [reading, report, Dict.get?_insert]
  split <;> rfl

theorem analyze_coverage {latencyMs : ℚ} {o : Observation} {result : HazardResult} (analyzed : analyze latencyMs o = .ok result) :
    result.coverage = coverage (healthReasons o) := by
  unfold analyze at analyzed
  split at analyzed
  · cases analyzed
  · cases decided : decideWithMargin (score o) thresholds defaultMargin with
    | error error => simp [decided] at analyzed
    | ok decision =>
        rw [decided] at analyzed
        cases analyzed
        rfl

/-- Coverage and hint depend on the scores and the health of the camera. -/
theorem analyze_congr {latencyMs : ℚ} (latencyMs' : ℚ) {o o' : Observation} {result : HazardResult}
    (analyzed : analyze latencyMs o = .ok result) (hazard : o'.hazard = o.hazard) (scores : score o' = score o)
    (lasting : persistence o' = persistence o) (health : healthReasons o' = healthReasons o) :
    ∃ result', analyze latencyMs' o' = .ok result' ∧ result'.coverage = result.coverage ∧
      result'.stateHint = result.stateHint := by
  unfold analyze at analyzed ⊢
  rw [hazard, scores]
  split at analyzed
  · cases analyzed
  · rename_i wildfire
    rw [if_neg wildfire]
    cases decided : decideWithMargin (score o) thresholds defaultMargin with
    | error error => simp [decided] at analyzed
    | ok decision =>
        rw [decided] at analyzed
        cases analyzed
        have concluded : conclude o' decision = conclude o decision := by simp only [conclude, lasting, health]
        exact ⟨_, rfl, by simp only [health], by simp only [concluded]⟩

/-! ## Each channel -/

/-- A report of the channel that tells the adapter what it assumes without one. -/
def assumedHealth (channel : String) : MeasurementValue where
  observedPropertyId := channel
  value := if channel = "camera_luminance" then 128 else if channel = "camera_frame_change" then 1 else 0
  unit := if channel = "camera_luminance" then "level" else "ratio"
  uncertainty := some 0
  statistic := .instantaneous
  sourceValueKey := channel

/-- A report of the value that the adapter assumes changes none of its readings. -/
theorem report_assumed {o : Observation} {m : MeasurementValue} (lacks : o.values.get? m.sourceValueKey = none)
    {key : String} {fallback : ℚ} (assumed : key = m.sourceValueKey → fallback = m.value) :
    reading (report o m) key fallback = reading o key fallback := by
  rw [reading_report]
  split
  case isTrue same => rw [reading, same, lacks, Option.getD_none, assumed same]
  case isFalse => rfl

theorem assumedHealth_keeps {o : Observation} {channel : String} (listed : channel ∈ cameraChannels)
    (sharp : channel ≠ "camera_blur_score") (lacks : o.values.get? channel = none) :
    score (report o (assumedHealth channel)) = score o ∧ persistence (report o (assumedHealth channel)) = persistence o ∧
      healthReasons (report o (assumedHealth channel)) = healthReasons o := by
  have same (key : String) (fallback : ℚ) (assumed : key = channel → fallback = (assumedHealth channel).value) :
      reading (report o (assumedHealth channel)) key fallback = reading o key fallback := report_assumed lacks assumed
  have luminance := same "camera_luminance" 128 (by rintro rfl; rfl)
  have blur := same "camera_blur_score" 100 (fun here => absurd here.symm sharp)
  have occlusion := same "camera_occlusion_fraction" 0 (by rintro rfl; rfl)
  have change := same "camera_frame_change" 1 (by rintro rfl; rfl)
  have other (key : String) (apart : key ∉ cameraChannels) :
      reading (report o (assumedHealth channel)) key 0 = reading o key 0 :=
    same key 0 (fun here => absurd (here ▸ listed) apart)
  have smokes := other "smoke_score" (by decide)
  have flames := other "flame_score" (by decide)
  have lasts := other "temporal_persistence" (by decide)
  refine ⟨?_, ?_, ?_⟩
  · simp only [score, smoke, flame, persistence, smokes, flames, lasts]
  · simp only [persistence, lasts]
  · have flags : (report o (assumedHealth channel)).qualityFlags = o.qualityFlags := rfl
    simp only [healthReasons, luminance, blur, occlusion, change, flags]

theorem assumedHealth_admitted {channel : String} (listed : channel ∈ cameraChannels) (sharp : channel ≠ "camera_blur_score") :
    ∃ d, definition channel = some d ∧ contractBreach channel (assumedHealth channel) d = none ∧
      d.requiresReference = false := by
  simp only [cameraChannels, List.mem_cons, List.not_mem_nil, or_false] at listed
  obtain rfl | rfl | rfl | rfl := listed
  · exact ⟨_, rfl, by decide +kernel, rfl⟩
  · exact absurd rfl sharp
  · exact ⟨_, rfl, by decide +kernel, rfl⟩
  · exact ⟨_, rfl, by decide +kernel, rfl⟩

/-- The contract bounds the blur score by 1, where the adapter takes what is below 20 for blurred. -/
theorem blur_admitted_le {m : MeasurementValue} (channel : m.observedPropertyId = "camera_blur_score") {d : PropertyDefinition}
    (known : definition m.observedPropertyId = some d) {key : String} (kept : contractBreach key m d = none) : m.value ≤ 1 := by
  rw [channel] at known
  cases known
  by_contra above
  unfold contractBreach at kept
  split_ifs at kept with _ _ within
  simp at within
  exact above within

/-- Some value of the channel, admitted by the registry, leaves coverage sufficient and the hint as it was. -/
def ReportableUnharmed (latencyMs : ℚ) (o : Observation) (hint : IncidentState) (channel : String) : Prop :=
  ∃ m : MeasurementValue, m.observedPropertyId = channel ∧ m.sourceValueKey = channel ∧
    (validate (report o m)).valid = true ∧ ∃ result, analyze latencyMs (report o m) = .ok result ∧
      result.coverage = .sufficient ∧ result.stateHint = hint

/-- Every admissible blur score blinds the camera. -/
theorem blur_not_reportable (latencyMs : ℚ) (o : Observation) (hint : IncidentState) :
    ¬ ReportableUnharmed latencyMs o hint "camera_blur_score" := by
  rintro ⟨m, property, key, admitted, result, analyzed, sufficient, -⟩
  obtain ⟨d, known, kept⟩ := contract_of_report admitted
  have low := blur_admitted_le property known kept
  have blurred : reading (report o m) "camera_blur_score" 100 < 20 := by
    rw [reading_report, if_pos key.symm]
    linarith
  have healthy := (coverage_sufficient_iff _).mp ((analyze_coverage analyzed).symm.trans sufficient)
  simp [healthReasons, blurred] at healthy

/-- A camera in good health may report every channel but its blur score. -/
theorem camera_health_reportable_iff (latencyMs latencyMs' : ℚ) {o : Observation} (valid : (validate o).valid = true)
    {channel : String} (listed : channel ∈ cameraChannels) (lacks : o.values.get? channel = none) {result : HazardResult}
    (analyzed : analyze latencyMs o = .ok result) (sufficient : result.coverage = .sufficient) :
    ReportableUnharmed latencyMs' o result.stateHint channel ↔ channel ≠ "camera_blur_score" := by
  constructor
  · rintro reportable rfl
    exact blur_not_reportable latencyMs' o result.stateHint reportable
  · intro sharp
    obtain ⟨d, known, kept, alone⟩ := assumedHealth_admitted listed sharp
    have admitted : (validate (report o (assumedHealth channel))).valid = true :=
      report_valid valid lacks known kept rfl (by simp [assumedHealth]) alone
    obtain ⟨scores, lasting, health⟩ := assumedHealth_keeps listed sharp lacks
    have hazard : (report o (assumedHealth channel)).hazard = o.hazard := rfl
    obtain ⟨result', analyzed', covered, hint⟩ := analyze_congr latencyMs' analyzed hazard scores lasting health
    exact ⟨_, rfl, rfl, admitted, result', analyzed', covered.trans sufficient, hint⟩

/-- Smoke that lasts, seen by a camera that reports nothing of its health. -/
def plume : Observation where
  observationId := UUID.ofNat 1
  correlationId := UUID.ofNat 2
  sourceId := "tower"
  hazard := .wildfire
  sourceMode := .live
  bootId := "boot"
  observedAt := 0
  receivedAt := 0
  values := Dict.ofPairs [("smoke_score", 1), ("temporal_persistence", 1)]
  units := Dict.ofPairs [("smoke_score", "ratio"), ("temporal_persistence", "ratio")]
  qualityFlags := []
  sourceLineage := "tower"
  clockEpoch := 0
  measurements := [ratio "smoke_score", ratio "temporal_persistence"]
where
  ratio (key : String) : MeasurementValue :=
    { observedPropertyId := key, value := 1, unit := "ratio", statistic := .instantaneous, sourceValueKey := key }

theorem plume_seen : (validate plume).valid = true ∧ healthReasons plume = [] ∧
    (∀ channel ∈ cameraChannels, plume.values.get? channel = none) ∧
    ∃ result, analyze 0 plume = .ok result ∧ result.coverage = .sufficient ∧ result.stateHint = .suspected := by
  have checked : (validate plume).valid = true ∧ healthReasons plume = [] ∧
      (∀ channel ∈ cameraChannels, plume.values.get? channel = none) ∧
      (analyze 0 plume).toOption.map (fun r => (r.coverage, r.stateHint)) = some (.sufficient, .suspected) := by
    decide +kernel
  obtain ⟨valid, healthy, lacks, outcome⟩ := checked
  refine ⟨valid, healthy, lacks, ?_⟩
  cases analyzed : analyze 0 plume with
  | error error => simp [analyzed, Except.toOption] at outcome
  | ok result =>
      simp only [analyzed, Except.toOption, Option.map_some, Option.some.injEq, Prod.mk.injEq] at outcome
      exact ⟨result, rfl, outcome⟩

/-- Its occlusion may be reported. -/
theorem plume_occlusion_reportable : ∃ result, analyze 0 plume = .ok result ∧
    (ReportableUnharmed 0 plume result.stateHint "camera_occlusion_fraction" ↔
      "camera_occlusion_fraction" ≠ "camera_blur_score") := by
  obtain ⟨valid, -, lacks, result, analyzed, sufficient, -⟩ := plume_seen
  exact ⟨result, analyzed, camera_health_reportable_iff 0 0 valid (by decide) (lacks _ (by decide)) analyzed sufficient⟩

/-- Its blur score may not. -/
theorem plume_blur_not_reportable : (validate plume).valid = true ∧ plume.values.get? "camera_blur_score" = none ∧
    ∃ result, analyze 0 plume = .ok result ∧ result.coverage = .sufficient ∧
      ¬ ReportableUnharmed 0 plume result.stateHint "camera_blur_score" := by
  obtain ⟨valid, -, lacks, result, analyzed, sufficient, -⟩ := plume_seen
  exact ⟨valid, lacks _ (by decide), result, analyzed, sufficient, blur_not_reportable 0 plume result.stateHint⟩

end Wildfire

end SentinelEdge.Analysis
