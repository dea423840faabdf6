import SentinelEdge.Analysis.Service
import SentinelEdge.Qualification.Margins

/-! # When an analysis is withheld

An adapter withholds its conclusion by abstaining or by reporting blind
coverage. For each hazard this is a condition on the usable channels of the
observation; everything else about the analysis does not matter here.
-/

namespace SentinelEdge.Analysis

open Foundation Domain Qualification

/-! ## Decisions near a threshold -/

/-- The score is within the margin of a threshold. -/
def NearThreshold (score : ℚ) (thresholds : List (ℚ × IncidentState)) : Prop :=
  ∃ t ∈ thresholds, |score - t.1| ≤ defaultMargin

/-- A score within [0,1] is decided, thresholds in order given. -/
theorem decideWithMargin_ok {score : ℚ} {thresholds : List (ℚ × IncidentState)} (low : 0 ≤ score) (high : score ≤ 1)
    (declared : Declared thresholds) (sorted : ordered thresholds = thresholds) :
    ∃ decision, decideWithMargin score thresholds defaultMargin = .ok decision ∧
      (decision.abstained = true ↔ NearThreshold score thresholds) ∧
      (NearThreshold score thresholds → decision.state = .watch) ∧
      (¬ NearThreshold score thresholds → decision.state = lastReached score thresholds .normal) := by
  obtain ⟨decision, ok, abstains, watches, decides⟩ :=
    decideWithMargin_declared declared low high (by norm_num [defaultMargin] : 0 ≤ defaultMargin)
  rw [sorted] at decides
  refine ⟨decision, ok, abstains, fun near => watches (abstains.mpr near), ?_⟩
  intro far
  exact decides (Bool.eq_false_iff.mpr (mt abstains.mp far))

theorem clamp_nonneg (x : ℚ) : 0 ≤ clamp x := le_max_left _ _

/-! ## Each adapter -/

namespace Wildfire

def Withholds (o : Observation) : Prop :=
  healthReasons o ≠ [] ∨ NearThreshold (score o) thresholds ∨ (persistence o < 0.50 ∧ 0.55 ≤ score o)

theorem score_mem (o : Observation) : 0 ≤ score o ∧ score o ≤ 1 := by
  have smoke := clamp_nonneg (reading o "smoke_score" 0)
  have flame := clamp_nonneg (reading o "flame_score" 0)
  have persistence := clamp_nonneg (reading o "temporal_persistence" 0)
  refine ⟨le_min (by norm_num) ?_, min_le_left _ _⟩
  simp only [Wildfire.smoke, Wildfire.flame, Wildfire.persistence]
  positivity

theorem thresholds_declared : Declared thresholds := ⟨by norm_num [thresholds], by norm_num [thresholds]⟩

theorem decided (o : Observation) : ∃ decision, decideWithMargin (score o) thresholds defaultMargin = .ok decision ∧
    (decision.abstained = true ↔ NearThreshold (score o) thresholds) ∧
    (decision.state = .suspected ∨ decision.state = .confirmed ↔
      ¬ NearThreshold (score o) thresholds ∧ 0.55 ≤ score o) := by
  obtain ⟨low, high⟩ := score_mem o
  obtain ⟨decision, ok, abstains, watches, states⟩ := decideWithMargin_ok low high thresholds_declared (by decide +kernel)
  refine ⟨decision, ok, abstains, ?_⟩
  by_cases near : NearThreshold (score o) thresholds
  · simp [near, watches near]
  · rw [states near, and_iff_right near]
    simp only [lastReached, thresholds, List.foldl_cons, List.foldl_nil]
    by_cases confirmed : (0.80 : ℚ) ≤ score o
    · have suspected : (0.55 : ℚ) ≤ score o := by linarith
      simp [confirmed, suspected]
    · by_cases suspected : (0.55 : ℚ) ≤ score o
      · simp [confirmed, suspected]
      · simp only [confirmed, suspected, if_false, iff_false]
        split <;> simp

theorem coverage_sufficient_iff (health : List String) : coverage health = .sufficient ↔ health = [] := by
  cases health with
  | nil => simp [coverage]
  | cons first rest =>
      simp only [coverage, List.isEmpty_cons, reduceCtorEq, iff_false]
      split <;> simp

theorem conclude_abstains_iff {o : Observation} {decision : ThresholdDecision}
    (abstains : decision.abstained = true ↔ NearThreshold (score o) thresholds)
    (states : decision.state = .suspected ∨ decision.state = .confirmed ↔
      ¬ NearThreshold (score o) thresholds ∧ 0.55 ≤ score o) : (conclude o decision).2 = true ↔ Withholds o := by
  by_cases unsteady : persistence o < 0.50 ∧ (decision.state = .suspected ∨ decision.state = .confirmed)
  · have doubtful : Withholds o := .inr (.inr ⟨unsteady.1, (states.mp unsteady.2).2⟩)
    simp [conclude, unsteady, doubtful]
  · have abstained : (conclude o decision).2 = true ↔ healthReasons o ≠ [] ∨ NearThreshold (score o) thresholds := by
      simp only [conclude, if_neg unsteady, decide_eq_true_eq, ne_eq, coverage_sufficient_iff, abstains]
    rw [abstained, Withholds, ← or_assoc]
    refine (or_iff_left_of_imp ?_).symm
    rintro ⟨short, high⟩
    by_contra clear
    exact unsteady ⟨short, states.mpr ⟨fun near => clear (.inr near), high⟩⟩

theorem analyze_ok (latencyMs : ℚ) {o : Observation} (hazard : o.hazard = .wildfire) :
    ∃ result, analyze latencyMs o = .ok result ∧ result.hazard = o.hazard ∧
      result.modelProfileId = "wildfire-deterministic-v2" ∧
      (result.abstained = true ∨ result.coverage = .blind ↔ Withholds o) := by
  obtain ⟨decision, ok, abstains, states⟩ := decided o
  have withholds := conclude_abstains_iff abstains states
  refine ⟨_, by rw [analyze, if_neg (not_not.mpr hazard), ok], rfl, rfl, ?_⟩
  show (conclude o decision).2 = true ∨ coverage (healthReasons o) = .blind ↔ Withholds o
  rw [withholds]
  refine or_iff_left_of_imp fun blind => .inl ?_
  intro healthy
  rw [healthy] at blind
  cases blind

end Wildfire

namespace Flood

def Withholds (o : Observation) : Prop :=
  o.values.get? "water_level_m" = none ∨ o.values.get? "rate_of_rise_m_per_h" = none

theorem analyze_ok (p : ThresholdProfile) (predictor : Option Predictor) {o : Observation} (hazard : o.hazard = .flood) :
    ∃ result, analyze p predictor o = .ok result ∧ result.hazard = o.hazard ∧ result.modelProfileId = p.profileId ∧
      (result.abstained = true ∨ result.coverage = .blind ↔ Withholds o) := by
  refine ⟨_, by rw [analyze, if_neg (not_not.mpr hazard)], rfl, rfl, ?_⟩
  cases level : o.values.get? "water_level_m" <;> cases rise : o.values.get? "rate_of_rise_m_per_h" <;>
    simp [missing, required, isPresent, level, rise, Withholds]

end Flood

namespace Earthquake

def Withholds (P : Platform) (o : Observation) : Prop :=
  (∃ key ∈ axes, o.values.get? key = none) ∨ NearThreshold (rawScore P o) thresholds

theorem rawScore_mem (P : Platform) (o : Observation) : 0 ≤ rawScore P o ∧ rawScore P o ≤ 1 := by
  refine ⟨le_min (by norm_num) ?_, min_le_left _ _⟩
  exact div_nonneg (le_max_left _ _) (by norm_num)

theorem thresholds_declared : Declared thresholds := ⟨by norm_num [thresholds], by norm_num [thresholds]⟩

theorem missing_eq_nil_iff (o : Observation) : missing o = [] ↔ ¬ ∃ key ∈ axes, o.values.get? key = none := by
  simp [missing, isPresent, List.filter_eq_nil_iff, Option.ne_none_iff_isSome]

theorem analyze_ok (P : Platform) {o : Observation} (hazard : o.hazard = .earthquake) :
    ∃ result, analyze P o = .ok result ∧ result.hazard = o.hazard ∧ result.modelProfileId = "seismic-int8-1d-v1" ∧
      (result.abstained = true ∨ result.coverage = .blind ↔ Withholds P o) := by
  obtain ⟨low, high⟩ := rawScore_mem P o
  obtain ⟨decision, ok, abstains, -, -⟩ := decideWithMargin_ok low high thresholds_declared (by decide +kernel)
  refine ⟨_, by rw [analyze, if_neg (not_not.mpr hazard), ok], rfl, rfl, ?_⟩
  by_cases complete : missing o = []
  · have present := (missing_eq_nil_iff o).mp complete
    simp [complete, abstains, Withholds, present]
  · have gap := Decidable.not_not.mp (mt (missing_eq_nil_iff o).mpr complete)
    simp [complete, Withholds, gap]

end Earthquake

/-- The score reaches CONFIRMED exactly with the value. -/
theorem Ladder.score_lt_iff (l : Ladder) (value : ℚ) : l.score value < 0.85 ↔ value < l.confirmed := by
  have watch := l.watch_lt
  have suspected := l.suspected_lt
  unfold Ladder.score
  by_cases belowWatch : value < l.watch
  · simp only [belowWatch, if_true]
    exact iff_of_true (by norm_num) (by linarith)
  · by_cases belowSuspected : value < l.suspected
    · simp only [belowWatch, belowSuspected, if_true, if_false]
      have step : (value - l.watch) / (l.suspected - l.watch) < 1 := by
        rw [div_lt_one (by linarith)]
        linarith
      exact iff_of_true (by linarith) (by linarith)
    · by_cases belowConfirmed : value < l.confirmed
      · simp only [belowWatch, belowSuspected, belowConfirmed, if_true, if_false, iff_true]
        have step : (value - l.suspected) / (l.confirmed - l.suspected) < 1 := by
          rw [div_lt_one (by linarith)]
          linarith
        linarith
      · simp only [belowWatch, belowSuspected, belowConfirmed, if_false, iff_false, not_lt]
        have step : 0 ≤ (value - l.confirmed) / max l.confirmed 0.000000001 :=
          div_nonneg (by linarith) (le_trans (by norm_num) (le_max_right _ _))
        exact le_min (by norm_num) (by linarith)

namespace Landslide

/-- No movement channel, or the only one is below its CONFIRMED threshold. -/
def Withholds (p : SiteProfile) (o : Observation) : Prop :=
  match o.values.get? "tilt_rate_deg_h", o.values.get? "vibration_rms" with
  | none, none => True
  | some tilt, none => tilt < p.tilt.confirmed
  | none, some vibration => vibration < p.vibration.confirmed
  | some _, some _ => False

theorem part_lt_iff (l : Ladder) (value : ℚ) :
    max (movementScore l (max 0 value)) 0 < 0.85 ↔ value < l.confirmed := by
  have positive : 0 < l.confirmed := lt_of_le_of_lt l.nonneg (l.watch_lt.trans l.suspected_lt)
  rw [max_lt_iff, movementScore, l.score_lt_iff, max_lt_iff]
  constructor
  · rintro ⟨⟨-, below⟩, -⟩
    exact below
  · intro below
    exact ⟨⟨positive, below⟩, by norm_num⟩

theorem conclude_withholds_iff (p : SiteProfile) (predictor : Option Predictor) (history : RainHistory) (o : Observation) :
    (conclude p predictor history o).abstained = true ∨ (conclude p predictor history o).coverage = .blind ↔
      Withholds p o := by
  cases tilt : o.values.get? "tilt_rate_deg_h" with
  | none =>
      cases vibration : o.values.get? "vibration_rms" with
      | none => simp [conclude, missing, movementChannels, isPresent, tilt, vibration, Withholds]
      | some value =>
          have only : movement p o = max (movementScore p.vibration (max 0 value)) 0 := by
            simp [movement, movement.part, tilt, vibration]
          have below := part_lt_iff p.vibration value
          rw [← only] at below
          simp [conclude, missing, movementChannels, isPresent, tilt, vibration, Withholds, below]
  | some value =>
      cases vibration : o.values.get? "vibration_rms" with
      | none =>
          have only : movement p o = max (movementScore p.tilt (max 0 value)) 0 := by
            simp [movement, movement.part, tilt, vibration]
          have below := part_lt_iff p.tilt value
          rw [← only] at below
          simp [conclude, missing, movementChannels, isPresent, tilt, vibration, Withholds, below]
      | some other => simp [conclude, missing, movementChannels, isPresent, tilt, vibration, Withholds]

/-- The rain rate is older than the last one on record for the source. -/
def RainStale (history : RainHistory) (o : Observation) : Prop :=
  o.values.get? "rainfall_mm_h" ≠ none ∧ ∃ last ∈ history.getLast?, o.observedAt < last.1

theorem recordRain_raises_iff (history : RainHistory) (o : Observation) :
    (∃ error, recordRain history o = .error error) ↔ RainStale history o := by
  unfold recordRain RainStale
  cases o.values.get? "rainfall_mm_h" with
  | none => simp
  | some rate =>
      cases history.getLast? with
      | none => simp
      | some last =>
          rcases lt_trichotomy last.1 o.observedAt with later | same | earlier
          · simp [later, not_lt.mpr later.le]
          · simp [same]
          · simp [not_lt.mpr earlier.le, earlier, earlier.ne]

end Landslide

/-! ## The service -/

/-- The observation keeps its contract and, for rain, its order. -/
def Analyzable (a : AnalysisEngine) (o : Observation) : Prop :=
  (validate o).valid = true ∧
    ¬ (o.hazard = .landslide ∧ Landslide.RainStale (a.history o.sourceId) (sanitized o))

/-- The adapter of the observation's hazard withholds its conclusion. -/
def Withheld (P : Platform) (o : Observation) : Prop :=
  match o.hazard with
  | .wildfire => Wildfire.Withholds (sanitized o)
  | .flood => Flood.Withholds (sanitized o)
  | .earthquake => Earthquake.Withholds P (sanitized o)
  | .landslide => Landslide.Withholds Landslide.developmentProfile (sanitized o)

/-- The profile id that the adapter of a hazard reports. -/
def profileOf : HazardKind → String
  | .wildfire => "wildfire-deterministic-v2"
  | .flood => Flood.developmentProfile.profileId
  | .earthquake => "seismic-int8-1d-v1"
  | .landslide => Landslide.developmentProfile.profileId

/-- What an adapter's answer tells about the observation. -/
structure Answers (P : Platform) (o : Observation) (result : HazardResult) : Prop where
  hazard : result.hazard = o.hazard
  profile : result.modelProfileId = profileOf o.hazard
  withheld : result.abstained = true ∨ result.coverage = .blind ↔ Withheld P o

theorem adapt_answers (P : Platform) (latencyMs : ℚ) (a : AnalysisEngine) (o : Observation)
    (order : ¬ (o.hazard = .landslide ∧ Landslide.RainStale (a.history o.sourceId) (sanitized o))) :
    ∃ result a', adapt P latencyMs (sanitized o) a = (.ok result, a') ∧ Answers P o result := by
  cases hazard : o.hazard with
  | wildfire =>
      have same : (sanitized o).hazard = .wildfire := hazard
      obtain ⟨result, ok, kept, profile, withheld⟩ := Wildfire.analyze_ok latencyMs same
      refine ⟨result, a, by simp only [adapt, same, ok]; rfl, ⟨kept, by rw [profile, hazard]; rfl, ?_⟩⟩
      rw [withheld, Withheld, hazard]
  | flood =>
      have same : (sanitized o).hazard = .flood := hazard
      obtain ⟨result, ok, kept, profile, withheld⟩ := Flood.analyze_ok Flood.developmentProfile none same
      refine ⟨result, a, by simp only [adapt, same, ok]; rfl, ⟨kept, by rw [profile, hazard]; rfl, ?_⟩⟩
      rw [withheld, Withheld, hazard]
  | earthquake =>
      have same : (sanitized o).hazard = .earthquake := hazard
      obtain ⟨result, ok, kept, profile, withheld⟩ := Earthquake.analyze_ok P same
      refine ⟨result, a, by simp only [adapt, same, ok]; rfl, ⟨kept, by rw [profile, hazard]; rfl, ?_⟩⟩
      rw [withheld, Withheld, hazard]
  | landslide =>
      have same : (sanitized o).hazard = .landslide := hazard
      cases recorded : Landslide.recordRain (a.history (sanitized o).sourceId) (sanitized o) with
      | error error => exact absurd ⟨hazard, (Landslide.recordRain_raises_iff _ _).mp ⟨error, recorded⟩⟩ order
      | ok history =>
          have ok : Landslide.analyze Landslide.developmentProfile none (a.history (sanitized o).sourceId) (sanitized o) =
              .ok (Landslide.conclude Landslide.developmentProfile none history (sanitized o), history) := by
            rw [Landslide.analyze, if_neg (not_not.mpr same), recorded]
          refine ⟨Landslide.conclude Landslide.developmentProfile none history (sanitized o),
            { a with rainHistory := a.rainHistory.insert (sanitized o).sourceId history },
            ?_, ⟨rfl, by rw [hazard]; rfl, ?_⟩⟩
          · simp only [adapt, same, Call.read_bind, ok]
            rfl
          · rw [Landslide.conclude_withholds_iff, Withheld, hazard]

theorem analyze_invalid (P : Platform) (latencyMs : ℚ) (a : AnalysisEngine) {o : Observation}
    (invalid : (validate o).valid = false) : ∃ error, analyze P latencyMs o a = (.error error, a) := by
  have refused : ∃ error, sanitize o = .error error := ⟨_, if_neg (by simp [invalid])⟩
  obtain ⟨error, refused⟩ := refused
  exact ⟨error, Call.bind_of_error (by rw [refused]; rfl)⟩

theorem analyze_stale (P : Platform) (latencyMs : ℚ) (a : AnalysisEngine) {o : Observation} (valid : (validate o).valid = true)
    (hazard : o.hazard = .landslide) (stale : Landslide.RainStale (a.history o.sourceId) (sanitized o)) :
    ∃ error, analyze P latencyMs o a = (.error error, a) := by
  have same : (sanitized o).hazard = .landslide := hazard
  obtain ⟨error, raised⟩ : ∃ error, Landslide.recordRain (a.history (sanitized o).sourceId) (sanitized o) = .error error :=
    (Landslide.recordRain_raises_iff _ _).mpr stale
  have analyzed : Landslide.analyze Landslide.developmentProfile none (a.history (sanitized o).sourceId) (sanitized o) =
      .error error := by
    rw [Landslide.analyze, if_neg (not_not.mpr same), raised]
  have adapted : adapt P latencyMs (sanitized o) a = (.error error, a) := by
    simp only [adapt, same, Call.read_bind, analyzed]
    rfl
  refine ⟨error, ?_⟩
  rw [analyze_of_valid P latencyMs a valid]
  exact Call.bind_of_error adapted

/-- An observation that can be analysed gets an answer, stamped with its own data. -/
theorem analyze_answers (P : Platform) (latencyMs : ℚ) {a : AnalysisEngine} {o : Observation} (analyzable : Analyzable a o) :
    ∃ result a', analyze P latencyMs o a =
        (.ok (stamp P o (expire (sanitized o) (withReasons result (validate o)))), a') ∧ Answers P o result := by
  obtain ⟨valid, order⟩ := analyzable
  obtain ⟨result, a', adapted, answers⟩ := adapt_answers P latencyMs a o order
  refine ⟨result, a', ?_, answers⟩
  rw [analyze_of_valid P latencyMs a valid]
  exact Call.bind_of_ok adapted

/-- What is left of an analysis whose data has expired: no score and a normal hint. -/
structure Expired (P : Platform) (o : Observation) (result : AnalysisResult) : Prop where
  hazard : result.hazard = o.hazard
  analysisId : result.analysisId = analysisId P o (profileOf o.hazard)
  eventTime : result.eventTime = some o.observedAt
  stateHint : result.stateHint = .normal
  withheld : result.abstained = true ∨ result.coverage = .blind ↔ Withheld P o

theorem analyze_expired (P : Platform) (latencyMs : ℚ) {a : AnalysisEngine} {o : Observation} (analyzable : Analyzable a o)
    (expired : 5000 < o.captureAgeMs) : ∃ result a', analyze P latencyMs o a = (.ok result, a') ∧ Expired P o result := by
  obtain ⟨result, a', returned, answers⟩ := analyze_answers P latencyMs analyzable
  have old : 5000 < (sanitized o).captureAgeMs := expired
  refine ⟨_, a', returned, ?_⟩
  rw [expire, if_pos old]
  exact ⟨answers.hazard, congrArg (analysisId P o) answers.profile, rfl, rfl, answers.withheld⟩

/-- The service returns exactly for what it can analyse. -/
theorem analyze_ok_iff (P : Platform) (latencyMs : ℚ) (a : AnalysisEngine) (o : Observation) :
    (∃ result, (analyze P latencyMs o a).1 = .ok result) ↔ Analyzable a o := by
  constructor
  · rintro ⟨result, returned⟩
    have valid : (validate o).valid = true := by
      by_contra invalid
      obtain ⟨error, raised⟩ := analyze_invalid P latencyMs a (Bool.eq_false_iff.mpr invalid)
      rw [raised] at returned
      cases returned
    refine ⟨valid, ?_⟩
    rintro ⟨hazard, stale⟩
    obtain ⟨error, raised⟩ := analyze_stale P latencyMs a valid hazard stale
    rw [raised] at returned
    cases returned
  · intro analyzable
    obtain ⟨result, a', returned, -⟩ := analyze_answers P latencyMs analyzable
    exact ⟨_, congrArg Prod.fst returned⟩

end SentinelEdge.Analysis
