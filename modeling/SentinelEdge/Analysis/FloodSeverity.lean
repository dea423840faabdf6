import Mathlib.Tactic.GCongr
import Mathlib.Tactic.FieldSimp
import SentinelEdge.Analysis.Hazards
import SentinelEdge.Foundation.WeightedMean

/-! # How severe a flood is

Higher channels never lower the score or the hint of a flood, with the same
channels present. What is left of an observation without a required channel is
another matter: the weights of the channels that stay are scaled up.
-/

namespace SentinelEdge.Analysis

open Foundation Domain

/-- The order of the states that an adapter hints at. -/
def severity : IncidentState → Nat
  | .normal => 0
  | .watch => 1
  | .suspected => 2
  | .confirmed => 3
  | .resolving | .resolved | .degraded => 0

/-! ## One channel -/

theorem portion_mem {low high value : ℚ} (above : low ≤ value) (below : value < high) :
    0 ≤ (value - low) / (high - low) ∧ (value - low) / (high - low) < 1 := by
  have width : 0 < high - low := by linarith
  exact ⟨div_nonneg (by linarith) width.le, by rw [div_lt_one width]; linarith⟩

theorem overshoot_nonneg {confirmed value : ℚ} (above : confirmed ≤ value) :
    0 ≤ (value - confirmed) / max confirmed 0.000000001 :=
  div_nonneg (by linarith) (le_trans (by norm_num) (le_max_right _ _))

namespace Ladder

theorem score_mem (l : Ladder) (value : ℚ) : 0 ≤ l.score value ∧ l.score value ≤ 1 := by
  unfold score
  split_ifs with belowWatch belowSuspected belowConfirmed
  · norm_num
  · have portion := portion_mem (not_lt.mp belowWatch) belowSuspected
    constructor <;> linarith
  · have portion := portion_mem (not_lt.mp belowSuspected) belowConfirmed
    constructor <;> linarith
  · have more := overshoot_nonneg (not_lt.mp belowConfirmed)
    exact ⟨le_min (by norm_num) (by linarith), min_le_left _ _⟩

/-- Higher values have no lower score: on one step the score is linear, and every step
    starts above the one before it. -/
theorem score_mono (l : Ladder) {low high : ℚ} (le : low ≤ high) : l.score low ≤ l.score high := by
  have watch := l.watch_lt
  have suspected := l.suspected_lt
  by_cases lowWatch : low < l.watch
  · have zero : l.score low = 0 := by simp [score, lowWatch]
    rw [zero]
    exact (l.score_mem high).1
  · have highWatch : ¬ high < l.watch := by linarith
    simp only [score, lowWatch, highWatch, if_false]
    by_cases lowSuspected : low < l.suspected
    · have portion := portion_mem (not_lt.mp lowWatch) lowSuspected
      rw [if_pos lowSuspected]
      split_ifs with highSuspected highConfirmed
      · have width : 0 ≤ l.suspected - l.watch := by linarith
        gcongr
      · have other := portion_mem (not_lt.mp highSuspected) highConfirmed
        linarith
      · have more := overshoot_nonneg (not_lt.mp highConfirmed)
        exact le_min (by linarith) (by linarith)
    · have highSuspected : ¬ high < l.suspected := by linarith
      rw [if_neg lowSuspected, if_neg highSuspected]
      by_cases lowConfirmed : low < l.confirmed
      · have portion := portion_mem (not_lt.mp lowSuspected) lowConfirmed
        rw [if_pos lowConfirmed]
        split_ifs with highConfirmed
        · have width : 0 ≤ l.confirmed - l.suspected := by linarith
          gcongr
        · have more := overshoot_nonneg (not_lt.mp highConfirmed)
          exact le_min (by linarith) (by linarith)
      · have highConfirmed : ¬ high < l.confirmed := by linarith
        have scale : 0 ≤ max l.confirmed 0.000000001 := le_trans (by norm_num) (le_max_right _ _)
        rw [if_neg lowConfirmed, if_neg highConfirmed]
        gcongr

end Ladder

namespace Flood

/-! ## All channels -/

def channels : List String := ["water_level_m", "rate_of_rise_m_per_h", "rainfall_mm_h"]

/-- The same channels are present, and none of them reads higher. -/
def NoHigher (o o' : Observation) : Prop :=
  ∀ key ∈ channels, Option.Rel (fun low high => low ≤ high) (o.values.get? key) (o'.values.get? key)

theorem observedScore_eq (p : ThresholdProfile) (o : Observation) : observedScore p o = weightedMean (channelScores p o) := rfl

theorem channel_mono {o o' : Observation} {key : String} {weight : ℚ} (ladder : Ladder) (nonneg : 0 ≤ weight)
    (below : Option.Rel (fun low high => low ≤ high) (o.values.get? key) (o'.values.get? key)) :
    List.Forall₂ (fun a b => a.1 = b.1 ∧ 0 ≤ a.1 ∧ a.2 ≤ b.2)
      (channelScores.channel o key weight ladder) (channelScores.channel o' key weight ladder) := by
  unfold channelScores.channel
  generalize o.values.get? key = value at below ⊢
  generalize o'.values.get? key = value' at below ⊢
  cases below with
  | none => exact .nil
  | some le =>
      apply List.Forall₂.cons _ .nil
      exact ⟨rfl, nonneg, ladder.score_mono (max_le_max_left 0 le)⟩

theorem channelScores_mono (p : ThresholdProfile) {o o' : Observation} (below : NoHigher o o') :
    List.Forall₂ (fun a b => a.1 = b.1 ∧ 0 ≤ a.1 ∧ a.2 ≤ b.2) (channelScores p o) (channelScores p o') := by
  have level := channel_mono p.waterLevel (by norm_num : (0 : ℚ) ≤ 0.50) (below "water_level_m" (by simp [channels]))
  have rise := channel_mono p.rise (by norm_num : (0 : ℚ) ≤ 0.35) (below "rate_of_rise_m_per_h" (by simp [channels]))
  have rain := channel_mono p.rainfall (by norm_num : (0 : ℚ) ≤ 0.15) (below "rainfall_mm_h" (by simp [channels]))
  exact List.rel_append (List.rel_append level rise) rain

theorem channelScores_mem (p : ThresholdProfile) (o : Observation) :
    ∀ entry ∈ channelScores p o, 0 ≤ entry.1 ∧ 0 ≤ entry.2 ∧ entry.2 ≤ 1 := by
  have channel (key : String) {weight : ℚ} (nonneg : 0 ≤ weight) (ladder : Ladder) :
      ∀ entry ∈ channelScores.channel o key weight ladder, 0 ≤ entry.1 ∧ 0 ≤ entry.2 ∧ entry.2 ≤ 1 := by
    intro entry here
    obtain ⟨value, -, rfl⟩ := Option.map_eq_some_iff.mp (Option.mem_toList.mp here)
    exact ⟨nonneg, ladder.score_mem _⟩
  intro entry here
  simp only [channelScores, List.mem_append] at here
  obtain (level | rise) | rain := here
  · exact channel _ (by norm_num) _ entry level
  · exact channel _ (by norm_num) _ entry rise
  · exact channel _ (by norm_num) _ entry rain

theorem observedScore_mem (p : ThresholdProfile) (o : Observation) : 0 ≤ observedScore p o ∧ observedScore p o ≤ 1 :=
  weightedMean_mem zero_le_one (channelScores_mem p o)

theorem observedScore_mono (p : ThresholdProfile) {o o' : Observation} (below : NoHigher o o') :
    observedScore p o ≤ observedScore p o' := weightedMean_mono (channelScores_mono p below)

/-! ## The forecast -/

/-- The score that a forecast claims. -/
def claimedScore : ℚ ⊕ ForecastMetadata → Option ℚ
  | .inl score => some score
  | .inr metadata => metadata.score

/-- Whatever is observed, the forecast is the same, and a score of it is within [0,1]. -/
def SteadyForecast (predictor : Option Predictor) : Prop :=
  ∀ q ∈ predictor, ∃ answer, (∀ o, q.predict o = answer) ∧
    ∀ given ∈ answer, ∀ score ∈ claimedScore given, 0 ≤ score ∧ score ≤ 1

/-- The blend with a forecast, if it has a score. -/
def mix : Option ℚ → ℚ → ℚ
  | none, score => score
  | some predicted, score => min 1 (0.85 * score + 0.15 * predicted)

theorem blend_steady {predictor : Option Predictor} (steady : SteadyForecast predictor) :
    ∃ forecast : Option ℚ, (∀ predicted ∈ forecast, 0 ≤ predicted ∧ predicted ≤ 1) ∧
      ∀ o score, (blend predictor o score).1 = mix forecast score := by
  cases predictor with
  | none => exact ⟨none, by simp, fun o score => rfl⟩
  | some q =>
      obtain ⟨answer, same, inside⟩ := steady q rfl
      cases answer with
      | none => exact ⟨none, by simp, fun o score => by simp [blend, Predictor.forecast, same, mix]⟩
      | some given =>
          cases given with
          | inl predicted =>
              by_cases valid : ForecastMetadata.fromPrediction predicted q.horizonSeconds q.uncertainty q.profileId = none
              · exact ⟨none, by simp, fun o score => by simp [blend, Predictor.forecast, same, valid, mix]⟩
              · refine ⟨some predicted, by simpa using inside _ rfl predicted rfl, fun o score => ?_⟩
                unfold ForecastMetadata.fromPrediction at valid
                simp only [blend, Predictor.forecast, same, ForecastMetadata.fromPrediction]
                split_ifs at valid ⊢ <;> simp_all [ForecastMetadata.featureValues, mix]
          | inr metadata =>
              cases features : metadata.featureValues with
              | none => exact ⟨none, by simp, fun o score => by simp [blend, Predictor.forecast, same, features, mix]⟩
              | some found =>
                  refine ⟨metadata.score, fun predicted here => inside _ rfl predicted here, fun o score => ?_⟩
                  cases claimed : metadata.score <;> simp [blend, Predictor.forecast, same, features, claimed, mix]

theorem mix_mono (forecast : Option ℚ) {low high : ℚ} (le : low ≤ high) : mix forecast low ≤ mix forecast high := by
  cases forecast with
  | none => exact le
  | some predicted => exact min_le_min_left 1 (by linarith)

theorem mix_mem {forecast : Option ℚ} (inside : ∀ predicted ∈ forecast, 0 ≤ predicted ∧ predicted ≤ 1) {score : ℚ}
    (within : 0 ≤ score ∧ score ≤ 1) : 0 ≤ mix forecast score ∧ mix forecast score ≤ 1 := by
  cases forecast with
  | none => exact within
  | some predicted =>
      have bounds := inside predicted rfl
      exact ⟨le_min zero_le_one (by linarith), min_le_left _ _⟩

/-! ## The result -/

/-- Score and hint, by the number of required channels that are missing. -/
def settle (gaps : Nat) (blended : ℚ) : ℚ × IncidentState :=
  if gaps = required.length then (0, .watch)
  else if 0 < gaps then (min blended 0.54, if 0.25 ≤ min blended 0.54 then .watch else .normal)
  else (blended, stateOf blended)

theorem analyze_settles (p : ThresholdProfile) (predictor : Option Predictor) {o : Observation} (hazard : o.hazard = .flood) :
    ∃ result, analyze p predictor o = .ok result ∧
      (result.score, result.stateHint) = settle (missing o).length (blend predictor o (observedScore p o)).1 ∧
      (result.abstained = true ↔ missing o ≠ []) := by
  refine ⟨_, by rw [analyze, if_neg (not_not.mpr hazard)], ?_, ?_⟩
  · cases gaps : missing o with
    | nil => simp [settle, required]
    | cons first rest =>
        by_cases all : rest.length + 1 = required.length
        · simp [settle, all]
        · simp [settle, all]
  · cases gaps : missing o with
    | nil => simp [required]
    | cons first rest =>
        by_cases all : rest.length + 1 = required.length
        · simp [all]
        · simp [all]

theorem severity_stateOf_mono {low high : ℚ} (le : low ≤ high) : severity (stateOf low) ≤ severity (stateOf high) := by
  unfold stateOf
  split_ifs <;> first | decide | linarith

theorem settle_mono (gaps : Nat) {low high : ℚ} (le : low ≤ high) :
    (settle gaps low).1 ≤ (settle gaps high).1 ∧ severity (settle gaps low).2 ≤ severity (settle gaps high).2 := by
  unfold settle
  by_cases all : gaps = required.length
  · simp [all]
  · by_cases some : 0 < gaps
    · have capped : min low 0.54 ≤ min high 0.54 := min_le_min_right _ le
      simp only [if_neg all, if_pos some]
      refine ⟨capped, ?_⟩
      split_ifs <;> first | decide | linarith
    · simp only [if_neg all, if_neg some]
      exact ⟨le, severity_stateOf_mono le⟩

theorem settle_mem (gaps : Nat) {blended : ℚ} (within : 0 ≤ blended ∧ blended ≤ 1) :
    0 ≤ (settle gaps blended).1 ∧ (settle gaps blended).1 ≤ 1 := by
  unfold settle
  by_cases all : gaps = required.length
  · simp [all]
  · by_cases some : 0 < gaps
    · simp only [if_neg all, if_pos some]
      exact ⟨le_min within.1 (by norm_num), (min_le_left _ _).trans within.2⟩
    · simp only [if_neg all, if_neg some]
      exact within

theorem missing_eq_of_noHigher {o o' : Observation} (below : NoHigher o o') : missing o = missing o' := by
  apply List.filter_congr
  intro key here
  have listed : key ∈ channels := by
    simp only [required, channels, List.mem_cons, List.not_mem_nil, or_false] at here ⊢
    tauto
  have presence := below key listed
  unfold isPresent
  generalize o.values.get? key = value at presence ⊢
  generalize o'.values.get? key = value' at presence ⊢
  cases presence <;> rfl

/-- With the same channels present and no forecast, or a steady one, no channel that
    reads higher lowers the score or the hint. -/
theorem severity_is_monotone (p : ThresholdProfile) {predictor : Option Predictor} (steady : SteadyForecast predictor)
    {o o' : Observation} (hazard : o.hazard = .flood) (hazard' : o'.hazard = .flood) (below : NoHigher o o') :
    ∃ result result', analyze p predictor o = .ok result ∧ analyze p predictor o' = .ok result' ∧
      result.score ≤ result'.score ∧ severity result.stateHint ≤ severity result'.stateHint ∧
      (0 ≤ result.score ∧ result.score ≤ 1) ∧ (0 ≤ result'.score ∧ result'.score ≤ 1) := by
  obtain ⟨forecast, inside, blended⟩ := blend_steady steady
  obtain ⟨result, ok, settled, -⟩ := analyze_settles p predictor hazard
  obtain ⟨result', ok', settled', -⟩ := analyze_settles p predictor hazard'
  rw [blended, Prod.ext_iff] at settled settled'
  rw [← missing_eq_of_noHigher below] at settled'
  have mono := settle_mono (missing o).length (mix_mono forecast (observedScore_mono p below))
  have mem := settle_mem (missing o).length (mix_mem inside (observedScore_mem p o))
  have mem' := settle_mem (missing o).length (mix_mem inside (observedScore_mem p o'))
  refine ⟨result, result', ok, ok', ?_⟩
  simp only at settled settled'
  rw [settled.1, settled.2, settled'.1, settled'.2]
  exact ⟨mono.1, mono.2, mem, mem'⟩

/-- What the gauges of a river read. -/
def river (values : List (String × ℚ)) : Observation where
  observationId := UUID.ofNat 1
  correlationId := UUID.ofNat 2
  sourceId := "gauge"
  hazard := .flood
  sourceMode := .live
  bootId := "boot"
  observedAt := 0
  receivedAt := 0
  values := Dict.ofPairs values
  units := Dict.empty
  qualityFlags := []
  sourceLineage := "gauge"
  clockEpoch := 0
  measurements := []

/-- A rising river, with a forecast that never changes. -/
theorem rising_river_is_monotone :
    ∃ result result',
      analyze developmentProfile (some { predict := fun _ => some (.inl 0.4) })
        (river [("water_level_m", 0.6), ("rainfall_mm_h", 5)]) = .ok result ∧
      analyze developmentProfile (some { predict := fun _ => some (.inl 0.4) })
        (river [("water_level_m", 1.9), ("rainfall_mm_h", 5)]) = .ok result' ∧
      result.score ≤ result'.score ∧ severity result.stateHint ≤ severity result'.stateHint ∧
      (0 ≤ result.score ∧ result.score ≤ 1) ∧ (0 ≤ result'.score ∧ result'.score ≤ 1) := by
  refine severity_is_monotone developmentProfile ?_ rfl rfl ?_
  · intro q here
    cases here
    refine ⟨_, fun _ => rfl, ?_⟩
    intro given answered predicted claimed
    cases answered
    cases claimed
    norm_num
  · intro key here
    simp only [channels, List.mem_cons, List.not_mem_nil, or_false] at here
    obtain rfl | rfl | rfl := here
    · exact Option.Rel.some (by norm_num : (0.6 : ℚ) ≤ 1.9)
    · exact Option.Rel.none
    · exact Option.Rel.some (le_refl (5 : ℚ))

/-! ## Without a required channel -/

/-- The observation without the channels that are gone. -/
def without (gone : List String) (o : Observation) : Observation :=
  { o with
    values := o.values.restrict (fun key => key ∉ gone)
    units := o.units.restrict (fun key => key ∉ gone)
    measurements := o.measurements.filter (fun m => m.sourceValueKey ∉ gone) }

/-- The score of a required channel on its ladder. -/
def requiredScore (p : ThresholdProfile) (o : Observation) (key : String) : ℚ :=
  channelScore (if key = "water_level_m" then p.waterLevel else p.rise) (max 0 (reading o key 0))

theorem without_get? (gone : List String) (o : Observation) (key : String) :
    (without gone o).values.get? key = if key ∈ gone then none else o.values.get? key := by
  simp only [without, Dict.get?_restrict, decide_eq_true_eq, ite_not]

theorem present_of_complete {o : Observation} (complete : missing o = []) {key : String} (listed : key ∈ required) :
    ∃ value, o.values.get? key = some value := by
  have present := List.filter_eq_nil_iff.mp complete key listed
  exact Option.ne_none_iff_exists'.mp (by simpa [isPresent] using present)

theorem missing_without {o : Observation} (complete : missing o = []) (gone : List String) :
    missing (without gone o) = required.filter (fun key => key ∈ gone) := by
  apply List.filter_congr
  intro key here
  obtain ⟨value, found⟩ := present_of_complete complete here
  by_cases left : key ∈ gone
  · simp [isPresent, without_get?, left]
  · simp [isPresent, without_get?, left, found]

/-- The channel that is gone, before those that are left. -/
theorem channelScores_perm (p : ThresholdProfile) {o : Observation} (complete : missing o = []) {gone : List String}
    (ofRequired : gone ⊆ required) {key : String} (left : key ∈ gone) (only : ∀ other ∈ gone, other = key) :
    ∃ weight, 0 < weight ∧
      (channelScores p o).Perm ((weight, requiredScore p o key) :: channelScores p (without gone o)) := by
  have stays (other : String) (apart : other ≠ key) : (without gone o).values.get? other = o.values.get? other := by
    rw [without_get?, if_neg (fun here => apart (only other here))]
  have goes : (without gone o).values.get? key = none := by rw [without_get?, if_pos left]
  have listed : key = "rate_of_rise_m_per_h" ∨ key = "water_level_m" := by
    simpa [required] using ofRequired left
  obtain ⟨value, found⟩ := present_of_complete complete (ofRequired left)
  rcases listed with rfl | rfl
  · refine ⟨0.35, by norm_num, ?_⟩
    simp only [channelScores, channelScores.channel, goes, stays "water_level_m" (by decide),
      stays "rainfall_mm_h" (by decide), requiredScore, reading, found, Option.map_some, Option.toList_some,
      Option.map_none, Option.toList_none, List.append_nil, List.append_assoc, List.singleton_append]
    exact List.perm_middle
  · refine ⟨0.50, by norm_num, ?_⟩
    simp [channelScores, channelScores.channel, goes, stays "rate_of_rise_m_per_h" (by decide),
      stays "rainfall_mm_h" (by decide), requiredScore, reading, found]

/-- Without a channel that scores no less than the others, the mean is no higher. -/
theorem observedScore_without_le (p : ThresholdProfile) {o : Observation} (complete : missing o = []) {gone : List String}
    (ofRequired : gone ⊆ required) {key : String} (left : key ∈ gone) (only : ∀ other ∈ gone, other = key)
    (low : observedScore p (without gone o) ≤ requiredScore p o key) :
    observedScore p (without gone o) ≤ observedScore p o := by
  obtain ⟨weight, positive, same⟩ := channelScores_perm p complete ofRequired left only
  rw [observedScore_eq p o, weightedMean_perm same]
  exact weightedMean_le_cons positive (fun other here => (channelScores_mem p _ other here).1) low

theorem settle_gap {gaps : Nat} (some : 0 < gaps) (blended : ℚ) :
    (settle gaps blended).1 ≤ 0.54 ∧ severity (settle gaps blended).2 ≤ severity .watch := by
  unfold settle
  by_cases all : gaps = required.length
  · simp only [if_pos all]
    exact ⟨by norm_num, le_refl _⟩
  · simp only [if_neg all, if_pos some]
    refine ⟨min_le_right _ _, ?_⟩
    split_ifs <;> decide

theorem severity_watch_le {state : IncidentState} (hinted : ∃ score, stateOf score = state) (raised : state ≠ .normal) :
    severity .watch ≤ severity state := by
  obtain ⟨score, rfl⟩ := hinted
  unfold stateOf at raised ⊢
  split_ifs at raised ⊢ <;> first | decide | exact absurd rfl raised

/-- Incomplete evidence abstains at WATCH or below. -/
theorem incomplete_flood_is_held_back (p : ThresholdProfile) {o : Observation} (hazard : o.hazard = .flood)
    (complete : missing o = []) {gone : List String} (some : gone ≠ []) (ofRequired : gone ⊆ required) :
    ∃ result result', analyze p none o = .ok result ∧ analyze p none (without gone o) = .ok result' ∧
      (result'.abstained = true ∧ result'.score ≤ 0.54 ∧ severity result'.stateHint ≤ severity .watch) ∧
      (required ⊆ gone → result'.score = 0 ∧ result'.score ≤ result.score ∧ result'.stateHint = .watch) ∧
      (result.stateHint ≠ .normal → severity result'.stateHint ≤ severity result.stateHint) ∧
      ∀ key ∈ gone, (∀ other ∈ gone, other = key) →
        observedScore p (without gone o) ≤ requiredScore p o key ∨ 0.54 ≤ result.score →
        result'.score ≤ result.score ∧ severity result'.stateHint ≤ severity result.stateHint := by
  have hazard' : (without gone o).hazard = .flood := hazard
  obtain ⟨result, ok, settled, -⟩ := analyze_settles p none hazard
  obtain ⟨result', ok', settled', abstained⟩ := analyze_settles p none hazard'
  have blended (o : Observation) (score : ℚ) : (blend none o score).1 = score := rfl
  have gap : missing (without gone o) ≠ [] := by
    obtain ⟨key, left⟩ := List.exists_mem_of_ne_nil gone some
    rw [missing_without complete]
    exact List.ne_nil_of_mem (List.mem_filter.mpr ⟨ofRequired left, by simpa using left⟩)
  have full : (result.score, result.stateHint) = (observedScore p o, stateOf (observedScore p o)) := by
    rw [settled, complete, blended]
    simp [settle, required]
  rw [blended] at settled'
  have scores := congrArg Prod.fst full
  have hints := congrArg Prod.snd full
  have scores' := congrArg Prod.fst settled'
  have hints' := congrArg Prod.snd settled'
  simp only at scores hints scores' hints'
  have held := settle_gap (List.length_pos_iff.mpr gap) (observedScore p (without gone o))
  rw [← scores', ← hints'] at held
  have raised (notNormal : result.stateHint ≠ .normal) : severity result'.stateHint ≤ severity result.stateHint :=
    held.2.trans (severity_watch_le ⟨_, hints.symm⟩ notNormal)
  refine ⟨result, result', ok, ok', ⟨abstained.mpr gap, held⟩, ?_, raised, ?_⟩
  · intro all
    have both : missing (without gone o) = required := by
      rw [missing_without complete, List.filter_eq_self]
      exact fun key here => decide_eq_true (all here)
    rw [both] at scores' hints'
    rw [scores', hints', scores]
    refine ⟨by simp [settle], ?_, by simp [settle]⟩
    simpa [settle] using (observedScore_mem p o).1
  · intro key left only condition
    have one : (missing (without gone o)).length ≠ required.length := by
      rw [missing_without complete]
      intro same
      have all := List.length_filter_eq_length_iff.mp same
      have level := only _ (by simpa using all "water_level_m" (by decide))
      have rise := only _ (by simpa using all "rate_of_rise_m_per_h" (by decide))
      exact absurd (level.trans rise.symm) (by decide)
    have lower : min (observedScore p (without gone o)) 0.54 ≤ observedScore p o := by
      rcases condition with low | high
      · exact (min_le_left _ _).trans (observedScore_without_le p complete ofRequired left only low)
      · exact (min_le_right _ _).trans (scores ▸ high)
    have settledOne : settle (missing (without gone o)).length (observedScore p (without gone o)) =
        (min (observedScore p (without gone o)) 0.54,
          if 0.25 ≤ min (observedScore p (without gone o)) 0.54 then .watch else .normal) := by
      rw [settle, if_neg one, if_pos (List.length_pos_iff.mpr gap)]
    rw [settledOne] at scores' hints'
    refine ⟨by rw [scores, scores']; exact lower, ?_⟩
    by_cases watched : 0.25 ≤ min (observedScore p (without gone o)) 0.54
    · apply raised
      have reached : (0.25 : ℚ) ≤ observedScore p o := watched.trans lower
      rw [hints, stateOf]
      split_ifs <;> simp
    · rw [hints', if_neg watched]
      exact Nat.zero_le _

/-- A calm river without the level: one gauge is left, and it reads nothing either. -/
theorem calm_river_is_held_back :
    ∃ result result', analyze developmentProfile none (river [("water_level_m", 0.2), ("rate_of_rise_m_per_h", 0)]) =
        .ok result ∧
      analyze developmentProfile none
        (without ["water_level_m"] (river [("water_level_m", 0.2), ("rate_of_rise_m_per_h", 0)])) = .ok result' ∧
      (result'.abstained = true ∧ result'.score ≤ 0.54 ∧ severity result'.stateHint ≤ severity .watch) ∧
      (required ⊆ ["water_level_m"] → result'.score = 0 ∧ result'.score ≤ result.score ∧ result'.stateHint = .watch) ∧
      (result.stateHint ≠ .normal → severity result'.stateHint ≤ severity result.stateHint) ∧
      ∀ key ∈ ["water_level_m"], (∀ other ∈ ["water_level_m"], other = key) →
        observedScore developmentProfile
            (without ["water_level_m"] (river [("water_level_m", 0.2), ("rate_of_rise_m_per_h", 0)])) ≤
          requiredScore developmentProfile (river [("water_level_m", 0.2), ("rate_of_rise_m_per_h", 0)]) key ∨
          0.54 ≤ result.score →
        result'.score ≤ result.score ∧ severity result'.stateHint ≤ severity result.stateHint :=
  incomplete_flood_is_held_back developmentProfile rfl (by decide +kernel) (by simp) (by simp [required])

/-- Without both gauges the calm river is watched. -/
theorem blind_river_is_watched : ∃ result result',
    analyze developmentProfile none (river [("water_level_m", 0.2), ("rate_of_rise_m_per_h", 0)]) = .ok result ∧
    analyze developmentProfile none
      (without required (river [("water_level_m", 0.2), ("rate_of_rise_m_per_h", 0)])) = .ok result' ∧
    ¬ (result'.score ≤ result.score ∧ severity result'.stateHint ≤ severity result.stateHint) := by
  refine ⟨_, _, rfl, rfl, ?_⟩
  decide +kernel

end Flood

end SentinelEdge.Analysis
