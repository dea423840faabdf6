import Mathlib.Tactic.Ring
import SentinelEdge.Analysis.Withholding

/-! # Accelerations in g and in m/s2

The measurement contract admits both units for the axes of an accelerometer and
the earthquake adapter reads the numbers without their unit. Which lengths of the
vector are analysed the same in both, and what happens to the others.
-/

namespace SentinelEdge.Analysis

open Foundation Domain

/-! ## The same observation in m/s2 -/

/-- One g in m/s2. -/
def standardGravity : ℚ := 9.80665

/-- A reading in g, reported in m/s2. -/
def measurementInMetres (m : MeasurementValue) : MeasurementValue :=
  if m.sourceValueKey ∈ Earthquake.axes then
    { m with
      value := standardGravity * m.value
      unit := "m/s2"
      uncertainty := m.uncertainty.map (fun u => standardGravity * u) }
  else m

/-- An observation in g, reported in m/s2. -/
def inMetres (o : Observation) : Observation :=
  { o with
    values := o.values.mapValues (fun key value => if key ∈ Earthquake.axes then standardGravity * value else value)
    units := o.units.mapValues (fun key unit => if key ∈ Earthquake.axes then "m/s2" else unit)
    measurements := o.measurements.map measurementInMetres }

@[simp] theorem measurementInMetres_sourceValueKey (m : MeasurementValue) :
    (measurementInMetres m).sourceValueKey = m.sourceValueKey := by
  unfold measurementInMetres
  split <;> rfl

@[simp] theorem isUsable_inMetres (m : MeasurementValue) : isUsable (measurementInMetres m) = isUsable m := by
  unfold measurementInMetres
  split <;> rfl

theorem usableProperties_inMetres {o : Observation} (valid : (validate o).valid = true)
    (converted : (validate (inMetres o)).valid = true) :
    (validate (inMetres o)).usableProperties = (validate o).usableProperties := by
  have same : ((inMetres o).measurements.filter isUsable).map MeasurementValue.sourceValueKey =
      (o.measurements.filter isUsable).map MeasurementValue.sourceValueKey := by
    simp only [inMetres, List.filter_map, List.map_map, Function.comp_def, isUsable_inMetres,
      measurementInMetres_sourceValueKey]
  rw [usableProperties_of_valid valid, usableProperties_of_valid converted, same]

/-- What is left of the axes after sanitizing is scaled, and nothing appears or goes. -/
theorem sanitized_get?_inMetres {o : Observation} (valid : (validate o).valid = true)
    (converted : (validate (inMetres o)).valid = true) {key : String} (axis : key ∈ Earthquake.axes) :
    (sanitized (inMetres o)).values.get? key =
      ((sanitized o).values.get? key).map (fun value => standardGravity * value) := by
  simp only [sanitized, Dict.get?_restrict, usableProperties_inMetres valid converted]
  split
  · simp [inMetres, Dict.get?_mapValues, axis]
  · rfl

namespace Earthquake

/-- The squared length of the acceleration vector; a missing axis counts as zero. -/
def squares (o : Observation) : ℚ :=
  reading o "accel_x" 0 * reading o "accel_x" 0 + reading o "accel_y" 0 * reading o "accel_y" 0 +
    reading o "accel_z" 0 * reading o "accel_z" 0

/-- The length of the acceleration vector. -/
def magnitude (P : Platform) (o : Observation) : ℚ := P.sqrt (squares o)

/-- The score of a vector of a length, before any cap. -/
def scoreOf (length : ℚ) : ℚ := min 1 (max 0 (length - 1) / 0.75)

theorem rawScore_eq (P : Platform) (o : Observation) : rawScore P o = scoreOf (magnitude P o) := rfl

theorem reading_inMetres {o : Observation} (valid : (validate o).valid = true)
    (converted : (validate (inMetres o)).valid = true) {key : String} (axis : key ∈ axes) :
    reading (sanitized (inMetres o)) key 0 = standardGravity * reading (sanitized o) key 0 := by
  rw [reading, reading, sanitized_get?_inMetres valid converted axis]
  cases (sanitized o).values.get? key <;> simp

theorem squares_inMetres {o : Observation} (valid : (validate o).valid = true)
    (converted : (validate (inMetres o)).valid = true) :
    squares (sanitized (inMetres o)) = standardGravity * standardGravity * squares (sanitized o) := by
  have x := reading_inMetres valid converted (show "accel_x" ∈ axes by simp [axes])
  have y := reading_inMetres valid converted (show "accel_y" ∈ axes by simp [axes])
  have z := reading_inMetres valid converted (show "accel_z" ∈ axes by simp [axes])
  rw [squares, squares, x, y, z]
  ring

theorem missing_inMetres {o : Observation} (valid : (validate o).valid = true)
    (converted : (validate (inMetres o)).valid = true) :
    missing (sanitized (inMetres o)) = missing (sanitized o) := by
  refine List.filter_congr fun key axis => ?_
  have same : isPresent (sanitized (inMetres o)) key = isPresent (sanitized o) key := by
    rw [isPresent, isPresent, sanitized_get?_inMetres valid converted axis, Option.isSome_map]
  rw [same]

/-! ## Lengths and scores -/

/-- Lengths whose score is within the margin of a threshold. -/
def InMargin (length : ℚ) : Prop :=
  (1.1275 ≤ length ∧ length ≤ 1.1725) ∨ (1.315 ≤ length ∧ length ≤ 1.36) ∨ (1.615 ≤ length ∧ length ≤ 1.66)

theorem scoreOf_low {length : ℚ} (low : length ≤ 1) : scoreOf length = 0 := by
  have still : max 0 (length - 1) = 0 := max_eq_left (by linarith)
  norm_num [scoreOf, still]

theorem scoreOf_mid {length : ℚ} (low : 1 ≤ length) (high : length ≤ 1.75) : scoreOf length = (length - 1) / 0.75 := by
  have moved : max 0 (length - 1) = length - 1 := max_eq_right (by linarith)
  rw [scoreOf, moved]
  exact min_eq_right (by rw [div_le_one (by norm_num)]; linarith)

theorem scoreOf_high {length : ℚ} (high : 1.75 ≤ length) : scoreOf length = 1 := by
  have moved : max 0 (length - 1) = length - 1 := max_eq_right (by linarith)
  rw [scoreOf, moved]
  exact min_eq_left (by rw [le_div_iff₀ (by norm_num)]; linarith)

theorem nearThreshold_iff (length : ℚ) : NearThreshold (scoreOf length) thresholds ↔ InMargin length := by
  simp only [NearThreshold, thresholds, defaultMargin, List.mem_cons, List.not_mem_nil, or_false, exists_eq_or_imp,
    exists_eq_left, abs_le, InMargin]
  rcases le_total length 1 with low | low
  · rw [scoreOf_low low]
    constructor
    · norm_num
    · rintro (⟨below, -⟩ | ⟨below, -⟩ | ⟨below, -⟩) <;> norm_num at below <;> linarith
  rcases le_total length 1.75 with high | high
  · have score : scoreOf length * 0.75 = length - 1 := by
      rw [scoreOf_mid low high, div_mul_cancel₀ _ (by norm_num)]
    refine or_congr (and_congr ?_ ?_) (or_congr (and_congr ?_ ?_) (and_congr ?_ ?_)) <;>
      constructor <;> intro bound <;> linarith
  · rw [scoreOf_high high]
    constructor
    · norm_num
    · rintro (⟨-, above⟩ | ⟨-, above⟩ | ⟨-, above⟩) <;> linarith

theorem scoreOf_lt {short long : ℚ} (shorter : short < long) (moving : 1 < long) (below : short < 1.75) :
    scoreOf short < scoreOf long := by
  have positive : 0 < scoreOf long := by
    refine lt_min (by norm_num) (div_pos ?_ (by norm_num))
    exact lt_max_of_lt_right (by linarith)
  rcases le_total short 1 with still | moves
  · rw [scoreOf_low still]
    exact positive
  · rw [scoreOf_mid moves below.le]
    refine lt_min ?_ (div_lt_div_of_pos_right ?_ (by norm_num))
    · rw [div_lt_one (by norm_num)]
      linarith
    · exact lt_max_of_lt_right (by linarith)

theorem le_scoreOf_iff {length cap : ℚ} (positive : 0 < cap) (most : cap ≤ 1) :
    cap ≤ scoreOf length ↔ 1 + 0.75 * cap ≤ length := by
  rw [scoreOf, le_min_iff, le_div_iff₀ (by norm_num), le_max_iff]
  constructor
  · rintro ⟨-, zero | above⟩ <;> linarith
  · intro far
    exact ⟨most, .inr (by linarith)⟩

theorem longer_inMetres {length : ℚ} (nonneg : 0 ≤ length) : length ≤ standardGravity * length :=
  le_mul_of_one_le_left nonneg (by norm_num [standardGravity])

/-- In m/s2 the capped score is the same only for the lengths that reach its ends in both units. -/
theorem capped_eq_iff {length cap : ℚ} (nonneg : 0 ≤ length) (positive : 0 < cap) (most : cap ≤ 1) :
    min (scoreOf length) cap = min (scoreOf (standardGravity * length)) cap ↔
      standardGravity * length ≤ 1 ∨ 1 + 0.75 * cap ≤ length := by
  have longer := longer_inMetres nonneg
  constructor
  · intro same
    by_contra between
    push Not at between
    obtain ⟨moving, below⟩ := between
    have reached : scoreOf length < cap :=
      lt_of_not_ge fun far => absurd ((le_scoreOf_iff positive most).mp far) (not_le.mpr below)
    have longerStrictly : length < standardGravity * length := by
      have apart : 0 < length := by
        by_contra zero
        have none : length = 0 := le_antisymm (not_lt.mp zero) nonneg
        norm_num [none] at moving
      exact lt_mul_of_one_lt_left apart (by norm_num [standardGravity])
    have scored := scoreOf_lt longerStrictly moving (by linarith)
    rw [min_eq_left reached.le] at same
    exact absurd same (lt_min scored reached).ne
  · rintro (low | far)
    · rw [scoreOf_low low, scoreOf_low (longer.trans low)]
    · rw [min_eq_right ((le_scoreOf_iff positive most).mpr far),
        min_eq_right ((le_scoreOf_iff positive most).mpr (far.trans longer))]

/-- A length within a margin in g is far beyond every margin in m/s2. -/
theorem not_inMargin_both {length : ℚ} (near : InMargin length) : ¬ InMargin (standardGravity * length) := by
  have least : 1.1275 ≤ length := by
    rcases near with ⟨low, -⟩ | ⟨low, -⟩ | ⟨low, -⟩ <;> linarith
  rintro (⟨-, high⟩ | ⟨-, high⟩ | ⟨-, high⟩) <;> norm_num [standardGravity] at high <;> linarith

/-! ## What the adapter concludes from a length -/

/-- The clock is safe and no axis is missing, so that the score is not capped. -/
def Uncapped (o : Observation) : Prop := missing o = [] ∧ o.clockEpoch = 0

instance (o : Observation) : Decidable (Uncapped o) :=
  inferInstanceAs (Decidable (missing o = [] ∧ o.clockEpoch = 0))

/-- The highest score of the observation. -/
def ceiling (o : Observation) : ℚ := if Uncapped o then 1 else 0.54

/-- The adapter's answer, as far as it depends on the length of the vector. -/
structure Concludes (P : Platform) (o : Observation) (result : HazardResult) : Prop where
  score : result.score = min (rawScore P o) (ceiling o)
  state : ∃ decision, decideWithMargin (rawScore P o) thresholds defaultMargin = .ok decision ∧
    result.stateHint = if Uncapped o then decision.state else if 0.20 ≤ result.score then .watch else .normal
  coverage : result.coverage = if (missing o).isEmpty then .sufficient
    else if (missing o).length = axes.length then .blind else .partially
  abstained : result.abstained = true ↔ (missing o = [] → NearThreshold (rawScore P o) thresholds)

theorem analyze_concludes (P : Platform) {o : Observation} (hazard : o.hazard = .earthquake) :
    ∃ result, analyze P o = .ok result ∧ Concludes P o result := by
  obtain ⟨low, high⟩ := rawScore_mem P o
  obtain ⟨decision, decided, abstains, -, -⟩ := decideWithMargin_ok low high thresholds_declared (by decide +kernel)
  refine ⟨_, by rw [analyze, if_neg (not_not.mpr hazard), decided], ?_⟩
  have unsafeClock : (0 < o.clockEpoch) ↔ ¬ o.clockEpoch = 0 := Nat.pos_iff_ne_zero
  constructor
  case coverage => rfl
  case abstained =>
    by_cases complete : missing o = []
    · simp [complete, abstains]
    · simp [complete]
  case score =>
    by_cases complete : missing o = [] <;> by_cases clock : o.clockEpoch = 0 <;>
      simp [cap, ceiling, Uncapped, complete, clock, unsafeClock, high]
  case state =>
    refine ⟨decision, decided, ?_⟩
    by_cases complete : missing o = [] <;> by_cases clock : o.clockEpoch = 0 <;>
      simp [cap, Uncapped, complete, clock, unsafeClock]

section

variable {P : Platform} {o o' : Observation} {result result' : HazardResult} {length : ℚ}

theorem uncapped_congr (gaps : missing o' = missing o) (clock : o'.clockEpoch = o.clockEpoch) :
    Uncapped o' ↔ Uncapped o := by
  rw [Uncapped, Uncapped, gaps, clock]

theorem ceiling_congr (gaps : missing o' = missing o) (clock : o'.clockEpoch = o.clockEpoch) : ceiling o' = ceiling o := by
  simp only [ceiling, uncapped_congr gaps clock]

/-- The length from which on the score is at its ceiling. -/
def saturation (o : Observation) : ℚ := if Uncapped o then 1.75 else 1.405

theorem saturation_eq (o : Observation) : saturation o = 1 + 0.75 * ceiling o := by
  unfold saturation ceiling
  split <;> norm_num

theorem ceiling_mem (o : Observation) : 0 < ceiling o ∧ ceiling o ≤ 1 := by
  unfold ceiling
  split <;> norm_num

theorem Concludes.score_eq_iff (here : Concludes P o result) (there : Concludes P o' result')
    (gaps : missing o' = missing o) (clock : o'.clockEpoch = o.clockEpoch) (nonneg : 0 ≤ length)
    (scored : rawScore P o = scoreOf length) (converted : rawScore P o' = scoreOf (standardGravity * length)) :
    result.score = result'.score ↔ standardGravity * length ≤ 1 ∨ saturation o ≤ length := by
  obtain ⟨positive, most⟩ := ceiling_mem o
  rw [here.score, there.score, scored, converted, ceiling_congr gaps clock, saturation_eq]
  exact capped_eq_iff nonneg positive most

theorem Concludes.abstained_eq_iff (here : Concludes P o result) (there : Concludes P o' result')
    (gaps : missing o' = missing o) (scored : rawScore P o = scoreOf length)
    (converted : rawScore P o' = scoreOf (standardGravity * length)) :
    result.abstained = result'.abstained ↔
      (missing o = [] → ¬ InMargin length ∧ ¬ InMargin (standardGravity * length)) := by
  have apart : ¬ (InMargin length ∧ InMargin (standardGravity * length)) :=
    fun both => not_inMargin_both both.1 both.2
  rw [Bool.eq_iff_iff, here.abstained, there.abstained, gaps, scored, converted, nearThreshold_iff, nearThreshold_iff]
  tauto

/-- The state follows the score: the decision is about it alone, and so is the cap. -/
theorem Concludes.state_eq (here : Concludes P o result) (there : Concludes P o' result')
    (gaps : missing o' = missing o) (clock : o'.clockEpoch = o.clockEpoch) (same : result.score = result'.score) :
    result.stateHint = result'.stateHint := by
  obtain ⟨decision, decided, state⟩ := here.state
  obtain ⟨decision', decided', state'⟩ := there.state
  rw [state, state', ← same]
  by_cases free : Uncapped o
  · have raw : rawScore P o = rawScore P o' := by
      have high := (rawScore_mem P o).2
      have high' := (rawScore_mem P o').2
      rwa [here.score, there.score, ceiling_congr gaps clock, ceiling, if_pos free, min_eq_left high,
        min_eq_left high'] at same
    rw [raw, decided'] at decided
    cases decided
    simp only [uncapped_congr gaps clock]
  · simp only [uncapped_congr gaps clock, free, if_false]

end

end Earthquake

/-! ## Two analyses of one shaking -/

/-- The two analyses say the same about the hazard. -/
structure SameAnalysis (result result' : AnalysisResult) : Prop where
  stateHint : result.stateHint = result'.stateHint
  score : result.score = result'.score
  coverage : result.coverage = result'.coverage
  abstained : result.abstained = result'.abstained

/-- The root of the conversion of a square is the conversion of its root. -/
structure RootScales (P : Platform) (square : ℚ) : Prop where
  nonneg : 0 ≤ P.sqrt square
  scales : P.sqrt (standardGravity * standardGravity * square) = standardGravity * P.sqrt square

/-- The data contributes nothing any more, or the vector is short or long enough in both units;
    and with all axes neither length is near a threshold. -/
def UnitFree (o : Observation) (length : ℚ) : Prop :=
  (5000 < o.captureAgeMs ∨ standardGravity * length ≤ 1 ∨ Earthquake.saturation (sanitized o) ≤ length) ∧
    (Earthquake.missing (sanitized o) = [] →
      ¬ Earthquake.InMargin length ∧ ¬ Earthquake.InMargin (standardGravity * length))

/-- The service's answer to a valid observation of an earthquake. -/
theorem analyze_earthquake (P : Platform) (latencyMs : ℚ) (a : AnalysisEngine) {o : Observation}
    (hazard : o.hazard = .earthquake) (valid : (validate o).valid = true) :
    ∃ result, (analyze P latencyMs o a).1 =
        .ok (stamp P o (expire (sanitized o) (withReasons result (validate o)))) ∧
      Earthquake.Concludes P (sanitized o) result := by
  have same : (sanitized o).hazard = .earthquake := hazard
  obtain ⟨result, ok, concludes⟩ := Earthquake.analyze_concludes P same
  have adapted : adapt P latencyMs (sanitized o) a = (.ok result, a) := by
    simp only [adapt, same, ok]
    rfl
  refine ⟨result, ?_, concludes⟩
  rw [analyze_of_valid P latencyMs a valid, Call.bind_of_ok adapted]
  rfl

/-- An observation in g and the same one in m/s2 are analysed the same exactly if the analysis does
    not depend on the unit at the length of its vector. -/
theorem same_analysis_in_metres_iff (P : Platform) (latencyMs : ℚ) (a a' : AnalysisEngine) {o : Observation}
    (hazard : o.hazard = .earthquake) (valid : (validate o).valid = true)
    (converted : (validate (inMetres o)).valid = true) (root : RootScales P (Earthquake.squares (sanitized o))) :
    (∃ result result', (analyze P latencyMs o a).1 = .ok result ∧ (analyze P latencyMs (inMetres o) a').1 = .ok result' ∧
      SameAnalysis result result') ↔ UnitFree o (Earthquake.magnitude P (sanitized o)) := by
  obtain ⟨result, returned, here⟩ := analyze_earthquake P latencyMs a hazard valid
  obtain ⟨result', returned', there⟩ := analyze_earthquake P latencyMs a' (o := inMetres o) hazard converted
  have gaps := Earthquake.missing_inMetres valid converted
  have clock : (sanitized (inMetres o)).clockEpoch = (sanitized o).clockEpoch := rfl
  have scored : Earthquake.rawScore P (sanitized o) = Earthquake.scoreOf (Earthquake.magnitude P (sanitized o)) := rfl
  have scored' : Earthquake.rawScore P (sanitized (inMetres o)) =
      Earthquake.scoreOf (standardGravity * Earthquake.magnitude P (sanitized o)) := by
    rw [Earthquake.rawScore_eq, Earthquake.magnitude, Earthquake.squares_inMetres valid converted, root.scales]
    rfl
  have scores := here.score_eq_iff there gaps clock root.nonneg scored scored'
  have abstentions := here.abstained_eq_iff there gaps scored scored'
  have coverages : result.coverage = result'.coverage := by rw [here.coverage, there.coverage, gaps]
  have answers : (∃ r r', (analyze P latencyMs o a).1 = .ok r ∧ (analyze P latencyMs (inMetres o) a').1 = .ok r' ∧
      SameAnalysis r r') ↔ SameAnalysis (stamp P o (expire (sanitized o) (withReasons result (validate o))))
        (stamp P (inMetres o) (expire (sanitized (inMetres o)) (withReasons result' (validate (inMetres o))))) := by
    simp [returned, returned']
  rw [answers, UnitFree, ← abstentions]
  by_cases expired : 5000 < o.captureAgeMs
  · have old : 5000 < (sanitized o).captureAgeMs := expired
    have old' : 5000 < (sanitized (inMetres o)).captureAgeMs := expired
    rw [expire, expire, if_pos old, if_pos old']
    simp only [expired, true_or, true_and]
    constructor
    · intro same
      exact same.abstained
    · intro abstained
      exact ⟨rfl, rfl, coverages, abstained⟩
  · have fresh : ¬ 5000 < (sanitized o).captureAgeMs := expired
    have fresh' : ¬ 5000 < (sanitized (inMetres o)).captureAgeMs := expired
    rw [expire, expire, if_neg fresh, if_neg fresh']
    simp only [expired, false_or]
    constructor
    · intro same
      exact ⟨scores.mp same.score, same.abstained⟩
    · rintro ⟨reached, abstained⟩
      have score := scores.mpr reached
      have state := here.state_eq there gaps clock score
      exact ⟨state, score, coverages, abstained⟩

/-- A sensor that reads a value along z and nothing along x and y, in g. -/
def alongZ (value : ℚ) : Observation where
  observationId := UUID.ofNat 1
  correlationId := UUID.ofNat 2
  sourceId := "imu"
  hazard := .earthquake
  sourceMode := .live
  bootId := "boot-a"
  observedAt := 0
  receivedAt := 0
  values := Dict.ofPairs [("accel_x", 0), ("accel_y", 0), ("accel_z", value)]
  units := Dict.ofPairs [("accel_x", "g"), ("accel_y", "g"), ("accel_z", "g")]
  qualityFlags := []
  sourceLineage := "lineage"
  clockEpoch := 0
  measurements := [axis "x" 0, axis "y" 0, axis "z" value]
where
  axis (name : String) (value : ℚ) : MeasurementValue :=
    { observedPropertyId := "accel_" ++ name
      value := value
      unit := "g"
      uncertainty := some 0.01
      statistic := .instantaneous
      axis := some name
      orientation := some "device"
      reference := some "gravity"
      sourceValueKey := "accel_" ++ name }

def freshEngine : AnalysisEngine := ⟨Dict.empty⟩

/-- Twice the acceleration of gravity is confirmed in both units. -/
theorem strongMotion_same_in_metres :
    ∃ result result', (analyze .mixing 0 (alongZ 2) freshEngine).1 = .ok result ∧
      (analyze .mixing 0 (inMetres (alongZ 2)) freshEngine).1 = .ok result' ∧ SameAnalysis result result' :=
  (same_analysis_in_metres_iff .mixing 0 freshEngine freshEngine rfl (by decide +kernel) (by decide +kernel)
    ⟨by decide +kernel, by decide +kernel⟩).mpr
    ⟨.inr (.inr (by decide +kernel)), fun _ => ⟨by unfold Earthquake.InMargin; decide +kernel,
      by unfold Earthquake.InMargin; decide +kernel⟩⟩

theorem answer_of_toOption {answer : Except Error AnalysisResult} {state : IncidentState} {score : ℚ}
    (told : answer.toOption.map (fun result => (result.stateHint, result.score)) = some (state, score)) :
    ∃ result, answer = .ok result ∧ result.stateHint = state ∧ result.score = score := by
  cases answer with
  | error error => cases told
  | ok result =>
      obtain ⟨hint, number⟩ := Prod.mk.inj (Option.some.inj told)
      exact ⟨result, rfl, hint, number⟩

/-- A sensor at rest is normal in g and a confirmed earthquake in m/s2. -/
theorem rest_is_confirmed_in_metres :
    (validate (alongZ 1)).valid = true ∧ (validate (inMetres (alongZ 1))).valid = true ∧
      (∃ result, (analyze .mixing 0 (alongZ 1) freshEngine).1 = .ok result ∧
        result.stateHint = .normal ∧ result.score = 0) ∧
      (∃ result, (analyze .mixing 0 (inMetres (alongZ 1)) freshEngine).1 = .ok result ∧
        result.stateHint = .confirmed ∧ result.score = 1) ∧
      ¬ ∃ result result', (analyze .mixing 0 (alongZ 1) freshEngine).1 = .ok result ∧
        (analyze .mixing 0 (inMetres (alongZ 1)) freshEngine).1 = .ok result' ∧ SameAnalysis result result' := by
  obtain ⟨result, returned, state, score⟩ :
      ∃ result, (analyze .mixing 0 (alongZ 1) freshEngine).1 = .ok result ∧ result.stateHint = .normal ∧ result.score = 0 :=
    answer_of_toOption (by decide +kernel)
  obtain ⟨result', returned', state', score'⟩ :
      ∃ result, (analyze .mixing 0 (inMetres (alongZ 1)) freshEngine).1 = .ok result ∧
        result.stateHint = .confirmed ∧ result.score = 1 :=
    answer_of_toOption (by decide +kernel)
  refine ⟨by decide +kernel, by decide +kernel, ⟨result, returned, state, score⟩, ⟨result', returned', state', score'⟩, ?_⟩
  rintro ⟨first, second, here, there, same⟩
  cases returned.symm.trans here
  cases returned'.symm.trans there
  have equal := same.stateHint
  rw [state, state'] at equal
  cases equal

end SentinelEdge.Analysis
