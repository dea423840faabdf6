import Mathlib.Data.List.Infix
import SentinelEdge.Domain.Observations

/-! # The measurement contract

`MeasurementRegistry`: which properties exist, in which units and ranges, and
which measurements of an observation hazard logic may use.
-/

namespace SentinelEdge.Analysis

open Foundation Domain

structure PropertyDefinition where
  propertyId : String
  allowedUnits : List String
  minimum : Option ℚ := none
  maximum : Option ℚ := none
  statistic : Option MeasurementStatistic := none
  requiresReference : Bool := false
  requiresOrientation : Bool := false
  allowedAxes : List String := []

/-- `_DEFAULTS` -/
def defaults : List PropertyDefinition := [
  ratio "smoke_score",
  ratio "flame_score",
  ratio "temporal_persistence",
  acceleration "accel_x" "x",
  acceleration "accel_y" "y",
  acceleration "accel_z" "z",
  { propertyId := "water_level_m", allowedUnits := ["m"], minimum := some (-1000), maximum := some 10000,
    requiresReference := true, requiresOrientation := true },
  { propertyId := "rate_of_rise_m_per_h", allowedUnits := ["m/h"], minimum := some (-1000), maximum := some 1000,
    statistic := some .rate, requiresReference := true, requiresOrientation := true },
  { propertyId := "rainfall_mm_h", allowedUnits := ["mm/h"], minimum := some 0, maximum := some 10000,
    statistic := some .rate },
  ratio "soil_moisture_fraction",
  { propertyId := "tilt_rate_deg_h", allowedUnits := ["deg/h"], minimum := some (-10000), maximum := some 10000,
    statistic := some .rate, requiresReference := true, requiresOrientation := true },
  { propertyId := "vibration_rms", allowedUnits := ["g", "m/s2"], minimum := some 0, maximum := some 1000,
    statistic := some .rms, requiresReference := true },
  ratio "flood_susceptibility",
  ratio "landslide_susceptibility",
  ratio "seismic_context_score",
  { propertyId := "camera_luminance", allowedUnits := ["level"], minimum := some 0, maximum := some 255 },
  { propertyId := "camera_blur_score", allowedUnits := ["score", "ratio"], minimum := some 0, maximum := some 1 },
  ratio "camera_occlusion_fraction",
  ratio "camera_frame_change"]
where
  ratio (propertyId : String) : PropertyDefinition :=
    { propertyId := propertyId, allowedUnits := ["ratio"], minimum := some 0, maximum := some 1 }
  acceleration (propertyId axis : String) : PropertyDefinition :=
    { propertyId := propertyId, allowedUnits := ["g", "m/s2"], minimum := some (-1000), maximum := some 1000,
      requiresReference := true, requiresOrientation := true, allowedAxes := [axis] }

def definition (propertyId : String) : Option PropertyDefinition :=
  defaults.find? (fun item => item.propertyId = propertyId)

structure MeasurementContractReport where
  valid : Bool
  usableProperties : List String
  invalidProperties : List String
  suspectProperties : List String
  fusionAllowed : Bool
  reasonCodes : List String
  deriving DecidableEq

/-- What the loop of `validate` has collected so far. -/
structure Scan where
  reasons : List String := []
  invalid : List String := []
  suspect : List String := []
  usable : List String := []
  references : List (String × String) := []
  seen : List String := []
  fusionAllowed : Bool := true

/-- `part in text` -/
def contains (text part : String) : Bool := decide (part.toList <:+: text.toList)

/-- `text.startswith(heads)` -/
def startsWith (text : String) (heads : List String) : Bool :=
  heads.any (fun head => head.toList.isPrefixOf text.toList)

/-- `not text` -/
def isAbsent (text : Option String) : Bool := text.all (fun t => t = "")

/-- The first check of a measurement against its definition that fails. -/
def contractBreach (key : String) (m : MeasurementValue) (d : PropertyDefinition) : Option String :=
  if m.unit ∉ d.allowedUnits then some ("unit_not_admissible:" ++ key ++ ":" ++ m.unit)
  else if d.minimum.any (fun low => m.value < low) then some ("below_property_range:" ++ key)
  else if d.maximum.any (fun high => high < m.value) then some ("above_property_range:" ++ key)
  else if d.statistic.any (fun s => m.statistic ≠ s) then some ("statistic_mismatch:" ++ key)
  else if ¬ d.allowedAxes.isEmpty ∧ ¬ m.axis.any (fun axis => axis ∈ d.allowedAxes) then some ("axis_mismatch:" ++ key)
  else if d.requiresOrientation ∧ isAbsent m.orientation then some ("orientation_missing:" ++ key)
  else if d.requiresReference ∧ isAbsent m.reference then some ("reference_missing:" ++ key)
  else none

/-- The reference of a measurement that needs one. -/
def Scan.refer (scan : Scan) (key : String) (m : MeasurementValue) (d : PropertyDefinition) : Scan :=
  match m.reference with
  | some reference =>
      if d.requiresReference then
        let scan := { scan with references := scan.references ++ [(key, reference)] }
        if contains reference "unqualified" then
          { scan with fusionAllowed := false, reasons := scan.reasons ++ ["reference_unqualified:" ++ key] }
        else scan
      else scan
  | none => scan

/-- The quality of a measurement that keeps its contract. -/
def Scan.accept (scan : Scan) (key : String) (m : MeasurementValue) : Scan :=
  if m.quality = .invalid ∨ m.quality = .missing then
    { scan with
      invalid := scan.invalid ++ [key]
      reasons := scan.reasons ++ ["quality_not_usable:" ++ key ++ ":" ++ m.quality.value] }
  else
    let scan := if m.quality = .suspect then
        { scan with suspect := scan.suspect ++ [key], reasons := scan.reasons ++ ["quality_suspect:" ++ key] }
      else scan
    let scan := { scan with usable := scan.usable ++ [key] }
    if m.uncertainty = none then { scan with reasons := scan.reasons ++ ["uncertainty_unknown:" ++ key] } else scan

/-- One measurement. -/
def Scan.check (scan : Scan) (m : MeasurementValue) : Scan :=
  let key := m.sourceValueKey
  let refuse (scan : Scan) (reason : String) : Scan :=
    { scan with invalid := scan.invalid ++ [key], reasons := scan.reasons ++ [reason] }
  if key ∈ scan.seen then refuse scan ("duplicate_property:" ++ key)
  else
    let scan := { scan with seen := scan.seen ++ [key] }
    match definition m.observedPropertyId with
    | none => refuse scan ("unknown_property:" ++ key)
    | some d =>
        match contractBreach key m d with
        | some reason => refuse scan reason
        | none => (scan.refer key m d).accept key m

/-- Families of measurements whose references must agree to be fused. -/
def Scan.families (scan : Scan) : List (String × List String) :=
  let referencesOf (belongs : String → Bool) := (scan.references.filter (fun r => belongs r.1)).map Prod.snd
  [("motion", referencesOf (fun k => startsWith k ["accel_"] || contains k "tilt" || contains k "vibration")),
   ("vertical", referencesOf (fun k => contains k "water_level" || contains k "elevation" || contains k "depth"))]

/-- Reasons that make the whole observation invalid. -/
def structuralReasons : List String :=
  ["duplicate_property:", "unknown_property:", "unit_not_admissible:", "below_property_range:",
   "above_property_range:", "statistic_mismatch:", "axis_mismatch:", "orientation_missing:", "reference_missing:",
   "measurement_cardinality_mismatch"]

/-- `validate` -/
def validate (o : Observation) : MeasurementContractReport :=
  let scan := o.measurements.foldl Scan.check {}
  let uncovered := o.values.keys.filter (fun key => key ∉ scan.seen)
  let mismatch : Bool := ¬ uncovered.isEmpty ∨ ∃ key ∈ scan.seen, key ∉ o.values.keys
  let incompatible := scan.families.filter (fun family => ∃ a ∈ family.2, ∃ b ∈ family.2, a ≠ b)
  let reasons := scan.reasons ++ (if mismatch then ["measurement_cardinality_mismatch"] else []) ++
    incompatible.map (fun family => "reference_incompatible:" ++ family.1)
  let valid := ¬ reasons.any (fun code => startsWith code structuralReasons)
  { valid := valid
    usableProperties := sortedSet scan.usable
    invalidProperties := sortedSet (scan.invalid ++ uncovered)
    suspectProperties := sortedSet scan.suspect
    fusionAllowed := scan.fusionAllowed ∧ incompatible.isEmpty
    reasonCodes := sortedSet (reasons ++ if valid then ["measurement_contract_valid"] else []) }

/-- The observation with what its report lets hazard logic use. -/
def sanitized (o : Observation) : Observation :=
  let usable (key : String) : Bool := key ∈ (validate o).usableProperties
  { o with
    values := o.values.restrict usable
    units := o.units.restrict usable
    measurements := o.measurements.filter (fun m => usable m.sourceValueKey)
    qualityFlags := sortedSet (o.qualityFlags ++ (validate o).reasonCodes.map (fun code => "measurement:" ++ code)) }

/-- `sanitize` -/
def sanitize (o : Observation) : Except Error (Observation × MeasurementContractReport) :=
  if (validate o).valid then .ok (sanitized o, validate o)
  else .error (.valueError ("invalid measurement contract: " ++ ",".intercalate (validate o).reasonCodes))

/-! ## What a valid observation lets through -/

/-- A reason that makes the observation invalid. -/
def Structural (reason : String) : Prop := ∃ head ∈ structuralReasons, ∃ rest, reason = head ++ rest

theorem Structural.of_head {head : String} (listed : head ∈ structuralReasons) (rest : String) :
    Structural (head ++ rest) := ⟨head, listed, rest, rfl⟩

theorem startsWith_structural_iff (reason : String) : startsWith reason structuralReasons = true ↔ Structural reason := by
  simp only [startsWith, List.any_eq_true, List.isPrefixOf_iff_prefix, Structural]
  refine exists_congr fun head => and_congr_right fun _ => ?_
  constructor
  · rintro ⟨rest, whole⟩
    refine ⟨String.ofList rest, ?_⟩
    rw [← String.toList_inj, String.toList_append, String.toList_ofList, whole]
  · rintro ⟨rest, rfl⟩
    exact ⟨rest.toList, by simp⟩

theorem contractBreach_structural {key : String} {m : MeasurementValue} {d : PropertyDefinition} {reason : String}
    (breach : contractBreach key m d = some reason) : Structural reason := by
  unfold contractBreach at breach
  split at breach
  · have shape : reason = "unit_not_admissible:" ++ (key ++ ":" ++ m.unit) := by
      simpa [String.append_assoc] using (Option.some.inj breach).symm
    exact shape ▸ .of_head (by simp [structuralReasons]) _
  · split_ifs at breach <;> cases breach <;> exact .of_head (by simp [structuralReasons]) _

/-- The quality lets hazard logic use the value. -/
def isUsable (m : MeasurementValue) : Bool := ¬ (m.quality = .invalid ∨ m.quality = .missing)

namespace Scan

/-- Nothing makes the observation invalid so far. -/
def Clean (scan : Scan) : Prop := ∀ reason ∈ scan.reasons, ¬ Structural reason

theorem refer_usable (scan : Scan) (key : String) (m : MeasurementValue) (d : PropertyDefinition) :
    (scan.refer key m d).usable = scan.usable := by
  unfold refer
  split
  · simp only
    split_ifs <;> rfl
  · rfl

theorem refer_reasons (scan : Scan) (key : String) (m : MeasurementValue) (d : PropertyDefinition) :
    scan.reasons ⊆ (scan.refer key m d).reasons := by
  unfold refer
  split
  · simp only
    split_ifs <;> simp
  · simp

theorem accept_usable (scan : Scan) (key : String) (m : MeasurementValue) :
    (scan.accept key m).usable = scan.usable ++ if isUsable m then [key] else [] := by
  by_cases refused : m.quality = .invalid ∨ m.quality = .missing
  · simp [accept, isUsable, refused]
  · simp only [accept, refused, if_false, isUsable, not_false_eq_true, decide_true, if_true]
    split_ifs <;> rfl

theorem accept_reasons (scan : Scan) (key : String) (m : MeasurementValue) :
    scan.reasons ⊆ (scan.accept key m).reasons := by
  unfold accept
  simp only
  split_ifs <;> simp

/-- A measurement that keeps the scan clean is the first of its key and keeps its contract. -/
theorem check_clean {scan : Scan} {m : MeasurementValue} (clean : (scan.check m).Clean) :
    m.sourceValueKey ∉ scan.seen ∧ ∃ d, definition m.observedPropertyId = some d ∧
      contractBreach m.sourceValueKey m d = none := by
  have refused (reason : String) (structural : Structural reason) (here : reason ∈ (scan.check m).reasons) : False :=
    clean reason here structural
  by_cases repeated : m.sourceValueKey ∈ scan.seen
  · have here : "duplicate_property:" ++ m.sourceValueKey ∈ (scan.check m).reasons := by simp [check, repeated]
    exact (refused _ (.of_head (by simp [structuralReasons]) _) here).elim
  · refine ⟨repeated, ?_⟩
    cases known : definition m.observedPropertyId with
    | none =>
        have here : "unknown_property:" ++ m.sourceValueKey ∈ (scan.check m).reasons := by simp [check, repeated, known]
        exact (refused _ (.of_head (by simp [structuralReasons]) _) here).elim
    | some d =>
        cases breach : contractBreach m.sourceValueKey m d with
        | some reason =>
            have here : reason ∈ (scan.check m).reasons := by simp [check, repeated, known, breach]
            exact (refused _ (contractBreach_structural breach) here).elim
        | none => exact ⟨d, rfl, breach⟩

theorem check_kept {scan : Scan} {m : MeasurementValue} {d : PropertyDefinition} (first : m.sourceValueKey ∉ scan.seen)
    (known : definition m.observedPropertyId = some d) (kept : contractBreach m.sourceValueKey m d = none) :
    scan.check m = (Scan.refer { scan with seen := scan.seen ++ [m.sourceValueKey] }
      m.sourceValueKey m d).accept m.sourceValueKey m := by simp [check, first, known, kept]

/-- Then only its quality decides. -/
theorem check_usable {scan : Scan} {m : MeasurementValue} (clean : (scan.check m).Clean) :
    scan.Clean ∧ (scan.check m).usable = scan.usable ++ if isUsable m then [m.sourceValueKey] else [] := by
  obtain ⟨first, d, known, kept⟩ := check_clean clean
  rw [check_kept first known kept] at clean ⊢
  refine ⟨fun reason here => clean reason ?_, by rw [accept_usable, refer_usable]⟩
  exact accept_reasons _ _ _ (refer_reasons { scan with seen := scan.seen ++ [m.sourceValueKey] } _ _ _ here)

theorem run_usable {scan : Scan} (measurements : List MeasurementValue) (clean : (measurements.foldl check scan).Clean) :
    scan.Clean ∧ (measurements.foldl check scan).usable =
      scan.usable ++ (measurements.filter isUsable).map MeasurementValue.sourceValueKey := by
  induction measurements generalizing scan with
  | nil => exact ⟨clean, by simp⟩
  | cons m rest ih =>
      obtain ⟨next, collected⟩ := ih clean
      obtain ⟨start, taken⟩ := check_usable next
      refine ⟨start, ?_⟩
      rw [List.foldl_cons, collected, taken, List.filter_cons]
      cases isUsable m <;> simp

end Scan

theorem Scan.clean_iff (scan : Scan) :
    scan.reasons.any (fun code => startsWith code structuralReasons) = false ↔ scan.Clean := by
  simp only [List.any_eq_false, startsWith_structural_iff, Scan.Clean]

/-- References that do not agree only stop the fusion. -/
theorem Scan.families_harmless (scan : Scan) (p : String × List String → Bool) :
    ((scan.families.filter p).map (fun family => "reference_incompatible:" ++ family.1)).any
      (fun code => startsWith code structuralReasons) = false := by
  have names : ∀ name ∈ ["motion", "vertical"], startsWith ("reference_incompatible:" ++ name) structuralReasons = false := by
    decide +kernel
  simp only [List.any_map, List.any_eq_false, Function.comp_apply, List.mem_filter, Bool.not_eq_true]
  intro family here
  apply names
  have listed := here.1
  simp only [Scan.families, List.mem_cons, List.not_mem_nil, or_false] at listed
  obtain rfl | rfl := listed <;> simp

theorem Scan.cardinality_iff (scan : Scan) (keys : List String) :
    (if ¬ (keys.filter (fun key => key ∉ scan.seen)).isEmpty ∨ ∃ key ∈ scan.seen, key ∉ keys then
      ["measurement_cardinality_mismatch"] else []).any (fun code => startsWith code structuralReasons) = false ↔
      ∀ key, key ∈ scan.seen ↔ key ∈ keys := by
  have structural : startsWith "measurement_cardinality_mismatch" structuralReasons = true := by decide +kernel
  have covered : ¬ (¬ (keys.filter (fun key => key ∉ scan.seen)).isEmpty ∨ ∃ key ∈ scan.seen, key ∉ keys) ↔
      ∀ key, key ∈ scan.seen ↔ key ∈ keys := by
    simp only [List.isEmpty_iff, List.filter_eq_nil_iff, decide_eq_true_eq, not_or, not_exists, not_and, not_not]
    exact ⟨fun both key => ⟨both.2 key, both.1 key⟩, fun same => ⟨fun key => (same key).mpr, fun key => (same key).mp⟩⟩
  rw [← covered]
  split
  case isTrue mismatch => exact iff_of_false (by simp [structural]) (not_not.mpr mismatch)
  case isFalse balanced => exact iff_of_true rfl balanced

/-- Valid is what has no refused measurement and no value without one. -/
theorem validate_valid_iff (o : Observation) :
    (validate o).valid = true ↔ (o.measurements.foldl Scan.check {}).Clean ∧
      ∀ key, key ∈ (o.measurements.foldl Scan.check {}).seen ↔ key ∈ o.values.keys := by
  rw [← Scan.clean_iff, ← Scan.cardinality_iff]
  simp only [validate, List.any_append, Scan.families_harmless, Bool.or_false, decide_eq_true_eq, Bool.not_eq_true,
    Bool.or_eq_false_iff]

/-- In a valid observation only the quality of a measurement decides about its use. -/
theorem usableProperties_of_valid {o : Observation} (valid : (validate o).valid = true) :
    (validate o).usableProperties =
      sortedSet ((o.measurements.filter isUsable).map MeasurementValue.sourceValueKey) := by
  have clean := ((validate_valid_iff o).mp valid).1
  have collected := (Scan.run_usable o.measurements clean).2
  show sortedSet (o.measurements.foldl Scan.check {}).usable = _
  rw [collected]
  rfl

end SentinelEdge.Analysis
