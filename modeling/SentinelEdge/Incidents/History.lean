import Mathlib.Data.List.Chain
import SentinelEdge.Incidents.Commands

/-! # Legal histories of one hazard

A history lists the journalled versions of one hazard. `Succeeds` says what a
new version may be after the current one; every path of the engine that writes
a version satisfies it, and it is all that is needed to keep a history legal.
-/

namespace SentinelEdge.Incidents

open Foundation Domain Storage

variable {P : Platform}

/-- The journalled versions of one hazard, oldest first. -/
def history (s : Store P) (hazard : HazardKind) : List IncidentRecord :=
  s.journal.filter (fun r => r.hazard = hazard)

/-- One version after another: an allowed change of state, and a watermark that
    does not go back. -/
structure Follows (a b : IncidentRecord) : Prop where
  state : b.state ∈ allowed a.state
  watermark : ∃ w ∈ a.eventTimeWatermark, ∃ w' ∈ b.eventTimeWatermark, w ≤ w'

structure Legal (versions : List IncidentRecord) : Prop where
  numbered : ∀ (i : Nat) (r : IncidentRecord), versions[i]? = some r → r.version = i + 1
  incident : ∀ r ∈ versions, ∀ r' ∈ versions, r.incidentId = r'.incidentId
  chain : versions.IsChain Follows
  stamped : ∀ r ∈ versions, r.eventTimeWatermark.isSome
  distinct : ∀ r ∈ versions, r.analysisIds.Nodup

/-- A version that may come after the current one, or open the incident. -/
structure Succeeds (current : Option IncidentRecord) (r : IncidentRecord) : Prop where
  incident : ∀ c ∈ current, r.incidentId = c.incidentId
  hazard : ∀ c ∈ current, r.hazard = c.hazard
  version : r.version = (current.map IncidentRecord.version).getD 0 + 1
  state : r.state ∈ allowed (previousState current)
  watermark : ∃ w' ∈ r.eventTimeWatermark, ∀ c ∈ current, ∀ w ∈ c.eventTimeWatermark, w ≤ w'
  distinct : (∀ c ∈ current, c.analysisIds.Nodup) → r.analysisIds.Nodup

theorem legal_nil : Legal [] where
  numbered := by simp
  incident := by simp
  chain := .nil
  stamped := by simp
  distinct := by simp

theorem Legal.version_last {versions : List IncidentRecord} (legal : Legal versions) :
    (versions.getLast?.map IncidentRecord.version).getD 0 = versions.length := by
  rcases List.eq_nil_or_concat' versions with rfl | ⟨front, last, rfl⟩
  · rfl
  · have numbered := legal.numbered front.length last (by simp)
    simp [numbered]

theorem Legal.version_le {versions : List IncidentRecord} (legal : Legal versions) :
    ∀ r ∈ versions, r.version ≤ versions.length := by
  intro r member
  obtain ⟨i, bound, rfl⟩ := List.getElem_of_mem member
  have := legal.numbered i versions[i] (List.getElem?_eq_getElem bound)
  omega

/-- A version number names one version. -/
theorem Legal.eq_of_version {versions : List IncidentRecord} (legal : Legal versions) {r r' : IncidentRecord}
    (member : r ∈ versions) (member' : r' ∈ versions) (same : r.version = r'.version) : r = r' := by
  obtain ⟨i, bound, rfl⟩ := List.getElem_of_mem member
  obtain ⟨j, bound', rfl⟩ := List.getElem_of_mem member'
  have left := legal.numbered i versions[i] (List.getElem?_eq_getElem bound)
  have right := legal.numbered j versions[j] (List.getElem?_eq_getElem bound')
  have index : i = j := by omega
  subst index
  rfl

/-- A legal history extended by a successor of its last version is legal. -/
theorem Legal.snoc {versions : List IncidentRecord} {r : IncidentRecord} (legal : Legal versions)
    (succeeds : Succeeds versions.getLast? r) : Legal (versions ++ [r]) where
  numbered := by
    intro i r' here
    rcases Nat.lt_or_ge i versions.length with inside | beyond
    · rw [List.getElem?_append_left inside] at here
      exact legal.numbered i r' here
    · rw [List.getElem?_append_right beyond] at here
      have last : i - versions.length = 0 := by
        by_contra more
        rw [List.getElem?_eq_none (by simp; omega)] at here
        cases here
      rw [last] at here
      obtain rfl : r = r' := by simpa using here
      rw [succeeds.version, legal.version_last]
      omega
  incident := by
    have joins : ∀ c ∈ versions, r.incidentId = c.incidentId := by
      intro c member
      rcases List.eq_nil_or_concat' versions with rfl | ⟨front, last, rfl⟩
      · cases member
      · rw [succeeds.incident last (by simp)]
        exact legal.incident last (by simp) c member
    intro a ha b hb
    rcases List.mem_append.mp ha with ha | ha <;> rcases List.mem_append.mp hb with hb | hb
    · exact legal.incident a ha b hb
    · rw [List.mem_singleton.mp hb]
      exact (joins a ha).symm
    · rw [List.mem_singleton.mp ha]
      exact joins b hb
    · rw [List.mem_singleton.mp ha, List.mem_singleton.mp hb]
  chain := by
    apply legal.chain.append (.singleton r)
    intro last is_last r' is_r
    obtain rfl : r = r' := by simpa using is_r
    have member : last ∈ versions := List.mem_of_getLast? is_last
    obtain ⟨w, here⟩ := Option.isSome_iff_exists.mp (legal.stamped last member)
    obtain ⟨w', there, above⟩ := succeeds.watermark
    refine ⟨?_, w, here, w', there, above last is_last w here⟩
    have state := succeeds.state
    rw [Option.mem_def.mp is_last] at state
    exact state
  stamped := by
    intro a ha
    rcases List.mem_append.mp ha with ha | ha
    · exact legal.stamped a ha
    · rw [List.mem_singleton.mp ha]
      obtain ⟨w', there, -⟩ := succeeds.watermark
      exact Option.isSome_iff_exists.mpr ⟨w', there⟩
  distinct := by
    intro a ha
    rcases List.mem_append.mp ha with ha | ha
    · exact legal.distinct a ha
    · rw [List.mem_singleton.mp ha]
      exact succeeds.distinct (fun c is_last => legal.distinct c (List.mem_of_getLast? is_last))

/-! ## The versions the engine writes -/

private theorem nodup_snoc {ids : List UUID} {id : UUID} (nodup : ids.Nodup) (new : id ∉ ids) : (ids ++ [id]).Nodup := by
  rw [← List.concat_eq_append]
  exact nodup.concat new

/-- Every state may be kept. -/
theorem allowed_self (state : IncidentState) : state ∈ allowed state := by
  cases state <;> decide

theorem lateCorrection_succeeds {current : IncidentRecord} {analysis : AnalysisResult} {acceptedAt : DateTime}
    (stamped : current.eventTimeWatermark.isSome) (new : analysis.analysisId ∉ current.analysisIds) :
    Succeeds (some current) (lateCorrection current analysis acceptedAt) where
  incident := by simp [lateCorrection]
  hazard := by simp [lateCorrection]
  version := rfl
  state := allowed_self current.state
  watermark := by
    obtain ⟨w, here⟩ := Option.isSome_iff_exists.mp stamped
    exact ⟨w, here, by simp [here]⟩
  distinct := by
    intro nodup
    exact nodup_snoc (nodup current rfl) new

theorem nextRecord_succeeds {current : Option IncidentRecord} {analysis : AnalysisResult} (acceptedAt : DateTime)
    (hazard : ∀ c ∈ current, analysis.hazard = c.hazard) (new : ∀ c ∈ current, analysis.analysisId ∉ c.analysisIds)
    (legal : (assess current analysis).1 ∈ allowed (previousState current)) :
    Succeeds current (nextRecord P current analysis acceptedAt) where
  incident := by
    rintro c rfl
    rfl
  hazard := hazard
  version := by cases current <;> rfl
  state := legal
  watermark := by
    cases current with
    | none => exact ⟨eventTime analysis, rfl, by simp⟩
    | some c =>
        cases stamped : c.eventTimeWatermark with
        | none => exact ⟨eventTime analysis, by simp [nextRecord, stamped], by simp [stamped]⟩
        | some w =>
            refine ⟨max (eventTime analysis) w, by simp [nextRecord, stamped], ?_⟩
            intro c' same w' here
            obtain rfl : c = c' := Option.some.inj same
            rw [stamped] at here
            obtain rfl : w = w' := Option.some.inj here
            exact le_max_right _ _
  distinct := by
    intro nodup
    cases current with
    | none => simp [nextRecord]
    | some c => exact nodup_snoc (nodup c rfl) (new c rfl)

theorem commandedRecord_succeeds {current : IncidentRecord} {command : IncidentStatusCommand} {target : IncidentState}
    {confidence : ℚ} (stamped : current.eventTimeWatermark.isSome) (legal : target ∈ allowed current.state) :
    Succeeds (some current) (StatusCommand.commandedRecord command current target confidence) where
  incident := by simp [StatusCommand.commandedRecord]
  hazard := by simp [StatusCommand.commandedRecord]
  version := rfl
  state := legal
  watermark := by
    obtain ⟨w, here⟩ := Option.isSome_iff_exists.mp stamped
    exact ⟨w, here, by simp [here]⟩
  distinct := fun nodup => nodup current rfl

end SentinelEdge.Incidents
