import SentinelEdge.Incidents.Steps

/-! # Histories, the projection and a restart

Every hazard has a legal history after any run. `latest_by_hazard` picks the
versions that are maximal for their hazard: in a legal history that is the last
version alone, so an engine built on the store sees what the running engine
keeps in memory.
-/

namespace SentinelEdge.Incidents

open Foundation Domain Storage

variable {P : Platform} {e : Engine P}

private theorem foldr_max_le {values : List Nat} {bound : Nat} (below : ∀ v ∈ values, v ≤ bound) :
    values.foldr max 0 ≤ bound := by
  induction values with
  | nil => exact Nat.zero_le bound
  | cons v rest ih =>
      exact max_le (below v List.mem_cons_self) (ih (fun w member => below w (List.mem_cons_of_mem _ member)))

private theorem le_foldr_max {values : List Nat} {v : Nat} (member : v ∈ values) : v ≤ values.foldr max 0 := by
  induction values with
  | nil => cases member
  | cons w rest ih =>
      rcases List.mem_cons.mp member with rfl | later
      · exact le_max_left _ _
      · exact le_trans (ih later) (le_max_right _ _)

theorem Invariant.maxVersion (inv : Invariant e) (hazard : HazardKind) :
    e.store.maxVersion hazard = (history e.store hazard).length := by
  have legal := inv.legal hazard
  apply le_antisymm
  · refine foldr_max_le fun v member => ?_
    obtain ⟨r, known, rfl⟩ := List.mem_map.mp member
    exact legal.version_le r known
  · cases last : (history e.store hazard).getLast? with
    | none =>
        rw [List.getLast?_eq_none_iff.mp last]
        exact Nat.zero_le _
    | some r =>
        have version := legal.version_last
        rw [last] at version
        rw [← version]
        exact le_foldr_max (List.mem_map_of_mem (List.mem_of_getLast? last))

/-- The maximal version of a legal history is its last. -/
theorem Legal.filter_last {versions : List IncidentRecord} (legal : Legal versions) :
    versions.filter (fun r => r.version = versions.length) = versions.getLast?.toList := by
  rcases List.eq_nil_or_concat' versions with rfl | ⟨front, last, rfl⟩
  · rfl
  · have older : front.filter (fun r => r.version = (front ++ [last]).length) = [] := by
      rw [List.filter_eq_nil_iff]
      intro r member
      obtain ⟨i, bound, rfl⟩ := List.getElem_of_mem member
      have := legal.numbered i front[i] (by rw [List.getElem?_append_left bound]; exact List.getElem?_eq_getElem bound)
      simp
      omega
    have newest : last.version = (front ++ [last]).length := by
      have := legal.numbered front.length last (by simp)
      simpa using this
    rw [List.filter_append, older, List.filter_singleton]
    simp [newest]

/-- What `latest_by_hazard` returns for one hazard is its last version. -/
theorem Invariant.latest_filter (inv : Invariant e) (hazard : HazardKind) :
    e.store.latestByHazard.filter (fun r => r.hazard = hazard) = (history e.store hazard).getLast?.toList := by
  have sorted : e.store.latestByHazard.filter (fun r => r.hazard = hazard) |>.Perm
      ((e.store.journal.filter (fun r => r.version = e.store.maxVersion r.hazard)).filter (fun r => r.hazard = hazard)) :=
    (List.perm_insertionSort _ _).filter _
  have swapped : (e.store.journal.filter (fun r => r.version = e.store.maxVersion r.hazard)).filter
      (fun r => r.hazard = hazard) = (history e.store hazard).filter (fun r => r.version = (history e.store hazard).length) := by
    rw [List.filter_filter, history, List.filter_filter]
    refine List.filter_congr fun r _ => ?_
    by_cases same : r.hazard = hazard
    · subst same
      simp [inv.maxVersion, history]
    · simp [same]
  rw [swapped, (inv.legal hazard).filter_last] at sorted
  cases last : (history e.store hazard).getLast? with
  | none =>
      rw [last] at sorted
      exact sorted.eq_nil
  | some r =>
      rw [last] at sorted
      exact List.perm_singleton.mp sorted

/-- A second engine built on the store has the same current incidents. -/
theorem Invariant.restart (inv : Invariant e) (budget : Int) (authorizer : Security.CommandAuthorizer)
    (hazard : HazardKind) : (Engine.init e.store budget authorizer).current.get? hazard = e.current.get? hazard := by
  show (Dict.ofList IncidentRecord.hazard e.store.latestByHazard).get? hazard = _
  rw [Dict.get?_ofList, inv.latest_filter, inv.current]
  cases (history e.store hazard).getLast? <;> rfl

theorem Invariant.latest_nodup (inv : Invariant e) : (e.store.latestByHazard.map IncidentRecord.hazard).Nodup := by
  rw [List.nodup_iff_count_le_one]
  intro hazard
  have counted : (e.store.latestByHazard.map IncidentRecord.hazard).count hazard =
      (e.store.latestByHazard.filter (fun r => r.hazard = hazard)).length := by
    rw [List.count, List.countP_map, List.countP_eq_length_filter]
    rfl
  rw [counted, inv.latest_filter]
  cases (history e.store hazard).getLast? <;> simp

theorem Invariant.projection_valid (inv : Invariant e) :
    ∃ report, projectionConformance e = .ok report ∧ report.valid = true := by
  obtain ⟨log, rep⟩ := inv.well.represented
  have same := inv.restart 0 e.commandAuthorizer
  have keys (hazard : HazardKind) : hazard ∈ (Dict.ofList IncidentRecord.hazard e.store.latestByHazard).keys ↔
      hazard ∈ e.current.keys := by
    rw [Dict.mem_keys_iff, Dict.mem_keys_iff]
    rw [show (Dict.ofList IncidentRecord.hazard e.store.latestByHazard).get? hazard = e.current.get? hazard from same hazard]
  have agrees (hazard : HazardKind) :
      projectionFailure (Dict.ofList IncidentRecord.hazard e.store.latestByHazard) e.current hazard = [] := by
    unfold projectionFailure
    rw [show (Dict.ofList IncidentRecord.hazard e.store.latestByHazard).get? hazard = e.current.get? hazard from same hazard]
    cases e.current.get? hazard <;> simp
  refine ⟨_, by rw [projectionConformance, conformance_of_sound rep.sound], ?_⟩
  simp [keys, agrees]

/-- After any run the projection in memory, a restart and the durable journal
    agree. -/
theorem projection_agrees (budget : Int) (authorizer : Security.CommandAuthorizer) (ops : List (Operation P))
    (budget' : Int) (authorizer' : Security.CommandAuthorizer) :
    let e := after budget authorizer ops
    (∀ hazard, (Engine.init e.store budget' authorizer').current.get? hazard = e.current.get? hazard) ∧
    (∃ report, projectionConformance e = .ok report ∧ report.valid = true) ∧
    (e.store.latestByHazard.map IncidentRecord.hazard).Nodup := by
  intro e
  have inv : Invariant e := after_invariant budget authorizer ops
  exact ⟨inv.restart budget' authorizer', inv.projection_valid, inv.latest_nodup⟩

/-! ## Histories -/

theorem Legal.versions {versions : List IncidentRecord} (legal : Legal versions) :
    versions.map IncidentRecord.version = List.range' 1 versions.length := by
  refine List.ext_getElem (by simp) fun i left right => ?_
  have bound : i < versions.length := by simpa using left
  have numbered := legal.numbered i versions[i] (List.getElem?_eq_getElem bound)
  simp [numbered, Nat.add_comm]

/-- The incident that a late analysis finds keeps its state, confidence,
    coverage and watermark, and no intent is created. -/
theorem applyAnalysis_late_keeps (inv : Invariant e) {analysis : AnalysisResult} {acceptedAt : DateTime}
    {c : IncidentRecord} {w : DateTime} (found : e.current.get? analysis.hazard = some c)
    (stamped : c.eventTimeWatermark = some w) (late : eventTime analysis < w) :
    (applyAnalysis analysis acceptedAt e).2.store.notificationIntents = e.store.notificationIntents ∧
    ∃ c', (applyAnalysis analysis acceptedAt e).2.current.get? analysis.hazard = some c' ∧ c'.state = c.state ∧
      c'.confidence = c.confidence ∧ c'.coverage = c.coverage ∧ c'.eventTimeWatermark = c.eventTimeWatermark := by
  have isLate : isLate c analysis = true := by simp [Incidents.isLate, stamped, late]
  rcases applyAnalysis_cases inv.well analysis acceptedAt with
    unchanged | ⟨c', s', found', -, -, -, appended, after⟩ | ⟨s', inOrder, -⟩
  · rw [unchanged]
    exact ⟨rfl, c, found, rfl, rfl, rfl, rfl⟩
  · rw [found] at found'
    obtain rfl := Option.some.inj found'
    rw [after]
    refine ⟨appended.frame.1.trans (by simp [addedIntents]), lateCorrection c analysis acceptedAt, ?_, rfl, rfl, rfl, rfl⟩
    exact Dict.get?_insert_self _ _ _
  · rw [(inOrder c found).2] at isLate
    cases isLate

/-- The journalled versions of a hazard form one incident with consecutive
    versions, allowed changes of state, a watermark that never goes back and no
    analysis counted twice; a late analysis moves none of this. -/
theorem history_legal (budget : Int) (authorizer : Security.CommandAuthorizer) (ops : List (Operation P))
    (hazard : HazardKind) :
    let e := after budget authorizer ops
    (∀ r ∈ history e.store hazard, ∀ r' ∈ history e.store hazard, r.incidentId = r'.incidentId) ∧
    (history e.store hazard).map IncidentRecord.version = List.range' 1 (history e.store hazard).length ∧
    (history e.store hazard).IsChain (fun a b => b.state ∈ allowed a.state) ∧
    (history e.store hazard).IsChain (fun a b =>
      ∃ w ∈ a.eventTimeWatermark, ∃ w' ∈ b.eventTimeWatermark, w ≤ w') ∧
    (∀ r ∈ history e.store hazard, r.analysisIds.Nodup) ∧
    ∀ (analysis : AnalysisResult) (acceptedAt : DateTime) (c : IncidentRecord) (w : DateTime),
      e.current.get? analysis.hazard = some c → c.eventTimeWatermark = some w → eventTime analysis < w →
      (applyAnalysis analysis acceptedAt e).2.store.notificationIntents = e.store.notificationIntents ∧
      ∃ c', (applyAnalysis analysis acceptedAt e).2.current.get? analysis.hazard = some c' ∧ c'.state = c.state ∧
        c'.confidence = c.confidence ∧ c'.coverage = c.coverage ∧ c'.eventTimeWatermark = c.eventTimeWatermark := by
  intro e
  have inv : Invariant e := after_invariant budget authorizer ops
  have legal := inv.legal hazard
  refine ⟨legal.incident, legal.versions, legal.chain.imp (fun _ _ h => h.state),
    legal.chain.imp (fun _ _ h => h.watermark), legal.distinct, ?_⟩
  intro analysis acceptedAt c w found stamped late
  exact applyAnalysis_late_keeps inv found stamped late

end SentinelEdge.Incidents
