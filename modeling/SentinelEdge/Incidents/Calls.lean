import SentinelEdge.Incidents.Invariant

/-! # What each call of the engine does

One specification for each method, by cases on what it finds: the result and the
engine it leaves. Later proofs use these and never unfold a method.
-/

namespace SentinelEdge.Incidents

open Foundation Domain Storage

variable {P : Platform} {e : Engine P}

theorem onStore_of_ok {α : Type} {x : StoreCall P α} {a : α} {s' : Store P} (h : x e.store = (.ok a, s')) :
    onStore x e = (.ok a, { e with store := s' }) :=
  Call.zoom_of_eq h

theorem onStore_of_error {α : Type} {x : StoreCall P α} {error : Error} (h : x e.store = (.error error, e.store)) :
    onStore x e = (.error error, e) :=
  Call.zoom_of_eq h

/-- A call that ends with a receipt: an id in use raises when everything before
    it is committed. -/
theorem receipt_last {α : Type} {result : Except Error α × Engine P} {s : Store P} {receipt : CommandReceipt P}
    {answer : CommandReceipt P → α}
    (head : result = (onStore (recordCommandReceipt receipt) >>= fun r => pure (answer r) : EngineCall P α) e)
    (well : WellJournalled e.store) (receipts : e.store.commandReceipts = s.commandReceipts)
    (key : s.commandReceipt receipt.scopedIdempotencyKey = none) :
    ((∀ r ∈ s.commandReceipts, receipt.commandId ≠ r.commandId) →
      ∃ s', result = (.ok (answer receipt), { e with store := s' }) ∧ WellJournalled s' ∧
        s'.domain = (e.store.withReceipt receipt).domain) ∧
    ((¬ ∀ r ∈ s.commandReceipts, receipt.commandId ≠ r.commandId) →
      result = (.error (.integrityError "command_receipts"), e)) := by
  have key' : e.store.commandReceipt receipt.scopedIdempotencyKey = none := by
    rw [Store.commandReceipt, receipts]
    exact key
  rw [← receipts]
  constructor
  · intro fresh
    obtain ⟨s', recorded, well', domain⟩ := recordCommandReceipt_of_fresh well receipt key' fresh
    exact ⟨s', head.trans (Call.bind_of_ok (onStore_of_ok recorded)), well', domain⟩
  · intro clash
    have raised := recordCommandReceipt_of_clash well receipt key' clash
    exact head.trans (Call.bind_of_error (onStore_of_error raised))

/-! ## Writing a version -/

theorem journalIncident_of_fits (well : WellJournalled e.store) {record : IncidentRecord}
    {notification : Option NotificationIntent} (fits : Fits e.store record notification) (hazard : HazardKind) :
    ∃ s', Appended e.store record notification s' ∧ journalIncident hazard record notification e =
      (.ok (), e.advanced s' hazard record) := by
  obtain ⟨b, s', returned, appended⟩ := appendIncident_of_fits well fits
  exact ⟨s', appended, Call.bind_of_ok (onStore_of_ok returned)⟩

theorem journalIncident_of_not_fits (well : WellJournalled e.store) {record : IncidentRecord}
    {notification : Option NotificationIntent} (fits : ¬ Fits e.store record notification) (hazard : HazardKind) :
    ∃ table, journalIncident hazard record notification e = (.error (.integrityError table), e) := by
  obtain ⟨table, raised⟩ := appendIncident_of_not_fits well fits
  exact ⟨table, Call.bind_of_error (onStore_of_error raised)⟩

/-! ## Analyses -/

theorem applyLate_ignored {current : IncidentRecord} {analysis : AnalysisResult} {acceptedAt : DateTime}
    (weaker : analysis.score ≤ current.confidence ∧ stateRank analysis.stateHint ≤ stateRank current.state) :
    applyLate current analysis acceptedAt e = (.ok current, e) := by
  simp [applyLate, weaker]

theorem applyLate_of_fits (well : WellJournalled e.store) {current : IncidentRecord} {analysis : AnalysisResult}
    {acceptedAt : DateTime}
    (stronger : ¬ (analysis.score ≤ current.confidence ∧ stateRank analysis.stateHint ≤ stateRank current.state))
    (fits : Fits e.store (lateCorrection current analysis acceptedAt) none) :
    ∃ s', Appended e.store (lateCorrection current analysis acceptedAt) none s' ∧
      applyLate current analysis acceptedAt e = (.ok (lateCorrection current analysis acceptedAt),
        e.advanced s' analysis.hazard (lateCorrection current analysis acceptedAt)) := by
  obtain ⟨s', appended, written⟩ := journalIncident_of_fits well fits analysis.hazard
  refine ⟨s', appended, ?_⟩
  rw [applyLate, if_neg stronger]
  exact Call.bind_of_ok written

theorem applyLate_of_not_fits (well : WellJournalled e.store) {current : IncidentRecord} {analysis : AnalysisResult}
    {acceptedAt : DateTime}
    (stronger : ¬ (analysis.score ≤ current.confidence ∧ stateRank analysis.stateHint ≤ stateRank current.state))
    (fits : ¬ Fits e.store (lateCorrection current analysis acceptedAt) none) :
    ∃ table, applyLate current analysis acceptedAt e = (.error (.integrityError table), e) := by
  obtain ⟨table, raised⟩ := journalIncident_of_not_fits well fits analysis.hazard
  refine ⟨table, ?_⟩
  rw [applyLate, if_neg stronger]
  exact Call.bind_of_error raised

/-- The intent that goes with the version an analysis in order adds. -/
def analysisIntent (e : Engine P) (current : Option IncidentRecord) (analysis : AnalysisResult)
    (acceptedAt : DateTime) : Option NotificationIntent :=
  notificationFor e.store e.notificationBudget (nextRecord P current analysis acceptedAt) (previousState current)
    acceptedAt

theorem applyInOrder_illegal {current : Option IncidentRecord} {analysis : AnalysisResult} {acceptedAt : DateTime}
    (illegal : (assess current analysis).1 ∉ allowed (previousState current)) :
    applyInOrder current analysis acceptedAt e =
      (.error (.valueError ("illegal incident transition " ++ (previousState current).value ++ "->" ++
        (assess current analysis).1.value)), e) := by
  simp [applyInOrder, illegal]

theorem applyInOrder_of_fits (well : WellJournalled e.store) {current : Option IncidentRecord}
    {analysis : AnalysisResult} {acceptedAt : DateTime}
    (legal : (assess current analysis).1 ∈ allowed (previousState current))
    (fits : Fits e.store (nextRecord P current analysis acceptedAt) (analysisIntent e current analysis acceptedAt)) :
    ∃ s', Appended e.store (nextRecord P current analysis acceptedAt) (analysisIntent e current analysis acceptedAt) s' ∧
      applyInOrder current analysis acceptedAt e = (.ok (nextRecord P current analysis acceptedAt),
        e.advanced s' analysis.hazard (nextRecord P current analysis acceptedAt)) := by
  obtain ⟨s', appended, written⟩ := journalIncident_of_fits well fits analysis.hazard
  refine ⟨s', appended, ?_⟩
  simp only [applyInOrder, legal, not_true, if_false, Call.read_bind]
  exact Call.bind_of_ok written

theorem applyInOrder_of_not_fits (well : WellJournalled e.store) {current : Option IncidentRecord}
    {analysis : AnalysisResult} {acceptedAt : DateTime}
    (legal : (assess current analysis).1 ∈ allowed (previousState current))
    (fits : ¬ Fits e.store (nextRecord P current analysis acceptedAt) (analysisIntent e current analysis acceptedAt)) :
    ∃ table, applyInOrder current analysis acceptedAt e = (.error (.integrityError table), e) := by
  obtain ⟨table, raised⟩ := journalIncident_of_not_fits well fits analysis.hazard
  refine ⟨table, ?_⟩
  simp only [applyInOrder, legal, not_true, if_false, Call.read_bind]
  exact Call.bind_of_error raised

theorem applyAnalysis_first {analysis : AnalysisResult} {acceptedAt : DateTime}
    (found : e.current.get? analysis.hazard = none) :
    applyAnalysis analysis acceptedAt e = applyInOrder none analysis acceptedAt e := by
  simp only [applyAnalysis, Call.read_bind, found]

theorem applyAnalysis_duplicate {analysis : AnalysisResult} {acceptedAt : DateTime} {c : IncidentRecord}
    (found : e.current.get? analysis.hazard = some c) (known : analysis.analysisId ∈ c.analysisIds) :
    applyAnalysis analysis acceptedAt e = (.ok c, e) := by
  simp only [applyAnalysis, Call.read_bind, found, known, if_true]
  rfl

theorem applyAnalysis_late {analysis : AnalysisResult} {acceptedAt : DateTime} {c : IncidentRecord}
    (found : e.current.get? analysis.hazard = some c) (new : analysis.analysisId ∉ c.analysisIds)
    (late : isLate c analysis = true) :
    applyAnalysis analysis acceptedAt e = applyLate c analysis acceptedAt e := by
  simp only [applyAnalysis, Call.read_bind, found, new, late, if_false, if_true]

theorem applyAnalysis_inOrder {analysis : AnalysisResult} {acceptedAt : DateTime} {c : IncidentRecord}
    (found : e.current.get? analysis.hazard = some c) (new : analysis.analysisId ∉ c.analysisIds)
    (timely : isLate c analysis = false) :
    applyAnalysis analysis acceptedAt e = applyInOrder (some c) analysis acceptedAt e := by
  simp only [applyAnalysis, Call.read_bind, found, new, timely, if_false, Bool.false_eq_true]

/-- The analysis is neither a duplicate nor late: it is applied in order. -/
def InOrder (e : Engine P) (analysis : AnalysisResult) : Prop :=
  ∀ c ∈ e.current.get? analysis.hazard, analysis.analysisId ∉ c.analysisIds ∧ isLate c analysis = false

theorem applyAnalysis_of_inOrder {analysis : AnalysisResult} {acceptedAt : DateTime} (inOrder : InOrder e analysis) :
    applyAnalysis analysis acceptedAt e = applyInOrder (e.current.get? analysis.hazard) analysis acceptedAt e := by
  cases found : e.current.get? analysis.hazard with
  | none => exact applyAnalysis_first found
  | some c =>
      obtain ⟨new, timely⟩ := inOrder c found
      exact applyAnalysis_inOrder found new timely

/-- The three things an analysis can do. -/
theorem applyAnalysis_cases (well : WellJournalled e.store) (analysis : AnalysisResult) (acceptedAt : DateTime) :
    (applyAnalysis analysis acceptedAt e).2 = e ∨
    (∃ c s', e.current.get? analysis.hazard = some c ∧ analysis.analysisId ∉ c.analysisIds ∧
      isLate c analysis = true ∧ Fits e.store (lateCorrection c analysis acceptedAt) none ∧
      Appended e.store (lateCorrection c analysis acceptedAt) none s' ∧
      (applyAnalysis analysis acceptedAt e).2 =
        e.advanced s' analysis.hazard (lateCorrection c analysis acceptedAt)) ∨
    (∃ s', InOrder e analysis ∧
      (assess (e.current.get? analysis.hazard) analysis).1 ∈ allowed (previousState (e.current.get? analysis.hazard)) ∧
      Fits e.store (nextRecord P (e.current.get? analysis.hazard) analysis acceptedAt)
        (analysisIntent e (e.current.get? analysis.hazard) analysis acceptedAt) ∧
      Appended e.store (nextRecord P (e.current.get? analysis.hazard) analysis acceptedAt)
        (analysisIntent e (e.current.get? analysis.hazard) analysis acceptedAt) s' ∧
      (applyAnalysis analysis acceptedAt e).2 =
        e.advanced s' analysis.hazard (nextRecord P (e.current.get? analysis.hazard) analysis acceptedAt)) := by
  by_cases inOrder : InOrder e analysis
  · rw [applyAnalysis_of_inOrder inOrder]
    by_cases legal : (assess (e.current.get? analysis.hazard) analysis).1 ∈
        allowed (previousState (e.current.get? analysis.hazard))
    · by_cases fits : Fits e.store (nextRecord P (e.current.get? analysis.hazard) analysis acceptedAt)
          (analysisIntent e (e.current.get? analysis.hazard) analysis acceptedAt)
      · obtain ⟨s', appended, written⟩ := applyInOrder_of_fits well legal fits
        rw [written]
        exact .inr (.inr ⟨s', inOrder, legal, fits, appended, rfl⟩)
      · obtain ⟨error, raised⟩ := applyInOrder_of_not_fits well legal fits
        rw [raised]
        exact .inl rfl
    · rw [applyInOrder_illegal legal]
      exact .inl rfl
  · simp only [InOrder, not_forall] at inOrder
    obtain ⟨c, found, handled⟩ := inOrder
    by_cases known : analysis.analysisId ∈ c.analysisIds
    · rw [applyAnalysis_duplicate found known]
      exact .inl rfl
    · have late : isLate c analysis = true := by
        by_contra timely
        exact handled ⟨known, Bool.eq_false_iff.mpr timely⟩
      rw [applyAnalysis_late found known late]
      by_cases weaker : analysis.score ≤ c.confidence ∧ stateRank analysis.stateHint ≤ stateRank c.state
      · rw [applyLate_ignored weaker]
        exact .inl rfl
      · by_cases fits : Fits e.store (lateCorrection c analysis acceptedAt) none
        · obtain ⟨s', appended, written⟩ := applyLate_of_fits well weaker fits
          rw [written]
          exact .inr (.inl ⟨c, s', found, known, late, fits, appended, rfl⟩)
        · obtain ⟨error, raised⟩ := applyLate_of_not_fits well weaker fits
          rw [raised]
          exact .inl rfl

/-! ## Finding an incident -/

theorem latestVersion_mem {records : List IncidentRecord} {r : IncidentRecord} (h : latestVersion records = some r) :
    r ∈ records := by
  induction records generalizing r with
  | nil => cases h
  | cons first rest ih =>
      cases best : latestVersion rest with
      | none =>
          simp only [latestVersion, best, Option.some.injEq] at h
          exact h ▸ List.mem_cons_self
      | some b =>
          simp only [latestVersion, best] at h
          split at h
          · exact Option.some.inj h ▸ List.mem_cons_of_mem _ (ih best)
          · exact Option.some.inj h ▸ List.mem_cons_self

theorem Invariant.current_mem (inv : Invariant e) {hazard : HazardKind} {c : IncidentRecord}
    (found : e.current.get? hazard = some c) : c ∈ e.store.journal ∧ c.hazard = hazard :=
  mem_history.mp (List.mem_of_getLast? ((inv.current hazard).symm.trans found))

theorem Invariant.stamped (inv : Invariant e) {hazard : HazardKind} {c : IncidentRecord}
    (found : e.current.get? hazard = some c) : c.eventTimeWatermark.isSome :=
  (inv.legal hazard).stamped c (List.mem_of_getLast? ((inv.current hazard).symm.trans found))

/-- The current version is the highest of its hazard. -/
theorem Invariant.version_le (inv : Invariant e) {c r : IncidentRecord} (found : e.current.get? r.hazard = some c)
    (member : r ∈ e.store.journal) : r.version ≤ c.version := by
  have legal := inv.legal r.hazard
  have last := legal.version_last
  rw [← inv.current, found] at last
  have bound := legal.version_le r (mem_history.mpr ⟨member, rfl⟩)
  simp only [Option.map_some, Option.getD_some] at last
  omega

/-- The version after the current one is new. -/
theorem Invariant.fresh_version (inv : Invariant e) {c record : IncidentRecord}
    (succeeds : Succeeds (e.current.get? record.hazard) record) (found : e.current.get? record.hazard = some c) :
    ∀ r ∈ e.store.journal, ¬ (record.incidentId = r.incidentId ∧ record.version = r.version) := by
  rintro r member ⟨ids, versions⟩
  obtain ⟨known, hazard⟩ := inv.current_mem found
  have joined : r.hazard = record.hazard :=
    (inv.owner r member c known (ids.symm.trans (succeeds.incident c found))).trans hazard
  have top := inv.version_le (joined ▸ found) member
  have next := succeeds.version
  rw [found] at next
  simp only [Option.map_some, Option.getD_some] at next
  omega

theorem Invariant.eq_of_version (inv : Invariant e) {c r : IncidentRecord} (found : e.current.get? r.hazard = some c)
    (member : r ∈ e.store.journal) (same : r.version = c.version) : r = c := by
  obtain ⟨known, hazard⟩ := inv.current_mem found
  exact (inv.legal r.hazard).eq_of_version (mem_history.mpr ⟨member, rfl⟩) (mem_history.mpr ⟨known, hazard⟩) same

/-- The current version of the incident that a journalled record belongs to. -/
theorem Invariant.current_of_mem (inv : Invariant e) {r : IncidentRecord} (member : r ∈ e.store.journal) :
    ∃ c, e.current.get? r.hazard = some c ∧ c.incidentId = r.incidentId := by
  have here : r ∈ history e.store r.hazard := mem_history.mpr ⟨member, rfl⟩
  have last := List.getLast?_eq_some_getLast (List.ne_nil_of_mem here)
  generalize (history e.store r.hazard).getLast (List.ne_nil_of_mem here) = c at last
  exact ⟨c, (inv.current r.hazard).trans last, (inv.legal r.hazard).incident c (List.mem_of_getLast? last) r here⟩

/-- `incident_by_id` finds the current version of its hazard. -/
theorem Invariant.incidentById_some (inv : Invariant e) {incidentId : UUID} {r : IncidentRecord}
    (h : e.incidentById incidentId = some r) : e.current.get? r.hazard = some r ∧ r.incidentId = incidentId := by
  cases found : e.current.values.find? (fun r => r.incidentId = incidentId) with
  | some c =>
      simp only [Engine.incidentById, found, Option.some.injEq] at h
      subst h
      obtain ⟨hazard, holds⟩ := Dict.mem_values_iff.mp (List.mem_of_find?_eq_some found)
      have id : c.incidentId = incidentId := by simpa using List.find?_some found
      exact ⟨(inv.current_mem holds).2.symm ▸ holds, id⟩
  | none =>
      simp only [Engine.incidentById, found] at h
      obtain ⟨member, same⟩ := List.mem_filter.mp (latestVersion_mem h)
      obtain ⟨c, holds, id⟩ := inv.current_of_mem member
      have absent := List.find?_eq_none.mp found c (Dict.mem_values_iff.mpr ⟨_, holds⟩)
      exact absurd (id.trans (by simpa using same)) (by simpa using absent)

theorem Invariant.incidentById_of_mem (inv : Invariant e) {r : IncidentRecord} (member : r ∈ e.store.journal) :
    ∃ c, e.incidentById r.incidentId = some c ∧ c.hazard = r.hazard := by
  obtain ⟨c, holds, id⟩ := inv.current_of_mem member
  have known : c ∈ e.current.values := Dict.mem_values_iff.mpr ⟨_, holds⟩
  cases found : e.current.values.find? (fun v => v.incidentId = r.incidentId) with
  | none =>
      have absent := List.find?_eq_none.mp found c known
      exact absurd id (by simpa using absent)
  | some v =>
      have here : e.incidentById r.incidentId = some v := by simp only [Engine.incidentById, found]
      obtain ⟨current, same⟩ := inv.incidentById_some here
      exact ⟨v, here, inv.owner v (inv.current_mem current).1 r member same⟩

/-! ## Status commands -/

namespace StatusCommand

variable {command : IncidentStatusCommand} {current : IncidentRecord}

/-- The intent that goes with the version a command adds. -/
def intent (e : Engine P) (command : IncidentStatusCommand) (current record : IncidentRecord) :
    Option NotificationIntent :=
  notificationFor e.store e.notificationBudget record current.state command.submittedAt

def transitionReceipt (P : Platform) (command : IncidentStatusCommand) (record : IncidentRecord) : CommandReceipt P :=
  receipt P command record.version (.digest (P.sha256 (record.modelDump P))) "component4_incident_command_committed"

theorem transition_rejected {error : Error} (planned : planTransition e.store command current = .error error) :
    transition command current e = (.error error, e) := by
  simp only [transition, Call.read_bind, planned]
  rfl

theorem transition_of_not_fits (well : WellJournalled e.store) {record : IncidentRecord}
    (planned : planTransition e.store command current = .ok record)
    (fits : ¬ Fits e.store record (intent e command current record)) :
    ∃ table, transition command current e = (.error (.integrityError table), e) := by
  obtain ⟨table, raised⟩ := journalIncident_of_not_fits well fits current.hazard
  refine ⟨table, ?_⟩
  simp only [transition, Call.read_bind, planned]
  rw [Call.bind_of_ok (Call.lift_apply (.ok record) e), Call.read_bind]
  exact Call.bind_of_error raised

/-- The new version is committed first; the receipt may then fail on its own. -/
theorem transition_of_fits (well : WellJournalled e.store) {record : IncidentRecord}
    (planned : planTransition e.store command current = .ok record)
    (fits : Fits e.store record (intent e command current record))
    (key : e.store.commandReceipt (scopedKey P command) = none) :
    ∃ s', Appended e.store record (intent e command current record) s' ∧
      ((∀ r ∈ e.store.commandReceipts, command.commandId ≠ r.commandId) →
        ∃ s'', transition command current e = (.ok (.inl record),
            { e.advanced s' current.hazard record with store := s'' }) ∧
          WellJournalled s'' ∧ s''.domain = (s'.withReceipt (transitionReceipt P command record)).domain) ∧
      ((¬ ∀ r ∈ e.store.commandReceipts, command.commandId ≠ r.commandId) →
        transition command current e =
          (.error (.integrityError "command_receipts"), e.advanced s' current.hazard record)) := by
  obtain ⟨s', appended, written⟩ := journalIncident_of_fits well fits current.hazard
  have head : transition command current e = ((do
      let _ ← onStore (recordCommandReceipt (transitionReceipt P command record))
      pure (.inl record)) : EngineCall P (IncidentRecord ⊕ IncidentRelation)) (e.advanced s' current.hazard record) := by
    simp only [transition, Call.read_bind, planned]
    rw [Call.bind_of_ok (Call.lift_apply (.ok record) e), Call.read_bind]
    exact Call.bind_of_ok written
  exact ⟨s', appended, receipt_last head appended.well appended.frame.2.2.2.1 key⟩

def relationReceipt (P : Platform) (command : IncidentStatusCommand) (current : IncidentRecord)
    (stored : IncidentRelation) : CommandReceipt P :=
  receipt P command current.version (.relation stored.relationId) "incident_relation_committed"

theorem relate_rejected {error : Error} (planned : planRelation e command current = .error error) :
    relate command current e = (.error error, e) := by
  simp only [relate, Call.read_bind, planned]
  rfl

/-- The tail of a link or merge, once the store has answered with a relation. -/
private theorem relate_stored {relation stored : IncidentRelation} {s' : Store P}
    (planned : planRelation e command current = .ok relation)
    (recorded : recordIncidentRelation relation e.store = (.ok stored, s')) :
    relate command current e = ((do
      let _ ← onStore (recordCommandReceipt (relationReceipt P command current stored))
      pure (.inr stored)) : EngineCall P (IncidentRecord ⊕ IncidentRelation)) { e with store := s' } := by
  simp only [relate, Call.read_bind, planned]
  rw [Call.bind_of_ok (Call.lift_apply (.ok relation) e)]
  exact Call.bind_of_ok (onStore_of_ok recorded)

theorem relate_unstored {relation : IncidentRelation} {error : Error}
    (planned : planRelation e command current = .ok relation)
    (raised : recordIncidentRelation relation e.store = (.error error, e.store)) :
    relate command current e = (.error error, e) := by
  simp only [relate, Call.read_bind, planned]
  rw [Call.bind_of_ok (Call.lift_apply (.ok relation) e)]
  exact Call.bind_of_error (onStore_of_error raised)

/-- What follows the relation: the receipt, which may fail on its own. -/
theorem relate_receipt {relation stored : IncidentRelation} {s' : Store P}
    (planned : planRelation e command current = .ok relation)
    (recorded : recordIncidentRelation relation e.store = (.ok stored, s')) (well : WellJournalled s')
    (receipts : s'.commandReceipts = e.store.commandReceipts)
    (key : e.store.commandReceipt (scopedKey P command) = none) :
    ((∀ r ∈ e.store.commandReceipts, command.commandId ≠ r.commandId) →
      ∃ s'', relate command current e = (.ok (.inr stored), { e with store := s'' }) ∧ WellJournalled s'' ∧
        s''.domain = (s'.withReceipt (relationReceipt P command current stored)).domain) ∧
    ((¬ ∀ r ∈ e.store.commandReceipts, command.commandId ≠ r.commandId) →
      relate command current e = (.error (.integrityError "command_receipts"), { e with store := s' })) := by
  exact receipt_last (relate_stored planned recorded) well receipts key

end StatusCommand

section StatusCommand

variable {command : IncidentStatusCommand} {current : IncidentRecord}

theorem applyStatusCommand_unknown
    (absent : ∀ c ∈ e.incidentById command.incidentId, c.hazard ≠ command.hazard) :
    applyStatusCommand command e = (.error (.valueError "incident command target not found"), e) := by
  cases found : e.incidentById command.incidentId with
  | none =>
      simp only [applyStatusCommand, Call.read_bind, found]
      rfl
  | some c =>
      simp only [applyStatusCommand, Call.read_bind, found, absent c found, ne_eq, not_false_eq_true, if_true]
      rfl

theorem applyStatusCommand_replay {receipt : CommandReceipt P} (found : e.incidentById command.incidentId = some current)
    (hazard : current.hazard = command.hazard)
    (key : e.store.commandReceipt (StatusCommand.scopedKey P command) = some receipt) :
    applyStatusCommand command e = StatusCommand.replay command receipt e := by
  simp only [applyStatusCommand, Call.read_bind, found, hazard, ne_eq, not_true, if_false, key]

theorem applyStatusCommand_stale (found : e.incidentById command.incidentId = some current)
    (hazard : current.hazard = command.hazard)
    (key : e.store.commandReceipt (StatusCommand.scopedKey P command) = none)
    (stale : current.version ≠ command.expectedVersion) :
    applyStatusCommand command e = (.error (.valueError "stale incident command requires reconfirmation"), e) := by
  simp only [applyStatusCommand, Call.read_bind, found, hazard, ne_eq, not_true, if_false, key, stale,
    not_false_eq_true, if_true]
  rfl

theorem applyStatusCommand_accepted (found : e.incidentById command.incidentId = some current)
    (hazard : current.hazard = command.hazard)
    (key : e.store.commandReceipt (StatusCommand.scopedKey P command) = none)
    (version : current.version = command.expectedVersion) :
    applyStatusCommand command e =
      if StatusCommand.isRelating command then StatusCommand.relate command current e
      else StatusCommand.transition command current e := by
  simp only [applyStatusCommand, Call.read_bind, found, hazard, ne_eq, not_true, if_false, key, version]
  split <;> rfl

theorem StatusCommand.replay_conflict {receipt : CommandReceipt P}
    (differs : receipt.payloadSha256 ≠ P.sha256 (StatusCommand.payload command)) :
    StatusCommand.replay command receipt e = (.error (.valueError "idempotency key conflict"), e) := by
  simp [StatusCommand.replay, differs]

/-- A replay with the same payload answers with the relation or the incident. -/
theorem StatusCommand.replay_same {receipt : CommandReceipt P}
    (same : receipt.payloadSha256 = P.sha256 (StatusCommand.payload command))
    (found : e.incidentById command.incidentId = some current) :
    ∃ answer, StatusCommand.replay command receipt e = (.ok answer, e) := by
  cases stored : StatusCommand.storedRelation e.store command receipt with
  | some r => exact ⟨.inr r, by simp [StatusCommand.replay, same, stored]⟩
  | none => exact ⟨.inl current, by simp [StatusCommand.replay, same, stored, found]⟩

/-- A command that has a receipt leaves the engine alone. -/
theorem applyStatusCommand_receipted {receipt : CommandReceipt P}
    (key : e.store.commandReceipt (StatusCommand.scopedKey P command) = some receipt) :
    (applyStatusCommand command e).2 = e := by
  by_cases target : ∃ c ∈ e.incidentById command.incidentId, c.hazard = command.hazard
  · obtain ⟨c, found, hazard⟩ := target
    rw [applyStatusCommand_replay found hazard key]
    by_cases same : receipt.payloadSha256 = P.sha256 (StatusCommand.payload command)
    · obtain ⟨answer, returned⟩ := StatusCommand.replay_same (e := e) same found
      rw [returned]
    · rw [StatusCommand.replay_conflict same]
  · rw [applyStatusCommand_unknown (fun c found hazard => target ⟨c, found, hazard⟩)]

/-- The command names a current incident of its hazard, is no replay and is not stale. -/
structure Accepted (e : Engine P) (command : IncidentStatusCommand) (current : IncidentRecord) : Prop where
  found : e.incidentById command.incidentId = some current
  hazard : current.hazard = command.hazard
  unreceipted : e.store.commandReceipt (StatusCommand.scopedKey P command) = none
  version : current.version = command.expectedVersion

/-- What a status command can leave behind, receipts that failed included. -/
inductive Leaves (e : Engine P) (command : IncidentStatusCommand) : Engine P → Prop where
  | unchanged : Leaves e command e
  | receipt {current : IncidentRecord} {stored : IncidentRelation} {s' : Store P} (accepted : Accepted e command current)
      (well : WellJournalled s')
      (domain : s'.domain = (e.store.withReceipt (StatusCommand.relationReceipt P command current stored)).domain) :
      Leaves e command { e with store := s' }
  | relation {relation : IncidentRelation} {s' : Store P} (well : WellJournalled s')
      (domain : s'.domain = (e.store.withRelation relation).domain) : Leaves e command { e with store := s' }
  | relationReceipt {current : IncidentRecord} {relation : IncidentRelation} {s' s'' : Store P}
      (accepted : Accepted e command current) (well : WellJournalled s')
      (domain : s'.domain = (e.store.withRelation relation).domain) (well' : WellJournalled s'')
      (domain' : s''.domain = (s'.withReceipt (StatusCommand.relationReceipt P command current relation)).domain) :
      Leaves e command { e with store := s'' }
  | version {current record : IncidentRecord} {s' : Store P} (accepted : Accepted e command current)
      (planned : StatusCommand.planTransition e.store command current = .ok record)
      (fits : Fits e.store record (StatusCommand.intent e command current record))
      (appended : Appended e.store record (StatusCommand.intent e command current record) s') :
      Leaves e command (e.advanced s' current.hazard record)
  | versionReceipt {current record : IncidentRecord} {s' s'' : Store P} (accepted : Accepted e command current)
      (planned : StatusCommand.planTransition e.store command current = .ok record)
      (fits : Fits e.store record (StatusCommand.intent e command current record))
      (appended : Appended e.store record (StatusCommand.intent e command current record) s')
      (well' : WellJournalled s'')
      (domain' : s''.domain = (s'.withReceipt (StatusCommand.transitionReceipt P command record)).domain) :
      Leaves e command { e.advanced s' current.hazard record with store := s'' }

theorem transition_leaves (well : WellJournalled e.store) (accepted : Accepted e command current) :
    Leaves e command (StatusCommand.transition command current e).2 := by
  cases planned : StatusCommand.planTransition e.store command current with
  | error error =>
      rw [StatusCommand.transition_rejected planned]
      exact .unchanged
  | ok record =>
      by_cases fits : Fits e.store record (StatusCommand.intent e command current record)
      · obtain ⟨s', appended, committed, uncommitted⟩ :=
          StatusCommand.transition_of_fits well planned fits accepted.unreceipted
        by_cases fresh : ∀ r ∈ e.store.commandReceipts, command.commandId ≠ r.commandId
        · obtain ⟨s'', returned, well', domain'⟩ := committed fresh
          rw [returned]
          exact .versionReceipt accepted planned fits appended well' domain'
        · rw [uncommitted fresh]
          exact .version accepted planned fits appended
      · obtain ⟨table, raised⟩ := StatusCommand.transition_of_not_fits well planned fits
        rw [raised]
        exact .unchanged

theorem relate_leaves (well : WellJournalled e.store) (accepted : Accepted e command current) :
    Leaves e command (StatusCommand.relate command current e).2 := by
  cases planned : StatusCommand.planRelation e command current with
  | error error =>
      rw [StatusCommand.relate_rejected planned]
      exact .unchanged
  | ok relation =>
      cases known : e.store.relationLike relation with
      | some row =>
          have answer := recordIncidentRelation_of_known known
          by_cases same : row.payloadSha256 = P.sha256 (relation.modelDump P)
          · simp only [same, ne_eq, not_true, if_false] at answer
            obtain ⟨committed, uncommitted⟩ :=
              StatusCommand.relate_receipt planned answer well rfl accepted.unreceipted
            by_cases fresh : ∀ r ∈ e.store.commandReceipts, command.commandId ≠ r.commandId
            · obtain ⟨s'', returned, well', domain'⟩ := committed fresh
              rw [returned]
              exact .receipt accepted well' domain'
            · rw [uncommitted fresh]
              exact .unchanged
          · simp only [same, ne_eq, not_false_eq_true, if_true] at answer
            rw [StatusCommand.relate_unstored planned answer]
            exact .unchanged
      | none =>
          by_cases new : ∀ row ∈ e.store.incidentRelations, relation.relationId ≠ row.record.relationId
          · obtain ⟨s', recorded, well', domain⟩ := recordIncidentRelation_of_fresh well known new
            have receipts : s'.commandReceipts = e.store.commandReceipts :=
              field_of_domain domain Store.commandReceipts rfl
            obtain ⟨committed, uncommitted⟩ :=
              StatusCommand.relate_receipt planned recorded well' receipts accepted.unreceipted
            by_cases fresh : ∀ r ∈ e.store.commandReceipts, command.commandId ≠ r.commandId
            · obtain ⟨s'', returned, well'', domain''⟩ := committed fresh
              rw [returned]
              exact .relationReceipt accepted well' domain well'' domain''
            · rw [uncommitted fresh]
              exact .relation well' domain
          · rw [StatusCommand.relate_unstored planned (recordIncidentRelation_of_clash well known new)]
            exact .unchanged

/-- Every way a status command can go. -/
theorem applyStatusCommand_leaves (well : WellJournalled e.store) (command : IncidentStatusCommand) :
    Leaves e command (applyStatusCommand command e).2 := by
  by_cases target : ∃ c ∈ e.incidentById command.incidentId, c.hazard = command.hazard
  · obtain ⟨current, found, hazard⟩ := target
    cases key : e.store.commandReceipt (StatusCommand.scopedKey P command) with
    | some receipt =>
        rw [applyStatusCommand_receipted key]
        exact .unchanged
    | none =>
        by_cases version : current.version = command.expectedVersion
        · rw [applyStatusCommand_accepted found hazard key version]
          split
          · exact relate_leaves well ⟨found, hazard, key, version⟩
          · exact transition_leaves well ⟨found, hazard, key, version⟩
        · rw [applyStatusCommand_stale found hazard key version]
          exact .unchanged
  · rw [applyStatusCommand_unknown (fun c found hazard => target ⟨c, found, hazard⟩)]
    exact .unchanged

end StatusCommand

/-! ## Reviews -/

theorem review_untargeted {action : ReviewAction}
    (absent : ∀ c ∈ e.current.get? action.hazard, c.incidentId ≠ action.incidentId) :
    review action e = (.error (.valueError "review action does not target the current incident"), e) := by
  cases found : e.current.get? action.hazard with
  | none =>
      simp only [review, Call.read_bind, found]
      rfl
  | some c =>
      simp only [review, Call.read_bind, found, absent c found, ne_eq, not_false_eq_true, if_true]
      rfl

theorem review_targeted {action : ReviewAction} {c : IncidentRecord} (found : e.current.get? action.hazard = some c)
    (target : c.incidentId = action.incidentId) : review action e = onStore (recordReview action) e := by
  simp only [review, Call.read_bind, found, target, ne_eq, not_true, if_false]

/-- A review is recorded, or the engine is left alone. -/
theorem review_cases (well : WellJournalled e.store) (action : ReviewAction) :
    (∃ error, review action e = (.error error, e)) ∨
    (∃ c s', e.current.get? action.hazard = some c ∧ c.incidentId = action.incidentId ∧
      (∀ r ∈ e.store.reviewActions, action.reviewId ≠ r.reviewId) ∧
      review action e =
        (.ok (reviewUpdate (e.store.reviewState action.incidentId) action), { e with store := s' }) ∧
      WellJournalled s' ∧ s'.domain = (e.store.reviewed action).domain) := by
  by_cases targeted : ∃ c ∈ e.current.get? action.hazard, c.incidentId = action.incidentId
  · obtain ⟨c, found, target⟩ := targeted
    rw [review_targeted found target]
    by_cases fresh : ∀ r ∈ e.store.reviewActions, action.reviewId ≠ r.reviewId
    · obtain ⟨s', recorded, well', domain⟩ := recordReview_of_fresh well fresh
      exact .inr ⟨c, s', found, target, fresh, onStore_of_ok recorded, well', domain⟩
    · exact .inl ⟨_, onStore_of_error (recordReview_of_clash well fresh)⟩
  · left
    refine ⟨_, review_untargeted ?_⟩
    intro c found target
    exact targeted ⟨c, found, target⟩

theorem validate_ok {action valid : ReviewAction} (h : action.validate = .ok valid) : valid = action := by
  unfold ReviewAction.validate at h
  split at h
  · cases h
  · split at h
    · cases h
    · split at h
      · cases h
      · split at h
        · cases h
        · exact (Except.ok.inj h).symm

section AuthorizedReview

variable {command : AuthorizedReviewCommand P}

theorem applyAuthorizedReview_unverified {error : Error}
    (refused : AuthorizedReview.verify e.commandAuthorizer command = .error error) :
    applyAuthorizedReview command e = (.error error, e) := by
  simp only [applyAuthorizedReview, Call.read_bind, refused]
  rfl

private theorem applyAuthorizedReview_verified {u : Unit}
    (verified : AuthorizedReview.verify e.commandAuthorizer command = .ok u) :
    applyAuthorizedReview command e = ((do
      let existing ← Call.read (fun e => e.store.commandReceipt (AuthorizedReview.scopedKey command))
      match existing with
      | some receipt =>
          if receipt.payloadSha256 ≠ command.payloadSha256 then Call.raise (.valueError "idempotency key conflict")
          else do
            let state ← Call.read (fun e => e.store.reviewState command.incidentId)
            pure (state, receipt)
      | none => do
          let action ← Call.lift (AuthorizedReview.action command).validate
          let state ← review action
          let receipt ← onStore (recordCommandReceipt (AuthorizedReview.receipt command state))
          pure (state, receipt)) : EngineCall P (IncidentReviewState × CommandReceipt P)) e := by
  simp only [applyAuthorizedReview, Call.read_bind, verified]
  exact Call.bind_of_ok (Call.lift_apply (.ok u) e)

theorem applyAuthorizedReview_replay {u : Unit} {receipt : CommandReceipt P}
    (verified : AuthorizedReview.verify e.commandAuthorizer command = .ok u)
    (key : e.store.commandReceipt (AuthorizedReview.scopedKey command) = some receipt) :
    applyAuthorizedReview command e =
      (if receipt.payloadSha256 ≠ command.payloadSha256 then .error (.valueError "idempotency key conflict")
        else .ok (e.store.reviewState command.incidentId, receipt), e) := by
  rw [applyAuthorizedReview_verified verified]
  simp only [Call.read_bind, key]
  by_cases same : receipt.payloadSha256 = command.payloadSha256 <;> simp [same]

theorem applyAuthorizedReview_invalid {u : Unit} {error : Error}
    (verified : AuthorizedReview.verify e.commandAuthorizer command = .ok u)
    (key : e.store.commandReceipt (AuthorizedReview.scopedKey command) = none)
    (invalid : (AuthorizedReview.action command).validate = .error error) :
    applyAuthorizedReview command e = (.error error, e) := by
  rw [applyAuthorizedReview_verified verified]
  simp only [Call.read_bind, key, invalid]
  rfl

private theorem applyAuthorizedReview_valid {u : Unit} {action : ReviewAction}
    (verified : AuthorizedReview.verify e.commandAuthorizer command = .ok u)
    (key : e.store.commandReceipt (AuthorizedReview.scopedKey command) = none)
    (valid : (AuthorizedReview.action command).validate = .ok action) :
    applyAuthorizedReview command e = ((do
      let state ← review (AuthorizedReview.action command)
      let receipt ← onStore (recordCommandReceipt (AuthorizedReview.receipt command state))
      pure (state, receipt)) : EngineCall P (IncidentReviewState × CommandReceipt P)) e := by
  rw [applyAuthorizedReview_verified verified]
  simp only [Call.read_bind, key, valid, validate_ok valid]
  exact Call.bind_of_ok (Call.lift_apply (.ok (AuthorizedReview.action command)) e)

theorem applyAuthorizedReview_refused {u : Unit} {action : ReviewAction} {error : Error}
    (verified : AuthorizedReview.verify e.commandAuthorizer command = .ok u)
    (key : e.store.commandReceipt (AuthorizedReview.scopedKey command) = none)
    (valid : (AuthorizedReview.action command).validate = .ok action)
    (refused : review (AuthorizedReview.action command) e = (.error error, e)) :
    applyAuthorizedReview command e = (.error error, e) := by
  rw [applyAuthorizedReview_valid verified key valid]
  exact Call.bind_of_error refused

/-- The review is committed first; the receipt may then fail on its own. -/
theorem applyAuthorizedReview_recorded {u : Unit} {action : ReviewAction} {state : IncidentReviewState} {s' : Store P}
    (verified : AuthorizedReview.verify e.commandAuthorizer command = .ok u)
    (key : e.store.commandReceipt (AuthorizedReview.scopedKey command) = none)
    (valid : (AuthorizedReview.action command).validate = .ok action)
    (recorded : review (AuthorizedReview.action command) e = (.ok state, { e with store := s' }))
    (well : WellJournalled s') (receipts : s'.commandReceipts = e.store.commandReceipts) :
    ((∀ r ∈ e.store.commandReceipts, command.commandId ≠ r.commandId) →
      ∃ s'', applyAuthorizedReview command e =
          (.ok (state, AuthorizedReview.receipt command state), { e with store := s'' }) ∧ WellJournalled s'' ∧
        s''.domain = (s'.withReceipt (AuthorizedReview.receipt command state)).domain) ∧
    ((¬ ∀ r ∈ e.store.commandReceipts, command.commandId ≠ r.commandId) →
      applyAuthorizedReview command e = (.error (.integrityError "command_receipts"), { e with store := s' })) := by
  exact receipt_last ((applyAuthorizedReview_valid verified key valid).trans (Call.bind_of_ok recorded)) well receipts key

end AuthorizedReview

end SentinelEdge.Incidents
