import SentinelEdge.Storage.Journal

/-! # What the engine's writes do to the domain tables

For each store write the incident engine makes: the condition under which it
returns and the domain tables it then leaves. Rows of the authority journal are
abstracted to `WellJournalled`, which every one of them keeps.
-/

namespace SentinelEdge.Storage

open Foundation Domain

variable {P : Platform}

/-- The authority tables represent a log, and incident rows point into it. -/
structure WellJournalled (s : Store P) : Prop where
  represented : ∃ log, Represents s log
  positioned : ∀ row ∈ s.incidentEvents, ∃ p : Int, row.authorityPosition = some p ∧ p ≤ s.authorityEvents.length

theorem wellJournalled_empty : WellJournalled (Store.empty : Store P) where
  represented := ⟨[], represents_empty⟩
  positioned := by
    intro row member
    cases member

/-- A domain table is the same in stores with the same domain. -/
theorem field_of_domain {α : Type} {s t : Store P} {rows : α} (domain : s.domain = t.domain) (field : Store P → α)
    (value : field t.domain = rows) (reads : ∀ u : Store P, field u.domain = field u := by intro u; rfl) :
    field s = rows := by
  rw [← reads s, domain, value]

/-- Journalling one mutation and writing to other tables, incidents apart. -/
theorem WellJournalled.journalled {s s' : Store P} (well : WellJournalled s) (m : Mutation)
    (sequence : s'.authoritySequence = (s.journalled m).authoritySequence)
    (events : s'.authorityEvents = (s.journalled m).authorityEvents)
    (subtypes : s'.authorityEventSubtypes = (s.journalled m).authorityEventSubtypes)
    (incidents : s'.incidentEvents = s.incidentEvents) : WellJournalled s' where
  represented := by
    obtain ⟨log, rep⟩ := well.represented
    exact ⟨log ++ [m], (rep.journalled m).frame sequence events subtypes⟩
  positioned := by
    intro row member
    obtain ⟨p, holds, bound⟩ := well.positioned row (incidents ▸ member)
    refine ⟨p, holds, ?_⟩
    rw [events, Store.journalled, List.length_append]
    omega

/-! ## Incidents -/

/-- The intents an accepted incident adds: none, or the one whose key is new. -/
def addedIntents (s : Store P) : Option NotificationIntent → List NotificationIntent
  | none => []
  | some item => if s.notificationIntents.any (fun n => n.idempotencyKey = item.idempotencyKey) then [] else [item]

/-- The version is new, and so is the id of the intent that comes with it. -/
structure Fits (s : Store P) (record : IncidentRecord) (notification : Option NotificationIntent) : Prop where
  version : ∀ r ∈ s.journal, ¬ (record.incidentId = r.incidentId ∧ record.version = r.version)
  intent : ∀ item ∈ addedIntents s notification, ∀ n ∈ s.notificationIntents, item.notificationId ≠ n.notificationId

/-- The effect of one accepted incident. -/
structure Appended (s : Store P) (record : IncidentRecord) (notification : Option NotificationIntent)
    (s' : Store P) : Prop where
  well : WellJournalled s'
  domain : ∃ p : Int, s'.domain = Store.domain { s with
    incidentEvents := s.incidentEvents ++ [⟨some p, record⟩]
    notificationIntents := s.notificationIntents ++ addedIntents s notification }

theorem Appended.journal {s s' : Store P} {record : IncidentRecord} {notification : Option NotificationIntent}
    (appended : Appended s record notification s') : s'.journal = s.journal ++ [record] := by
  obtain ⟨p, domain⟩ := appended.domain
  have incidents : s'.incidentEvents = s.incidentEvents ++ [⟨some p, record⟩] :=
    field_of_domain domain Store.incidentEvents rfl
  simp [Store.journal, incidents]

/-- Tables that an accepted incident does not write. -/
theorem Appended.frame {s s' : Store P} {record : IncidentRecord} {notification : Option NotificationIntent}
    (appended : Appended s record notification s') :
    s'.notificationIntents = s.notificationIntents ++ addedIntents s notification ∧
      s'.reviewActions = s.reviewActions ∧ s'.incidentReviewState = s.incidentReviewState ∧
      s'.commandReceipts = s.commandReceipts ∧ s'.incidentRelations = s.incidentRelations := by
  obtain ⟨p, domain⟩ := appended.domain
  exact ⟨field_of_domain domain Store.notificationIntents rfl, field_of_domain domain Store.reviewActions rfl,
    field_of_domain domain Store.incidentReviewState rfl, field_of_domain domain Store.commandReceipts rfl,
    field_of_domain domain Store.incidentRelations rfl⟩

/-- Whether the incident row clashes does not depend on its position, which is new. -/
private theorem incident_clash {s : Store P} (well : WellJournalled s) {record : IncidentRecord} :
    s.incidentEvents.any ((Tables.incidentEvents (P := P)).clash ⟨some ((s.authorityEvents.length : Int) + 1), record⟩) =
      false ↔ ∀ r ∈ s.journal, ¬ (record.incidentId = r.incidentId ∧ record.version = r.version) := by
  rw [List.any_eq_false, Store.journal, List.forall_mem_map]
  refine forall₂_congr fun row member => ?_
  obtain ⟨p, holds, bound⟩ := well.positioned row member
  have later : (s.authorityEvents.length : Int) + 1 ≠ p := by omega
  simp [Tables.incidentEvents, holds, later]

/-- The store with the incident appended and journalled, before its intent. -/
def Store.withIncident (s : Store P) (record : IncidentRecord) : Store P :=
  let s₁ := s.journalled ⟨.incident, record.incidentId.str, record.lastObservedAt, record.modelDump P⟩
  { s₁ with incidentEvents := s.incidentEvents ++ [⟨some ((s.authorityEvents.length : Int) + 1), record⟩] }

theorem WellJournalled.withIncident {s : Store P} (well : WellJournalled s) (record : IncidentRecord) :
    WellJournalled (s.withIncident record) where
  represented := by
    obtain ⟨log, rep⟩ := well.represented
    exact ⟨_, (rep.journalled _).frame rfl rfl rfl⟩
  positioned := by
    intro row member
    have length : (s.withIncident record).authorityEvents.length = s.authorityEvents.length + 1 := by
      simp [Store.withIncident, Store.journalled]
    rw [length]
    rcases List.mem_append.mp member with old | new
    · obtain ⟨p, holds, bound⟩ := well.positioned row old
      exact ⟨p, holds, by push_cast; omega⟩
    · rw [List.mem_singleton.mp new]
      exact ⟨_, rfl, by push_cast; omega⟩

/-- The store with an intent journalled and inserted. -/
def Store.withIntent (s : Store P) (item : NotificationIntent) : Store P :=
  let s₁ := s.journalled ⟨.notificationIntent, item.notificationId.str, item.createdAt, item.modelDump P⟩
  { s₁ with notificationIntents := s.notificationIntents ++ [item] }

theorem WellJournalled.withIntent {s : Store P} (well : WellJournalled s) (item : NotificationIntent) :
    WellJournalled (s.withIntent item) :=
  well.journalled ⟨.notificationIntent, item.notificationId.str, item.createdAt, item.modelDump P⟩ rfl rfl rfl rfl

/-- Positions returned by `_append_authority` count the events. -/
theorem appendAuthority_of_well {s : Store P} (well : WellJournalled s) (kind : AuthorityMutationKind)
    (entityId : String) (acceptedAt : DateTime) (payload : Json) :
    appendAuthority kind entityId acceptedAt payload s =
      (.ok ((s.authorityEvents.length : Int) + 1), s.journalled ⟨kind, entityId, acceptedAt, payload⟩) := by
  obtain ⟨log, rep⟩ := well.represented
  rw [rep.length_events]
  exact appendAuthority_of_represents rep kind entityId acceptedAt payload

theorem insertNotification_eq {s : Store P} (well : WellJournalled s) (item : NotificationIntent) :
    (s.notificationIntents.any (fun n => n.idempotencyKey = item.idempotencyKey) = true →
      insertNotification item s = (.ok false, s)) ∧
    (s.notificationIntents.any (fun n => n.idempotencyKey = item.idempotencyKey) = false →
      ((∀ n ∈ s.notificationIntents, item.notificationId ≠ n.notificationId) →
        insertNotification item s = (.ok true, s.withIntent item)) ∧
      (¬ (∀ n ∈ s.notificationIntents, item.notificationId ≠ n.notificationId) →
        ∃ s', insertNotification item s = (.error (.integrityError "notification_intents"), s'))) := by
  have appended := appendAuthority_of_well well .notificationIntent item.notificationId.str item.createdAt
    (item.modelDump P)
  refine ⟨?_, ?_⟩
  · intro present
    simp [insertNotification, present]
  · intro absent
    have keys : ∀ n ∈ s.notificationIntents, item.idempotencyKey ≠ n.idempotencyKey := by
      intro n member same
      have := List.any_eq_false.mp absent n member
      simp [same] at this
    refine ⟨?_, ?_⟩
    · intro ids
      have free : s.notificationIntents.any ((Tables.notificationIntents (P := P)).clash item) = false := by
        rw [List.any_eq_false]
        intro n member
        simp [Tables.notificationIntents, ids n member, keys n member]
      simp only [insertNotification, Call.read_bind, absent, Bool.false_eq_true, if_false]
      exact (Call.bind_of_ok appended).trans (Call.bind_of_ok (Table.insert_of_fresh free))
    · intro taken
      push Not at taken
      obtain ⟨n, member, same⟩ := taken
      have clash : s.notificationIntents.any ((Tables.notificationIntents (P := P)).clash item) = true := by
        rw [List.any_eq_true]
        exact ⟨n, member, by simp [Tables.notificationIntents, same]⟩
      simp only [insertNotification, Call.read_bind, absent, Bool.false_eq_true, if_false]
      exact ⟨_, (Call.bind_of_ok appended).trans (Call.bind_of_error (Table.insert_of_clash clash))⟩

private theorem appendIncidentBody_of_version {s : Store P} (well : WellJournalled s) {record : IncidentRecord}
    (version : ∀ r ∈ s.journal, ¬ (record.incidentId = r.incidentId ∧ record.version = r.version))
    (notification : Option NotificationIntent) :
    appendIncidentBody record notification s = insertIntent notification (s.withIncident record) := by
  have appended := appendAuthority_of_well well .incident record.incidentId.str record.lastObservedAt
    (record.modelDump P)
  exact (Call.bind_of_ok appended).trans (Call.bind_of_ok (Table.insert_of_fresh ((incident_clash well).mpr version)))

/-- `append_incident_with_notification` returns where the version and the intent fit. -/
theorem appendIncident_of_fits {s : Store P} (well : WellJournalled s) {record : IncidentRecord}
    {notification : Option NotificationIntent} (fits : Fits s record notification) :
    ∃ b s', appendIncidentWithNotification record notification s = (.ok b, s') ∧ Appended s record notification s' := by
  have head := appendIncidentBody_of_version well fits.version notification
  have well₁ := well.withIncident record
  cases notification with
  | none =>
      refine ⟨false, _, Call.atomically_of_ok head, well₁, (s.authorityEvents.length : Int) + 1, ?_⟩
      simp only [addedIntents, List.append_nil]
      rfl
  | some item =>
      obtain ⟨known, new⟩ := insertNotification_eq well₁ item
      cases present : s.notificationIntents.any (fun n => n.idempotencyKey = item.idempotencyKey) with
      | true =>
          refine ⟨false, _, Call.atomically_of_ok (head.trans (known present)), well₁,
            (s.authorityEvents.length : Int) + 1, ?_⟩
          simp only [addedIntents, present, if_true, List.append_nil]
          rfl
      | false =>
          have inserted := (new present).1 (fits.intent item (by simp [addedIntents, present]))
          refine ⟨true, _, Call.atomically_of_ok (head.trans inserted), well₁.withIntent item,
            (s.authorityEvents.length : Int) + 1, ?_⟩
          simp only [addedIntents, present, Bool.false_eq_true, if_false]
          rfl

theorem appendIncident_of_not_fits {s : Store P} (well : WellJournalled s) {record : IncidentRecord}
    {notification : Option NotificationIntent} (fits : ¬ Fits s record notification) :
    ∃ table, appendIncidentWithNotification record notification s = (.error (.integrityError table), s) := by
  by_cases version : ∀ r ∈ s.journal, ¬ (record.incidentId = r.incidentId ∧ record.version = r.version)
  · have head := appendIncidentBody_of_version well version notification
    cases notification with
    | none => exact absurd ⟨version, by simp [addedIntents]⟩ fits
    | some item =>
        obtain ⟨-, new⟩ := insertNotification_eq (well.withIncident record) item
        cases present : s.notificationIntents.any (fun n => n.idempotencyKey = item.idempotencyKey) with
        | true => exact absurd ⟨version, by simp [addedIntents, present]⟩ fits
        | false =>
            by_cases ids : ∀ n ∈ s.notificationIntents, item.notificationId ≠ n.notificationId
            · exact absurd ⟨version, by simpa [addedIntents, present] using ids⟩ fits
            · obtain ⟨s', raised⟩ := (new present).2 ids
              exact ⟨_, Call.atomically_of_error (head.trans raised)⟩
  · have appended := appendAuthority_of_well well .incident record.incidentId.str record.lastObservedAt
      (record.modelDump P)
    have clash := Bool.eq_true_of_not_eq_false (fun free => version ((incident_clash well).mp free))
    exact ⟨_, Call.atomically_of_error
      ((Call.bind_of_ok appended).trans (Call.bind_of_error (Table.insert_of_clash clash)))⟩

/-! ## Reviews, receipts and relations -/

/-- The domain tables after a recorded review. -/
def Store.reviewed (s : Store P) (action : ReviewAction) : Store P :=
  { s with
    reviewActions := s.reviewActions ++ [action]
    incidentReviewState :=
      upsertReviewState (reviewUpdate (s.reviewState action.incidentId) action) s.incidentReviewState }

/-- `record_review` returns where the review id is new. -/
theorem recordReview_of_fresh {s : Store P} (well : WellJournalled s) {action : ReviewAction}
    (fresh : ∀ r ∈ s.reviewActions, action.reviewId ≠ r.reviewId) :
    ∃ s', recordReview action s = (.ok (reviewUpdate (s.reviewState action.incidentId) action), s') ∧
      WellJournalled s' ∧ s'.domain = (s.reviewed action).domain := by
  have appended := appendAuthority_of_well well .review action.reviewId.str action.createdAt (action.modelDump P)
  have free : s.reviewActions.any ((Tables.reviewActions (P := P)).clash action) = false := by
    rw [List.any_eq_false]
    intro r member
    simp [Tables.reviewActions, fresh r member]
  refine ⟨{ s.journalled ⟨.review, action.reviewId.str, action.createdAt, action.modelDump P⟩ with
    reviewActions := (s.reviewed action).reviewActions
    incidentReviewState := (s.reviewed action).incidentReviewState }, Call.atomically_of_ok ?_,
    well.journalled ⟨.review, action.reviewId.str, action.createdAt, action.modelDump P⟩ rfl rfl rfl rfl, rfl⟩
  simp only [recordReviewBody, Call.read_bind]
  exact (Call.bind_of_ok appended).trans (Call.bind_of_ok (Table.insert_of_fresh free))

theorem recordReview_of_clash {s : Store P} (well : WellJournalled s) {action : ReviewAction}
    (clash : ¬ ∀ r ∈ s.reviewActions, action.reviewId ≠ r.reviewId) :
    recordReview action s = (.error (.integrityError "review_actions"), s) := by
  have appended := appendAuthority_of_well well .review action.reviewId.str action.createdAt (action.modelDump P)
  push Not at clash
  obtain ⟨r, member, same⟩ := clash
  have taken : s.reviewActions.any ((Tables.reviewActions (P := P)).clash action) = true := by
    rw [List.any_eq_true]
    exact ⟨r, member, by simp [Tables.reviewActions, same]⟩
  refine Call.atomically_of_error (t := s.journalled ⟨.review, action.reviewId.str, action.createdAt,
    action.modelDump P⟩) ?_
  simp only [recordReviewBody, Call.read_bind]
  exact (Call.bind_of_ok appended).trans (Call.bind_of_error (Table.insert_of_clash taken))

/-- The domain tables after a recorded receipt. -/
def Store.withReceipt (s : Store P) (receipt : CommandReceipt P) : Store P :=
  { s with commandReceipts := s.commandReceipts ++ [receipt] }

/-- `record_command_receipt` under a new key returns where the command id is new. -/
theorem recordCommandReceipt_of_fresh {s : Store P} (well : WellJournalled s) (receipt : CommandReceipt P)
    (key : s.commandReceipt receipt.scopedIdempotencyKey = none)
    (fresh : ∀ r ∈ s.commandReceipts, receipt.commandId ≠ r.commandId) :
    ∃ s', recordCommandReceipt receipt s = (.ok receipt, s') ∧ WellJournalled s' ∧
      s'.domain = (s.withReceipt receipt).domain := by
  have appended := appendAuthority_of_well well .command receipt.commandId.str
    (receipt.committedAt.getD receipt.acceptedAt) receipt.modelDump
  have free : s.commandReceipts.any ((Tables.commandReceipts (P := P)).clash receipt) = false := by
    rw [List.any_eq_false]
    intro r member
    have apart : receipt.scopedIdempotencyKey ≠ r.scopedIdempotencyKey := by
      intro same
      have := List.find?_eq_none.mp key r member
      simp [same] at this
    simp [Tables.commandReceipts, fresh r member, apart]
  refine ⟨{ s.journalled ⟨.command, receipt.commandId.str, receipt.committedAt.getD receipt.acceptedAt,
      receipt.modelDump⟩ with commandReceipts := s.commandReceipts ++ [receipt] }, Call.atomically_of_ok ?_,
    well.journalled ⟨.command, receipt.commandId.str, receipt.committedAt.getD receipt.acceptedAt,
      receipt.modelDump⟩ rfl rfl rfl rfl, rfl⟩
  simp only [recordCommandReceiptBody, Call.read_bind, key]
  exact (Call.bind_of_ok appended).trans (Call.bind_of_ok (Table.insert_of_fresh free))

theorem recordCommandReceipt_of_clash {s : Store P} (well : WellJournalled s) (receipt : CommandReceipt P)
    (key : s.commandReceipt receipt.scopedIdempotencyKey = none)
    (clash : ¬ ∀ r ∈ s.commandReceipts, receipt.commandId ≠ r.commandId) :
    recordCommandReceipt receipt s = (.error (.integrityError "command_receipts"), s) := by
  have appended := appendAuthority_of_well well .command receipt.commandId.str
    (receipt.committedAt.getD receipt.acceptedAt) receipt.modelDump
  push Not at clash
  obtain ⟨r, member, same⟩ := clash
  have taken : s.commandReceipts.any ((Tables.commandReceipts (P := P)).clash receipt) = true := by
    rw [List.any_eq_true]
    exact ⟨r, member, by simp [Tables.commandReceipts, same]⟩
  refine Call.atomically_of_error (t := s.journalled ⟨.command, receipt.commandId.str,
    receipt.committedAt.getD receipt.acceptedAt, receipt.modelDump⟩) ?_
  simp only [recordCommandReceiptBody, Call.read_bind, key]
  exact (Call.bind_of_ok appended).trans (Call.bind_of_error (Table.insert_of_clash taken))

/-- The row `record_incident_relation` looks for. -/
def Store.relationLike (s : Store P) (relation : IncidentRelation) : Option (Stored P IncidentRelation) :=
  s.incidentRelations.find? (fun row => row.record.sourceIncidentId = relation.sourceIncidentId &&
    row.record.targetIncidentId = relation.targetIncidentId && row.record.relation = relation.relation)

/-- A relation between the same incidents is returned when it is the same, and
    is a conflict otherwise; either way nothing changes. -/
theorem recordIncidentRelation_of_known {s : Store P} {relation : IncidentRelation} {row : Stored P IncidentRelation}
    (known : s.relationLike relation = some row) :
    recordIncidentRelation relation s =
      (if row.payloadSha256 ≠ P.sha256 (relation.modelDump P) then .error (.valueError "incident relation conflict")
        else .ok row.record, s) := by
  have found : (Tables.incidentRelations.rows s).find? (fun row =>
      row.record.sourceIncidentId = relation.sourceIncidentId &&
        row.record.targetIncidentId = relation.targetIncidentId && row.record.relation = relation.relation) = some row :=
    known
  by_cases same : row.payloadSha256 = P.sha256 (relation.modelDump P)
  · refine (Call.atomically_of_ok (a := row.record) (t := s) ?_).trans (by simp [same])
    simp only [recordOnce, Call.read_bind, found]
    simp [same]
  · refine (Call.atomically_of_error (e := .valueError "incident relation conflict") (t := s) ?_).trans (by simp [same])
    simp only [recordOnce, Call.read_bind, found]
    simp [same]

private theorem relationLike_none {s : Store P} {relation : IncidentRelation} (unknown : s.relationLike relation = none) :
    (Tables.incidentRelations.rows s).find? (fun row => row.record.sourceIncidentId = relation.sourceIncidentId &&
      row.record.targetIncidentId = relation.targetIncidentId && row.record.relation = relation.relation) = none :=
  unknown

/-- The domain tables after a recorded relation. -/
def Store.withRelation (s : Store P) (relation : IncidentRelation) : Store P :=
  { s with incidentRelations := s.incidentRelations ++ [⟨relation, P.sha256 (relation.modelDump P)⟩] }

/-- `record_incident_relation` of a new relation returns where its id is new. -/
theorem recordIncidentRelation_of_fresh {s : Store P} (well : WellJournalled s) {relation : IncidentRelation}
    (unknown : s.relationLike relation = none)
    (fresh : ∀ row ∈ s.incidentRelations, relation.relationId ≠ row.record.relationId) :
    ∃ s', recordIncidentRelation relation s = (.ok relation, s') ∧ WellJournalled s' ∧
      s'.domain = (s.withRelation relation).domain := by
  have appended := appendAuthority_of_well well .incidentRelation relation.relationId.str relation.createdAt
    (relation.modelDump P)
  have free : s.incidentRelations.any ((Tables.incidentRelations (P := P)).clash
      ⟨relation, P.sha256 (relation.modelDump P)⟩) = false := by
    rw [List.any_eq_false]
    intro row member
    have apart := List.find?_eq_none.mp unknown row member
    simp only [Bool.and_eq_true, decide_eq_true_eq, not_and] at apart
    simp only [Tables.incidentRelations, Bool.or_eq_true, Bool.and_eq_true, decide_eq_true_eq, not_or, not_and]
    exact ⟨fresh row member, fun h => fun h' => apart ⟨h.1.symm, h.2.symm⟩ h'.symm⟩
  refine ⟨{ s.journalled ⟨.incidentRelation, relation.relationId.str, relation.createdAt, relation.modelDump P⟩ with
      incidentRelations := s.incidentRelations ++ [⟨relation, P.sha256 (relation.modelDump P)⟩] },
    Call.atomically_of_ok ?_,
    well.journalled ⟨.incidentRelation, relation.relationId.str, relation.createdAt, relation.modelDump P⟩
      rfl rfl rfl rfl, rfl⟩
  simp only [recordOnce, Call.read_bind, relationLike_none unknown]
  exact (Call.bind_of_ok appended).trans (Call.bind_of_ok (Table.insert_of_fresh free))

theorem recordIncidentRelation_of_clash {s : Store P} (well : WellJournalled s) {relation : IncidentRelation}
    (unknown : s.relationLike relation = none)
    (clash : ¬ ∀ row ∈ s.incidentRelations, relation.relationId ≠ row.record.relationId) :
    recordIncidentRelation relation s = (.error (.integrityError "incident_relations"), s) := by
  have appended := appendAuthority_of_well well .incidentRelation relation.relationId.str relation.createdAt
    (relation.modelDump P)
  push Not at clash
  obtain ⟨row, member, same⟩ := clash
  have taken : s.incidentRelations.any ((Tables.incidentRelations (P := P)).clash
      ⟨relation, P.sha256 (relation.modelDump P)⟩) = true := by
    rw [List.any_eq_true]
    exact ⟨row, member, by simp [Tables.incidentRelations, same]⟩
  refine Call.atomically_of_error (t := s.journalled ⟨.incidentRelation, relation.relationId.str,
    relation.createdAt, relation.modelDump P⟩) ?_
  simp only [recordOnce, Call.read_bind, relationLike_none unknown]
  exact (Call.bind_of_ok appended).trans (Call.bind_of_error (Table.insert_of_clash taken))

/-! ## Deliveries -/

/-- The row of an intent with the columns `record_delivery` writes. -/
def delivered (updated : NotificationIntent) (n : NotificationIntent) : NotificationIntent :=
  if n.notificationId = updated.notificationId then
    { n with status := updated.status, updatedAt := updated.updatedAt, attemptCount := updated.attemptCount,
             lastError := updated.lastError, receiptId := updated.receiptId }
  else n

/-- The domain tables after a recorded delivery. -/
def Store.withDelivery (s : Store P) (updated : NotificationIntent) : Store P :=
  { s with notificationIntents := s.notificationIntents.map (delivered updated) }

/-- `record_delivery` of a stored intent that was not delivered before. -/
theorem recordDelivery_of_open {s : Store P} (well : WellJournalled s) {notificationId : UUID}
    {current : NotificationIntent} (found : s.notification notificationId = some current)
    (undelivered : current.status ≠ .delivered) (isDelivered : Bool) (receiptId error : Option String)
    (acceptedAt : DateTime) :
    ∃ s', recordDelivery notificationId isDelivered receiptId error acceptedAt s =
        (.ok (deliveryUpdate current isDelivered receiptId error acceptedAt), s') ∧ WellJournalled s' ∧
      s'.domain = (s.withDelivery (deliveryUpdate current isDelivered receiptId error acceptedAt)).domain := by
  obtain ⟨updated, hu⟩ : ∃ u, u = deliveryUpdate current isDelivered receiptId error acceptedAt := ⟨_, rfl⟩
  have appended := appendAuthority_of_well well .notificationDelivery updated.notificationId.str acceptedAt
    (updated.modelDump P)
  refine ⟨{ s.journalled ⟨.notificationDelivery, updated.notificationId.str, acceptedAt, updated.modelDump P⟩ with
    notificationIntents := (s.withDelivery updated).notificationIntents }, Call.atomically_of_ok ?_, ?_, ?_⟩
  · simp only [recordDeliveryBody, Call.read_bind, found, undelivered, if_false, ← hu]
    exact Call.bind_of_ok appended
  · exact well.journalled ⟨.notificationDelivery, updated.notificationId.str, acceptedAt, updated.modelDump P⟩
      rfl rfl rfl rfl
  · rw [← hu]
    rfl

end SentinelEdge.Storage
