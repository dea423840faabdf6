import SentinelEdge.Storage.Store

/-! # Write operations of the journal store

Each public write is one transaction: the body below may append authority
events and insert rows before it raises, and the transaction then restores
every table, `sqlite_sequence` included.
-/

namespace SentinelEdge.Storage

open Foundation Domain

variable {P : Platform}

abbrev StoreCall (P : Platform) (α : Type) := Call (Store P) Error α

def authorityEpoch : String := "authority-epoch-1"

/-- `int(previous["epoch_ordinal"] or previous["position"]) + 1`: a null or zero
    ordinal falls back to the position. -/
def nextOrdinal : Option (AuthorityEvent P) → Int
  | none => 1
  | some previous => match previous.epochOrdinal with
      | none => previous.position + 1
      | some ordinal => (if ordinal = 0 then previous.position else ordinal) + 1

/-- `INSERT INTO authority_events`, which also moves `sqlite_sequence`. -/
def insertAuthorityEvent (event : AuthorityEvent P) : StoreCall P Unit := do
  Tables.authorityEvents.insert (.integrityError "authority_events") event
  Call.modify (fun s => { s with authoritySequence := event.position })

/-- `_append_authority`: one event and its subtype row. -/
def appendAuthority (kind : AuthorityMutationKind) (entityId : String) (acceptedAt : DateTime)
    (payload : Json) : StoreCall P Int := do
  let previous ← Call.read (fun s => s.authorityEvents.getLast?)
  let position ← Call.read Store.nextPosition
  insertAuthorityEvent {
    position := position
    epochId := authorityEpoch
    epochOrdinal := some (nextOrdinal previous)
    predecessorPosition := previous.map AuthorityEvent.position
    kind := kind.value
    entityId := entityId
    acceptedAt := acceptedAt
    payloadSha256 := some (P.sha256 payload)
    payloadJson := P.dumps payload }
  Tables.authorityEventSubtypes.insert (.integrityError "authority_event_subtypes") {
    authorityPosition := position
    kind := kind.value
    subtypeId := entityId
    payloadSha256 := P.sha256 payload
    payloadJson := P.dumps payload }
  pure position

/-- The kind argument is an enumeration member or its text. -/
def recordAuthorityMutation (kind : String ⊕ AuthorityMutationKind) (entityId : String)
    (acceptedAt : DateTime) (payload : Json) : StoreCall P Int :=
  match kind with
  | .inr resolved => Call.atomically (appendAuthority resolved entityId acceptedAt payload)
  | .inl value => match AuthorityMutationKind.ofValue value with
      | none => Call.raise (.valueError ("'" ++ value ++ "' is not a valid AuthorityMutationKind"))
      | some resolved => Call.atomically (appendAuthority resolved entityId acceptedAt payload)

/-! ## Incidents and notifications -/

/-- The notification half of `append_incident_with_notification`: an intent
    whose key is already present is dropped. -/
def insertNotification (item : NotificationIntent) : StoreCall P Bool := do
  let present ← Call.read (fun s => s.notificationIntents.any (fun n => n.idempotencyKey = item.idempotencyKey))
  if present then pure false
  else do
    let _ ← appendAuthority .notificationIntent item.notificationId.str item.createdAt (item.modelDump P)
    Tables.notificationIntents.insert (.integrityError "notification_intents") item
    pure true

def insertIntent : Option NotificationIntent → StoreCall P Bool
  | none => pure false
  | some item => insertNotification item

def appendIncidentBody (incident : IncidentRecord) (notification : Option NotificationIntent) :
    StoreCall P Bool := do
  let position ← appendAuthority .incident incident.incidentId.str incident.lastObservedAt (incident.modelDump P)
  Tables.incidentEvents.insert (.integrityError "incident_events") ⟨some position, incident⟩
  insertIntent notification

/-- `append_incident_with_notification` -/
def appendIncidentWithNotification (incident : IncidentRecord) (notification : Option NotificationIntent) :
    StoreCall P Bool :=
  Call.atomically (appendIncidentBody incident notification)

/-- The intent after one delivery attempt. -/
def deliveryUpdate (current : NotificationIntent) (delivered : Bool) (receiptId error : Option String)
    (acceptedAt : DateTime) : NotificationIntent :=
  let attempts := current.attemptCount + 1
  { current with
    status := if delivered then .delivered else if attempts ≥ current.maxAttempts then .deadLetter else .failed
    attemptCount := attempts
    updatedAt := acceptedAt
    receiptId := if delivered then receiptId else none
    lastError := if delivered then none else match error with
      | none => some "delivery_failed"
      | some text => if text = "" then some "delivery_failed" else some text }

def recordDeliveryBody (notificationId : UUID) (delivered : Bool) (receiptId error : Option String)
    (acceptedAt : DateTime) : StoreCall P NotificationIntent := do
  let row ← Call.read (fun s => s.notification notificationId)
  match row with
  | none => Call.raise (.keyError notificationId.str)
  | some current =>
      if current.status = .delivered then pure current
      else do
        let updated := deliveryUpdate current delivered receiptId error acceptedAt
        let _ ← appendAuthority .notificationDelivery updated.notificationId.str acceptedAt (updated.modelDump P)
        Call.modify (fun s => { s with notificationIntents := s.notificationIntents.map (fun n =>
          if n.notificationId = updated.notificationId then
            { n with status := updated.status, updatedAt := updated.updatedAt, attemptCount := updated.attemptCount,
                     lastError := updated.lastError, receiptId := updated.receiptId }
          else n) })
        pure updated

/-- `record_delivery` -/
def recordDelivery (notificationId : UUID) (delivered : Bool) (receiptId error : Option String)
    (acceptedAt : DateTime) : StoreCall P NotificationIntent :=
  Call.atomically (recordDeliveryBody notificationId delivered receiptId error acceptedAt)

/-! ## Reviews and receipts -/

/-- The review state after an action. -/
def reviewUpdate (current : IncidentReviewState) (action : ReviewAction) : IncidentReviewState :=
  match action.action with
  | .acknowledge => { current with
      acknowledgedAt := some action.createdAt, acknowledgedBy := some action.actor
      reviewCount := current.reviewCount + 1 }
  | .snooze => { current with
      snoozedUntil := action.snoozeUntil, snoozedBy := some action.actor
      reviewCount := current.reviewCount + 1 }
  | .unsnooze => { current with snoozedUntil := none, snoozedBy := none, reviewCount := current.reviewCount + 1 }
  | .comment => { current with reviewCount := current.reviewCount + 1 }

/-- `INSERT … ON CONFLICT(incident_id) DO UPDATE` -/
def upsertReviewState (updated : IncidentReviewState) (rows : List IncidentReviewState) : List IncidentReviewState :=
  if rows.any (fun r => r.incidentId = updated.incidentId) then
    rows.map (fun r => if r.incidentId = updated.incidentId then updated else r)
  else rows ++ [updated]

def recordReviewBody (action : ReviewAction) : StoreCall P IncidentReviewState := do
  let current ← Call.read (fun s => s.reviewState action.incidentId)
  let updated := reviewUpdate current action
  let _ ← appendAuthority .review action.reviewId.str action.createdAt (action.modelDump P)
  Tables.reviewActions.insert (.integrityError "review_actions") action
  Call.modify (fun s => { s with incidentReviewState := upsertReviewState updated s.incidentReviewState })
  pure updated

/-- `record_review` -/
def recordReview (action : ReviewAction) : StoreCall P IncidentReviewState :=
  Call.atomically (recordReviewBody action)

def recordCommandReceiptBody (receipt : CommandReceipt P) : StoreCall P (CommandReceipt P) := do
  let row ← Call.read (fun s => s.commandReceipt receipt.scopedIdempotencyKey)
  match row with
  | some existing =>
      if existing.payloadSha256 ≠ receipt.payloadSha256 then
        Call.raise (.valueError "idempotency key reused with a different payload")
      else pure existing
  | none => do
      let _ ← appendAuthority .command receipt.commandId.str (receipt.committedAt.getD receipt.acceptedAt)
        receipt.modelDump
      Tables.commandReceipts.insert (.integrityError "command_receipts") receipt
      pure receipt

/-- `record_command_receipt` -/
def recordCommandReceipt (receipt : CommandReceipt P) : StoreCall P (CommandReceipt P) :=
  Call.atomically (recordCommandReceiptBody receipt)

/-! ## Evidence, claims and relations

Media parser reports, re-evaluations, claims, claim links and relations follow
one scheme: an existing row with the same key is returned when its payload is
the same and is a conflict otherwise. -/

def recordOnce {α : Type} (table : Table (Store P) (Stored P α)) (name : String) (key : Stored P α → Bool)
    (conflict : String) (kind : AuthorityMutationKind) (entityId : String) (createdAt : DateTime) (payload : Json)
    (record : α) : StoreCall P α := do
  let existing ← Call.read (fun s => (table.rows s).find? key)
  match existing with
  | some row =>
      if row.payloadSha256 ≠ P.sha256 payload then Call.raise (.valueError conflict) else pure row.record
  | none => do
      let _ ← appendAuthority kind entityId createdAt payload
      table.insert (.integrityError name) ⟨record, P.sha256 payload⟩
      pure record

/-- `record_media_parser_report` -/
def recordMediaParserReport (report : MediaParserReport) : StoreCall P MediaParserReport :=
  Call.atomically (recordOnce Tables.mediaParserRuns "media_parser_runs"
    (fun row => row.record.parseId = report.parseId) "media parser report identity conflict"
    .mediaParse report.parseId.str report.createdAt (report.modelDump P) report)

/-- `record_evidence_reevaluation` -/
def recordEvidenceReevaluation (record : EvidenceReevaluationRecord) : StoreCall P EvidenceReevaluationRecord :=
  Call.atomically (recordOnce Tables.evidenceReevaluations "evidence_reevaluations"
    (fun row => row.record.reevaluationId = record.reevaluationId) "evidence reevaluation identity conflict"
    .evidenceReevaluation record.reevaluationId.str record.createdAt (record.modelDump P) record)

/-- `record_claim` -/
def recordClaim (claim : ClaimNode) : StoreCall P ClaimNode :=
  Call.atomically (recordOnce Tables.claimNodes "claim_nodes"
    (fun row => row.record.claimId = claim.claimId) "claim identity conflict"
    .claim claim.claimId.str claim.createdAt (claim.modelDump P) claim)

/-- `record_incident_relation`: the key is the pair of incidents and the kind of
    relation, not the relation id. -/
def recordIncidentRelation (relation : IncidentRelation) : StoreCall P IncidentRelation :=
  Call.atomically (recordOnce Tables.incidentRelations "incident_relations"
    (fun row => row.record.sourceIncidentId = relation.sourceIncidentId &&
      row.record.targetIncidentId = relation.targetIncidentId && row.record.relation = relation.relation)
    "incident relation conflict"
    .incidentRelation relation.relationId.str relation.createdAt (relation.modelDump P) relation)

/-- The body of `record_claim_link`: both ends must exist before the lookup. -/
def recordClaimLinkBody (link : ClaimEvidenceLink) : StoreCall P ClaimEvidenceLink := do
  let claim ← Call.read (fun s => s.claimNodes.any (fun row => row.record.claimId = link.claimId))
  let evidence ← Call.read (fun s => s.evidenceItems.any (fun row => row.record.evidenceId = link.evidenceId))
  if !claim || !evidence then Call.raise (.valueError "claim link target does not exist")
  else
    recordOnce Tables.claimEvidenceLinks "claim_evidence_links"
      (fun row => row.record.claimId = link.claimId && row.record.evidenceId = link.evidenceId &&
        row.record.relation = link.relation)
      "claim link identity conflict" .claimLink link.linkId.str link.createdAt (link.modelDump P) link

/-- `record_claim_link` -/
def recordClaimLink (link : ClaimEvidenceLink) : StoreCall P ClaimEvidenceLink :=
  Call.atomically (recordClaimLinkBody link)

/-- `_record_evidence_lifecycle_locked`: runs inside the caller's transaction. -/
def recordEvidenceLifecycleLocked (event : EvidenceLifecycleEvent) : StoreCall P EvidenceLifecycleEvent := do
  let row ← Call.read (fun s => s.evidenceLifecycleEvents.find? (fun row =>
    row.record.lifecycleEventId = event.lifecycleEventId))
  match row with
  | some row =>
      if row.payloadSha256 ≠ P.sha256 (event.modelDump P) then
        Call.raise (.valueError "evidence lifecycle identity conflict")
      else pure row.record
  | none => do
      let latest ← Call.read (fun s => s.latestLifecycle event.evidenceId)
      let currentVersion := (latest.map EvidenceLifecycleEvent.resultingVersion).getD 0
      let currentState := latest.map EvidenceLifecycleEvent.toState
      if event.expectedVersion ≠ currentVersion ∨ event.fromState ≠ currentState then
        Call.raise (.valueError "evidence lifecycle stale version or state")
      else do
        let _ ← appendAuthority .evidenceLifecycle event.lifecycleEventId.str event.createdAt (event.modelDump P)
        Tables.evidenceLifecycleEvents.insert (.integrityError "evidence_lifecycle_events")
          ⟨event, P.sha256 (event.modelDump P)⟩
        pure event

def recordEvidenceLifecycleBody (event : EvidenceLifecycleEvent) : StoreCall P EvidenceLifecycleEvent := do
  let target ← Call.read (fun s => s.evidenceItems.find? (fun row => row.record.evidenceId = event.evidenceId))
  match target with
  | none => Call.raise (.valueError "evidence lifecycle target does not exist or incident differs")
  | some row =>
      if row.record.incidentId ≠ event.incidentId then
        Call.raise (.valueError "evidence lifecycle target does not exist or incident differs")
      else recordEvidenceLifecycleLocked event

/-- `record_evidence_lifecycle` -/
def recordEvidenceLifecycle (event : EvidenceLifecycleEvent) : StoreCall P EvidenceLifecycleEvent :=
  Call.atomically (recordEvidenceLifecycleBody event)

/-- The REGISTER event of a new item; its id is drawn by `uuid4`. -/
def registration (item : EvidenceItem) (lifecycleEventId : UUID) : EvidenceLifecycleEvent where
  lifecycleEventId := lifecycleEventId
  evidenceId := item.evidenceId
  incidentId := item.incidentId
  action := .register
  fromState := none
  toState := match item.retentionState with
    | .retained => .available
    | .metadataOnly => .metadataOnly
    | .rejected => .unavailableAtCapture
  expectedVersion := 0
  resultingVersion := 1
  actor := "component-4-evidence-ingest"
  reason := "evidence_registered"
  createdAt := item.receivedAt
  deletionProofSha256 := none
  redactionProfileId := none
  reasonCodes := ["initial_retention:" ++ item.retentionState.value]

def recordEvidenceBody (item : EvidenceItem) (lifecycleEventId : UUID) : StoreCall P EvidenceItem := do
  let row ← Call.read (fun s => s.evidenceItems.find? (fun row => row.record.evidenceId = item.evidenceId))
  match row with
  | some row =>
      if row.payloadSha256 ≠ P.sha256 (item.modelDump P) then
        Call.raise (.valueError "evidence identity conflict")
      else pure row.record
  | none => do
      let _ ← appendAuthority .evidence item.evidenceId.str item.receivedAt (item.modelDump P)
      Tables.evidenceItems.insert (.integrityError "evidence_items") ⟨item, P.sha256 (item.modelDump P)⟩
      let _ ← recordEvidenceLifecycleLocked (registration item lifecycleEventId)
      pure item

/-- `record_evidence` -/
def recordEvidence (item : EvidenceItem) (lifecycleEventId : UUID) : StoreCall P EvidenceItem :=
  if item.familyId.isNone then
    Call.raise (.valueError "evidence family_id must be assigned before persistence")
  else Call.atomically (recordEvidenceBody item lifecycleEventId)

def recordIdentityDecisionBody (candidate : IncidentCandidate) (decision : IncidentIdentityDecision) :
    StoreCall P IncidentIdentityDecision := do
  let existing ← Call.read (fun s => s.incidentIdentityDecisions.find? (fun row =>
    row.record.candidateId = candidate.candidateId))
  match existing with
  | some row =>
      if row.payloadSha256 ≠ P.sha256 (decision.modelDump P) then
        Call.raise (.valueError "incident identity decision conflict")
      else pure row.record
  | none => do
      Tables.incidentCandidates.insert (.integrityError "incident_candidates")
        ⟨candidate, decision.incidentId, P.sha256 (candidate.modelDump P)⟩
      Tables.incidentIdentityDecisions.insert (.integrityError "incident_identity_decisions")
        ⟨decision, P.sha256 (decision.modelDump P)⟩
      pure decision

/-- `record_identity_decision`: the only write that is not journalled. -/
def recordIdentityDecision (candidate : IncidentCandidate) (decision : IncidentIdentityDecision) :
    StoreCall P IncidentIdentityDecision :=
  Call.atomically (recordIdentityDecisionBody candidate decision)

/-! ## Conformance of the authority journal -/

structure AuthorityReport where
  valid : Bool
  epochId : String
  eventCount : Nat
  highestContiguousPosition : Int
  failures : List String
  deriving DecidableEq, Repr

/-- `[code]` where a check fails, nothing where it passes. -/
def failing (condition : Bool) (code : String) (position : Int) : List String :=
  if condition then [code ++ ":" ++ toString position] else []

/-- `int(row["epoch_ordinal"] or -1)`: null and zero both read as -1. -/
def reportedOrdinal : Option Int → Int
  | none => -1
  | some ordinal => if ordinal = 0 then -1 else ordinal

/-- The failures of one joined row, in the order they are reported. -/
def eventFailures (subtype : Option (AuthoritySubtype P)) (expectedOrdinal : Int) (previousPosition : Option Int)
    (row : AuthorityEvent P) (digest : P.Digest) : List String :=
  failing (row.epochId ≠ authorityEpoch) "wrong_epoch" row.position ++
  failing (reportedOrdinal row.epochOrdinal ≠ expectedOrdinal) "ordinal_gap" row.position ++
  failing (row.predecessorPosition ≠ previousPosition) "predecessor_mismatch" row.position ++
  (match subtype with
    | none => failing true "missing_subtype" row.position
    | some sub => failing (sub.kind ≠ row.kind || sub.subtypeId ≠ row.entityId)
        "subtype_identity_mismatch" row.position) ++
  failing (row.payloadSha256 ≠ some digest) "supertype_digest_mismatch" row.position ++
  (match subtype with
    | none => failing true "subtype_digest_mismatch" row.position
    | some sub => failing (sub.payloadSha256 ≠ digest || sub.payloadJson ≠ row.payloadJson)
        "subtype_digest_mismatch" row.position)

/-- The loop over the joined rows: failures, and the last position seen. -/
def checkEvents (subtypes : List (AuthoritySubtype P)) :
    Int → Option Int → List (AuthorityEvent P) → Except Error (List String × Option Int)
  | _, previousPosition, [] => .ok ([], previousPosition)
  | expectedOrdinal, previousPosition, row :: rows =>
      match P.loads row.payloadJson with
      | none => .error .jsonDecodeError
      | some payload =>
          let here := eventFailures (subtypes.find? (fun sub => sub.authorityPosition = row.position))
            expectedOrdinal previousPosition row (P.sha256 payload)
          match checkEvents subtypes (expectedOrdinal + 1) (some row.position) rows with
          | .error e => .error e
          | .ok (later, last) => .ok (here ++ later, last)

def orphanCount (s : Store P) : Nat :=
  s.authorityEventSubtypes.countP (fun sub => !(s.authorityEvents.any (fun row => row.position = sub.authorityPosition)))

/-- `authority_conformance` -/
def authorityConformance (s : Store P) : Except Error AuthorityReport :=
  match checkEvents s.authorityEventSubtypes 1 none s.authorityEvents with
  | .error e => .error e
  | .ok (events, last) =>
      let failures := events ++
        (if orphanCount s = 0 then [] else ["orphan_subtypes:" ++ toString (orphanCount s)])
      .ok {
        valid := failures.isEmpty
        epochId := authorityEpoch
        eventCount := s.authorityEvents.length
        highestContiguousPosition := if failures.isEmpty then last.getD 0 else 0
        failures := failures }

end SentinelEdge.Storage
