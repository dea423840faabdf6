import Mathlib.Data.List.Sort
import SentinelEdge.Domain.Evidence
import SentinelEdge.Foundation.Table

/-! # The incident journal store

Tables of `IncidentJournalStore` and its queries. A table lists its rows in
rowid order. Domain rows keep the record their `payload_json` column encodes;
the two authority tables keep their columns one by one, since a damaged journal
may hold any values there.
-/

namespace SentinelEdge.Storage

open Foundation Domain

/-- A row of `authority_events`. Columns that the schema leaves nullable are
    optional. -/
structure AuthorityEvent (P : Platform) where
  position : Int
  epochId : String
  epochOrdinal : Option Int
  predecessorPosition : Option Int
  kind : String
  entityId : String
  acceptedAt : DateTime
  payloadSha256 : Option P.Digest
  payloadJson : P.Text
  deriving DecidableEq

/-- A row of `authority_event_subtypes`. -/
structure AuthoritySubtype (P : Platform) where
  authorityPosition : Int
  kind : String
  subtypeId : String
  payloadSha256 : P.Digest
  payloadJson : P.Text
  deriving DecidableEq

/-- A row of `incident_events`; rows of an old schema have no position yet. -/
structure IncidentEvent where
  authorityPosition : Option Int
  incident : IncidentRecord
  deriving DecidableEq

/-- A row with a `payload_sha256` column beside its record. -/
structure Stored (P : Platform) (α : Type) where
  record : α
  payloadSha256 : P.Digest
  deriving DecidableEq

/-- A row of `incident_candidates`: the incident is the one decided on. -/
structure CandidateRow (P : Platform) where
  candidate : IncidentCandidate
  incidentId : UUID
  payloadSha256 : P.Digest
  deriving DecidableEq

structure Store (P : Platform) where
  /-- `sqlite_sequence` of `authority_events`. -/
  authoritySequence : Int
  authorityEvents : List (AuthorityEvent P)
  authorityEventSubtypes : List (AuthoritySubtype P)
  incidentEvents : List IncidentEvent
  notificationIntents : List NotificationIntent
  reviewActions : List ReviewAction
  incidentReviewState : List IncidentReviewState
  commandReceipts : List (CommandReceipt P)
  evidenceItems : List (Stored P EvidenceItem)
  evidenceLifecycleEvents : List (Stored P EvidenceLifecycleEvent)
  mediaParserRuns : List (Stored P MediaParserReport)
  evidenceReevaluations : List (Stored P EvidenceReevaluationRecord)
  claimNodes : List (Stored P ClaimNode)
  claimEvidenceLinks : List (Stored P ClaimEvidenceLink)
  incidentRelations : List (Stored P IncidentRelation)
  incidentCandidates : List (CandidateRow P)
  incidentIdentityDecisions : List (Stored P IncidentIdentityDecision)
  deriving DecidableEq

variable {P : Platform}

/-- A freshly created database. -/
def Store.empty : Store P where
  authoritySequence := 0
  authorityEvents := []
  authorityEventSubtypes := []
  incidentEvents := []
  notificationIntents := []
  reviewActions := []
  incidentReviewState := []
  commandReceipts := []
  evidenceItems := []
  evidenceLifecycleEvents := []
  mediaParserRuns := []
  evidenceReevaluations := []
  claimNodes := []
  claimEvidenceLinks := []
  incidentRelations := []
  incidentCandidates := []
  incidentIdentityDecisions := []

/-! ## Tables and their constraints -/

namespace Tables

def authorityEvents : Table (Store P) (AuthorityEvent P) where
  rows := Store.authorityEvents
  setRows s rows := { s with authorityEvents := rows }
  clash new old := new.position = old.position ||
    (new.epochId = old.epochId && new.epochOrdinal.isSome && new.epochOrdinal = old.epochOrdinal)

def authorityEventSubtypes : Table (Store P) (AuthoritySubtype P) where
  rows := Store.authorityEventSubtypes
  setRows s rows := { s with authorityEventSubtypes := rows }
  clash new old := new.authorityPosition = old.authorityPosition

def incidentEvents : Table (Store P) IncidentEvent where
  rows := Store.incidentEvents
  setRows s rows := { s with incidentEvents := rows }
  clash new old := (new.authorityPosition.isSome && new.authorityPosition = old.authorityPosition) ||
    (new.incident.incidentId = old.incident.incidentId && new.incident.version = old.incident.version)

def notificationIntents : Table (Store P) NotificationIntent where
  rows := Store.notificationIntents
  setRows s rows := { s with notificationIntents := rows }
  clash new old := new.notificationId = old.notificationId || new.idempotencyKey = old.idempotencyKey

def reviewActions : Table (Store P) ReviewAction where
  rows := Store.reviewActions
  setRows s rows := { s with reviewActions := rows }
  clash new old := new.reviewId = old.reviewId

def commandReceipts : Table (Store P) (CommandReceipt P) where
  rows := Store.commandReceipts
  setRows s rows := { s with commandReceipts := rows }
  clash new old := new.commandId = old.commandId || new.scopedIdempotencyKey = old.scopedIdempotencyKey

def evidenceItems : Table (Store P) (Stored P EvidenceItem) where
  rows := Store.evidenceItems
  setRows s rows := { s with evidenceItems := rows }
  clash new old := new.record.evidenceId = old.record.evidenceId

def evidenceLifecycleEvents : Table (Store P) (Stored P EvidenceLifecycleEvent) where
  rows := Store.evidenceLifecycleEvents
  setRows s rows := { s with evidenceLifecycleEvents := rows }
  clash new old := new.record.lifecycleEventId = old.record.lifecycleEventId ||
    (new.record.evidenceId = old.record.evidenceId && new.record.resultingVersion = old.record.resultingVersion)

def mediaParserRuns : Table (Store P) (Stored P MediaParserReport) where
  rows := Store.mediaParserRuns
  setRows s rows := { s with mediaParserRuns := rows }
  clash new old := new.record.parseId = old.record.parseId

def evidenceReevaluations : Table (Store P) (Stored P EvidenceReevaluationRecord) where
  rows := Store.evidenceReevaluations
  setRows s rows := { s with evidenceReevaluations := rows }
  clash new old := new.record.reevaluationId = old.record.reevaluationId

def claimNodes : Table (Store P) (Stored P ClaimNode) where
  rows := Store.claimNodes
  setRows s rows := { s with claimNodes := rows }
  clash new old := new.record.claimId = old.record.claimId

def claimEvidenceLinks : Table (Store P) (Stored P ClaimEvidenceLink) where
  rows := Store.claimEvidenceLinks
  setRows s rows := { s with claimEvidenceLinks := rows }
  clash new old := new.record.linkId = old.record.linkId ||
    (new.record.claimId = old.record.claimId && new.record.evidenceId = old.record.evidenceId &&
      new.record.relation = old.record.relation)

def incidentRelations : Table (Store P) (Stored P IncidentRelation) where
  rows := Store.incidentRelations
  setRows s rows := { s with incidentRelations := rows }
  clash new old := new.record.relationId = old.record.relationId ||
    (new.record.sourceIncidentId = old.record.sourceIncidentId &&
      new.record.targetIncidentId = old.record.targetIncidentId && new.record.relation = old.record.relation)

def incidentCandidates : Table (Store P) (CandidateRow P) where
  rows := Store.incidentCandidates
  setRows s rows := { s with incidentCandidates := rows }
  clash new old := new.candidate.candidateId = old.candidate.candidateId

def incidentIdentityDecisions : Table (Store P) (Stored P IncidentIdentityDecision) where
  rows := Store.incidentIdentityDecisions
  setRows s rows := { s with incidentIdentityDecisions := rows }
  clash new old := new.record.decisionId = old.record.decisionId || new.record.candidateId = old.record.candidateId

end Tables

/-! ## Queries -/

namespace Store

/-- `all`: every journalled record, in order of acceptance. -/
def journal (s : Store P) : List IncidentRecord := s.incidentEvents.map IncidentEvent.incident

/-- `SELECT MAX(version) FROM incident_events WHERE hazard=?` -/
def maxVersion (s : Store P) (hazard : HazardKind) : Nat :=
  ((s.journal.filter (fun r => r.hazard = hazard)).map IncidentRecord.version).foldr max 0

def latestByHazard (s : Store P) : List IncidentRecord :=
  (s.journal.filter (fun e => e.version = s.maxVersion e.hazard)).insertionSort
    (fun a b => a.hazard.value ≤ b.hazard.value)

def notification (s : Store P) (notificationId : UUID) : Option NotificationIntent :=
  s.notificationIntents.find? (fun n => n.notificationId = notificationId)

def dispatchableNotifications (s : Store P) (now : DateTime) : List NotificationIntent :=
  ((s.notificationIntents.filter (fun n =>
      (n.status = .pending ∨ n.status = .failed) ∧ n.attemptCount < n.maxAttempts)).insertionSort
    (fun a b => a.createdAt < b.createdAt ∨
      (a.createdAt = b.createdAt ∧ a.notificationId.value ≤ b.notificationId.value))).filter
    (fun item => item.createdAt ≤ now)

def notificationCount (s : Store P) (incidentId : UUID) : Nat :=
  s.notificationIntents.countP (fun n => n.incidentId = incidentId)

def reviewState (s : Store P) (incidentId : UUID) : IncidentReviewState :=
  (s.incidentReviewState.find? (fun r => r.incidentId = incidentId)).getD { incidentId := incidentId }

def commandReceipt (s : Store P) (scopedIdempotencyKey : P.Digest) : Option (CommandReceipt P) :=
  s.commandReceipts.find? (fun r => r.scopedIdempotencyKey = scopedIdempotencyKey)

/-- `evidence` of one incident; both columns of the order are texts. -/
def evidence (s : Store P) (incidentId : UUID) : List EvidenceItem :=
  ((s.evidenceItems.map Stored.record).filter (fun e => e.incidentId = incidentId)).insertionSort
    (fun a b => P.isoformat a.receivedAt < P.isoformat b.receivedAt ∨
      (P.isoformat a.receivedAt = P.isoformat b.receivedAt ∧ a.evidenceId.str ≤ b.evidenceId.str))

/-- `ORDER BY resulting_version DESC LIMIT 1` over one item's lifecycle events. -/
def latestLifecycle (s : Store P) (evidenceId : UUID) : Option EvidenceLifecycleEvent :=
  ((s.evidenceLifecycleEvents.map Stored.record).filter (fun e => e.evidenceId = evidenceId)).foldl
    (fun best e => match best with
      | some b => if b.resultingVersion < e.resultingVersion then some e else some b
      | none => some e) none

/-- The rowid `AUTOINCREMENT` gives to the next authority event. -/
def nextPosition (s : Store P) : Int :=
  max s.authoritySequence ((s.authorityEvents.getLast?.map AuthorityEvent.position).getD 0) + 1

end Store

end SentinelEdge.Storage
