import SentinelEdge.Domain.Enums
import SentinelEdge.Domain.Platform

/-! # Incidents, reviews, notifications and commands

The records of the incident component with all their fields, and the JSON
document `model_dump(mode="json")` makes of each one that is journalled.
Documents list their keys in order. Validators run where the modelled code
calls a constructor; records that only pass through keep any field values.
-/

namespace SentinelEdge.Domain

open Foundation

namespace Dump

def uuid (u : UUID) : Json := .str u.str

def texts (values : List String) : Json := .arr (values.map .str)

def time (P : Platform) (t : DateTime) : Json := .str (P.isoformat t)

end Dump

structure AnalysisResult where
  analysisId : UUID
  observationId : UUID
  correlationId : UUID
  bootId : String
  sourceMode : SourceMode
  hazard : HazardKind
  score : ℚ
  stateHint : IncidentState
  features : List (String × ℚ)
  coverage : CoverageState
  abstained : Bool
  reasonCodes : List String
  modelProfileId : String
  sourceLineage : String
  configHashes : List String
  incidentIdHint : Option UUID
  producedAt : DateTime
  eventTime : Option DateTime
  deriving DecidableEq

def AnalysisResult.modelDump (P : Platform) (a : AnalysisResult) : Json := .obj [
  ("abstained", .bool a.abstained),
  ("analysis_id", Dump.uuid a.analysisId),
  ("boot_id", .str a.bootId),
  ("config_hashes", Dump.texts a.configHashes),
  ("correlation_id", Dump.uuid a.correlationId),
  ("coverage", .str a.coverage.value),
  ("event_time", Json.optional (Dump.time P) a.eventTime),
  ("features", .obj (a.features.map (fun feature => (feature.1, .float feature.2)))),
  ("hazard", .str a.hazard.value),
  ("incident_id_hint", Json.optional Dump.uuid a.incidentIdHint),
  ("model_profile_id", .str a.modelProfileId),
  ("observation_id", Dump.uuid a.observationId),
  ("produced_at", Dump.time P a.producedAt),
  ("reason_codes", Dump.texts a.reasonCodes),
  ("score", .float a.score),
  ("source_lineage", .str a.sourceLineage),
  ("source_mode", .str a.sourceMode.value),
  ("state_hint", .str a.stateHint.value)]

structure IncidentRecord where
  incidentId : UUID
  hazard : HazardKind
  state : IncidentState
  confidence : ℚ
  coverage : CoverageState
  sourceMode : SourceMode
  firstObservedAt : DateTime
  lastObservedAt : DateTime
  eventTimeWatermark : Option DateTime
  version : Nat
  reasonCodes : List String
  analysisIds : List UUID
  correlationIds : List UUID
  lastBootId : String
  sourceLineage : String
  modelProfileId : String
  configHashes : List String
  labels : List IncidentLabel
  deriving DecidableEq

def IncidentRecord.modelDump (P : Platform) (r : IncidentRecord) : Json := .obj [
  ("analysis_ids", .arr (r.analysisIds.map Dump.uuid)),
  ("config_hashes", Dump.texts r.configHashes),
  ("confidence", .float r.confidence),
  ("correlation_ids", .arr (r.correlationIds.map Dump.uuid)),
  ("coverage", .str r.coverage.value),
  ("event_time_watermark", Json.optional (Dump.time P) r.eventTimeWatermark),
  ("first_observed_at", Dump.time P r.firstObservedAt),
  ("hazard", .str r.hazard.value),
  ("incident_id", Dump.uuid r.incidentId),
  ("labels", .arr (r.labels.map (fun label => .str label.value))),
  ("last_boot_id", .str r.lastBootId),
  ("last_observed_at", Dump.time P r.lastObservedAt),
  ("model_profile_id", .str r.modelProfileId),
  ("reason_codes", Dump.texts r.reasonCodes),
  ("source_lineage", .str r.sourceLineage),
  ("source_mode", .str r.sourceMode.value),
  ("state", .str r.state.value),
  ("version", .int r.version)]

structure ReviewAction where
  reviewId : UUID
  incidentId : UUID
  hazard : HazardKind
  action : ReviewActionKind
  actor : String
  createdAt : DateTime
  snoozeUntil : Option DateTime
  comment : Option String
  deriving DecidableEq

/-- `ReviewAction.validate_review` -/
def ReviewAction.validate (a : ReviewAction) : Except Error ReviewAction :=
  if isBlank a.actor then .error (.validationError "actor must not be blank")
  else if a.action = .snooze ∧ ¬ (∃ t ∈ a.snoozeUntil, a.createdAt < t) then
    .error (.validationError "snooze_until must be after created_at")
  else if a.action ≠ .snooze ∧ a.snoozeUntil.isSome then
    .error (.validationError "snooze_until is only valid for snooze actions")
  else if a.action = .comment ∧ a.comment.all isBlank then
    .error (.validationError "comment action requires text")
  else .ok a

def ReviewAction.modelDump (P : Platform) (a : ReviewAction) : Json := .obj [
  ("action", .str a.action.value),
  ("actor", .str a.actor),
  ("comment", Json.optional .str a.comment),
  ("created_at", Dump.time P a.createdAt),
  ("hazard", .str a.hazard.value),
  ("incident_id", Dump.uuid a.incidentId),
  ("review_id", Dump.uuid a.reviewId),
  ("snooze_until", Json.optional (Dump.time P) a.snoozeUntil)]

structure IncidentReviewState where
  incidentId : UUID
  acknowledgedAt : Option DateTime := none
  acknowledgedBy : Option String := none
  snoozedUntil : Option DateTime := none
  snoozedBy : Option String := none
  reviewCount : Nat := 0
  deriving DecidableEq

def IncidentReviewState.modelDump (P : Platform) (s : IncidentReviewState) : Json := .obj [
  ("acknowledged_at", Json.optional (Dump.time P) s.acknowledgedAt),
  ("acknowledged_by", Json.optional .str s.acknowledgedBy),
  ("incident_id", Dump.uuid s.incidentId),
  ("review_count", .int s.reviewCount),
  ("snoozed_by", Json.optional .str s.snoozedBy),
  ("snoozed_until", Json.optional (Dump.time P) s.snoozedUntil)]

structure NotificationIntent where
  notificationId : UUID
  incidentId : UUID
  hazard : HazardKind
  incidentVersion : Nat
  incidentState : IncidentState
  idempotencyKey : String
  status : NotificationStatus := .pending
  createdAt : DateTime
  updatedAt : DateTime
  attemptCount : Nat := 0
  maxAttempts : Nat := 3
  lastError : Option String := none
  receiptId : Option String := none
  reasonCodes : List String := []
  deriving DecidableEq

def NotificationIntent.modelDump (P : Platform) (n : NotificationIntent) : Json := .obj [
  ("attempt_count", .int n.attemptCount),
  ("created_at", Dump.time P n.createdAt),
  ("hazard", .str n.hazard.value),
  ("idempotency_key", .str n.idempotencyKey),
  ("incident_id", Dump.uuid n.incidentId),
  ("incident_state", .str n.incidentState.value),
  ("incident_version", .int n.incidentVersion),
  ("last_error", Json.optional .str n.lastError),
  ("max_attempts", .int n.maxAttempts),
  ("notification_id", Dump.uuid n.notificationId),
  ("reason_codes", Dump.texts n.reasonCodes),
  ("receipt_id", Json.optional .str n.receiptId),
  ("status", .str n.status.value),
  ("updated_at", Dump.time P n.updatedAt)]

structure IncidentRelation where
  relationId : UUID
  sourceIncidentId : UUID
  sourceHazard : HazardKind
  targetIncidentId : UUID
  targetHazard : HazardKind
  relation : IncidentRelationKind
  confidence : ℚ
  expectedSourceVersion : Nat
  expectedTargetVersion : Nat
  createdAt : DateTime
  actor : String
  reason : String
  deriving DecidableEq

/-- `IncidentRelation.validate_relation` -/
def IncidentRelation.validate (r : IncidentRelation) : Except Error IncidentRelation :=
  if r.sourceIncidentId = r.targetIncidentId then
    .error (.validationError "incident relation must connect two distinct incidents")
  else if isBlank r.actor || isBlank r.reason then
    .error (.validationError "incident relation requires actor and reason")
  else if r.relation ≠ .mergedAlias ∧ r.sourceHazard = r.targetHazard then
    .error (.validationError "same-hazard relation is allowed only for merged_alias")
  else .ok r

def IncidentRelation.modelDump (P : Platform) (r : IncidentRelation) : Json := .obj [
  ("actor", .str r.actor),
  ("confidence", .float r.confidence),
  ("created_at", Dump.time P r.createdAt),
  ("expected_source_version", .int r.expectedSourceVersion),
  ("expected_target_version", .int r.expectedTargetVersion),
  ("reason", .str r.reason),
  ("relation", .str r.relation.value),
  ("relation_id", Dump.uuid r.relationId),
  ("source_hazard", .str r.sourceHazard.value),
  ("source_incident_id", Dump.uuid r.sourceIncidentId),
  ("target_hazard", .str r.targetHazard.value),
  ("target_incident_id", Dump.uuid r.targetIncidentId)]

structure IncidentStatusCommand where
  commandId : UUID
  incidentId : UUID
  hazard : HazardKind
  command : IncidentCommandKind
  expectedVersion : Nat
  actor : String
  reason : String
  relatedIncidentId : Option UUID
  relatedHazard : Option HazardKind
  idempotencyKey : String
  submittedAt : DateTime

structure PrincipalRef where
  principalId : String
  roles : List PrincipalRole
  scopes : List String := []
  authenticationMethod : String := "local_bearer"
  principalKind : String := "human"
  sessionEpoch : Nat := 1
  deviceTrustEpoch : Nat := 1
  deriving DecidableEq

def PrincipalRef.modelDump (p : PrincipalRef) : Json := .obj [
  ("authentication_method", .str p.authenticationMethod),
  ("device_trust_epoch", .int p.deviceTrustEpoch),
  ("principal_id", .str p.principalId),
  ("principal_kind", .str p.principalKind),
  ("roles", .arr (p.roles.map (fun role => .str role.value))),
  ("scopes", Dump.texts p.scopes),
  ("session_epoch", .int p.sessionEpoch)]

structure AuthorizationDecision (P : Platform) where
  decisionId : UUID
  principal : PrincipalRef
  operation : String
  target : String
  payloadSha256 : P.Digest
  policyVersion : String
  canonicalEncodingVersion : String := "sentinel-cjson-v1"
  acceptedAt : DateTime
  expiresAt : DateTime
  authorizationTag : P.Digest

structure AuthorizedReviewCommand (P : Platform) where
  commandId : UUID
  incidentId : UUID
  hazard : HazardKind
  action : ReviewActionKind
  snoozeUntil : Option DateTime
  comment : Option String
  idempotencyKey : String
  authorization : AuthorizationDecision P
  payloadSha256 : P.Digest
  submittedAt : DateTime

/-- The `result_sha256` column of a receipt: the digest of the committed record,
    or the id of the relation a link or merge committed. -/
inductive ResultRef (P : Platform) where
  | digest (d : P.Digest)
  | relation (id : UUID)
  deriving DecidableEq

def ResultRef.text {P : Platform} : ResultRef P → String
  | .digest d => P.hexdigest d
  | .relation id => id.str

structure CommandReceipt (P : Platform) where
  commandId : UUID
  principalId : String
  operation : String
  target : String
  scopedIdempotencyKey : P.Digest
  payloadSha256 : P.Digest
  status : CommandStatus
  acceptedAt : DateTime
  committedAt : Option DateTime
  resultVersion : Option Nat
  resultSha256 : Option (ResultRef P)
  reasonCodes : List String
  deriving DecidableEq

def CommandReceipt.modelDump {P : Platform} (r : CommandReceipt P) : Json := .obj [
  ("accepted_at", Dump.time P r.acceptedAt),
  ("command_id", Dump.uuid r.commandId),
  ("committed_at", Json.optional (Dump.time P) r.committedAt),
  ("operation", .str r.operation),
  ("payload_sha256", .str (P.hexdigest r.payloadSha256)),
  ("principal_id", .str r.principalId),
  ("reason_codes", Dump.texts r.reasonCodes),
  ("result_sha256", Json.optional (fun ref => .str ref.text) r.resultSha256),
  ("result_version", Json.optional (fun (v : Nat) => .int v) r.resultVersion),
  ("scoped_idempotency_key", .str (P.hexdigest r.scopedIdempotencyKey)),
  ("status", .str r.status.value),
  ("target", .str r.target)]

end SentinelEdge.Domain
