import SentinelEdge.Domain.Incidents

/-! # Evidence, claims and incident identity

Records the journal store keeps beside the incidents themselves.
-/

namespace SentinelEdge.Domain

open Foundation

structure EvidenceItem where
  evidenceId : UUID
  incidentId : UUID
  hazard : HazardKind
  sourceId : String
  sourceStanding : SourceStanding
  authorityRole : String
  mediaIntegrity : MediaIntegrityState
  extractionConfidenceState : ExtractionConfidenceState
  extractionConfidence : Option ℚ
  freshnessState : HealthState
  claimText : String
  contentSha256 : String
  perceptualHash : Option String
  originKey : String
  familyId : Option String
  parentEvidenceId : Option UUID
  independentOriginProven : Bool
  retentionState : EvidenceRetentionState
  parserState : ParserIsolationState
  rightsBasis : Option String
  rightsMode : Option EvidenceRightsMode
  rightsExpiresAt : Option DateTime
  modality : String
  receivedAt : DateTime
  reasonCodes : List String
  personIdentificationPerformed : Bool
  subjectRef : Option String
  processingBasis : String
  deriving DecidableEq

def EvidenceItem.modelDump (P : Platform) (e : EvidenceItem) : Json := .obj [
  ("authority_role", .str e.authorityRole),
  ("claim_text", .str e.claimText),
  ("content_sha256", .str e.contentSha256),
  ("evidence_id", Dump.uuid e.evidenceId),
  ("extraction_confidence", Json.optional .float e.extractionConfidence),
  ("extraction_confidence_state", .str e.extractionConfidenceState.value),
  ("family_id", Json.optional .str e.familyId),
  ("freshness_state", .str e.freshnessState.value),
  ("hazard", .str e.hazard.value),
  ("incident_id", Dump.uuid e.incidentId),
  ("independent_origin_proven", .bool e.independentOriginProven),
  ("media_integrity", .str e.mediaIntegrity.value),
  ("modality", .str e.modality),
  ("origin_key", .str e.originKey),
  ("parent_evidence_id", Json.optional Dump.uuid e.parentEvidenceId),
  ("parser_state", .str e.parserState.value),
  ("perceptual_hash", Json.optional .str e.perceptualHash),
  ("person_identification_performed", .bool e.personIdentificationPerformed),
  ("processing_basis", .str e.processingBasis),
  ("reason_codes", Dump.texts e.reasonCodes),
  ("received_at", Dump.time P e.receivedAt),
  ("retention_state", .str e.retentionState.value),
  ("rights_basis", Json.optional .str e.rightsBasis),
  ("rights_expires_at", Json.optional (Dump.time P) e.rightsExpiresAt),
  ("rights_mode", Json.optional (fun (m : EvidenceRightsMode) => .str m.value) e.rightsMode),
  ("source_id", .str e.sourceId),
  ("source_standing", .str e.sourceStanding.value),
  ("subject_ref", Json.optional .str e.subjectRef)]

structure EvidenceLifecycleEvent where
  lifecycleEventId : UUID
  evidenceId : UUID
  incidentId : UUID
  action : EvidenceLifecycleAction
  fromState : Option EvidenceContentState
  toState : EvidenceContentState
  expectedVersion : Nat
  resultingVersion : Nat
  actor : String
  reason : String
  createdAt : DateTime
  deletionProofSha256 : Option String
  redactionProfileId : Option String
  reasonCodes : List String
  deriving DecidableEq

def EvidenceLifecycleEvent.modelDump (P : Platform) (e : EvidenceLifecycleEvent) : Json := .obj [
  ("action", .str e.action.value),
  ("actor", .str e.actor),
  ("created_at", Dump.time P e.createdAt),
  ("deletion_proof_sha256", Json.optional .str e.deletionProofSha256),
  ("evidence_id", Dump.uuid e.evidenceId),
  ("expected_version", .int e.expectedVersion),
  ("from_state", Json.optional (fun (s : EvidenceContentState) => .str s.value) e.fromState),
  ("incident_id", Dump.uuid e.incidentId),
  ("lifecycle_event_id", Dump.uuid e.lifecycleEventId),
  ("reason", .str e.reason),
  ("reason_codes", Dump.texts e.reasonCodes),
  ("redaction_profile_id", Json.optional .str e.redactionProfileId),
  ("resulting_version", .int e.resultingVersion),
  ("to_state", .str e.toState.value)]

/-- `validate_lifecycle_event`: what a constructed event has passed. -/
def EvidenceLifecycleEvent.validate (P : Platform) (e : EvidenceLifecycleEvent) : Except Error EvidenceLifecycleEvent :=
  if isBlank e.actor || isBlank e.reason then
    .error (.validationError "evidence lifecycle event requires actor and reason")
  else if e.resultingVersion ≠ e.expectedVersion + 1 then
    .error (.validationError "evidence lifecycle version must increment by one")
  else if e.action = .delete && !(e.deletionProofSha256.any (fun proof => proof ≠ "")) then
    .error (.validationError "deletion requires a proof digest")
  else if e.deletionProofSha256.any (fun proof => !P.isSha256 proof) then
    .error (.validationError "deletion_proof_sha256 must be a lowercase SHA-256 digest")
  else .ok e

structure EvidenceLifecycleProjection where
  evidenceId : UUID
  incidentId : UUID
  state : EvidenceContentState
  version : Nat
  readable : Bool
  claimEligible : Bool
  rightsActive : Bool
  deletionProven : Bool
  lastEventId : Option UUID
  updatedAt : Option DateTime
  reasonCodes : List String
  deriving DecidableEq

structure MediaParserReport where
  parseId : UUID
  profileId : String
  status : MediaParserStatus
  parserState : ParserIsolationState
  inputSha256 : String
  inputBytes : Nat
  mediaType : String
  detectedMediaType : Option String
  outputSha256 : Option String
  outputBytes : Option Nat
  width : Option Nat
  height : Option Nat
  sourceFormat : Option String
  sanitizedFormat : Option String
  metadataStripped : Bool
  alphaPreserved : Bool
  networkNamespaceProven : Bool
  filesystemScope : String
  releaseEligible : Bool
  createdAt : DateTime
  reasonCodes : List String
  deriving DecidableEq

def MediaParserReport.modelDump (P : Platform) (r : MediaParserReport) : Json := .obj [
  ("alpha_preserved", .bool r.alphaPreserved),
  ("created_at", Dump.time P r.createdAt),
  ("detected_media_type", Json.optional .str r.detectedMediaType),
  ("filesystem_scope", .str r.filesystemScope),
  ("height", Json.optional (fun (n : Nat) => .int n) r.height),
  ("input_bytes", .int r.inputBytes),
  ("input_sha256", .str r.inputSha256),
  ("media_type", .str r.mediaType),
  ("metadata_stripped", .bool r.metadataStripped),
  ("network_namespace_proven", .bool r.networkNamespaceProven),
  ("output_bytes", Json.optional (fun (n : Nat) => .int n) r.outputBytes),
  ("output_sha256", Json.optional .str r.outputSha256),
  ("parse_id", Dump.uuid r.parseId),
  ("parser_state", .str r.parserState.value),
  ("profile_id", .str r.profileId),
  ("reason_codes", Dump.texts r.reasonCodes),
  ("release_eligible", .bool r.releaseEligible),
  ("sanitized_format", Json.optional .str r.sanitizedFormat),
  ("source_format", Json.optional .str r.sourceFormat),
  ("status", .str r.status.value),
  ("width", Json.optional (fun (n : Nat) => .int n) r.width)]

structure EvidenceReevaluationRecord where
  reevaluationId : UUID
  incidentId : UUID
  evidenceId : UUID
  triggerAction : EvidenceLifecycleAction
  status : String
  decision : String
  createdAt : DateTime
  activeSupportingLinks : Nat
  activeContradictoryLinks : Nat
  invalidatedLinks : Nat
  incidentStateMutated : Bool
  reasonCodes : List String
  deriving DecidableEq

def EvidenceReevaluationRecord.modelDump (P : Platform) (r : EvidenceReevaluationRecord) : Json := .obj [
  ("active_contradictory_links", .int r.activeContradictoryLinks),
  ("active_supporting_links", .int r.activeSupportingLinks),
  ("created_at", Dump.time P r.createdAt),
  ("decision", .str r.decision),
  ("evidence_id", Dump.uuid r.evidenceId),
  ("incident_id", Dump.uuid r.incidentId),
  ("incident_state_mutated", .bool r.incidentStateMutated),
  ("invalidated_links", .int r.invalidatedLinks),
  ("reason_codes", Dump.texts r.reasonCodes),
  ("reevaluation_id", Dump.uuid r.reevaluationId),
  ("status", .str r.status),
  ("trigger_action", .str r.triggerAction.value)]

structure ClaimNode where
  claimId : UUID
  incidentId : UUID
  hazard : HazardKind
  statement : String
  origin : ContentOrigin
  lineage : List String
  modelId : Option String
  createdAt : DateTime
  status : String
  reasonCodes : List String
  deriving DecidableEq

def ClaimNode.modelDump (P : Platform) (c : ClaimNode) : Json := .obj [
  ("claim_id", Dump.uuid c.claimId),
  ("created_at", Dump.time P c.createdAt),
  ("hazard", .str c.hazard.value),
  ("incident_id", Dump.uuid c.incidentId),
  ("lineage", Dump.texts c.lineage),
  ("model_id", Json.optional .str c.modelId),
  ("origin", .str c.origin.value),
  ("reason_codes", Dump.texts c.reasonCodes),
  ("statement", .str c.statement),
  ("status", .str c.status)]

structure ClaimEvidenceLink where
  linkId : UUID
  claimId : UUID
  evidenceId : UUID
  relation : ClaimEvidenceRelation
  createdAt : DateTime
  reasonCodes : List String
  deriving DecidableEq

def ClaimEvidenceLink.modelDump (P : Platform) (l : ClaimEvidenceLink) : Json := .obj [
  ("claim_id", Dump.uuid l.claimId),
  ("created_at", Dump.time P l.createdAt),
  ("evidence_id", Dump.uuid l.evidenceId),
  ("link_id", Dump.uuid l.linkId),
  ("reason_codes", Dump.texts l.reasonCodes),
  ("relation", .str l.relation.value)]

structure IncidentCandidate where
  candidateId : UUID
  hazard : HazardKind
  observedAt : DateTime
  latitude : ℚ
  longitude : ℚ
  horizontalUncertaintyM : ℚ
  temporalWindowSeconds : ℚ
  spatialWindowM : ℚ
  sourceId : String
  sourceEventId : Option String
  deriving DecidableEq

structure IncidentIdentityDecision where
  decisionId : UUID
  candidateId : UUID
  incidentId : UUID
  outcome : IncidentIdentityOutcome
  matchedCandidateId : Option UUID
  separationM : Option ℚ
  timeDeltaSeconds : Option ℚ
  decidedAt : DateTime
  reasonCodes : List String
  deriving DecidableEq

def IncidentCandidate.modelDump (P : Platform) (c : IncidentCandidate) : Json := .obj [
  ("candidate_id", Dump.uuid c.candidateId),
  ("hazard", .str c.hazard.value),
  ("horizontal_uncertainty_m", .float c.horizontalUncertaintyM),
  ("latitude", .float c.latitude),
  ("longitude", .float c.longitude),
  ("observed_at", Dump.time P c.observedAt),
  ("source_event_id", Json.optional .str c.sourceEventId),
  ("source_id", .str c.sourceId),
  ("spatial_window_m", .float c.spatialWindowM),
  ("temporal_window_seconds", .float c.temporalWindowSeconds)]

def IncidentIdentityDecision.modelDump (P : Platform) (d : IncidentIdentityDecision) : Json := .obj [
  ("candidate_id", Dump.uuid d.candidateId),
  ("decided_at", Dump.time P d.decidedAt),
  ("decision_id", Dump.uuid d.decisionId),
  ("incident_id", Dump.uuid d.incidentId),
  ("matched_candidate_id", Json.optional Dump.uuid d.matchedCandidateId),
  ("outcome", .str d.outcome.value),
  ("reason_codes", Dump.texts d.reasonCodes),
  ("separation_m", Json.optional .float d.separationM),
  ("time_delta_seconds", Json.optional .float d.timeDeltaSeconds)]

end SentinelEdge.Domain
