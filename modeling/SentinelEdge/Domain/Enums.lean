/-! # Closed vocabularies of the domain model

Every enumeration is a `StrEnum`: `value` is the text stored in a column or a
JSON document.
-/

namespace SentinelEdge.Domain

inductive HazardKind where
  | wildfire | flood | earthquake | landslide
  deriving DecidableEq, Repr

def HazardKind.value : HazardKind → String
  | .wildfire => "wildfire"
  | .flood => "flood"
  | .earthquake => "earthquake"
  | .landslide => "landslide"

inductive SourceMode where
  | live | cached | simulated | fixture | replayed
  deriving DecidableEq, Repr

def SourceMode.value : SourceMode → String
  | .live => "live"
  | .cached => "cached"
  | .simulated => "simulated"
  | .fixture => "fixture"
  | .replayed => "replayed"

inductive CoverageState where
  | sufficient | partially | blind
  deriving DecidableEq, Repr

def CoverageState.value : CoverageState → String
  | .sufficient => "sufficient"
  | .partially => "partial"
  | .blind => "blind"

inductive IncidentState where
  | normal | watch | suspected | confirmed | resolving | resolved | degraded
  deriving DecidableEq, Repr

def IncidentState.value : IncidentState → String
  | .normal => "normal"
  | .watch => "watch"
  | .suspected => "suspected"
  | .confirmed => "confirmed"
  | .resolving => "resolving"
  | .resolved => "resolved"
  | .degraded => "degraded"

inductive HealthState where
  | healthy | degraded | stale | failed | unknown
  deriving DecidableEq, Repr

def HealthState.value : HealthState → String
  | .healthy => "healthy"
  | .degraded => "degraded"
  | .stale => "stale"
  | .failed => "failed"
  | .unknown => "unknown"

inductive ReviewActionKind where
  | acknowledge | snooze | unsnooze | comment
  deriving DecidableEq, Repr

def ReviewActionKind.value : ReviewActionKind → String
  | .acknowledge => "acknowledge"
  | .snooze => "snooze"
  | .unsnooze => "unsnooze"
  | .comment => "comment"

inductive NotificationStatus where
  | pending | delivered | failed | suppressed | expired | deadLetter
  deriving DecidableEq, Repr

def NotificationStatus.value : NotificationStatus → String
  | .pending => "pending"
  | .delivered => "delivered"
  | .failed => "failed"
  | .suppressed => "suppressed"
  | .expired => "expired"
  | .deadLetter => "dead_letter"

inductive AuthorityMutationKind where
  | incident | review | notificationIntent | notificationDelivery | configuration | command | evidence
  | claim | claimLink | incidentRelation | evidenceLifecycle | mediaParse | evidenceReevaluation | disposition
  deriving DecidableEq, Repr

def AuthorityMutationKind.value : AuthorityMutationKind → String
  | .incident => "incident"
  | .review => "review"
  | .notificationIntent => "notification_intent"
  | .notificationDelivery => "notification_delivery"
  | .configuration => "configuration"
  | .command => "command"
  | .evidence => "evidence"
  | .claim => "claim"
  | .claimLink => "claim_link"
  | .incidentRelation => "incident_relation"
  | .evidenceLifecycle => "evidence_lifecycle"
  | .mediaParse => "media_parse"
  | .evidenceReevaluation => "evidence_reevaluation"
  | .disposition => "disposition"

def AuthorityMutationKind.all : List AuthorityMutationKind :=
  [.incident, .review, .notificationIntent, .notificationDelivery, .configuration, .command, .evidence, .claim,
    .claimLink, .incidentRelation, .evidenceLifecycle, .mediaParse, .evidenceReevaluation, .disposition]

/-- `AuthorityMutationKind(value)`, `none` where the constructor raises. -/
def AuthorityMutationKind.ofValue (value : String) : Option AuthorityMutationKind :=
  AuthorityMutationKind.all.find? (fun kind => kind.value = value)

inductive SourceStanding where
  | official | authoritative | firstParty | news | community | unknown
  deriving DecidableEq, Repr

def SourceStanding.value : SourceStanding → String
  | .official => "official"
  | .authoritative => "authoritative"
  | .firstParty => "first_party"
  | .news => "news"
  | .community => "community"
  | .unknown => "unknown"

inductive MediaIntegrityState where
  | originalVerified | derivative | manipulationSuspect | unknown | notApplicable
  deriving DecidableEq, Repr

def MediaIntegrityState.value : MediaIntegrityState → String
  | .originalVerified => "original_verified"
  | .derivative => "derivative"
  | .manipulationSuspect => "manipulation_suspect"
  | .unknown => "unknown"
  | .notApplicable => "not_applicable"

inductive ExtractionConfidenceState where
  | verified | modelEstimate | low | unknown | notApplicable
  deriving DecidableEq, Repr

def ExtractionConfidenceState.value : ExtractionConfidenceState → String
  | .verified => "verified"
  | .modelEstimate => "model_estimate"
  | .low => "low"
  | .unknown => "unknown"
  | .notApplicable => "not_applicable"

inductive EvidenceRetentionState where
  | retained | metadataOnly | rejected
  deriving DecidableEq, Repr

def EvidenceRetentionState.value : EvidenceRetentionState → String
  | .retained => "retained"
  | .metadataOnly => "metadata_only"
  | .rejected => "rejected"

inductive EvidenceRightsMode where
  | retainBytes | derivedOnly | referenceOnly
  deriving DecidableEq, Repr

def EvidenceRightsMode.value : EvidenceRightsMode → String
  | .retainBytes => "retain_bytes"
  | .derivedOnly => "derived_only"
  | .referenceOnly => "reference_only"

inductive EvidenceContentState where
  | available | metadataOnly | redacted | expired | deleted | unavailableAtCapture | missingExternal
  deriving DecidableEq, Repr

def EvidenceContentState.value : EvidenceContentState → String
  | .available => "available"
  | .metadataOnly => "metadata_only"
  | .redacted => "redacted"
  | .expired => "expired"
  | .deleted => "deleted"
  | .unavailableAtCapture => "unavailable_at_capture"
  | .missingExternal => "missing_external"

inductive EvidenceLifecycleAction where
  | register | redact | expire | delete | markExternalMissing
  deriving DecidableEq, Repr

def EvidenceLifecycleAction.value : EvidenceLifecycleAction → String
  | .register => "register"
  | .redact => "redact"
  | .expire => "expire"
  | .delete => "delete"
  | .markExternalMissing => "mark_external_missing"

inductive MediaParserStatus where
  | completed | quarantined | rejected | failed
  deriving DecidableEq, Repr

def MediaParserStatus.value : MediaParserStatus → String
  | .completed => "completed"
  | .quarantined => "quarantined"
  | .rejected => "rejected"
  | .failed => "failed"

inductive ParserIsolationState where
  | notRequired | sandboxed | quarantined | rejected
  deriving DecidableEq, Repr

def ParserIsolationState.value : ParserIsolationState → String
  | .notRequired => "not_required"
  | .sandboxed => "sandboxed"
  | .quarantined => "quarantined"
  | .rejected => "rejected"

inductive ContentOrigin where
  | source | operator | deterministicTransform | analyticalModel | generativeModel | unknown
  deriving DecidableEq, Repr

def ContentOrigin.value : ContentOrigin → String
  | .source => "source"
  | .operator => "operator"
  | .deterministicTransform => "deterministic_transform"
  | .analyticalModel => "analytical_model"
  | .generativeModel => "generative_model"
  | .unknown => "unknown"

inductive ClaimEvidenceRelation where
  | supports | contradicts | sameFamily | derivedFrom
  deriving DecidableEq, Repr

def ClaimEvidenceRelation.value : ClaimEvidenceRelation → String
  | .supports => "supports"
  | .contradicts => "contradicts"
  | .sameFamily => "same_family"
  | .derivedFrom => "derived_from"

inductive IncidentRelationKind where
  | cascadeContext | susceptibilityIncrease | temporalAssociation | sameEventSolution | mergedAlias
  deriving DecidableEq, Repr

def IncidentRelationKind.value : IncidentRelationKind → String
  | .cascadeContext => "cascade_context"
  | .susceptibilityIncrease => "susceptibility_increase"
  | .temporalAssociation => "temporal_association"
  | .sameEventSolution => "same_event_solution"
  | .mergedAlias => "merged_alias"

inductive IncidentIdentityOutcome where
  | new | duplicate
  deriving DecidableEq, Repr

def IncidentIdentityOutcome.value : IncidentIdentityOutcome → String
  | .new => "new"
  | .duplicate => "duplicate"

inductive IncidentCommandKind where
  | corroborate | contradict | control | resolve | reopen | link | merge
  deriving DecidableEq, Repr

def IncidentCommandKind.value : IncidentCommandKind → String
  | .corroborate => "corroborate"
  | .contradict => "contradict"
  | .control => "control"
  | .resolve => "resolve"
  | .reopen => "reopen"
  | .link => "link"
  | .merge => "merge"

inductive IncidentLabel where
  | confirm | reject | uncertain | control
  deriving DecidableEq, Repr

def IncidentLabel.value : IncidentLabel → String
  | .confirm => "confirm"
  | .reject => "reject"
  | .uncertain => "uncertain"
  | .control => "control"

inductive PrincipalRole where
  | viewer | operator | admin
  deriving DecidableEq, Repr

def PrincipalRole.value : PrincipalRole → String
  | .viewer => "viewer"
  | .operator => "operator"
  | .admin => "admin"

inductive CommandStatus where
  | accepted | validating | committed | projected | rejected | expired | superseded | conflict
  deriving DecidableEq, Repr

def CommandStatus.value : CommandStatus → String
  | .accepted => "accepted"
  | .validating => "validating"
  | .committed => "committed"
  | .projected => "projected"
  | .rejected => "rejected"
  | .expired => "expired"
  | .superseded => "superseded"
  | .conflict => "conflict"

end SentinelEdge.Domain
