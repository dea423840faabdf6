import SentinelEdge.Domain.Enums
import SentinelEdge.Domain.Timestamp

/-! # Collaborative signals

What peers send each other about a hazard, the envelopes it comes in, and the
record of a correlation decision.
-/

namespace SentinelEdge.Collaboration

open Domain

inductive DomainKind where
  | spatialCell | observationArea | cameraSector | riverReach | catchment | slope | monitoredSite | unknown
  deriving DecidableEq, Repr

def DomainKind.value : DomainKind → String
  | .spatialCell => "spatial_cell"
  | .observationArea => "observation_area"
  | .cameraSector => "camera_sector"
  | .riverReach => "river_reach"
  | .catchment => "catchment"
  | .slope => "slope"
  | .monitoredSite => "monitored_site"
  | .unknown => "unknown"

inductive ClockBand where
  | low | medium | high | unknown
  deriving DecidableEq, Repr

inductive SignalSourceMode where
  | live | fixture | simulated | replayed
  deriving DecidableEq, Repr

inductive TransportTrust where
  | fixtureQualified | emailUnverified | authenticatedPeer | rejected
  deriving DecidableEq, Repr

inductive ValidationState where
  | admitted | contextOnly | rejected
  deriving DecidableEq, Repr

inductive Action where
  | noAction | contextOnly | createReviewIncident | updateIncident | multiNodeTriggerSimulated
  deriving DecidableEq, Repr

/-- `selected_action in {"create_review_incident", "update_incident", "multi_node_trigger_simulated"}` -/
def Action.touchesIncident : Action → Bool
  | .createReviewIncident | .updateIncident | .multiNodeTriggerSimulated => true
  | .noAction | .contextOnly => false

structure CorrelationDomain where
  kind : DomainKind
  id : String
  deriving DecidableEq

structure CollaborativeSignal where
  signalId : String
  nodePseudonym : String
  hazard : HazardKind
  observation : String
  correlationDomain : CorrelationDomain
  eventTimeBucket : Timestamp
  clockUncertaintyBand : ClockBand
  sourceMode : SignalSourceMode
  expiresAt : Timestamp
  deriving DecidableEq

structure CollaborativeSignalEnvelope where
  receivedAt : Timestamp
  transportMessageId : String
  transportTrust : TransportTrust
  signal : CollaborativeSignal
  validationState : ValidationState
  validationReasonCodes : List String := []
  deriving DecidableEq

namespace CollaborativeSignalEnvelope

def signalId (e : CollaborativeSignalEnvelope) : String := e.signal.signalId

/-- Of the same hazard and correlation domain. -/
def sameEpisode (e item : CollaborativeSignalEnvelope) : Bool :=
  item.signal.hazard = e.signal.hazard && item.signal.correlationDomain.kind = e.signal.correlationDomain.kind &&
    item.signal.correlationDomain.id = e.signal.correlationDomain.id

end CollaborativeSignalEnvelope

structure CorrelationDecisionRecord where
  decisionId : String
  policyId : String
  hazard : HazardKind
  domainKind : DomainKind
  domainId : String
  windowStart : Timestamp
  windowEnd : Timestamp
  candidateSignalIds : List String
  acceptedSignalIds : List String
  rejectedSignalIds : List String
  independentPeerCount : Nat
  selectedAction : Action
  positiveReasons : List String
  blockingReasons : List String
  createdOrUpdatedIncidentId : Option String
  createdAt : Timestamp
  deriving DecidableEq

/-- The checks of the fields that have a length. -/
def CorrelationDecisionRecord.validated (d : CorrelationDecisionRecord) : Except Error CorrelationDecisionRecord :=
  if d.decisionId.length < 8 ∨ 96 < d.decisionId.length then .error (.validationError "decision_id")
  else if d.policyId.length < 1 ∨ 96 < d.policyId.length then .error (.validationError "policy_id")
  else if d.domainId.length < 1 ∨ 96 < d.domainId.length then .error (.validationError "domain_id")
  else .ok d

end SentinelEdge.Collaboration

/-! ## Inbound signals

A signal that was decoded from a message, and the checks it goes through before it
is admitted.
-/

namespace SentinelEdge.Collaboration

open Domain

/-- A `datetime` as it comes over the wire. One without an offset shows a wall clock,
    which is then the one at UTC. -/
structure WireTime where
  time : Timestamp
  naive : Bool := false
  deriving DecidableEq

/-- `a <= b` -/
def WireTime.le (a b : WireTime) : Except Error Bool :=
  if a.naive = b.naive then .ok (a.time.instant ≤ b.time.instant)
  else .error (.typeError "can't compare offset-naive and offset-aware datetimes")

/-- A decoded signal, whose id has a length in bounds. -/
structure InboundSignal extends CollaborativeSignal where
  /-- `expires_at` has no offset. -/
  naive : Bool := false
  bounded : 16 ≤ signalId.length ∧ signalId.length ≤ 80

def InboundSignal.expiry (signal : InboundSignal) : WireTime := ⟨signal.expiresAt, signal.naive⟩

theorem InboundSignal.identified (signal : InboundSignal) : signal.signalId ≠ "" := by
  intro empty
  have long := signal.bounded.1
  rw [empty] at long
  contradiction

/-- `OBSERVATIONS` -/
def observations : HazardKind → List String
  | .wildfire => ["possible_smoke", "persistent_smoke", "review_required", "smoke_observation_resolved"]
  | .earthquake => ["local_trigger", "earthquake_like_signal", "shaking_ended"]
  | .flood => ["rainfall_elevated", "water_rising", "threshold_approaching", "threshold_exceeded", "flooding_observed", "falling"]
  | .landslide => ["saturation_rising", "movement_anomaly", "review_required", "movement_observation_resolved"]

/-- `ALLOWED_DOMAIN_KINDS` -/
def allowedDomainKinds : HazardKind → List DomainKind
  | .earthquake => [.spatialCell]
  | .wildfire => [.observationArea, .cameraSector]
  | .flood => [.riverReach, .catchment]
  | .landslide => [.slope, .monitoredSite]

/-- The `TransportTrust` of the wire, which may be unknown. -/
inductive InboundTrust where
  | fixtureQualified | emailUnverified | authenticatedPeer | rejected | unknown
  deriving DecidableEq, Repr

structure ValidationDecision where
  accepted : Bool
  reasonCode : Option String := none
  signal : Option InboundSignal := none

namespace CollaborativeInboundValidator

def refused (reasonCode : String) : ValidationDecision := { accepted := false, reasonCode := some reasonCode }

/-- The checks that need no clock. -/
def checked (signal : InboundSignal) (trust : InboundTrust) : ValidationDecision :=
  if signal.sourceMode = .replayed then refused "SOURCE_MODE_REPLAYED"
  else if signal.observation ∉ observations signal.hazard then refused "OBSERVATION_UNSUPPORTED"
  else if signal.correlationDomain.kind = .unknown then ⟨true, some "DOMAIN_UNKNOWN", some signal⟩
  else if signal.correlationDomain.kind ∉ allowedDomainKinds signal.hazard then refused "HAZARD_DOMAIN_MISMATCH"
  else if trust = .unknown ∨ trust = .rejected then refused "PEER_UNTRUSTED"
  else if signal.hazard = .earthquake ∧ (signal.clockUncertaintyBand = .high ∨ signal.clockUncertaintyBand = .unknown) then
    ⟨true, some "CLOCK_UNSAFE", some signal⟩
  else if signal.sourceMode = .simulated then ⟨true, some "SOURCE_MODE_SIMULATED", some signal⟩
  else ⟨true, none, some signal⟩

/-- A decoded signal has the one version there is, which is checked again between the
    duplicates and the expiry. -/
def validate (signal : InboundSignal) (receivedAt : WireTime) (trust : InboundTrust) (seenSignalIds : List String) :
    Except Error ValidationDecision :=
  if signal.signalId ∈ seenSignalIds then .ok (refused "SIGNAL_DUPLICATE")
  else do
    let expired ← signal.expiry.le receivedAt
    pure (if expired then refused "SIGNAL_EXPIRED" else checked signal trust)

theorem validate_accepted {signal : InboundSignal} {receivedAt : WireTime} {trust : InboundTrust} {seenSignalIds : List String}
    {decision : ValidationDecision} (validated : validate signal receivedAt trust seenSignalIds = .ok decision)
    (accepted : decision.accepted = true) : signal.signalId ∉ seenSignalIds := by
  intro seen
  unfold validate at validated
  rw [if_pos seen] at validated
  cases validated
  cases accepted

end CollaborativeInboundValidator

end SentinelEdge.Collaboration
