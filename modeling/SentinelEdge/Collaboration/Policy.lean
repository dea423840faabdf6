import Mathlib.Data.List.Dedup
import Mathlib.Data.List.Sort
import SentinelEdge.Collaboration.Signals
import SentinelEdge.Foundation.Checks
import SentinelEdge.Foundation.Dict

/-! # The correlation policy

`evaluate_correlation` looks at the signals of an episode one after another: the
first one anchors the window, each is accepted or rejected with its reasons, and
the number of peers and the trust of the transport select the action.
-/

namespace SentinelEdge.Collaboration

open Foundation Foundation.Checks Domain

structure HazardCorrelationPolicy where
  domainKinds : List DomainKind
  windowSeconds : Int
  minIndependentPeers : Int
  allowedObservations : List String
  emailUnverifiedAction : Action
  fixtureQualifiedAction : Action
  requireClockBandAtMost : Option String := none

structure CollaborationPolicy where
  policyVersion : String
  hazards : Dict HazardKind HazardCorrelationPolicy

/-- `architecture/collaboration-policy.yaml` -/
def defaultPolicy : CollaborationPolicy where
  policyVersion := "collab-demo-v1"
  hazards := (((Dict.empty
    |>.insert .earthquake (review [.spatialCell] 10 ["local_trigger", "earthquake_like_signal"] (some "medium")
      .multiNodeTriggerSimulated))
    |>.insert .wildfire (review [.observationArea, .cameraSector] 180 ["possible_smoke", "persistent_smoke"] none))
    |>.insert .flood (review [.riverReach, .catchment] 600
      ["water_rising", "threshold_approaching", "threshold_exceeded", "flooding_observed"] none))
    |>.insert .landslide (review [.slope, .monitoredSite] 600 ["movement_anomaly", "review_required"] none)
where
  review (domainKinds : List DomainKind) (windowSeconds : Int) (observations : List String) (band : Option String)
      (fixtureAction : Action := .createReviewIncident) : HazardCorrelationPolicy :=
    { domainKinds := domainKinds
      windowSeconds := windowSeconds
      minIndependentPeers := 2
      allowedObservations := observations
      emailUnverifiedAction := .createReviewIncident
      fixtureQualifiedAction := fixtureAction
      requireClockBandAtMost := band }

/-- `CLOCK_RANK` -/
def ClockBand.rank : ClockBand → Nat
  | .low => 0
  | .medium => 1
  | .high => 2
  | .unknown => 3

/-- `CLOCK_RANK[band]` -/
def clockRank : String → Except Error Nat
  | "low" => .ok 0
  | "medium" => .ok 1
  | "high" => .ok 2
  | "unknown" => .ok 3
  | band => .error (.keyError band)

/-- `list(dict.fromkeys(values))` -/
def fromKeys (values : List String) : List String :=
  values.foldl (fun seen value => if value ∈ seen then seen else seen ++ [value]) []

namespace CollaborationPolicy

/-- `policy.hazards[hazard]` -/
def hazard (policy : CollaborationPolicy) (hazard : HazardKind) : Except Error HazardCorrelationPolicy :=
  match policy.hazards.get? hazard with
  | some hp => .ok hp
  | none => .error (.keyError hazard.value)

end CollaborationPolicy

/-- The clock of the signal is worse than the hazard allows. -/
def HazardCorrelationPolicy.clockUnsafe (hp : HazardCorrelationPolicy) (signal : CollaborativeSignal) : Except Error Bool :=
  match hp.requireClockBandAtMost with
  | none => .ok false
  | some band => do
      let most ← clockRank band
      pure (decide (most < signal.clockUncertaintyBand.rank))

/-- What speaks against the signal, apart from its clock. -/
def HazardCorrelationPolicy.objections (hp : HazardCorrelationPolicy) (now : Timestamp) (signal : CollaborativeSignal) :
    List String :=
  (if signal.expiresAt.instant ≤ now.instant then ["SIGNAL_EXPIRED"] else []) ++
    (if signal.sourceMode = .replayed then ["SOURCE_MODE_REPLAYED"] else []) ++
    (if signal.correlationDomain.kind = .unknown then ["DOMAIN_UNKNOWN"]
      else if signal.correlationDomain.kind ∉ hp.domainKinds then ["HAZARD_DOMAIN_MISMATCH"] else []) ++
    (if signal.observation ∉ hp.allowedObservations then ["OBSERVATION_NOT_CORRELATION_ELIGIBLE"] else [])

def validateSignal (policy : CollaborationPolicy) (now : Timestamp) (signal : CollaborativeSignal) :
    Except Error (List String) := do
  let hp ← policy.hazard signal.hazard
  let unsafeClock ← hp.clockUnsafe signal
  pure (hp.objections now signal ++ if unsafeClock then ["CLOCK_UNSAFE"] else [])

/-- The signal the episode is measured by, and its window. -/
structure Window where
  anchor : CollaborativeSignal
  windowStart : Timestamp
  windowEnd : Timestamp

def Window.mismatch (window : Window) (signal : CollaborativeSignal) : Bool :=
  signal.hazard ≠ window.anchor.hazard || signal.correlationDomain.kind ≠ window.anchor.correlationDomain.kind ||
    signal.correlationDomain.id ≠ window.anchor.correlationDomain.id

def Window.inWindow (window : Window) (signal : CollaborativeSignal) : Bool :=
  window.windowStart.instant ≤ signal.eventTimeBucket.instant && signal.eventTimeBucket.instant ≤ window.windowEnd.instant

/-- The reasons against a signal of the episode. -/
def Window.reasons (policy : CollaborationPolicy) (now : Timestamp) (window : Window) (signal : CollaborativeSignal) :
    Except Error (List String) := do
  let reasons ← validateSignal policy now signal
  pure (reasons ++ (if window.mismatch signal then ["CORRELATION_KEY_MISMATCH"] else []) ++
    if window.inWindow signal then [] else ["OUTSIDE_POLICY_WINDOW"])

/-- What the loop over the signals has found so far. -/
structure Tally where
  accepted : List CollaborativeSignal := []
  rejected : List CollaborativeSignal := []
  peerCandidates : List CollaborativeSignal := []
  blocking : List String := []

def Tally.add (tally : Tally) (signal : CollaborativeSignal) (reasons : List String) : Tally :=
  { accepted := if reasons.isEmpty then tally.accepted ++ [signal] else tally.accepted
    rejected := if reasons.isEmpty then tally.rejected else tally.rejected ++ [signal]
    peerCandidates := if (reasons.filter (fun reason => reason ≠ "CLOCK_UNSAFE")).isEmpty then
      tally.peerCandidates ++ [signal] else tally.peerCandidates
    blocking := tally.blocking ++ reasons }

/-- The loop of `evaluate_correlation`. -/
def Window.tally (policy : CollaborationPolicy) (now : Timestamp) (window : Window) :
    List CollaborativeSignal → Tally → Except Error Tally
  | [], found => .ok found
  | signal :: rest, found => do
      let reasons ← window.reasons policy now signal
      window.tally policy now rest (found.add signal reasons)

/-- An action with the reasons for it and against it. -/
structure Selection where
  action : Action
  positive : List String
  blocking : List String

/-- The action that the trust of the transport gives. -/
def HazardCorrelationPolicy.actionFor (hp : HazardCorrelationPolicy) : TransportTrust → Action
  | .emailUnverified => hp.emailUnverifiedAction
  | .fixtureQualified => hp.fixtureQualifiedAction
  | .authenticatedPeer => .createReviewIncident
  | .rejected => .noAction

def trustPositive : TransportTrust → List String
  | .emailUnverified => ["EMAIL_UNVERIFIED_REVIEW_ONLY"]
  | .fixtureQualified => ["FIXTURE_QUALIFIED_SIMULATION"]
  | .authenticatedPeer => []
  | .rejected => []

def trustBlocking : TransportTrust → List String
  | .emailUnverified => []
  | .fixtureQualified => []
  | .authenticatedPeer => ["AUTHENTICATED_PEER_PATH_NOT_QUALIFIED_V1"]
  | .rejected => ["PEER_UNTRUSTED"]

/-- Enough peers, and no signal with an unsafe clock among the reasons. -/
def HazardCorrelationPolicy.meets (hp : HazardCorrelationPolicy) (peers : Nat) (blocking : List String) : Bool :=
  hp.minIndependentPeers ≤ peers && "CLOCK_UNSAFE" ∉ blocking

def HazardCorrelationPolicy.select (hp : HazardCorrelationPolicy) (kind : DomainKind) (trust : TransportTrust) (peers : Nat)
    (blocking : List String) : Selection :=
  let positive := if hp.minIndependentPeers ≤ peers then ["MIN_PEERS_MET", "DOMAIN_MATCH", "POLICY_WINDOW_MATCH"] else []
  let blocking := if hp.minIndependentPeers ≤ peers then blocking else blocking ++ ["MIN_PEERS_NOT_MET"]
  if kind = .unknown then ⟨.contextOnly, positive, blocking ++ ["DOMAIN_UNKNOWN"]⟩
  else if hp.meets peers blocking then ⟨hp.actionFor trust, positive ++ trustPositive trust, blocking ++ trustBlocking trust⟩
  else ⟨.noAction, positive, blocking⟩

/-- `_decision_id` -/
def decisionIdOf (P : Platform) (policyId : String) (hazard : HazardKind) (domainId : String) (now : Timestamp)
    (signalIds : List String) : String :=
  "corrdec_" ++ String.ofList ((P.sha256Text ("|".intercalate
    ([policyId, hazard.value, domainId, now.isoformat] ++ signalIds.insertionSort (· ≤ ·)))).toList.take 24)

def incidentIdOf (P : Platform) (hazard : HazardKind) (domain : CorrelationDomain) : String :=
  "collab-" ++ hazard.value ++ "-" ++
    String.ofList ((P.sha256Text (hazard.value ++ "|" ++ domain.kind.value ++ "|" ++ domain.id)).toList.take 20)

/-- `len({signal.node_pseudonym for signal in signals})` -/
def independentPeers (signals : List CollaborativeSignal) : Nat :=
  (signals.map CollaborativeSignal.nodePseudonym).dedup.length

/-- The record of an episode whose signals have been gone through. -/
def Window.decision (P : Platform) (policy : CollaborationPolicy) (hp : HazardCorrelationPolicy) (now : Timestamp)
    (trust : TransportTrust) (window : Window) (signals : List CollaborativeSignal) (found : Tally) :
    CorrelationDecisionRecord :=
  let anchor := window.anchor
  let selection := hp.select anchor.correlationDomain.kind trust (independentPeers found.peerCandidates) found.blocking
  let candidateIds := signals.map CollaborativeSignal.signalId
  { decisionId := decisionIdOf P policy.policyVersion anchor.hazard anchor.correlationDomain.id now candidateIds
    policyId := policy.policyVersion
    hazard := anchor.hazard
    domainKind := anchor.correlationDomain.kind
    domainId := anchor.correlationDomain.id
    windowStart := window.windowStart
    windowEnd := window.windowEnd
    candidateSignalIds := candidateIds
    acceptedSignalIds := found.accepted.map CollaborativeSignal.signalId
    rejectedSignalIds := found.rejected.map CollaborativeSignal.signalId
    independentPeerCount := independentPeers found.peerCandidates
    selectedAction := selection.action
    positiveReasons := fromKeys selection.positive
    blockingReasons := fromKeys selection.blocking
    createdOrUpdatedIncidentId :=
      if selection.action.touchesIncident then some (incidentIdOf P anchor.hazard anchor.correlationDomain) else none
    createdAt := now }

/-- The window around the anchor. -/
def HazardCorrelationPolicy.window (hp : HazardCorrelationPolicy) (anchor : CollaborativeSignal) : Except Error Window := do
  let windowStart ← anchor.eventTimeBucket.add (-(hp.windowSeconds * 1000000))
  let windowEnd ← anchor.eventTimeBucket.add (hp.windowSeconds * 1000000)
  pure ⟨anchor, windowStart, windowEnd⟩

def evaluateCorrelation (P : Platform) (policy : CollaborationPolicy) (now : Timestamp) (trust : TransportTrust)
    (signals : List CollaborativeSignal) : Except Error CorrelationDecisionRecord :=
  match signals with
  | [] => .error (.valueError "CORRELATION_REQUIRES_SIGNAL")
  | anchor :: _ => do
      let hp ← policy.hazard anchor.hazard
      let window ← hp.window anchor
      let found ← window.tally policy now signals {}
      (window.decision P policy hp now trust signals found).validated

end SentinelEdge.Collaboration
