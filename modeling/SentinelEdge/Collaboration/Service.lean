import SentinelEdge.Collaboration.Policy
import SentinelEdge.Collaboration.Repository

/-! # The correlation service

`ingest` stores the envelope, correlates the episode it belongs to, lets the
incident writer act on the decision, and stores the decision. What the writer
writes to is a state of its own.
-/

namespace SentinelEdge.Collaboration

open Foundation Domain

structure CollaborativeCorrelationService (ω : Type) where
  repository : CollaborationRepository := {}
  policy : CollaborationPolicy
  incidentWriter : Option (CorrelationDecisionRecord → Call ω Error (Option String)) := none
  incidents : ω

namespace CollaborativeCorrelationService

variable {ω : Type}

abbrev ServiceCall (ω α : Type) := Call (CollaborativeCorrelationService ω) Error α

def onRepository {α : Type} (x : CollaborationRepository.RepositoryCall α) : ServiceCall ω α :=
  Call.zoom repository (fun s r => { s with repository := r }) x

def onIncidents {α : Type} (x : Call ω Error α) : ServiceCall ω α :=
  Call.zoom incidents (fun s i => { s with incidents := i }) x

/-- The signals that are correlated: the admitted ones of the episode, or the new one
    if there is none. -/
def correlatedSignals (r : CollaborationRepository) (e : CollaborativeSignalEnvelope) : List CollaborativeSignal :=
  let admitted := ((r.episodeEnvelopes e).filter (fun item => item.validationState = .admitted)).map
    CollaborativeSignalEnvelope.signal
  if admitted.isEmpty then [e.signal] else admitted

/-- The trust of the episode: that of the new envelope, unless there is email. -/
def episodeTrust (r : CollaborationRepository) (e : CollaborativeSignalEnvelope) : TransportTrust :=
  if (r.episodeEnvelopes e).any (fun item => item.transportTrust = .emailUnverified) then .emailUnverified
  else e.transportTrust

/-- A decision that context only has asked for. -/
def asContext (e : CollaborativeSignalEnvelope) (d : CorrelationDecisionRecord) : CorrelationDecisionRecord :=
  { d with
    selectedAction := .contextOnly
    positiveReasons := []
    blockingReasons := fromKeys (d.blockingReasons ++ e.validationReasonCodes ++ ["CONTEXT_ONLY_INPUT"])
    createdOrUpdatedIncidentId := none }

/-- The decision on an envelope that is stored. -/
def correlated (P : Platform) (policy : CollaborationPolicy) (e : CollaborativeSignalEnvelope) (now : Timestamp)
    (r : CollaborationRepository) : Except Error CorrelationDecisionRecord := do
  let d ← evaluateCorrelation P policy now (episodeTrust r e) (correlatedSignals r e)
  pure (if e.validationState = .contextOnly then asContext e d else d)

/-- `decision.model_copy(update={"created_or_updated_incident_id": incident_id})`, if there is one. -/
def withIncident (d : CorrelationDecisionRecord) (incidentId : Option String) : CorrelationDecisionRecord :=
  match incidentId with
  | some id => if id = "" then d else { d with createdOrUpdatedIncidentId := some id }
  | none => d

/-- The writer acts on a decision that touches an incident. -/
def applied (d : CorrelationDecisionRecord) : ServiceCall ω CorrelationDecisionRecord := do
  let writer ← Call.read incidentWriter
  match writer with
  | none => pure d
  | some apply =>
      if d.selectedAction.touchesIncident then do
        let incidentId ← onIncidents (apply d)
        pure (withIncident d incidentId)
      else pure d

/-- The envelope is stored and correlated. -/
def received (P : Platform) (e : CollaborativeSignalEnvelope) (now : Timestamp) : ServiceCall ω CorrelationDecisionRecord := do
  let added ← onRepository (CollaborationRepository.addEnvelope e)
  if added then do
    let s ← Call.read id
    Call.lift (correlated P s.policy e now s.repository)
  else Call.raise (.valueError "SIGNAL_DUPLICATE")

def ingest (P : Platform) (e : CollaborativeSignalEnvelope) (now : Timestamp) : ServiceCall ω CorrelationDecisionRecord := do
  if e.validationState = .rejected then Call.raise (.valueError "REJECTED_ENVELOPE_CANNOT_ENTER_CORRELATOR")
  else do
    let d ← received P e now
    let d ← applied d
    onRepository (CollaborationRepository.addDecision d)
    pure d

end CollaborativeCorrelationService

end SentinelEdge.Collaboration
