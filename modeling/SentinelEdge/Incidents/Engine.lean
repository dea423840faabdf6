import SentinelEdge.Foundation.Dict
import SentinelEdge.Security.Authorizer
import SentinelEdge.Storage.Writes

/-! # The notification dispatcher

`NotificationDispatcher.dispatch` takes one snapshot of the intents to send,
hands each to the sender and records what came of it. The list of hand-overs is
a history variable: the code does not keep it.
-/

namespace SentinelEdge.Incidents

open Foundation Domain Storage

variable {P : Platform}

/-- One call of the sender: the intent it got, the row the store held for it at
    that moment, and whether the call returned. -/
structure Handover where
  intent : NotificationIntent
  row : Option NotificationIntent
  delivered : Bool

/-- A sender returns a receipt id or raises; the number counts its calls in one
    dispatch, so that it may answer differently each time. -/
abbrev NotificationSender := Nat → NotificationIntent → Except String String

structure Dispatcher (P : Platform) where
  store : Store P
  handed : List Handover

namespace Dispatcher

abbrev DispatcherCall (P : Platform) (α : Type) := Call (Dispatcher P) Error α

/-- Record the outcome of the `k`-th call; `clock` gives `datetime.now`. -/
def recordOutcome (sender : NotificationSender) (clock : Nat → DateTime) (k : Nat) (intent : NotificationIntent) :
    StoreCall P NotificationIntent :=
  match sender k intent with
  | .error text => recordDelivery intent.notificationId false none (some text) (clock k)
  | .ok receipt => recordDelivery intent.notificationId true (some receipt) none (clock k)

def deliver (sender : NotificationSender) (clock : Nat → DateTime) :
    Nat → List NotificationIntent → DispatcherCall P (List NotificationIntent)
  | _, [] => pure []
  | k, intent :: rest => do
      Call.modify (fun d => { d with handed := d.handed ++
        [⟨intent, d.store.notification intent.notificationId, (sender k intent).isOk⟩] })
      let updated ← Call.zoom Dispatcher.store (fun d s => { d with store := s }) (recordOutcome sender clock k intent)
      let later ← deliver sender clock (k + 1) rest
      pure (updated :: later)

/-- `dispatch` -/
def dispatch (sender : NotificationSender) (now : DateTime) (clock : Nat → DateTime) :
    DispatcherCall P (List NotificationIntent) := do
  let intents ← Call.read (fun d => d.store.dispatchableNotifications now)
  deliver sender clock 0 intents

end Dispatcher

end SentinelEdge.Incidents

/-! ## The incident event engine

`IncidentEventEngine`: the store it writes and the projection of current
incidents it keeps in memory beside it. A method commits its store writes one by
one and updates the projection in between, so a raise may leave some of them.
-/

namespace SentinelEdge.Incidents

open Foundation Domain Storage Security

variable {P : Platform}

structure Engine (P : Platform) where
  store : Store P
  current : Dict HazardKind IncidentRecord
  notificationBudget : Int
  commandAuthorizer : CommandAuthorizer

/-- `IncidentEventEngine(store, notification_budget=…, command_authorizer=…)` -/
def Engine.init (store : Store P) (notificationBudget : Int) (commandAuthorizer : CommandAuthorizer) : Engine P where
  store := store
  current := Dict.ofList IncidentRecord.hazard store.latestByHazard
  notificationBudget := notificationBudget
  commandAuthorizer := commandAuthorizer

abbrev EngineCall (P : Platform) (α : Type) := Call (Engine P) Error α

def onStore {α : Type} (x : StoreCall P α) : EngineCall P α :=
  Call.zoom Engine.store (fun e s => { e with store := s }) x

/-- `_ALLOWED` -/
def allowed : IncidentState → List IncidentState
  | .normal => [.normal, .watch, .suspected, .confirmed, .degraded]
  | .watch => [.normal, .watch, .suspected, .confirmed, .degraded]
  | .suspected => [.watch, .suspected, .confirmed, .resolving, .degraded]
  | .confirmed => [.confirmed, .resolving, .degraded]
  | .resolving => [.confirmed, .resolving, .resolved, .degraded]
  | .resolved => [.resolved, .watch, .suspected, .confirmed, .degraded]
  | .degraded => [.degraded, .watch, .suspected, .confirmed]

/-- `_NOTIFY_STATES` -/
def notifyStates : List IncidentState := [.watch, .suspected, .confirmed, .degraded]

/-- `state_rank.get(state, 0)` -/
def stateRank : IncidentState → Nat
  | .normal => 0
  | .watch => 1
  | .suspected => 2
  | .confirmed => 3
  | .degraded => 1
  | .resolving => 1
  | .resolved => 0

/-! ## Notifications -/

def idempotencyKey (record : IncidentRecord) : String :=
  "incident:" ++ record.incidentId.str ++ ":version:" ++ toString record.version ++ ":state:" ++ record.state.value

/-- The status and reasons of an intent, from the review state and the number
    of intents the incident already has. -/
def notificationStatus (review : IncidentReviewState) (count : Nat) (budget : Int) (state : IncidentState)
    (acceptedAt : DateTime) : NotificationStatus × List String :=
  let snoozed : Bool := review.snoozedUntil.any (fun until_ => acceptedAt < until_)
  let (status, reasons) : NotificationStatus × List String :=
    if snoozed then
      if state = .confirmed then (.pending, ["incident_state_changed", "snooze_overridden_by_confirmation"])
      else (.suppressed, ["incident_state_changed", "incident_snoozed"])
    else (.pending, ["incident_state_changed"])
  if budget ≤ count ∧ state ≠ .confirmed then (.suppressed, reasons ++ ["notification_budget_exhausted"])
  else (status, reasons)

/-- `_notification_for` -/
def notificationFor (store : Store P) (budget : Int) (record : IncidentRecord) (previousState : IncidentState)
    (acceptedAt : DateTime) : Option NotificationIntent :=
  if record.state ∉ notifyStates ∨ record.state = previousState then none
  else
    let (status, reasons) := notificationStatus (store.reviewState record.incidentId)
      (store.notificationCount record.incidentId) budget record.state acceptedAt
    some {
      notificationId := P.uuid5 ("sentinel-notification:" ++ idempotencyKey record)
      incidentId := record.incidentId
      hazard := record.hazard
      incidentVersion := record.version
      incidentState := record.state
      idempotencyKey := idempotencyKey record
      status := status
      createdAt := acceptedAt
      updatedAt := acceptedAt
      reasonCodes := reasons }

/-- The engine with another store behind it and a new current version. -/
def Engine.advanced (e : Engine P) (store : Store P) (hazard : HazardKind) (record : IncidentRecord) : Engine P :=
  { e with store := store, current := e.current.insert hazard record }

/-- Append a version with its notification, then update the projection. -/
def journalIncident (hazard : HazardKind) (record : IncidentRecord) (notification : Option NotificationIntent) :
    EngineCall P Unit := do
  let _ ← onStore (appendIncidentWithNotification record notification)
  Call.modify (fun e => { e with current := e.current.insert hazard record })

/-! ## Analyses -/

/-- `analysis.event_time or analysis.produced_at` -/
def eventTime (analysis : AnalysisResult) : DateTime := analysis.eventTime.getD analysis.producedAt

/-- The analysis is older than the watermark of the current version. -/
def isLate (current : IncidentRecord) (analysis : AnalysisResult) : Bool :=
  current.eventTimeWatermark.any (fun watermark => eventTime analysis < watermark)

/-- The version a late analysis adds: nothing but its provenance changes. -/
def lateCorrection (current : IncidentRecord) (analysis : AnalysisResult) (acceptedAt : DateTime) : IncidentRecord :=
  { current with
    lastObservedAt := acceptedAt
    version := current.version + 1
    reasonCodes := sortedSet (current.reasonCodes ++ analysis.reasonCodes ++ ["late_context_correction"])
    analysisIds := current.analysisIds ++ [analysis.analysisId]
    correlationIds := current.correlationIds ++ [analysis.correlationId] }

def applyLate (current : IncidentRecord) (analysis : AnalysisResult) (acceptedAt : DateTime) :
    EngineCall P IncidentRecord :=
  if analysis.score ≤ current.confidence ∧ stateRank analysis.stateHint ≤ stateRank current.state then pure current
  else do
    let correction := lateCorrection current analysis acceptedAt
    journalIncident analysis.hazard correction none
    pure correction

/-- The state an analysis calls for and the reasons it adds: missing coverage
    degrades, and a normal reading only opens the resolution of an alert. -/
def assess (current : Option IncidentRecord) (analysis : AnalysisResult) : IncidentState × List String :=
  let (target, reasons) : IncidentState × List String :=
    if analysis.abstained ∨ analysis.coverage = .blind then
      (.degraded, analysis.reasonCodes ++ ["coverage_prevents_strong_state"])
    else (analysis.stateHint, analysis.reasonCodes)
  if target = .normal ∧ current.any (fun r => r.state = .suspected ∨ r.state = .confirmed) then
    (.resolving, reasons ++ ["negative_evidence_requires_resolution_window"])
  else (target, reasons)

def previousState (current : Option IncidentRecord) : IncidentState := (current.map IncidentRecord.state).getD .normal

/-- The version an analysis in event-time order adds. -/
def nextRecord (P : Platform) (current : Option IncidentRecord) (analysis : AnalysisResult) (acceptedAt : DateTime) :
    IncidentRecord where
  incidentId := match current with
    | some r => r.incidentId
    | none => analysis.incidentIdHint.getD
        (P.uuid5 ("sentinel-incident:" ++ analysis.hazard.value ++ ":" ++ analysis.correlationId.str))
  hazard := analysis.hazard
  state := (assess current analysis).1
  confidence := analysis.score
  coverage := analysis.coverage
  sourceMode := analysis.sourceMode
  firstObservedAt := (current.map IncidentRecord.firstObservedAt).getD (eventTime analysis)
  lastObservedAt := acceptedAt
  eventTimeWatermark := match current.bind IncidentRecord.eventTimeWatermark with
    | some watermark => some (max (eventTime analysis) watermark)
    | none => some (eventTime analysis)
  version := match current with
    | some r => r.version + 1
    | none => 1
  reasonCodes := sortedSet ((current.map IncidentRecord.reasonCodes).getD [] ++ (assess current analysis).2)
  analysisIds := (current.map IncidentRecord.analysisIds).getD [] ++ [analysis.analysisId]
  correlationIds := (current.map IncidentRecord.correlationIds).getD [] ++ [analysis.correlationId]
  lastBootId := analysis.bootId
  sourceLineage := analysis.sourceLineage
  modelProfileId := analysis.modelProfileId
  configHashes := analysis.configHashes
  labels := (current.map IncidentRecord.labels).getD [] ++
    [if analysis.abstained then .uncertain else if (assess current analysis).1 = .confirmed then .confirm else .reject]

def applyInOrder (current : Option IncidentRecord) (analysis : AnalysisResult) (acceptedAt : DateTime) :
    EngineCall P IncidentRecord :=
  let target := (assess current analysis).1
  if target ∉ allowed (previousState current) then
    Call.raise (.valueError
      ("illegal incident transition " ++ (previousState current).value ++ "->" ++ target.value))
  else do
    let record := nextRecord P current analysis acceptedAt
    let notification ← Call.read (fun e =>
      notificationFor e.store e.notificationBudget record (previousState current) acceptedAt)
    journalIncident analysis.hazard record notification
    pure record

/-- `apply_analysis` -/
def applyAnalysis (analysis : AnalysisResult) (acceptedAt : DateTime) : EngineCall P IncidentRecord := do
  let current ← Call.read (fun e => e.current.get? analysis.hazard)
  match current with
  | none => applyInOrder none analysis acceptedAt
  | some record =>
      if analysis.analysisId ∈ record.analysisIds then pure record
      else if isLate record analysis then applyLate record analysis acceptedAt
      else applyInOrder (some record) analysis acceptedAt

end SentinelEdge.Incidents
