import SentinelEdge.Incidents.Engine

/-! # Operator commands and reviews

`apply_status_command`, `review`, `apply_authorized_review` and the projection
check of the engine. The parts of a command that only compute (the new version,
the relation, the receipt) are functions of their own; the order of lookups,
checks and writes is the source's.
-/

namespace SentinelEdge.Incidents

open Foundation Domain Storage Security

variable {P : Platform}

/-- `max(history, key=version)`: the first of the highest. -/
def latestVersion : List IncidentRecord → Option IncidentRecord
  | [] => none
  | r :: rest => match latestVersion rest with
      | some best => if r.version < best.version then some best else some r
      | none => some r

/-- `incident_by_id` -/
def Engine.incidentById (e : Engine P) (incidentId : UUID) : Option IncidentRecord :=
  match e.current.values.find? (fun r => r.incidentId = incidentId) with
  | some current => some current
  | none => latestVersion (e.store.journal.filter (fun r => r.incidentId = incidentId))

/-! ## Status commands -/

namespace StatusCommand

def targetKey (command : IncidentStatusCommand) : String :=
  "incident-status:" ++ command.incidentId.str ++ ":" ++ command.command.value

def scopedKeyDocument (command : IncidentStatusCommand) : Json := .obj [
  ("actor", .str command.actor),
  ("idempotency_key", .str command.idempotencyKey),
  ("target", .str (targetKey command))]

def scopedKey (P : Platform) (command : IncidentStatusCommand) : P.Digest := P.sha256 (scopedKeyDocument command)

def payload (command : IncidentStatusCommand) : Json := .obj [
  ("actor", .str command.actor),
  ("command", .str command.command.value),
  ("expected_version", .int command.expectedVersion),
  ("hazard", .str command.hazard.value),
  ("idempotency_key", .str command.idempotencyKey),
  ("incident_id", Dump.uuid command.incidentId),
  ("reason", .str command.reason),
  ("related_hazard", Json.optional (fun h => .str h.value) command.relatedHazard),
  ("related_incident_id", Json.optional Dump.uuid command.relatedIncidentId)]

def isRelating (command : IncidentStatusCommand) : Bool :=
  command.command = .link ∨ command.command = .merge

/-- The relation a link or merge of two incidents commits. -/
def relationFor (P : Platform) (command : IncidentStatusCommand) (current related : IncidentRecord)
    (kind : IncidentRelationKind) : IncidentRelation where
  relationId := P.uuid5 ("sentinel-incident-relation:" ++ command.commandId.str)
  sourceIncidentId := current.incidentId
  sourceHazard := current.hazard
  targetIncidentId := related.incidentId
  targetHazard := related.hazard
  relation := kind
  confidence := 1
  expectedSourceVersion := current.version
  expectedTargetVersion := related.version
  createdAt := command.submittedAt
  actor := command.actor
  reason := command.reason

/-- The checks of a link or merge up to the constructor of the relation. -/
def planRelation (e : Engine P) (command : IncidentStatusCommand) (current : IncidentRecord) :
    Except Error IncidentRelation :=
  match command.relatedIncidentId, command.relatedHazard with
  | some relatedId, some relatedHazard =>
      match e.incidentById relatedId with
      | none => .error (.valueError "related incident not found")
      | some related =>
          if related.hazard ≠ relatedHazard then .error (.valueError "related incident not found")
          else if command.command = .merge then
            if related.hazard ≠ current.hazard then
              .error (.valueError "merge requires the same hazard; use link for cross-hazard context")
            else (relationFor P command current related .mergedAlias).validate
          else if related.hazard = current.hazard then
            .error (.valueError "same-hazard incidents require merge rather than cross-hazard link")
          else (relationFor P command current related .temporalAssociation).validate
  | _, _ => .error .assertionError

/-- The receipt of a committed command. -/
def receipt (P : Platform) (command : IncidentStatusCommand) (resultVersion : Nat) (result : ResultRef P)
    (committed : String) : CommandReceipt P where
  commandId := command.commandId
  principalId := command.actor
  operation := "incidents:" ++ command.command.value
  target := targetKey command
  scopedIdempotencyKey := scopedKey P command
  payloadSha256 := P.sha256 (payload command)
  status := .committed
  acceptedAt := command.submittedAt
  committedAt := some command.submittedAt
  resultVersion := some resultVersion
  resultSha256 := some result
  reasonCodes := ["expected_version_verified", committed]

def relate (command : IncidentStatusCommand) (current : IncidentRecord) :
    EngineCall P (IncidentRecord ⊕ IncidentRelation) := do
  let planned ← Call.read (fun e => planRelation e command current)
  let relation ← Call.lift planned
  let stored ← onStore (recordIncidentRelation relation)
  let _ ← onStore (recordCommandReceipt (receipt P command current.version (.relation stored.relationId)
    "incident_relation_committed"))
  pure (.inr stored)

/-- The state and confidence a command other than link and merge asks for. -/
def outcome (command : IncidentStatusCommand) (current : IncidentRecord) (review : IncidentReviewState) :
    Except Error (IncidentState × ℚ) :=
  match command.command with
  | .corroborate => .ok (current.state, min 1 (current.confidence + 1 / 20))
  | .contradict => .ok (current.state, max 0 (current.confidence - 1 / 10))
  | .resolve =>
      if current.coverage = .blind then .error (.valueError "blind required sensor cannot resolve an event")
      else if current.state = .confirmed ∧ review.acknowledgedAt = none then
        .error (.valueError "unreviewed high-severity incident cannot be auto-closed")
      else .ok (if current.state = .resolving then .resolved else .resolving, current.confidence)
  | .reopen =>
      if current.state ≠ .resolved then .error (.valueError "only a resolved incident can be reopened")
      else .ok (.suspected, current.confidence)
  | .control | .link | .merge => .ok (current.state, current.confidence)

/-- The version a command other than link and merge adds. -/
def commandedRecord (command : IncidentStatusCommand) (current : IncidentRecord) (target : IncidentState)
    (confidence : ℚ) : IncidentRecord :=
  { current with
    state := target
    confidence := confidence
    lastObservedAt := command.submittedAt
    version := current.version + 1
    reasonCodes := sortedSet (current.reasonCodes ++
      ["operator_" ++ command.command.value, "reason:" ++ command.reason] ++
      (if command.command = .control then ["controlled_activity_recorded"] else []))
    labels := if command.command = .control ∧ IncidentLabel.control ∉ current.labels then
      current.labels ++ [.control] else current.labels }

/-- All checks of such a command, ending in the new version. -/
def planTransition (store : Store P) (command : IncidentStatusCommand) (current : IncidentRecord) :
    Except Error IncidentRecord :=
  match outcome command current (store.reviewState current.incidentId) with
  | .error e => .error e
  | .ok (target, confidence) =>
      if target ∉ allowed current.state then
        .error (.valueError ("illegal incident command transition " ++ current.state.value ++ "->" ++ target.value))
      else .ok (commandedRecord command current target confidence)

def transition (command : IncidentStatusCommand) (current : IncidentRecord) :
    EngineCall P (IncidentRecord ⊕ IncidentRelation) := do
  let planned ← Call.read (fun e => planTransition e.store command current)
  let record ← Call.lift planned
  let notification ← Call.read (fun e =>
    notificationFor e.store e.notificationBudget record current.state command.submittedAt)
  journalIncident current.hazard record notification
  let _ ← onStore (recordCommandReceipt (receipt P command record.version (.digest (P.sha256 (record.modelDump P)))
    "component4_incident_command_committed"))
  pure (.inl record)

/-- The relation a receipt of a link or merge refers to. -/
def storedRelation (store : Store P) (command : IncidentStatusCommand) (existing : CommandReceipt P) :
    Option IncidentRelation :=
  if isRelating command then
    (store.incidentRelations.map Stored.record).find? (fun r =>
      existing.resultSha256.any (fun ref => ref.text = r.relationId.str))
  else none

/-- The answer to a command that already has a receipt. -/
def replay (command : IncidentStatusCommand) (existing : CommandReceipt P) :
    EngineCall P (IncidentRecord ⊕ IncidentRelation) :=
  if existing.payloadSha256 ≠ P.sha256 (payload command) then Call.raise (.valueError "idempotency key conflict")
  else do
    let relation ← Call.read (fun e => storedRelation e.store command existing)
    match relation with
    | some r => pure (.inr r)
    | none => do
        let refreshed ← Call.read (fun e => e.incidentById command.incidentId)
        match refreshed with
        | some r => pure (.inl r)
        | none => Call.raise .assertionError

end StatusCommand

/-- `apply_status_command` -/
def applyStatusCommand (command : IncidentStatusCommand) : EngineCall P (IncidentRecord ⊕ IncidentRelation) := do
  let found ← Call.read (fun e => e.incidentById command.incidentId)
  match found with
  | none => Call.raise (.valueError "incident command target not found")
  | some current =>
      if current.hazard ≠ command.hazard then Call.raise (.valueError "incident command target not found")
      else do
        let existing ← Call.read (fun e => e.store.commandReceipt (StatusCommand.scopedKey P command))
        match existing with
        | some receipt => StatusCommand.replay command receipt
        | none =>
            if current.version ≠ command.expectedVersion then
              Call.raise (.valueError "stale incident command requires reconfirmation")
            else if StatusCommand.isRelating command then StatusCommand.relate command current
            else StatusCommand.transition command current

/-! ## Reviews -/

/-- `review` -/
def review (action : ReviewAction) : EngineCall P IncidentReviewState := do
  let current ← Call.read (fun e => e.current.get? action.hazard)
  match current with
  | none => Call.raise (.valueError "review action does not target the current incident")
  | some record =>
      if record.incidentId ≠ action.incidentId then
        Call.raise (.valueError "review action does not target the current incident")
      else onStore (recordReview action)

namespace AuthorizedReview

def target (command : AuthorizedReviewCommand P) : String := "incident:" ++ command.incidentId.str

def operation (command : AuthorizedReviewCommand P) : String := "incidents:" ++ command.action.value

/-- `_authorized_review_payload` -/
def payload (command : AuthorizedReviewCommand P) : Json := .obj [
  ("action", .str command.action.value),
  ("comment", Json.optional .str command.comment),
  ("hazard", .str command.hazard.value),
  ("idempotency_key", .str command.idempotencyKey),
  ("incident_id", Dump.uuid command.incidentId),
  ("snooze_until", Json.optional (Dump.time P) command.snoozeUntil)]

def scopedKey (command : AuthorizedReviewCommand P) : P.Digest :=
  CommandAuthorizer.scopedIdempotencyKey P command.authorization.principal (operation command) (target command)
    command.idempotencyKey

def action (command : AuthorizedReviewCommand P) : ReviewAction where
  reviewId := command.commandId
  incidentId := command.incidentId
  hazard := command.hazard
  action := command.action
  actor := command.authorization.principal.principalId
  createdAt := command.submittedAt
  snoozeUntil := command.snoozeUntil
  comment := command.comment

def receipt (command : AuthorizedReviewCommand P) (state : IncidentReviewState) : CommandReceipt P where
  commandId := command.commandId
  principalId := command.authorization.principal.principalId
  operation := operation command
  target := target command
  scopedIdempotencyKey := scopedKey command
  payloadSha256 := command.payloadSha256
  status := .committed
  acceptedAt := command.authorization.acceptedAt
  committedAt := some command.submittedAt
  resultVersion := some state.reviewCount
  resultSha256 := some (.digest (P.sha256 (state.modelDump P)))
  reasonCodes := ["gateway_authorization_verified", "component4_committed"]

/-- The authorization check the engine makes of a command. -/
def verify (authorizer : CommandAuthorizer) (command : AuthorizedReviewCommand P) : Except Error Unit :=
  authorizer.verify command.authorization (payload command) (operation command) (target command)
    (some command.authorization.principal) command.submittedAt

end AuthorizedReview

/-- `apply_authorized_review` -/
def applyAuthorizedReview (command : AuthorizedReviewCommand P) :
    EngineCall P (IncidentReviewState × CommandReceipt P) := do
  let verified ← Call.read (fun e => AuthorizedReview.verify e.commandAuthorizer command)
  Call.lift verified
  let existing ← Call.read (fun e => e.store.commandReceipt (AuthorizedReview.scopedKey command))
  match existing with
  | some receipt =>
      if receipt.payloadSha256 ≠ command.payloadSha256 then Call.raise (.valueError "idempotency key conflict")
      else do
        let state ← Call.read (fun e => e.store.reviewState command.incidentId)
        pure (state, receipt)
  | none => do
      let action ← Call.lift (AuthorizedReview.action command).validate
      let state ← review action
      let receipt ← onStore (recordCommandReceipt (AuthorizedReview.receipt command state))
      pure (state, receipt)

/-! ## Dispatch and the projection check -/

/-- `dispatch_notifications` -/
def dispatchNotifications (sender : NotificationSender) (now : DateTime) (clock : Nat → DateTime) :
    EngineCall P (List NotificationIntent) := fun e =>
  let (result, after) := Dispatcher.dispatch sender now clock ⟨e.store, []⟩
  (result, { e with store := after.store })

structure ProjectionReport where
  valid : Bool
  authorityWatermark : Int
  failures : List String
  deriving DecidableEq, Repr

/-- One hazard of the loop in `projection_conformance`. -/
def projectionFailure (durable current : Dict HazardKind IncidentRecord) (hazard : HazardKind) : List String :=
  match durable.get? hazard, current.get? hazard with
  | some left, some right =>
      if left.incidentId ≠ right.incidentId ∨ left.version ≠ right.version ∨ left.state ≠ right.state then
        ["projection_divergence:" ++ hazard.value] else []
  | _, _ => []

/-- `projection_conformance`; hazards are visited in order of their values. -/
def projectionConformance (e : Engine P) : Except Error ProjectionReport :=
  let durable := Dict.ofList IncidentRecord.hazard e.store.latestByHazard
  let hazards := ([.earthquake, .flood, .landslide, .wildfire] : List HazardKind)
  let mismatch := if hazards.all (fun h => decide (h ∈ durable.keys ↔ h ∈ e.current.keys)) then []
    else ["projection_hazard_set_mismatch"]
  match authorityConformance e.store with
  | .error error => .error error
  | .ok authority =>
      let failures := mismatch ++ hazards.flatMap (projectionFailure durable e.current) ++
        (if authority.valid then [] else ["authority_journal_invalid"])
      .ok {
        valid := failures.isEmpty
        authorityWatermark := authority.highestContiguousPosition
        failures := failures }

/-! ## The system -/

inductive Operation (P : Platform) where
  | applyAnalysis (analysis : AnalysisResult) (acceptedAt : DateTime)
  | applyStatusCommand (command : IncidentStatusCommand)
  | review (action : ReviewAction)
  | applyAuthorizedReview (command : AuthorizedReviewCommand P)
  | dispatchNotifications (sender : NotificationSender) (now : DateTime) (clock : Nat → DateTime)

/-- The engine after a call, whether it returned or raised. -/
def step (e : Engine P) : Operation P → Engine P
  | .applyAnalysis analysis acceptedAt => (applyAnalysis analysis acceptedAt e).2
  | .applyStatusCommand command => (applyStatusCommand command e).2
  | .review action => (Incidents.review action e).2
  | .applyAuthorizedReview command => (applyAuthorizedReview command e).2
  | .dispatchNotifications sender now clock => (dispatchNotifications sender now clock e).2

end SentinelEdge.Incidents
