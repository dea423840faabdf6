import SentinelEdge.Gateway.Offline
import SentinelEdge.Projections.Service
import SentinelEdge.Security.ProtectedState
import SentinelEdge.Security.Sessions
import Mathlib.Data.List.Infix

/-! # The gateway

The routes of `create_app` that change the incident engine, the tokens or the protected
local state. A route authenticates its bearer token, checks a permission, and turns
some exceptions of the services into answers with an error status; the others leave
the application as they are raised.
-/

namespace SentinelEdge.Gateway

open Foundation Domain Storage Security Incidents Projections

structure App (P : Platform) where
  auth : AuthManager P
  incidents : Engine P
  protectedState : ProtectedLocalStateStore P
  projections : ProjectionService
  offlineCommands : OfflineCommandService

/-- An `HTTPException`, or an exception that no route catches. -/
inductive Failure where
  | http (statusCode : Nat) (code message : String)
  | raised (error : Error)
  deriving DecidableEq, Repr

abbrev AppCall (P : Platform) (α : Type) := Call (App P) Failure α

/-- What a request arrives with, and what is drawn while it is served. -/
structure Exchange where
  token : Option String
  authenticatedAt : DateTime
  now : Timestamp
  commandId : UUID
  decisionId : UUID
  ticketId : UUID

variable {P : Platform}

/-- `_safe_public_message` -/
def safePublicMessage : String := "request could not be processed"

/-- `str(exc)`; what pydantic writes around the text of a validator is left out. -/
def messageOf : Error → String
  | .valueError message | .authorizationError message | .validationError message | .permissionError message
  | .spoolExhaustedError message | .admissionError message | .runtimeError message | .osError message
  | .fileNotFoundError message | .indexError message | .typeError message => message
  | .keyError key => "'" ++ key ++ "'"
  | .integrityError table => "UNIQUE constraint failed: " ++ table
  | .jsonDecodeError | .assertionError | .overflowError => ""

/-- `word in str(exc)` -/
def mentions (word : String) (error : Error) : Bool := decide (word.toList <:+: (messageOf error).toList)

/-- `isinstance(exc, AuthorizationError)` -/
def isAuthorizationError : Error → Bool
  | .authorizationError _ => true
  | _ => false

/-! ## Who asks -/

/-- `principal_from_credentials` -/
def principalFromCredentials (x : Exchange) : AppCall P PrincipalRef := do
  let authenticated ← Call.read (fun g => g.auth.authenticate x.token x.authenticatedAt)
  match authenticated with
  | .ok principal => pure principal
  | .error _ => Call.raise (.http 401 "authentication_required" safePublicMessage)

/-- `auth.authorize`, with the answer to a refusal. -/
def permit (principal : PrincipalRef) (permission : String) (refusal : Error → Failure) : AppCall P Unit :=
  Call.lift ((authorize principal permission).mapError refusal)

/-- `require` -/
def require (permission : String) (x : Exchange) : AppCall P PrincipalRef := do
  let principal ← principalFromCredentials x
  permit principal permission (fun _ => .http 403 "permission_denied" safePublicMessage)
  pure principal

/-- `_current_incident` -/
def currentIncident (hazard : HazardKind) : AppCall P IncidentRecord := do
  let found ← Call.read (fun g => (Projections.current g.incidents).find? (fun item => item.hazard = hazard))
  match found with
  | some current => pure current
  | none => Call.raise (.http 404 "incident_not_found" hazard.value)

/-! ## Calls of the services -/

/-- A call of the engine, with what the route makes of its exceptions. -/
def onIncidents {α : Type} (caught : Error → Failure) (x : EngineCall P α) : AppCall P α := fun g =>
  ((x g.incidents).1.mapError caught, { g with incidents := (x g.incidents).2 })

/-- A call of the protected local state, whose exceptions no route catches. -/
def onProtectedState {α : Type} (x : Call (ProtectedLocalStateStore P) Error α) : AppCall P α := fun g =>
  ((x g.protectedState).1.mapError .raised, { g with protectedState := (x g.protectedState).2 })

/-- `projections.snapshot()` -/
def projection (caught : Error → Failure) : AppCall P (SignedProjection P) := do
  let taken ← Call.read (fun g => g.projections.snapshot g.incidents none "" "incidents")
  Call.lift (taken.mapError caught)

/-! ## Bodies -/

structure ClientIncidentCommandRequest where
  command : IncidentCommandKind
  expectedVersion : Nat
  reason : String
  relatedIncidentId : Option UUID
  relatedHazard : Option HazardKind
  idempotencyKey : String
  positive : 1 ≤ expectedVersion

structure ClientAcknowledgeRequest where
  idempotencyKey : String
  named : isBlank idempotencyKey = false

structure ClientSnoozeRequest where
  until_ : DateTime
  idempotencyKey : String
  named : isBlank idempotencyKey = false

structure DeviceRevocationRequest where
  reason : String
  bounded : 1 ≤ reason.length ∧ reason.length ≤ 500

/-- `validate_incident_command` -/
def validateIncidentCommand (command : IncidentStatusCommand) : Except Error IncidentStatusCommand := do
  Checks.refuse (isBlank command.actor || isBlank command.reason || isBlank command.idempotencyKey)
    (.validationError "incident command fields must not be blank")
  Checks.refuse (StatusCommand.isRelating command && (command.relatedIncidentId.isNone || command.relatedHazard.isNone))
    (.validationError "link/merge command requires a related incident")
  Checks.refuse (!StatusCommand.isRelating command && (command.relatedIncidentId.isSome || command.relatedHazard.isSome))
    (.validationError "related incident is valid only for link/merge commands")
  pure command

/-! ## Answers -/

inductive Answer (P : Platform) where
  | committed (result : IncidentRecord ⊕ IncidentRelation) (projection : SignedProjection P)
  | reviewed (state : IncidentReviewState) (receipt : CommandReceipt P) (projection : Option (SignedProjection P))
  | prepared (ticket : OfflineReviewTicket P)
  | delivered (intents : List NotificationIntent)
  | loggedOut (principalId : String) (purges : List (ProtectedStatePurgeReceipt P))
  | revoked (principalId : String) (disabledTokens : Nat) (purges : List (ProtectedStatePurgeReceipt P))

/-! ## Status commands -/

def isHighImpact : IncidentCommandKind → Bool
  | .resolve | .reopen | .merge => true
  | .corroborate | .contradict | .control | .link => false

/-- The second permission that a command of high impact takes. -/
def permitImpact (principal : PrincipalRef) (command : IncidentCommandKind) : AppCall P Unit :=
  if isHighImpact command then
    permit principal "incidents:high_impact" (fun _ => .http 403 "high_impact_authority_required" safePublicMessage)
  else pure ()

def statusFailure (error : Error) : Failure :=
  if error.isValueError then
    .http 409 "incident_command_conflict"
      (if mentions "reconfirmation" error then "reconfirmation required" else safePublicMessage)
  else .raised error

def statusCommand (request : ClientIncidentCommandRequest) (current : IncidentRecord) (hazard : HazardKind)
    (principal : PrincipalRef) (x : Exchange) : IncidentStatusCommand where
  commandId := x.commandId
  incidentId := current.incidentId
  hazard := hazard
  command := request.command
  expectedVersion := request.expectedVersion
  actor := principal.principalId
  reason := request.reason
  relatedIncidentId := request.relatedIncidentId
  relatedHazard := request.relatedHazard
  idempotencyKey := request.idempotencyKey
  submittedAt := x.now.instant

/-- `POST /v1/incidents/{hazard}/commands` -/
def incidentCommand (hazard : HazardKind) (request : ClientIncidentCommandRequest) (x : Exchange) :
    AppCall P (Answer P) := do
  let principal ← require "incidents:command" x
  permitImpact principal request.command
  let current ← currentIncident hazard
  let command ← Call.lift ((validateIncidentCommand (statusCommand request current hazard principal x)).mapError statusFailure)
  let result ← onIncidents statusFailure (applyStatusCommand command)
  let projected ← projection statusFailure
  pure (.committed result projected)

/-! ## Reviews -/

/-- The payload of the decision, which the engine compares with the command. -/
def reviewPayload (P : Platform) (current : IncidentRecord) (hazard : HazardKind) (action : ReviewActionKind)
    (snoozeUntil : Option DateTime) (idempotencyKey : String) : Json := .obj [
  ("action", .str action.value),
  ("comment", .null),
  ("hazard", .str hazard.value),
  ("idempotency_key", .str idempotencyKey),
  ("incident_id", Dump.uuid current.incidentId),
  ("snooze_until", Json.optional (Dump.time P) snoozeUntil)]

def reviewFailure (error : Error) : Failure :=
  if error.isValueError || isAuthorizationError error then .http 409 "command_conflict" safePublicMessage
  else .raised error

def reviewDecision (authorizer : CommandAuthorizer) (current : IncidentRecord) (hazard : HazardKind)
    (action : ReviewActionKind) (snoozeUntil : Option DateTime) (idempotencyKey : String) (principal : PrincipalRef)
    (x : Exchange) : AuthorizationDecision P :=
  authorizer.decide x.decisionId principal ("incidents:" ++ action.value) ("incident:" ++ current.incidentId.str)
    (reviewPayload P current hazard action snoozeUntil idempotencyKey) x.now.instant

def reviewCommand (current : IncidentRecord) (hazard : HazardKind) (action : ReviewActionKind)
    (snoozeUntil : Option DateTime) (idempotencyKey : String) (x : Exchange) (decision : AuthorizationDecision P) :
    AuthorizedReviewCommand P where
  commandId := x.commandId
  incidentId := current.incidentId
  hazard := hazard
  action := action
  snoozeUntil := snoozeUntil
  comment := none
  idempotencyKey := idempotencyKey
  authorization := decision
  payloadSha256 := decision.payloadSha256
  submittedAt := x.now.instant

/-- What `acknowledge` and `snooze` share: a decision for the review, and the review. -/
def submitReview (current : IncidentRecord) (hazard : HazardKind) (action : ReviewActionKind)
    (snoozeUntil : Option DateTime) (idempotencyKey : String) (principal : PrincipalRef) (x : Exchange) :
    AppCall P (IncidentReviewState × CommandReceipt P) := do
  let authorizer ← Call.read (fun g => g.incidents.commandAuthorizer)
  let decision ← Call.lift ((validateDecision
    (reviewDecision authorizer current hazard action snoozeUntil idempotencyKey principal x)).mapError .raised)
  let command ← Call.lift ((validateAuthorizedReview
    (reviewCommand current hazard action snoozeUntil idempotencyKey x decision)).mapError .raised)
  onIncidents reviewFailure (applyAuthorizedReview command)

/-- `POST /v1/incidents/{hazard}/acknowledge` -/
def acknowledge (hazard : HazardKind) (request : ClientAcknowledgeRequest) (x : Exchange) : AppCall P (Answer P) := do
  let principal ← require "incidents:acknowledge" x
  let current ← currentIncident hazard
  let (state, receipt) ← submitReview current hazard .acknowledge none request.idempotencyKey principal x
  let projected ← projection reviewFailure
  pure (.reviewed state receipt (some projected))

/-- `POST /v1/incidents/{hazard}/snooze` -/
def snooze (hazard : HazardKind) (request : ClientSnoozeRequest) (x : Exchange) : AppCall P (Answer P) := do
  let principal ← require "incidents:snooze" x
  let current ← currentIncident hazard
  Call.lift (Checks.refuse (request.until_ ≤ x.now.instant) (.http 422 "invalid_snooze" "until must be in the future"))
  let (state, receipt) ← submitReview current hazard .snooze (some request.until_) request.idempotencyKey principal x
  pure (.reviewed state receipt none)

/-! ## Offline commands -/

/-- `POST /v1/offline/incidents/{hazard}/prepare` -/
def prepareOfflineCommand (hazard : HazardKind) (request : OfflineReviewRequest) (x : Exchange) :
    AppCall P (Answer P) := do
  let principal ← principalFromCredentials x
  permit principal ("incidents:" ++ request.action.value) (fun _ => .http 403 "permission_denied" safePublicMessage)
  let current ← currentIncident hazard
  let service ← Call.read App.offlineCommands
  pure (.prepared (service.prepare x.ticketId current request principal x.now.instant))

def reconcileFailure (error : Error) : Failure :=
  if isAuthorizationError error then
    if mentions "expired" error then .http 409 "reconfirmation_required" "reconfirmation required"
    else if mentions "stale" error then .http 409 "offline_command_rejected" "stale command"
    else .http 409 "offline_command_rejected" safePublicMessage
  else if error.isValueError then
    .http 409 "command_conflict" (if mentions "reconfirmation" error then "reconfirmation required" else safePublicMessage)
  else .raised error

/-- `POST /v1/offline/commands/reconcile` -/
def reconcileOfflineCommand (ticket : OfflineReviewTicket P) (x : Exchange) : AppCall P (Answer P) := do
  let principal ← principalFromCredentials x
  permit principal ("incidents:" ++ ticket.action.value) reconcileFailure
  let current ← currentIncident ticket.hazard
  let service ← Call.read App.offlineCommands
  let command ← Call.lift
    ((service.reconcile ticket current principal x.now.instant x.commandId x.decisionId).mapError reconcileFailure)
  let (state, receipt) ← onIncidents reconcileFailure (applyAuthorizedReview command)
  let projected ← projection reconcileFailure
  pure (.reviewed state receipt (some projected))

/-! ## Dispatch and the end of a session -/

/-- `POST /v1/notifications/dispatch` -/
def dispatch (sender : NotificationSender) (clock : Nat → DateTime) (x : Exchange) : AppCall P (Answer P) := do
  let _ ← require "notifications:dispatch" x
  let intents ← onIncidents .raised (dispatchNotifications sender x.now.instant clock)
  pure (.delivered intents)

def logoutRevocation (principal : PrincipalRef) (x : Exchange) :
    ProtectedLocalStateStore.Revocation where
  action := .logout
  actor := principal.principalId
  reason := "authenticated_logout"
  now := x.now

def deviceRevocation (principal : PrincipalRef) (request : DeviceRevocationRequest) (x : Exchange) :
    ProtectedLocalStateStore.Revocation where
  action := .deviceRevocation
  actor := principal.principalId
  reason := request.reason
  now := x.now

/-- `POST /v1/session/logout` -/
def logout (x : Exchange) : AppCall P (Answer P) := do
  let principal ← require "health:read" x
  let purges ← onProtectedState (ProtectedLocalStateStore.purgePrincipal principal (logoutRevocation principal x))
  match x.token with
  | none => Call.raise (.http 401 "authentication_required" "missing bearer token")
  | some token => do
      let disabled ← Call.read (fun g => g.auth.disableToken token)
      let (auth, _) ← Call.lift (disabled.mapError (fun refused => .raised (.valueError refused.message)))
      Call.modify (fun g => { g with auth := auth })
      pure (.loggedOut principal.principalId purges)

/-- `POST /v1/security/principals/{principal_id}/revoke-device` -/
def revokeDevice (principalId : String) (request : DeviceRevocationRequest) (x : Exchange) : AppCall P (Answer P) := do
  let principal ← require "*" x
  let purges ← onProtectedState (ProtectedLocalStateStore.purgePrincipalId principalId
    (deviceRevocation principal request x))
  let (auth, disabled) ← Call.read (fun g => g.auth.disablePrincipal principalId)
  Call.modify (fun g => { g with auth := auth })
  pure (.revoked principalId disabled purges)

/-! ## The application -/

inductive Request (P : Platform) where
  | incidentCommand (hazard : HazardKind) (request : ClientIncidentCommandRequest)
  | acknowledge (hazard : HazardKind) (request : ClientAcknowledgeRequest)
  | snooze (hazard : HazardKind) (request : ClientSnoozeRequest)
  | prepareOfflineCommand (hazard : HazardKind) (request : OfflineReviewRequest)
  | reconcileOfflineCommand (ticket : OfflineReviewTicket P)
  | dispatch (sender : NotificationSender) (clock : Nat → DateTime)
  | logout
  | revokeDevice (principalId : String) (request : DeviceRevocationRequest)

def handle : Request P → Exchange → AppCall P (Answer P)
  | .incidentCommand hazard request => incidentCommand hazard request
  | .acknowledge hazard request => acknowledge hazard request
  | .snooze hazard request => snooze hazard request
  | .prepareOfflineCommand hazard request => prepareOfflineCommand hazard request
  | .reconcileOfflineCommand ticket => reconcileOfflineCommand ticket
  | .dispatch sender clock => dispatch sender clock
  | .logout => logout
  | .revokeDevice principalId request => revokeDevice principalId request

/-- Requests arrive between the analyses that the engine applies. -/
inductive Event (P : Platform) where
  | request (request : Request P) (exchange : Exchange)
  | analysis (analysis : AnalysisResult) (acceptedAt : DateTime)

def appStep (g : App P) : Event P → App P
  | .request request x => (handle request x g).2
  | .analysis analysis acceptedAt => { g with incidents := (applyAnalysis analysis acceptedAt g.incidents).2 }

end SentinelEdge.Gateway
