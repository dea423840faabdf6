import SentinelEdge.Gateway.Api
import SentinelEdge.Security.Purging

/-! # What a request can do

Every request is refused, performs one operation of the engine, ends a session, or
revokes a device. The engine of the application is therefore in a state that a run of
the engine alone reaches, and a request that fails leaves everything as it was.
-/

namespace SentinelEdge.Gateway

open Foundation Domain Storage Security Incidents Projections ProtectedLocalStateStore

variable {P : Platform} {g : App P} {x : Exchange}

/-! ## Reading calls -/

/-- The bearer of the token is this principal and has the permission. -/
structure Admits (g : App P) (x : Exchange) (principal : PrincipalRef) (permission : String) : Prop where
  authenticated : g.auth.authenticate x.token x.authenticatedAt = .ok principal
  permitted : authorize principal permission = .ok ()

theorem lift_reads {α : Type} (r : Except Error α) (caught : Error → Failure) (g : App P) :
    Call.Reads (Call.lift (r.mapError caught) : AppCall P α) (fun a => r = .ok a) g := by
  cases r with
  | error error => exact .inl ⟨caught error, rfl⟩
  | ok a => exact .inr ⟨a, rfl, rfl⟩

theorem principalFromCredentials_reads (g : App P) (x : Exchange) : Call.Reads (principalFromCredentials x)
    (fun principal => g.auth.authenticate x.token x.authenticatedAt = .ok principal) g := by
  unfold principalFromCredentials Call.Reads
  rw [Call.read_bind]
  cases authenticated : g.auth.authenticate x.token x.authenticatedAt with
  | error error => exact .inl ⟨_, rfl⟩
  | ok principal => exact .inr ⟨principal, rfl, rfl⟩

theorem require_reads (permission : String) (g : App P) (x : Exchange) :
    Call.Reads (require permission x) (fun principal => Admits g x principal permission) g := by
  apply (principalFromCredentials_reads g x).bind
  intro principal authenticated
  apply (lift_reads (authorize principal permission) _ g).bind
  intro passed permitted
  exact .pure ⟨authenticated, permitted⟩

theorem permitImpact_reads (principal : PrincipalRef) (command : IncidentCommandKind) (g : App P) :
    Call.Reads (permitImpact principal command)
      (fun _ => isHighImpact command = true → authorize principal "incidents:high_impact" = .ok ()) g := by
  unfold permitImpact
  cases isHighImpact command with
  | false => exact .pure nofun
  | true =>
      rcases lift_reads (authorize principal "incidents:high_impact")
        (fun _ => .http 403 "high_impact_authority_required" safePublicMessage) g with refused | ⟨passed, permitted, returned⟩
      · exact .inl refused
      · exact .inr ⟨passed, fun _ => permitted, returned⟩

/-- The incident a route works on is the one the engine holds for the hazard. -/
theorem find?_current (inv : Invariant g.incidents) (hazard : HazardKind) :
    (Projections.current g.incidents).find? (fun item => item.hazard = hazard) = g.incidents.current.get? hazard := by
  cases found : g.incidents.current.get? hazard with
  | none =>
      rw [List.find?_eq_none]
      intro item member same
      obtain ⟨key, there⟩ := Dict.mem_values_iff.mp (mem_current.mp member)
      have named := (inv.current_mem there).2
      rw [← named, of_decide_eq_true same, found] at there
      cases there
  | some current =>
      have member : current ∈ Projections.current g.incidents := mem_current.mpr (Dict.mem_values_iff.mpr ⟨hazard, found⟩)
      have own : current.hazard = hazard := (inv.current_mem found).2
      cases first : (Projections.current g.incidents).find? (fun item => item.hazard = hazard) with
      | none => exact absurd (decide_eq_true own) (List.find?_eq_none.mp first current member)
      | some item =>
          obtain ⟨key, there⟩ := Dict.mem_values_iff.mp (mem_current.mp (List.mem_of_find?_eq_some first))
          have same : item.hazard = hazard := by simpa using List.find?_some first
          have named := (inv.current_mem there).2
          rw [← named, same, found] at there
          exact there.symm

theorem currentIncident_reads (inv : Invariant g.incidents) (hazard : HazardKind) :
    Call.Reads (currentIncident hazard) (fun current => g.incidents.current.get? hazard = some current) g := by
  unfold currentIncident Call.Reads
  rw [Call.read_bind, find?_current inv hazard]
  cases found : g.incidents.current.get? hazard with
  | none => exact .inl ⟨_, rfl⟩
  | some current => exact .inr ⟨current, rfl, rfl⟩

/-- A consistent engine is always projected. -/
theorem projection_returns (inv : Invariant g.incidents) (caught : Error → Failure) :
    ∃ projected, projection caught g = (.ok projected, g) := by
  obtain ⟨projected, taken, -⟩ := snapshot_returns inv g.projections none "" "incidents"
  refine ⟨projected, ?_⟩
  unfold projection
  rw [Call.read_bind, taken]
  rfl

/-! ## What a request performs -/

/-- The decision for a review passes its validator. -/
def Decides (authorizer : CommandAuthorizer) (current : IncidentRecord) (hazard : HazardKind) (action : ReviewActionKind)
    (snoozeUntil : Option DateTime) (idempotencyKey : String) (principal : PrincipalRef) (x : Exchange) : Prop :=
  validateDecision (reviewDecision (P := P) authorizer current hazard action snoozeUntil idempotencyKey principal x) =
    .ok (reviewDecision authorizer current hazard action snoozeUntil idempotencyKey principal x)

/-- The operation of the engine that a request of this principal comes to. -/
inductive Performs (g : App P) (x : Exchange) : Request P → PrincipalRef → Operation P → Prop where
  | status {hazard : HazardKind} {request : ClientIncidentCommandRequest} {principal : PrincipalRef}
      {current : IncidentRecord} (admits : Admits g x principal "incidents:command")
      (impact : isHighImpact request.command = true → authorize principal "incidents:high_impact" = .ok ())
      (found : g.incidents.current.get? hazard = some current)
      (valid : validateIncidentCommand (statusCommand request current hazard principal x) =
        .ok (statusCommand request current hazard principal x)) :
      Performs g x (.incidentCommand hazard request) principal
        (.applyStatusCommand (statusCommand request current hazard principal x))
  | acknowledge {hazard : HazardKind} {request : ClientAcknowledgeRequest} {principal : PrincipalRef}
      {current : IncidentRecord} (admits : Admits g x principal "incidents:acknowledge")
      (found : g.incidents.current.get? hazard = some current)
      (decided : Decides (P := P) g.incidents.commandAuthorizer current hazard .acknowledge none request.idempotencyKey
        principal x) :
      Performs g x (.acknowledge hazard request) principal (.applyAuthorizedReview
        (reviewCommand current hazard .acknowledge none request.idempotencyKey x (reviewDecision
          g.incidents.commandAuthorizer current hazard .acknowledge none request.idempotencyKey principal x)))
  | snooze {hazard : HazardKind} {request : ClientSnoozeRequest} {principal : PrincipalRef}
      {current : IncidentRecord} (admits : Admits g x principal "incidents:snooze")
      (found : g.incidents.current.get? hazard = some current)
      (decided : Decides (P := P) g.incidents.commandAuthorizer current hazard .snooze (some request.until_)
        request.idempotencyKey principal x) :
      Performs g x (.snooze hazard request) principal (.applyAuthorizedReview
        (reviewCommand current hazard .snooze (some request.until_) request.idempotencyKey x (reviewDecision
          g.incidents.commandAuthorizer current hazard .snooze (some request.until_) request.idempotencyKey principal x)))
  | reconcile {ticket : OfflineReviewTicket P} {principal : PrincipalRef} {current : IncidentRecord}
      {command : AuthorizedReviewCommand P} (admits : Admits g x principal ("incidents:" ++ ticket.action.value))
      (reconciled : g.offlineCommands.reconcile ticket current principal x.now.instant x.commandId x.decisionId =
        .ok command) :
      Performs g x (.reconcileOfflineCommand ticket) principal (.applyAuthorizedReview command)
  | dispatch {sender : NotificationSender} {clock : Nat → DateTime} {principal : PrincipalRef}
      (admits : Admits g x principal "notifications:dispatch") :
      Performs g x (.dispatch sender clock) principal (.dispatchNotifications sender x.now.instant clock)

/-- The call of the engine raises. -/
def Raises (e : Engine P) : Operation P → Prop
  | .applyStatusCommand command => ∃ error, (applyStatusCommand command e).1 = .error error
  | .applyAuthorizedReview command => ∃ error, (applyAuthorizedReview command e).1 = .error error
  | .dispatchNotifications sender now clock => ∃ error, (dispatchNotifications sender now clock e).1 = .error error
  | .review action => ∃ error, (review action e).1 = .error error
  | .applyAnalysis analysis acceptedAt => ∃ error, (applyAnalysis analysis acceptedAt e).1 = .error error

/-- Every way a request can go. -/
inductive Serves (g : App P) (x : Exchange) : Request P → Except Failure (Answer P) × App P → Prop where
  | refused {request : Request P} (failure : Failure) : Serves g x request (.error failure, g)
  | operated {request : Request P} {principal : PrincipalRef} {op : Operation P} {result : Except Failure (Answer P)}
      (performs : Performs g x request principal op) (raises : (∃ failure, result = .error failure) ↔ Raises g.incidents op) :
      Serves g x request (result, { g with incidents := step g.incidents op })
  | prepared {hazard : HazardKind} {request : OfflineReviewRequest} (answer : Answer P) :
      Serves g x (.prepareOfflineCommand hazard request) (.ok answer, g)
  | loggedOut {principal : PrincipalRef} {token : String} {auth : AuthManager P} {owner : PrincipalRef}
      (admits : Admits g x principal "health:read") (bearer : x.token = some token)
      (disabled : g.auth.disableToken token = .ok (auth, owner)) (receipts : List (ProtectedStatePurgeReceipt P))
      (returned : (purgePrincipal principal (logoutRevocation principal x) g.protectedState).1 = .ok receipts)
      (answer : Answer P) :
      Serves g x .logout (.ok answer, { g with
        auth := auth
        protectedState := (purgePrincipal principal (logoutRevocation principal x) g.protectedState).2 })
  | revoked {principal : PrincipalRef} {principalId : String} {request : DeviceRevocationRequest}
      (admits : Admits g x principal "*") (receipts : List (ProtectedStatePurgeReceipt P))
      (returned : (purgePrincipalId principalId (deviceRevocation principal request x) g.protectedState).1 = .ok receipts)
      (answer : Answer P) :
      Serves g x (.revokeDevice principalId request) (.ok answer, { g with
        auth := (g.auth.disablePrincipal principalId).1
        protectedState := (purgePrincipalId principalId (deviceRevocation principal request x) g.protectedState).2 })

section Serving

/-- A request that a first check refuses is refused; otherwise it goes the way of the rest. -/
theorem Serves.guarded {α : Type} {request : Request P} {first : AppCall P α} {Q : α → Prop} {rest : α → AppCall P (Answer P)}
    (reads : first.Reads Q g) (later : ∀ a, Q a → Serves g x request (rest a g)) : Serves g x request ((first >>= rest) g) :=
  reads.andThen .refused later

theorem validateIncidentCommand_eq_ok {command valid : IncidentStatusCommand} :
    validateIncidentCommand command = .ok valid ↔
      (isBlank command.actor || isBlank command.reason || isBlank command.idempotencyKey) = false ∧
      (StatusCommand.isRelating command && (command.relatedIncidentId.isNone || command.relatedHazard.isNone)) = false ∧
      (!StatusCommand.isRelating command && (command.relatedIncidentId.isSome || command.relatedHazard.isSome)) = false ∧
      valid = command := by
  simp only [validateIncidentCommand, Checks.bind_eq_ok, Checks.refuse_eq_ok, Checks.pure_eq_ok, exists_const]

/-- An operation of the engine, after which a consistent engine is enough to answer. -/
theorem serves_operation (inv : Invariant g.incidents) {request : Request P} {principal : PrincipalRef} {op : Operation P}
    {α : Type} {first : AppCall P α} {call : EngineCall P α} {caught : Error → Failure} {rest : α → AppCall P (Answer P)}
    (performs : Performs g x request principal op) (same : first g = onIncidents caught call g)
    (calls : (call g.incidents).2 = step g.incidents op)
    (raises : Raises g.incidents op ↔ ∃ error, (call g.incidents).1 = .error error)
    (answers : ∀ a h, Invariant h.incidents → ∃ answer, rest a h = (.ok answer, h)) :
    Serves g x request ((first >>= rest) g) := by
  rcases outcome : call g.incidents with ⟨result, e⟩
  rw [outcome] at calls raises
  have called : first g = (result.mapError caught, { g with incidents := step g.incidents op }) := by
    rw [same, onIncidents, outcome, ← calls]
  cases result with
  | error error =>
      rw [Call.bind_of_error called]
      exact .operated performs (iff_of_true ⟨_, rfl⟩ (raises.mpr ⟨error, rfl⟩))
  | ok a =>
      obtain ⟨answer, answered⟩ := answers a { g with incidents := step g.incidents op } (step_invariant g.incidents op inv)
      rw [Call.bind_of_ok called, answered]
      exact .operated performs (iff_of_false nofun (fun raised => nomatch (raises.mp raised).choose_spec))

theorem incidentCommand_serves (inv : Invariant g.incidents) (hazard : HazardKind) (request : ClientIncidentCommandRequest) :
    Serves g x (.incidentCommand hazard request) (incidentCommand hazard request x g) := by
  apply Serves.guarded (require_reads "incidents:command" g x)
  intro principal admits
  apply Serves.guarded (permitImpact_reads principal request.command g)
  intro _ impact
  apply Serves.guarded (currentIncident_reads inv hazard)
  intro current found
  apply Serves.guarded (lift_reads (validateIncidentCommand (statusCommand request current hazard principal x)) _ g)
  intro command valid
  obtain ⟨-, -, -, rfl⟩ := validateIncidentCommand_eq_ok.mp valid
  apply serves_operation inv (.status admits impact found valid) rfl rfl .rfl
  intro result h inv
  obtain ⟨projected, taken⟩ := projection_returns inv statusFailure
  exact ⟨_, Call.bind_of_ok taken⟩

/-- A review is refused before the engine is called, or is the engine's call. -/
theorem submitReview_cases (current : IncidentRecord) (hazard : HazardKind) (action : ReviewActionKind)
    (snoozeUntil : Option DateTime) (idempotencyKey : String) (principal : PrincipalRef) (g : App P) (x : Exchange) :
    (∃ failure, submitReview current hazard action snoozeUntil idempotencyKey principal x g = (.error failure, g)) ∨
      Decides (P := P) g.incidents.commandAuthorizer current hazard action snoozeUntil idempotencyKey principal x ∧
      submitReview current hazard action snoozeUntil idempotencyKey principal x g =
        onIncidents reviewFailure (applyAuthorizedReview (reviewCommand current hazard action snoozeUntil idempotencyKey x
          (reviewDecision g.incidents.commandAuthorizer current hazard action snoozeUntil idempotencyKey principal x))) g := by
  unfold submitReview
  rw [Call.read_bind]
  rcases lift_reads (validateDecision (reviewDecision (P := P) g.incidents.commandAuthorizer current hazard action snoozeUntil
    idempotencyKey principal x)) .raised g with ⟨failure, invalid⟩ | ⟨decision, decided, made⟩
  · exact .inl ⟨failure, Call.bind_of_error invalid⟩
  rw [Call.bind_of_ok made]
  obtain rfl := OfflineCommandService.validateDecision_ok decided
  rcases lift_reads (validateAuthorizedReview (reviewCommand current hazard action snoozeUntil idempotencyKey x
    (reviewDecision (P := P) g.incidents.commandAuthorizer current hazard action snoozeUntil idempotencyKey principal x)))
    .raised g with ⟨failure, invalid⟩ | ⟨command, valid, made⟩
  · exact .inl ⟨failure, Call.bind_of_error invalid⟩
  rw [Call.bind_of_ok made]
  obtain rfl := OfflineCommandService.validateAuthorizedReview_ok valid
  exact .inr ⟨decided, rfl⟩

theorem acknowledge_serves (inv : Invariant g.incidents) (hazard : HazardKind) (request : ClientAcknowledgeRequest) :
    Serves g x (.acknowledge hazard request) (acknowledge hazard request x g) := by
  apply Serves.guarded (require_reads "incidents:acknowledge" g x)
  intro principal admits
  apply Serves.guarded (currentIncident_reads inv hazard)
  intro current found
  rcases submitReview_cases current hazard .acknowledge none request.idempotencyKey principal g x with
    ⟨failure, refused⟩ | ⟨decided, submitted⟩
  · rw [Call.bind_of_error refused]
    exact .refused failure
  · apply serves_operation inv (.acknowledge admits found decided) submitted rfl .rfl
    rintro ⟨state, receipt⟩ h inv
    obtain ⟨projected, taken⟩ := projection_returns inv reviewFailure
    exact ⟨_, Call.bind_of_ok taken⟩

theorem snooze_serves (inv : Invariant g.incidents) (hazard : HazardKind) (request : ClientSnoozeRequest) :
    Serves g x (.snooze hazard request) (snooze hazard request x g) := by
  apply Serves.guarded (require_reads "incidents:snooze" g x)
  intro principal admits
  apply Serves.guarded (currentIncident_reads inv hazard)
  intro current found
  apply Serves.guarded (Call.Reads.lift _ g)
  intro _ ahead
  rcases submitReview_cases current hazard .snooze (some request.until_) request.idempotencyKey principal g x with
    ⟨failure, refused⟩ | ⟨decided, submitted⟩
  · rw [Call.bind_of_error refused]
    exact .refused failure
  · apply serves_operation inv (.snooze admits found decided) submitted rfl .rfl
    rintro ⟨state, receipt⟩ h inv
    exact ⟨_, rfl⟩

theorem prepareOfflineCommand_serves (inv : Invariant g.incidents) (hazard : HazardKind) (request : OfflineReviewRequest) :
    Serves g x (.prepareOfflineCommand hazard request) (prepareOfflineCommand hazard request x g) := by
  apply Serves.guarded (principalFromCredentials_reads g x)
  intro principal authenticated
  apply Serves.guarded (lift_reads (authorize principal ("incidents:" ++ request.action.value)) _ g)
  intro _ permitted
  apply Serves.guarded (currentIncident_reads inv hazard)
  intro current found
  exact .prepared _

theorem reconcileOfflineCommand_serves (inv : Invariant g.incidents) (ticket : OfflineReviewTicket P) :
    Serves g x (.reconcileOfflineCommand ticket) (reconcileOfflineCommand ticket x g) := by
  apply Serves.guarded (principalFromCredentials_reads g x)
  intro principal authenticated
  apply Serves.guarded (lift_reads (authorize principal ("incidents:" ++ ticket.action.value)) _ g)
  intro _ permitted
  apply Serves.guarded (currentIncident_reads inv ticket.hazard)
  intro current found
  rw [Call.read_bind]
  apply Serves.guarded (lift_reads (g.offlineCommands.reconcile ticket current principal x.now.instant x.commandId
    x.decisionId) _ g)
  intro command reconciled
  apply serves_operation inv (.reconcile ⟨authenticated, permitted⟩ reconciled) rfl rfl .rfl
  rintro ⟨state, receipt⟩ h inv
  obtain ⟨projected, taken⟩ := projection_returns inv reconcileFailure
  exact ⟨_, Call.bind_of_ok taken⟩

theorem dispatch_serves (inv : Invariant g.incidents) (sender : NotificationSender) (clock : Nat → DateTime) :
    Serves g x (.dispatch sender clock) (dispatch sender clock x g) := by
  apply Serves.guarded (require_reads "notifications:dispatch" g x)
  intro principal admits
  apply serves_operation inv (.dispatch admits) rfl rfl .rfl
  intro intents h inv
  exact ⟨_, rfl⟩

end Serving

/-! ## Purges -/

section Purges

variable {s : ProtectedLocalStateStore P} {r : Revocation}

/-- A revocation without an actor or a reason raises before it changes anything. -/
theorem revoke_unnamed (action : r.action ≠ .activate) (unnamed : (isBlank r.actor || isBlank r.reason) = true)
    (grantId : UUID) (s : ProtectedLocalStateStore P) :
    revoke grantId r s = (.error (.valueError "revocation actor and reason are required"), s) := by
  have passes : Checks.refuse (r.action = .activate) (Error.valueError "activate is not a revocation action") = .ok () :=
    Checks.refuse_eq_ok.mpr (decide_eq_false action)
  unfold revoke
  rw [passes, Call.bind_of_ok (Call.lift_apply _ _), unnamed]
  exact Call.bind_of_error (Call.lift_apply _ _)

theorem revokeAll_returns (sound : Sound s) (permitted : r.Permitted) {ids : List UUID}
    (known : ∀ grantId ∈ ids, (s.grants.get? grantId).isSome = true) :
    ∃ receipts, (revokeAll r ids s).1 = .ok receipts := by
  induction ids generalizing s with
  | nil => exact ⟨[], rfl⟩
  | cons grantId ids ih =>
      obtain ⟨row, found⟩ := Option.isSome_iff_exists.mp (known grantId List.mem_cons_self)
      have still : ∀ id ∈ ids, ((purged (purgeReceipt row.grant r s) s).grants.get? id).isSome = true := by
        intro id member
        rw [purged, get?_setState, Option.isSome_map]
        exact known id (List.mem_cons_of_mem _ member)
      obtain ⟨receipts, returned⟩ := ih (sound.purged (purgeReceipt row.grant r s)) still
      refine ⟨purgeReceipt row.grant r s :: receipts, ?_⟩
      rw [revokeAll, Call.bind_of_ok (revoke_found permitted found)]
      rcases rest : revokeAll r ids (purged (purgeReceipt row.grant r s) s) with ⟨result, t⟩
      rw [rest] at returned
      obtain rfl : result = .ok receipts := returned
      rw [Call.bind_of_ok rest]
      rfl

theorem sound_revokeAll (sound : Sound s) (r : Revocation) (ids : List UUID) : Sound (revokeAll r ids s).2 := by
  obtain ⟨receipts, purges, -⟩ := revokeAll_purges sound r ids
  exact purges.sound sound

/-- Purging grants that are there goes through, or raises and changes nothing. -/
theorem revokeAll_cases (sound : Sound s) (revokes : r.action ≠ .activate) {ids : List UUID}
    (known : ∀ grantId ∈ ids, (s.grants.get? grantId).isSome = true) :
    (∃ receipts, (revokeAll r ids s).1 = .ok receipts) ∨ ∃ error, revokeAll r ids s = (.error error, s) := by
  cases unnamed : isBlank r.actor || isBlank r.reason with
  | false => exact .inl (revokeAll_returns sound ⟨revokes, by simpa using unnamed⟩ known)
  | true =>
      cases ids with
      | nil => exact .inl ⟨[], rfl⟩
      | cons grantId ids => exact .inr ⟨_, Call.bind_of_error (revoke_unnamed revokes unnamed grantId s)⟩

theorem known_activeGrants (select : LocalAccessGrant → Bool) :
    ∀ grantId ∈ activeGrants select s, (s.grants.get? grantId).isSome = true := by
  intro grantId member
  obtain ⟨row, found, -⟩ := mem_activeGrants.mp member
  rw [found]
  rfl

theorem purgePrincipalId_apply (principalId : String) (r : Revocation) (s : ProtectedLocalStateStore P) :
    purgePrincipalId principalId r s =
      revokeAll r (byGrantId (activeGrants (fun grant => grant.principalId = principalId) s)) s := rfl

theorem known_byGrantId (select : LocalAccessGrant → Bool) :
    ∀ grantId ∈ byGrantId (activeGrants select s), (s.grants.get? grantId).isSome = true := by
  intro grantId member
  exact known_activeGrants select grantId ((List.mem_insertionSort _).mp member)

end Purges

/-! ## The end of a session -/

/-- The principals of the tokens have names. -/
def Named (auth : AuthManager P) : Prop :=
  ∀ digest record, auth.records.get? digest = some record → isBlank record.principal.principalId = false

theorem named_addToken {auth auth' : AuthManager P} (named : Named auth) {token : String} {principal : PrincipalRef}
    {expiresAt : Option DateTime} (here : isBlank principal.principalId = false)
    (added : auth.addToken token principal expiresAt = .ok auth') : Named auth' := by
  unfold AuthManager.addToken at added
  split at added
  · cases added
  · split at added
    · cases added
    · obtain rfl := Except.ok.inj added
      intro digest record there
      rw [AuthManager.get?_put] at there
      split at there
      · cases there
        exact here
      · exact named digest record there

/-- Tokens that are all given to principals with names. -/
theorem named_init {records : List (String × PrincipalRef)} {developmentOnly : Bool} {auth : AuthManager P}
    (named : ∀ record ∈ records, isBlank record.2.principalId = false)
    (made : AuthManager.init records developmentOnly = .ok auth) : Named auth := by
  have empty : Named (AuthManager.empty (P := P) developmentOnly) := by
    intro digest record there
    cases there
  exact Checks.foldlM_invariant (fun auth record auth' member holds added => named_addToken holds (named record member) added)
    empty made

theorem authenticate_record {auth : AuthManager P} {token : Option String} {now : DateTime} {principal : PrincipalRef}
    (authenticated : auth.authenticate token now = .ok principal) : ∃ bearer, token = some bearer ∧ ∃ record,
      auth.records.get? (digestToken P bearer) = some record ∧ record.disabled = false ∧ record.principal = principal := by
  cases token with
  | none => cases authenticated
  | some bearer =>
      obtain ⟨-, record, found, inForce, -, own⟩ := AuthManager.authenticate_eq_ok.mp authenticated
      exact ⟨bearer, rfl, record, found, inForce, own⟩

def bearing (token : String) : P.Digest → PrincipalRef → Prop := fun digest _ => digest = digestToken P token

def belonging (principalId : String) : P.Digest → PrincipalRef → Prop := fun _ principal => principal.principalId = principalId

/-- The tokens are as they were, but those that are picked are disabled. -/
def Disabling (picked : P.Digest → PrincipalRef → Prop) (auth auth' : AuthManager P) : Prop :=
  ∀ digest record, auth'.records.get? digest = some record → ∃ before, auth.records.get? digest = some before ∧
    record.principal = before.principal ∧ (before.disabled = true ∨ picked digest before.principal → record.disabled = true)

variable {auth auth' : AuthManager P} {picked : P.Digest → PrincipalRef → Prop}

theorem disableToken_disabling {token : String} {owner : PrincipalRef}
    (disabled : auth.disableToken token = .ok (auth', owner)) : Disabling (bearing token) auth auth' := by
  unfold AuthManager.disableToken at disabled
  split at disabled
  · cases disabled
  · next record found =>
      obtain ⟨rfl, -⟩ := Prod.mk.inj (Except.ok.inj disabled)
      intro digest other there
      rw [AuthManager.get?_put, auth.keyed _ record found] at there
      split at there
      · next same =>
          cases there
          exact ⟨record, same ▸ found, rfl, fun _ => rfl⟩
      · next apart => exact ⟨other, there, rfl, fun was => was.resolve_right apart⟩

theorem disablePrincipal_disabling (auth : AuthManager P) (principalId : String) :
    Disabling (belonging principalId) auth (auth.disablePrincipal principalId).1 := by
  intro digest record there
  rw [AuthManager.get?_disablePrincipal, Option.map_eq_some_iff] at there
  obtain ⟨before, found, rfl⟩ := there
  refine ⟨before, found, ?_⟩
  unfold AuthManager.disabledFor
  split
  · exact ⟨rfl, fun _ => rfl⟩
  · next apart => exact ⟨rfl, fun was => was.resolve_right apart⟩

theorem Disabling.named (disabling : Disabling picked auth auth') (named : Named auth) : Named auth' := by
  intro digest record there
  obtain ⟨before, found, same, -⟩ := disabling digest record there
  rw [same]
  exact named digest before found

/-- What holds of the application between requests. -/
structure Healthy (g : App P) : Prop where
  reached : ∃ budget authorizer ops, g.incidents = after budget authorizer ops
  sound : Sound g.protectedState
  named : Named g.auth

theorem Healthy.invariant (healthy : Healthy g) : Invariant g.incidents := by
  obtain ⟨budget, authorizer, ops, reached⟩ := healthy.reached
  rw [reached]
  exact after_invariant budget authorizer ops

theorem Healthy.posting (healthy : Healthy g) : ∃ budget, Posting budget g.incidents := by
  obtain ⟨budget, authorizer, ops, reached⟩ := healthy.reached
  exact ⟨budget, reached ▸ after_posting budget authorizer ops⟩

theorem logout_serves (healthy : Healthy g) : Serves g x .logout (logout x g) := by
  apply Serves.guarded (require_reads "health:read" g x)
  intro principal admits
  obtain ⟨token, bearer, record, found, -, own⟩ := authenticate_record admits.authenticated
  have here : isBlank principal.principalId = false := own ▸ healthy.named _ record found
  have permitted : Revocation.Permitted (logoutRevocation principal x) := by
    refine ⟨nofun, here, ?_⟩
    show isBlank "authenticated_logout" = false
    decide
  obtain ⟨receipts, returned⟩ := revokeAll_returns healthy.sound permitted (known_activeGrants fun grant =>
    grant.principalId = principal.principalId && grant.sessionEpoch = principal.sessionEpoch &&
      grant.deviceTrustEpoch = principal.deviceTrustEpoch)
  have purged : onProtectedState (purgePrincipal principal (logoutRevocation principal x)) g = (.ok receipts, { g with
      protectedState := (purgePrincipal principal (logoutRevocation principal x) g.protectedState).2 }) := by
    unfold onProtectedState purgePrincipal
    rw [Call.read_bind, returned]
    rfl
  have disabled : g.auth.disableToken token = .ok (g.auth.put { record with disabled := true }, record.principal) := by
    unfold AuthManager.disableToken
    rw [found]
  rw [Call.bind_of_ok purged, bearer]
  dsimp only
  rw [Call.read_bind, disabled]
  exact .loggedOut admits bearer disabled receipts returned _

theorem revokeDevice_serves (healthy : Healthy g) (principalId : String) (request : DeviceRevocationRequest) :
    Serves g x (.revokeDevice principalId request) (revokeDevice principalId request x g) := by
  apply Serves.guarded (require_reads "*" g x)
  intro principal admits
  have revokes : (deviceRevocation principal request x).action ≠ .activate := nofun
  rcases revokeAll_cases healthy.sound revokes (known_byGrantId fun grant => grant.principalId = principalId) with
    ⟨receipts, returned⟩ | ⟨error, raised⟩
  · have purged : onProtectedState (purgePrincipalId principalId (deviceRevocation principal request x)) g =
        (.ok receipts, { g with
          protectedState := (purgePrincipalId principalId (deviceRevocation principal request x) g.protectedState).2 }) := by
      rw [onProtectedState, purgePrincipalId_apply, returned]
      rfl
    rw [Call.bind_of_ok purged, Call.read_bind]
    exact .revoked admits receipts returned _
  · have refused : onProtectedState (purgePrincipalId principalId (deviceRevocation principal request x)) g =
        (.error (.raised error), g) := by
      rw [onProtectedState, purgePrincipalId_apply, raised]
      rfl
    rw [Call.bind_of_error refused]
    exact .refused _

/-- Every way a request can go in an application that is as it should be. -/
theorem handle_serves (healthy : Healthy g) (request : Request P) (x : Exchange) : Serves g x request (handle request x g) := by
  cases request with
  | incidentCommand hazard request => exact incidentCommand_serves healthy.invariant hazard request
  | acknowledge hazard request => exact acknowledge_serves healthy.invariant hazard request
  | snooze hazard request => exact snooze_serves healthy.invariant hazard request
  | prepareOfflineCommand hazard request => exact prepareOfflineCommand_serves healthy.invariant hazard request
  | reconcileOfflineCommand ticket => exact reconcileOfflineCommand_serves healthy.invariant ticket
  | dispatch sender clock => exact dispatch_serves healthy.invariant sender clock
  | logout => exact logout_serves healthy
  | revokeDevice principalId request => exact revokeDevice_serves healthy principalId request

/-! ## Runs -/

theorem Healthy.operated (healthy : Healthy g) (op : Operation P) :
    Healthy { g with incidents := step g.incidents op } := by
  obtain ⟨budget, authorizer, ops, reached⟩ := healthy.reached
  refine ⟨⟨budget, authorizer, ops ++ [op], ?_⟩, healthy.sound, healthy.named⟩
  rw [Incidents.after, run_append, reached]
  rfl

theorem Healthy.serves (healthy : Healthy g) {request : Request P} {result : Except Failure (Answer P)} {g' : App P}
    (serves : Serves g x request (result, g')) : Healthy g' := by
  cases serves with
  | refused | prepared => exact healthy
  | operated performs raises => exact healthy.operated _
  | loggedOut admits bearer disabled receipts returned answer =>
      exact ⟨healthy.reached, sound_revokeAll healthy.sound _ _, (disableToken_disabling disabled).named healthy.named⟩
  | revoked admits receipts returned answer =>
      exact ⟨healthy.reached, sound_revokeAll healthy.sound _ _, (disablePrincipal_disabling _ _).named healthy.named⟩

theorem appStep_healthy (g : App P) (event : Event P) (healthy : Healthy g) : Healthy (appStep g event) := by
  cases event with
  | request request x => exact healthy.serves (handle_serves healthy request x)
  | analysis analysis acceptedAt => exact healthy.operated (.applyAnalysis analysis acceptedAt)

/-- What `create_app` is given, with an engine on an empty store. -/
structure Deployment (P : Platform) where
  auth : AuthManager P
  protectedState : ProtectedLocalStateStore P
  notificationBudget : Int
  commandAuthorizer : CommandAuthorizer
  projections : ProjectionService
  offlineCommands : OfflineCommandService
  named : Named auth
  sound : Sound protectedState

def Deployment.start (d : Deployment P) : App P where
  auth := d.auth
  incidents := Engine.init Store.empty d.notificationBudget d.commandAuthorizer
  protectedState := d.protectedState
  projections := d.projections
  offlineCommands := d.offlineCommands

/-- The application after these events. -/
def Deployment.serve (d : Deployment P) (events : List (Event P)) : App P := run appStep d.start events

theorem Deployment.healthy (d : Deployment P) (events : List (Event P)) : Healthy (d.serve events) :=
  run_invariant appStep_healthy ⟨⟨d.notificationBudget, d.commandAuthorizer, [], rfl⟩, d.sound, d.named⟩ events

/-- What the engine does in an event: it applies the analysis, or performs at most what the
    request comes to. -/
def Event.Yields (g : App P) : Event P → List (Operation P) → Prop
  | .analysis result acceptedAt, ops => ops = [.applyAnalysis result acceptedAt]
  | .request asked x, ops => ops = [] ∨ ∃ principal op, ops = [op] ∧ Performs g x asked principal op

theorem appStep_yields (healthy : Healthy g) (event : Event P) :
    ∃ ops, event.Yields g ops ∧ (appStep g event).incidents = run Incidents.step g.incidents ops := by
  cases event with
  | analysis analysis acceptedAt => exact ⟨_, rfl, rfl⟩
  | request request x =>
      have serves := handle_serves healthy request x
      rw [appStep]
      generalize handle request x g = outcome at serves
      cases serves with
      | @operated request principal op result performs raises =>
          exact ⟨[op], .inr ⟨principal, op, rfl, performs⟩, rfl⟩
      | refused | prepared | loggedOut | revoked => exact ⟨[], .inl rfl, rfl⟩

/-- What the engine does in these events, one after another. -/
inductive Serving : App P → List (Event P) → List (Operation P) → Prop where
  | nil (g : App P) : Serving g [] []
  | cons {g : App P} {event : Event P} {events : List (Event P)} {ops later : List (Operation P)}
      (yields : event.Yields g ops) (serving : Serving (appStep g event) events later) :
      Serving g (event :: events) (ops ++ later)

theorem Healthy.serving (healthy : Healthy g) (events : List (Event P)) :
    ∃ ops, Serving g events ops ∧ (run appStep g events).incidents = run Incidents.step g.incidents ops := by
  induction events generalizing g with
  | nil => exact ⟨[], .nil g, rfl⟩
  | cons event events ih =>
      obtain ⟨ops, yields, operated⟩ := appStep_yields healthy event
      obtain ⟨later, serving, reached⟩ := ih (appStep_healthy g event healthy)
      refine ⟨ops ++ later, .cons yields serving, ?_⟩
      rw [run_append, ← operated]
      exact reached

/-- The engine that is served is one that runs by itself, on every analysis and on what the
    requests come to, in their order. -/
theorem served_engine_refines (d : Deployment P) (events : List (Event P)) :
    ∃ ops, Serving d.start events ops ∧
      (d.serve events).incidents = Incidents.after d.notificationBudget d.commandAuthorizer ops :=
  (d.healthy []).serving events

end SentinelEdge.Gateway
