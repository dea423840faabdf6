import SentinelEdge.Gateway.Requests

/-! # What requests are answered for

A request that fails leaves nothing behind. What one commits is in the name of a
principal that had its permissions, and a principal whose device was revoked commits
nothing any more.
-/

namespace SentinelEdge.Gateway

open Foundation Domain Storage Security Incidents ProtectedLocalStateStore

variable {P : Platform} {g : App P} {x : Exchange}

/-! ## Dispatch goes through -/

theorem recordDelivery_returns {s : Store P} (well : WellJournalled s) {notificationId : UUID}
    (known : (s.notification notificationId).isSome = true) (isDelivered : Bool) (receiptId error : Option String)
    (acceptedAt : DateTime) :
    ∃ updated s', recordDelivery notificationId isDelivered receiptId error acceptedAt s = (.ok updated, s') ∧
      WellJournalled s' ∧ ∀ other, (s.notification other).isSome = true → (s'.notification other).isSome = true := by
  obtain ⟨current, found⟩ := Option.isSome_iff_exists.mp known
  by_cases done : current.status = .delivered
  · refine ⟨current, s, Call.atomically_of_ok ?_, well, fun _ there => there⟩
    simp [recordDeliveryBody, found, done]
  · obtain ⟨s', recorded, well', domain⟩ := recordDelivery_of_open well found done isDelivered receiptId error acceptedAt
    refine ⟨_, s', recorded, well', ?_⟩
    intro other there
    have rows : s'.notificationIntents = s.notificationIntents.map
        (delivered (deliveryUpdate current isDelivered receiptId error acceptedAt)) :=
      field_of_domain domain Store.notificationIntents rfl
    rw [Store.notification, List.find?_isSome] at there ⊢
    obtain ⟨n, member, named⟩ := there
    exact ⟨_, rows ▸ List.mem_map_of_mem member, by rw [delivered_id]; exact named⟩

theorem deliver_returns (sender : NotificationSender) (clock : Nat → DateTime) (k : Nat) (intents : List NotificationIntent)
    (d : Dispatcher P) (well : WellJournalled d.store)
    (known : ∀ intent ∈ intents, (d.store.notification intent.notificationId).isSome = true) :
    ∃ updated, (Dispatcher.deliver sender clock k intents d).1 = .ok updated := by
  induction intents generalizing k d with
  | nil => exact ⟨[], rfl⟩
  | cons intent rest ih =>
      obtain ⟨receiptId, error, same⟩ := recordOutcome_eq (P := P) sender clock k intent
      obtain ⟨first, s', recorded, well', still⟩ :=
        recordDelivery_returns well (known intent List.mem_cons_self) (sender k intent).isOk receiptId error (clock k)
      obtain ⟨later, returned⟩ := ih (k + 1) { handOver sender k intent d with store := s' } well'
        (fun other member => still _ (known other (List.mem_cons_of_mem _ member)))
      have zoomed : Call.zoom Dispatcher.store (fun d s => { d with store := s })
          (Dispatcher.recordOutcome sender clock k intent) (handOver sender k intent d) =
            (.ok first, { handOver sender k intent d with store := s' }) := Call.zoom_of_eq (by rw [same]; exact recorded)
      refine ⟨first :: later, ?_⟩
      have head : Dispatcher.deliver sender clock k (intent :: rest) d = ((do
          let updated ← Call.zoom Dispatcher.store (fun d s => { d with store := s })
            (Dispatcher.recordOutcome sender clock k intent)
          let later ← Dispatcher.deliver sender clock (k + 1) rest
          pure (updated :: later)) : Dispatcher.DispatcherCall P _) (handOver sender k intent d) := rfl
      rw [head, Call.bind_of_ok zoomed]
      rcases outcome : Dispatcher.deliver sender clock (k + 1) rest { handOver sender k intent d with store := s' } with ⟨r, t⟩
      rw [outcome] at returned
      obtain rfl : r = .ok later := returned
      rw [Call.bind_of_ok outcome]
      rfl

/-- A dispatch never raises, whatever the sender answers. -/
theorem dispatchNotifications_returns {e : Engine P} (inv : Invariant e) (sender : NotificationSender) (now : DateTime)
    (clock : Nat → DateTime) : ∃ intents, (dispatchNotifications sender now clock e).1 = .ok intents := by
  apply deliver_returns sender clock 0 (e.store.dispatchableNotifications now) ⟨e.store, []⟩ inv.well
  intro intent member
  rw [Store.notification, List.find?_isSome]
  exact ⟨intent, (mem_dispatchableNotifications member).1, decide_eq_true rfl⟩

/-! ## Requests that fail -/

/-- The incident tables, the tokens and the protected state are the same. -/
structure Untouched (g g' : App P) : Prop where
  auth : g'.auth = g.auth
  incidents : Unchanged g.incidents g'.incidents
  protectedState : g'.protectedState = g.protectedState

theorem Untouched.refl (g : App P) : Untouched g g := ⟨rfl, .refl _, rfl⟩

/-- The review of a ticket is made under the command id drawn for it. -/
theorem reconcile_commandId {service : OfflineCommandService} {ticket : OfflineReviewTicket P} {current : IncidentRecord}
    {principal : PrincipalRef} {now : DateTime} {commandId decisionId : UUID} {command : AuthorizedReviewCommand P}
    (returned : service.reconcile ticket current principal now commandId decisionId = .ok command) :
    command.commandId = commandId := by
  unfold OfflineCommandService.reconcile at returned
  obtain ⟨_, -, returned⟩ := Checks.bind_eq_ok.mp returned
  obtain ⟨_, -, returned⟩ := Checks.bind_eq_ok.mp returned
  obtain ⟨_, -, returned⟩ := Checks.bind_eq_ok.mp returned
  obtain ⟨_, -, returned⟩ := Checks.bind_eq_ok.mp returned
  obtain ⟨_, -, returned⟩ := Checks.bind_eq_ok.mp returned
  obtain ⟨_, -, returned⟩ := Checks.bind_eq_ok.mp returned
  rw [OfflineCommandService.validateAuthorizedReview_ok returned]

theorem raising_operation_unchanged (healthy : Healthy g)
    (fresh : ∀ r ∈ g.incidents.store.commandReceipts, x.commandId ≠ r.commandId) {request : Request P}
    {principal : PrincipalRef} {op : Operation P} (performs : Performs g x request principal op)
    (raises : Raises g.incidents op) : Unchanged g.incidents (step g.incidents op) := by
  have inv := healthy.invariant
  obtain ⟨budget, posting⟩ := healthy.posting
  have untaken : ¬ IdTaken g.incidents.store x.commandId := fun taken => idTaken_iff.mp taken fresh
  have review {command : AuthorizedReviewCommand P} (drawn : command.commandId = x.commandId)
      (raises : Raises g.incidents (.applyAuthorizedReview command)) :
      Unchanged g.incidents (step g.incidents (.applyAuthorizedReview command)) := by
    obtain ⟨error, raised⟩ := raises
    have whole : ¬ ReviewHalfCommits g.incidents command := fun half => untaken (drawn ▸ half.1)
    exact (applyAuthorizedReview_allOrNothing_iff inv command).mpr whole error raised
  cases performs with
  | status admits impact found valid =>
      obtain ⟨error, raised⟩ := raises
      exact (applyStatusCommand_allOrNothing_iff inv posting _).mpr (fun half => untaken half.1) error raised
  | acknowledge | snooze => exact review rfl raises
  | reconcile admits reconciled => exact review (reconcile_commandId reconciled) raises
  | dispatch admits =>
      obtain ⟨error, raised⟩ := raises
      obtain ⟨intents, returned⟩ := dispatchNotifications_returns inv _ _ _
      rw [returned] at raised
      cases raised

/-- A request that is not answered leaves everything as it was, provided that the command
    id drawn for it is new. -/
theorem failed_request_unchanged (d : Deployment P) (events : List (Event P)) (request : Request P) (x : Exchange)
    (fresh : ∀ r ∈ (d.serve events).incidents.store.commandReceipts, x.commandId ≠ r.commandId) (failure : Failure)
    (failed : (handle request x (d.serve events)).1 = .error failure) :
    Untouched (d.serve events) (handle request x (d.serve events)).2 := by
  have healthy := d.healthy events
  have serves := handle_serves healthy request x
  revert failed
  generalize handle request x (d.serve events) = outcome at serves ⊢
  intro failed
  cases serves with
  | refused failure => exact .refl _
  | operated performs raises =>
      exact ⟨rfl, raising_operation_unchanged healthy fresh performs (raises.mp ⟨failure, failed⟩), rfl⟩
  | prepared | loggedOut | revoked => cases failed

def operatorGrant : GrantArguments :=
  { operatorDay with principal := { principalId := "development-operator", roles := [.operator] } }

/-- The development tokens, and a grant of the operator. -/
def console : Deployment Platform.transparent where
  auth := AuthManager.development.toOption.getD (.empty true)
  protectedState := (createGrant operatorGrant {}).2
  notificationBudget := 3
  commandAuthorizer := gaugeAuthorizer
  projections := ⟨"secret", UUID.ofNat 7, "ready", 0⟩
  offlineCommands := { authorizer := gaugeAuthorizer, ticketSecret := "ticket secret" }
  named := by
    cases made : AuthManager.development with
    | error error => exact fun digest record there => nomatch there
    | ok auth => exact named_init (by decide) made
  sound := sound_empty.step (.createGrant operatorGrant)

/-- A request of one of the development tokens. -/
def consoleExchange (token : String) (time : Nat) : Exchange where
  token := some token
  authenticatedAt := time
  now := ⟨time, 0⟩
  commandId := UUID.ofNat (100 + time)
  decisionId := UUID.ofNat (200 + time)
  ticketId := UUID.ofNat (300 + time)

def controlRequest (expectedVersion : Nat) (positive : 1 ≤ expectedVersion) : Request Platform.transparent :=
  .incidentCommand .flood {
    command := .control
    expectedVersion := expectedVersion
    reason := "checked on site"
    relatedIncidentId := none
    relatedHazard := none
    idempotencyKey := "key"
    positive := positive }

/-- How a request fails. -/
def failureOf {α : Type} : Except Failure α → Option Failure
  | .error failure => some failure
  | .ok _ => none

theorem eq_error_of_failureOf {α : Type} {result : Except Failure α} {failure : Failure}
    (failed : failureOf result = some failure) : result = .error failure := by
  cases result with
  | error other => rw [Option.some.inj failed]
  | ok a => cases failed

/-- A command on a version that is not there. -/
theorem stale_request_unchanged : Untouched (console.serve [.analysis (gaugeReading 1 .confirmed) 1])
    (handle (controlRequest 2 (by decide)) (consoleExchange "sentinel-dev-operator-token" 2)
      (console.serve [.analysis (gaugeReading 1 .confirmed) 1])).2 := by
  apply failed_request_unchanged console [.analysis (gaugeReading 1 .confirmed) 1] (controlRequest 2 (by decide))
    (consoleExchange "sentinel-dev-operator-token" 2) (by decide +kernel)
    (.http 409 "incident_command_conflict" "reconfirmation required")
  exact eq_error_of_failureOf (by decide +kernel)

/-! ## Whose receipts they are -/

/-- What a principal needs for the request. -/
def Request.permissions : Request P → List String
  | .incidentCommand _ request =>
      "incidents:command" :: if isHighImpact request.command then ["incidents:high_impact"] else []
  | .acknowledge _ _ => ["incidents:acknowledge"]
  | .snooze _ _ => ["incidents:snooze"]
  | .prepareOfflineCommand _ request => ["incidents:" ++ request.action.value]
  | .reconcileOfflineCommand ticket => ["incidents:" ++ ticket.action.value]
  | .dispatch _ _ => ["notifications:dispatch"]
  | .logout => ["health:read"]
  | .revokeDevice _ _ => ["*"]

/-- The operation that a receipt of the request names. -/
def Request.operation : Request P → Option String
  | .incidentCommand _ request => some ("incidents:" ++ request.command.value)
  | .acknowledge _ _ => some "incidents:acknowledge"
  | .snooze _ _ => some "incidents:snooze"
  | .reconcileOfflineCommand ticket => some ("incidents:" ++ ticket.action.value)
  | .prepareOfflineCommand _ _ | .dispatch _ _ | .logout | .revokeDevice _ _ => none

/-- The principal behind the request has what it needs and is the one the receipt names. -/
structure Authorizes (g : App P) (x : Exchange) (request : Request P) (principal : PrincipalRef)
    (receipt : CommandReceipt P) : Prop where
  authenticated : g.auth.authenticate x.token x.authenticatedAt = .ok principal
  permitted : ∀ permission ∈ request.permissions, authorize principal permission = .ok ()
  named : receipt.principalId = principal.principalId
  operation : request.operation = some receipt.operation

theorem applyAnalysis_receipts {e : Engine P} (inv : Invariant e) (analysis : AnalysisResult) (acceptedAt : DateTime) :
    (applyAnalysis analysis acceptedAt e).2.store.commandReceipts = e.store.commandReceipts := by
  rcases applyAnalysis_cases inv.well analysis acceptedAt with
    unchanged | ⟨c, s', found, new, late, fits, appended, after⟩ | ⟨s', inOrder, legal, fits, appended, after⟩
  · rw [unchanged]
  · rw [after]
    exact appended.frame.2.2.2.1
  · rw [after]
    exact appended.frame.2.2.2.1

theorem mem_grown {old : List (CommandReceipt P)} {own receipt : CommandReceipt P} {actor operation : String}
    (member : receipt ∈ old ++ [own]) (named : own.principalId = actor) (done : own.operation = operation) :
    receipt ∈ old ∨ (receipt.principalId = actor ∧ receipt.operation = operation) := by
  rcases List.mem_append.mp member with before | new
  · exact .inl before
  · rw [List.mem_singleton.mp new]
    exact .inr ⟨named, done⟩

/-- A receipt that a status command leaves is an old one or its own. -/
theorem applyStatusCommand_receipts {e : Engine P} (inv : Invariant e) (command : IncidentStatusCommand)
    {receipt : CommandReceipt P} (member : receipt ∈ (applyStatusCommand command e).2.store.commandReceipts) :
    receipt ∈ e.store.commandReceipts ∨ (receipt.principalId = command.actor ∧
      receipt.operation = "incidents:" ++ command.command.value) := by
  have leaves := applyStatusCommand_leaves inv.well command
  generalize (applyStatusCommand command e).2 = e' at leaves member
  cases leaves with
  | unchanged => exact .inl member
  | receipt accepted well domain =>
      rw [show (_ : Store P).commandReceipts = _ from field_of_domain domain Store.commandReceipts rfl] at member
      exact mem_grown member rfl rfl
  | relation well domain =>
      rw [show (_ : Store P).commandReceipts = _ from field_of_domain domain Store.commandReceipts rfl] at member
      exact .inl member
  | relationReceipt accepted well domain well' domain' =>
      have before := field_of_domain domain Store.commandReceipts rfl
      rw [show (_ : Store P).commandReceipts = _ from field_of_domain domain' Store.commandReceipts rfl] at member
      exact Or.imp_left (fun old => before ▸ old) (mem_grown member rfl rfl)
  | version accepted planned fits appended => exact .inl (appended.frame.2.2.2.1 ▸ member)
  | versionReceipt accepted planned fits appended well' domain' =>
      rw [show (_ : Store P).commandReceipts = _ from field_of_domain domain' Store.commandReceipts rfl] at member
      exact Or.imp_left (fun old => appended.frame.2.2.2.1 ▸ old) (mem_grown member rfl rfl)

theorem applyAuthorizedReview_receipts {e : Engine P} (inv : Invariant e) (command : AuthorizedReviewCommand P)
    {receipt : CommandReceipt P} (member : receipt ∈ (applyAuthorizedReview command e).2.store.commandReceipts) :
    receipt ∈ e.store.commandReceipts ∨ (receipt.principalId = command.authorization.principal.principalId ∧
      receipt.operation = "incidents:" ++ command.action.value) := by
  cases verified : AuthorizedReview.verify e.commandAuthorizer command with
  | error error =>
      rw [applyAuthorizedReview_unverified verified] at member
      exact .inl member
  | ok u =>
      cases key : e.store.commandReceipt (AuthorizedReview.scopedKey command) with
      | some existing =>
          rw [applyAuthorizedReview_replay verified key] at member
          exact .inl member
      | none =>
          cases valid : (AuthorizedReview.action command).validate with
          | error error =>
              rw [applyAuthorizedReview_invalid verified key valid] at member
              exact .inl member
          | ok action =>
              rcases review_cases inv.well (AuthorizedReview.action command) with
                ⟨error, raised⟩ | ⟨c, s', found, target, new, recorded, well', domain'⟩
              · rw [applyAuthorizedReview_refused verified key valid raised] at member
                exact .inl member
              · have receipts : s'.commandReceipts = e.store.commandReceipts :=
                  field_of_domain domain' Store.commandReceipts rfl
                obtain ⟨committed, uncommitted⟩ :=
                  applyAuthorizedReview_recorded verified key valid recorded well' receipts
                by_cases fresh : ∀ r ∈ e.store.commandReceipts, command.commandId ≠ r.commandId
                · obtain ⟨s'', returned, well, domain⟩ := committed fresh
                  rw [returned] at member
                  rw [show (_ : Store P).commandReceipts = _ from field_of_domain domain Store.commandReceipts rfl] at member
                  exact Or.imp_left (fun old => receipts ▸ old) (mem_grown member rfl rfl)
                · rw [uncommitted fresh] at member
                  exact .inl (receipts ▸ member)

/-- A receipt that a request adds is authorized by its principal. -/
theorem performs_receipts (inv : Invariant g.incidents) {request : Request P} {principal : PrincipalRef}
    {op : Operation P} (performs : Performs g x request principal op) {receipt : CommandReceipt P}
    (member : receipt ∈ (step g.incidents op).store.commandReceipts) :
    receipt ∈ g.incidents.store.commandReceipts ∨ Authorizes g x request principal receipt := by
  cases performs with
  | @status hazard request principal current admits impact found valid =>
      rcases applyStatusCommand_receipts inv _ member with old | ⟨named, operation⟩
      · exact .inl old
      · refine .inr ⟨admits.authenticated, ?_, named, congrArg some operation.symm⟩
        intro permission needed
        rcases List.mem_cons.mp needed with rfl | needed
        · exact admits.permitted
        · split at needed
          · next high =>
              rw [List.mem_singleton.mp needed]
              exact impact high
          · cases needed
  | acknowledge admits found decided | snooze admits found decided =>
      rcases applyAuthorizedReview_receipts inv _ member with old | ⟨named, operation⟩
      · exact .inl old
      · exact .inr ⟨admits.authenticated, List.forall_mem_singleton.mpr admits.permitted, named, congrArg some operation.symm⟩
  | reconcile admits reconciled =>
      rcases applyAuthorizedReview_receipts inv _ member with old | ⟨named, operation⟩
      · exact .inl old
      · obtain ⟨-, -, same, -, key, -⟩ := OfflineCommandService.reconcile_ok reconciled
        have owner := congrArg ReviewKey.principalId key
        have action := congrArg ReviewKey.action key
        refine .inr ⟨admits.authenticated, List.forall_mem_singleton.mpr admits.permitted, ?_, ?_⟩
        · rw [named, ← same]
          exact owner
        · rw [operation]
          exact congrArg (fun action => some ("incidents:" ++ ReviewActionKind.value action)) action.symm
  | @dispatch sender clock principal admits =>
      have same := field_of_domain (dispatchNotifications_dispatched inv sender x.now.instant clock).domain
        Store.commandReceipts rfl
      exact .inl (same ▸ member)

theorem appStep_receipts (healthy : Healthy g) (event : Event P) {receipt : CommandReceipt P}
    (member : receipt ∈ (appStep g event).incidents.store.commandReceipts) :
    receipt ∈ g.incidents.store.commandReceipts ∨
      ∃ request x principal, event = .request request x ∧ Authorizes g x request principal receipt := by
  cases event with
  | analysis analysis acceptedAt =>
      rw [appStep, applyAnalysis_receipts healthy.invariant] at member
      exact .inl member
  | request request x =>
      obtain ⟨ops, yields, operated⟩ := appStep_yields healthy (.request request x)
      rw [operated] at member
      obtain rfl | ⟨principal, op, rfl, performs⟩ := yields
      · exact .inl member
      · rcases performs_receipts healthy.invariant performs member with old | authorized
        · exact .inl old
        · exact .inr ⟨request, x, principal, rfl, authorized⟩

/-! ## Roles -/

theorem authorize_role {principal : PrincipalRef} {permission : String} (permitted : authorize principal permission = .ok ()) :
    ∃ role ∈ principal.roles, "*" ∈ rolePermissions role ∨ permission ∈ rolePermissions role := by
  unfold authorize at permitted
  split at permitted
  · cases permitted
  · split at permitted
    · cases permitted
    · next granted =>
        simp only [permissions, List.mem_flatMap, not_and_or, not_not] at granted
        rcases granted with ⟨role, has, all⟩ | ⟨role, has, this⟩
        · exact ⟨role, has, .inl all⟩
        · exact ⟨role, has, .inr this⟩

theorem admin_of_permitted {principal : PrincipalRef} {permission : String} (permitted : authorize principal permission = .ok ())
    (others : permission ∉ rolePermissions .viewer ∧ permission ∉ rolePermissions .operator) : .admin ∈ principal.roles := by
  obtain ⟨role, has, granted⟩ := authorize_role permitted
  cases role with
  | viewer => exact absurd granted (not_or.mpr ⟨by decide, others.1⟩)
  | operator => exact absurd granted (not_or.mpr ⟨by decide, others.2⟩)
  | admin => exact has

/-- No role below an operator's commits anything. -/
theorem operator_of_permitted {principal : PrincipalRef} {permission : String}
    (permitted : authorize principal permission = .ok ()) (viewer : permission ∉ rolePermissions .viewer) :
    .operator ∈ principal.roles ∨ .admin ∈ principal.roles := by
  obtain ⟨role, has, granted⟩ := authorize_role permitted
  cases role with
  | viewer => exact absurd granted (not_or.mpr ⟨by decide, viewer⟩)
  | operator => exact .inl has
  | admin => exact .inr has

/-- What only an administrator may do to an incident. -/
def highImpactOperations : List String := ["incidents:resolve", "incidents:reopen", "incidents:merge"]

theorem Authorizes.admin {request : Request P} {principal : PrincipalRef} {receipt : CommandReceipt P}
    (authorizes : Authorizes g x request principal receipt) (high : receipt.operation ∈ highImpactOperations) :
    .admin ∈ principal.roles := by
  have operation := authorizes.operation
  have needs : "incidents:high_impact" ∈ request.permissions := by
    cases request with
    | incidentCommand hazard request =>
        obtain same : "incidents:" ++ request.command.value = receipt.operation := Option.some.inj operation
        rw [← same] at high
        simp only [Request.permissions]
        revert high
        cases request.command <;> decide
    | acknowledge hazard request =>
        obtain same : "incidents:acknowledge" = receipt.operation := Option.some.inj operation
        exact absurd (same ▸ high) (by decide)
    | snooze hazard request =>
        obtain same : "incidents:snooze" = receipt.operation := Option.some.inj operation
        exact absurd (same ▸ high) (by decide)
    | reconcileOfflineCommand ticket =>
        obtain same : "incidents:" ++ ticket.action.value = receipt.operation := Option.some.inj operation
        have low : "incidents:" ++ ticket.action.value ∉ highImpactOperations := by cases ticket.action <;> decide
        exact absurd (same ▸ high) low
    | prepareOfflineCommand | dispatch | logout | revokeDevice => cases operation
  exact admin_of_permitted (authorizes.permitted _ needs) ⟨by decide, by decide⟩

theorem Authorizes.operator {request : Request P} {principal : PrincipalRef} {receipt : CommandReceipt P}
    (authorizes : Authorizes g x request principal receipt) : .operator ∈ principal.roles ∨ .admin ∈ principal.roles := by
  have operation := authorizes.operation
  obtain ⟨permission, needed, viewer⟩ : ∃ permission ∈ request.permissions, permission ∉ rolePermissions .viewer := by
    cases request with
    | incidentCommand hazard request => exact ⟨_, List.mem_cons_self, by decide⟩
    | acknowledge | snooze => exact ⟨_, List.mem_cons_self, by decide⟩
    | reconcileOfflineCommand ticket => exact ⟨_, List.mem_cons_self, by cases ticket.action <;> decide⟩
    | prepareOfflineCommand | dispatch | logout | revokeDevice => cases operation
  exact operator_of_permitted (authorizes.permitted permission needed) viewer

/-- The tokens that `among` picks by digest and principal are out of force. -/
def Barred (among : P.Digest → PrincipalRef → Prop) (auth : AuthManager P) : Prop :=
  ∀ digest record, auth.records.get? digest = some record → among digest record.principal → record.disabled = true

/-- The grants that `select` picks are out of force. -/
def Withdrawn (select : LocalAccessGrant → Prop) (s : ProtectedLocalStateStore P) : Prop :=
  ∀ grantId row, s.grants.get? grantId = some row → select row.grant → row.state ≠ .active

structure Out (among : P.Digest → PrincipalRef → Prop) (select : LocalAccessGrant → Prop) (g : App P) : Prop where
  tokens : Barred among g.auth
  grants : Withdrawn select g.protectedState

variable {among picked : P.Digest → PrincipalRef → Prop} {auth auth' : AuthManager P}
  {select : LocalAccessGrant → Prop} {s : ProtectedLocalStateStore P}

theorem Disabling.barred (disabling : Disabling picked auth auth') (barred : Barred among auth) : Barred among auth' := by
  intro digest record there chosen
  obtain ⟨before, found, same, disabled⟩ := disabling digest record there
  exact disabled (.inl (barred digest before found (same ▸ chosen)))

theorem Disabling.bars (disabling : Disabling picked auth auth') : Barred picked auth' := by
  intro digest record there chosen
  obtain ⟨before, found, same, disabled⟩ := disabling digest record there
  exact disabled (.inr (same ▸ chosen))

theorem Barred.authenticate (barred : Barred among auth) {token : Option String} {now : DateTime} {principal : PrincipalRef}
    (authenticated : auth.authenticate token now = .ok principal) :
    ∃ bearer, token = some bearer ∧ ¬ among (digestToken P bearer) principal := by
  obtain ⟨bearer, own, record, found, inForce, rfl⟩ := authenticate_record authenticated
  refine ⟨bearer, own, fun picked => ?_⟩
  rw [barred _ record found picked] at inForce
  cases inForce

/-- A purge activates nothing and leaves the grants with their principals. -/
theorem Purges.row {s t : ProtectedLocalStateStore P} {receipts : List (ProtectedStatePurgeReceipt P)}
    (purges : Purges s receipts t) {grantId : UUID} {row : GrantRow} (there : t.grants.get? grantId = some row) :
    ∃ before, s.grants.get? grantId = some before ∧ row.grant = before.grant ∧
      (row.state = .active → before.state = .active) := by
  induction purges with
  | nil s => exact ⟨row, there, rfl, id⟩
  | @cons s t own r receipts found revokes later ih =>
      obtain ⟨middle, between, same, active⟩ := ih there
      rw [purged, get?_setState, Option.map_eq_some_iff] at between
      obtain ⟨before, first, rfl⟩ := between
      refine ⟨before, first, ?_, ?_⟩
      · rw [same]
        split <;> rfl
      · intro now
        have then_ := active now
        split at then_
        · exact absurd (GrantLifecycleAction.state_eq_active_iff.mp then_) revokes
        · exact then_

theorem Withdrawn.purged (withdrawn : Withdrawn select s) (sound : Sound s) (r : Revocation) (ids : List UUID) :
    Withdrawn select (revokeAll r ids s).2 := by
  intro grantId row there picked active
  obtain ⟨receipts, purges, -⟩ := revokeAll_purges sound r ids
  obtain ⟨before, found, same, was⟩ := Purges.row purges there
  exact withdrawn grantId before found (same ▸ picked) (was active)

/-- Where a purge of grants returns, none of them is active after it. -/
theorem revokeAll_inactive {s : ProtectedLocalStateStore P} (sound : Sound s) {r : Revocation} {ids : List UUID}
    {receipts : List (ProtectedStatePurgeReceipt P)} (returned : (revokeAll r ids s).1 = .ok receipts) {grantId : UUID}
    (member : grantId ∈ ids) {row : GrantRow} (there : (revokeAll r ids s).2.grants.get? grantId = some row) :
    row.state ≠ .active := by
  induction ids generalizing s receipts with
  | nil => cases member
  | cons first ids ih =>
      rcases revoke_cases first r s with ⟨error, raised⟩ | ⟨own, found, revokes, done⟩
      · rw [revokeAll, Call.bind_of_error raised] at returned
        cases returned
      · have id := (sound.grants first own found).1
        have later := sound.purged (purgeReceipt own.grant r s)
        rw [revokeAll, Call.bind_of_ok done] at returned
        rw [revokeAll, Call.bind_of_ok done, Call.bind_pure_state] at there
        rcases List.mem_cons.mp member with rfl | member
        · -- the first grant is revoked at once, and nothing activates it again
          intro active
          obtain ⟨purges, through, -⟩ := revokeAll_purges later r ids
          obtain ⟨before, between, -, was⟩ := Purges.row through there
          rw [purged, get?_setState, found, Option.map_some, if_pos (show grantId = (purgeReceipt own.grant r s).grantId from id.symm)] at between
          obtain rfl := Option.some.inj between
          exact revokes (GrantLifecycleAction.state_eq_active_iff.mp (was active))
        · rcases outcome : revokeAll r ids (purged (purgeReceipt own.grant r s) s) with ⟨result, t⟩
          cases result with
          | error error =>
              rw [Call.bind_of_error outcome] at returned
              cases returned
          | ok rest => exact ih later (congrArg Prod.fst outcome) member there

theorem revokeAll_withdraws (sound : Sound s) {r : Revocation} {ids : List UUID}
    {receipts : List (ProtectedStatePurgeReceipt P)} (returned : (revokeAll r ids s).1 = .ok receipts)
    (listed : ∀ grantId row, s.grants.get? grantId = some row → row.state = .active → select row.grant → grantId ∈ ids) :
    Withdrawn select (revokeAll r ids s).2 := by
  intro grantId row there picked active
  obtain ⟨purges, through, -⟩ := revokeAll_purges sound r ids
  obtain ⟨before, found, same, was⟩ := Purges.row through there
  exact revokeAll_inactive sound returned (listed grantId before found (was active) (same ▸ picked)) there active

/-- No request puts a token or a grant back in force. -/
theorem appStep_out (healthy : Healthy g) (out : Out among select g) (event : Event P) :
    Out among select (appStep g event) := by
  cases event with
  | analysis analysis acceptedAt => exact ⟨out.tokens, out.grants⟩
  | request request x =>
      have serves := handle_serves healthy request x
      rw [appStep]
      generalize handle request x g = outcome at serves
      cases serves with
      | refused | prepared => exact out
      | operated performs raises => exact ⟨out.tokens, out.grants⟩
      | loggedOut admits bearer disabled receipts returned answer =>
          exact ⟨(disableToken_disabling disabled).barred out.tokens, out.grants.purged healthy.sound _ _⟩
      | revoked admits receipts returned answer =>
          exact ⟨(disablePrincipal_disabling _ _).barred out.tokens, out.grants.purged healthy.sound _ _⟩

theorem Deployment.serve_cons (d : Deployment P) (events later : List (Event P)) (request : Request P) (x : Exchange) :
    d.serve (events ++ .request request x :: later) = run appStep (handle request x (d.serve events)).2 later :=
  run_append _ _ _ _

/-- What is out of force after a request stays so. -/
theorem Deployment.out (d : Deployment P) {events : List (Event P)} {request : Request P}
    (out : Out among select (handle request x (d.serve events)).2) (later : List (Event P)) :
    Out among select (d.serve (events ++ .request request x :: later)) := by
  rw [d.serve_cons]
  refine (run_invariant (I := fun g => Healthy g ∧ Out among select g) ?_ ⟨?_, out⟩ later).2
  · exact fun g event held => ⟨appStep_healthy g event held.1, appStep_out held.1 held.2 event⟩
  · exact appStep_healthy _ (.request request x) (d.healthy events)

/-! ## Sessions that are ended -/

def ofSession (principal : PrincipalRef) (grant : LocalAccessGrant) : Prop :=
  grant.principalId = principal.principalId ∧ grant.sessionEpoch = principal.sessionEpoch ∧
    grant.deviceTrustEpoch = principal.deviceTrustEpoch

theorem logout_out (healthy : Healthy g) {answer : Answer P} (answered : (handle .logout x g).1 = .ok answer) :
    ∃ token principal, x.token = some token ∧ g.auth.authenticate x.token x.authenticatedAt = .ok principal ∧
      Out (bearing token) (ofSession principal) (handle .logout x g).2 := by
  have serves := handle_serves healthy .logout x
  have sound := healthy.sound
  generalize handle .logout x g = outcome at serves answered
  cases serves with
  | refused failure => cases answered
  | operated performs raises => cases performs
  | @loggedOut principal token _ _ admits bearer disabled receipts returned answer =>
      refine ⟨token, principal, bearer, admits.authenticated, (disableToken_disabling disabled).bars, ?_⟩
      apply revokeAll_withdraws sound returned
      rintro grantId row found active ⟨named, session, device⟩
      exact mem_activeGrants.mpr ⟨row, found, active, by simp [named, session, device]⟩

/-- The token that a session was ended with is never accepted again, and no grant of the
    session is active again, whatever is asked for. -/
theorem ended_session_stays_out (d : Deployment P) (events : List (Event P)) (x : Exchange) (answer : Answer P)
    (answered : (handle .logout x (d.serve events)).1 = .ok answer) (later : List (Event P)) :
    let g := d.serve (events ++ .request .logout x :: later)
    (∀ now principal, g.auth.authenticate x.token now ≠ .ok principal) ∧
    ∃ principal, (d.serve events).auth.authenticate x.token x.authenticatedAt = .ok principal ∧
      ∀ grantId row, g.protectedState.grants.get? grantId = some row → row.grant.principalId = principal.principalId →
        row.grant.sessionEpoch = principal.sessionEpoch → row.grant.deviceTrustEpoch = principal.deviceTrustEpoch →
        row.state ≠ .active := by
  intro g
  obtain ⟨token, principal, bearer, authenticated, ended⟩ := logout_out (d.healthy events) answered
  have out : Out (bearing token) (ofSession principal) g := d.out ended later
  refine ⟨fun now other accepted => ?_, principal, authenticated, ?_⟩
  · obtain ⟨same, own, apart⟩ := out.tokens.authenticate accepted
    exact apart (congrArg _ (Option.some.inj (own.symm.trans bearer)))
  · exact fun grantId row found named session device => out.grants grantId row found ⟨named, session, device⟩

/-- The operator, who has a grant, logs out and asks for a command. -/
theorem ended_session_refused :
    let g := console.serve ([] ++ .request .logout (consoleExchange "sentinel-dev-operator-token" 1) ::
      [.request (controlRequest 1 (by decide)) (consoleExchange "sentinel-dev-operator-token" 2)])
    (∀ now principal, g.auth.authenticate (some "sentinel-dev-operator-token") now ≠ .ok principal) ∧
    ∃ principal, (console.serve []).auth.authenticate (some "sentinel-dev-operator-token") 1 = .ok principal ∧
      ∀ grantId row, g.protectedState.grants.get? grantId = some row → row.grant.principalId = principal.principalId →
        row.grant.sessionEpoch = principal.sessionEpoch → row.grant.deviceTrustEpoch = principal.deviceTrustEpoch →
        row.state ≠ .active := by
  obtain ⟨answer, answered⟩ := Checks.ok_of_isOk
    (x := (handle .logout (consoleExchange "sentinel-dev-operator-token" 1) (console.serve [])).1) (by decide +kernel)
  exact ended_session_stays_out console [] (consoleExchange "sentinel-dev-operator-token" 1) answer answered _

/-! ## Revoked devices -/

variable {principalId : String}

/-- An answered revocation leaves nothing of the principal in force, and the incidents alone. -/
theorem revokeDevice_out (healthy : Healthy g) {request : DeviceRevocationRequest} {answer : Answer P}
    (answered : (handle (.revokeDevice principalId request) x g).1 = .ok answer) :
    Out (belonging principalId) (fun grant => grant.principalId = principalId)
      (handle (.revokeDevice principalId request) x g).2 ∧
    (handle (.revokeDevice principalId request) x g).2.incidents = g.incidents := by
  have sound := healthy.sound
  have serves := handle_serves healthy (.revokeDevice principalId request) x
  generalize handle (.revokeDevice principalId request) x g = outcome at serves answered
  cases serves with
  | refused failure => cases answered
  | operated performs raises => cases performs
  | revoked admits receipts returned answer =>
      refine ⟨⟨(disablePrincipal_disabling _ _).bars, ?_⟩, rfl⟩
      apply revokeAll_withdraws sound returned
      intro grantId row found active named
      exact (List.mem_insertionSort _).mpr (mem_activeGrants.mpr ⟨row, found, active, decide_eq_true named⟩)

/-- A run adds no receipt in the name of a principal without tokens. -/
theorem run_adds_no_receipt (healthy : Healthy g) (out : Out (belonging principalId) select g) (events : List (Event P))
    {receipt : CommandReceipt P} (named : receipt.principalId = principalId)
    (member : receipt ∈ (run appStep g events).incidents.store.commandReceipts) :
    receipt ∈ g.incidents.store.commandReceipts := by
  induction events generalizing g with
  | nil => exact member
  | cons event events ih =>
      have before := ih (appStep_healthy g event healthy) (appStep_out healthy out event) member
      rcases appStep_receipts healthy event before with known | ⟨request, x, principal, rfl, authorizes⟩
      · exact known
      · obtain ⟨bearer, -, apart⟩ := out.tokens.authenticate authorizes.authenticated
        exact absurd (authorizes.named.symm.trans named) apart

/-- After an answered revocation the principal is out for good: none of its tokens is
    accepted again, none of its grants is active again, and no receipt in its name is added. -/
theorem revoked_principal_stays_out (d : Deployment P) (events : List (Event P)) (principalId : String)
    (request : DeviceRevocationRequest) (x : Exchange) (answer : Answer P)
    (answered : (handle (.revokeDevice principalId request) x (d.serve events)).1 = .ok answer) (later : List (Event P)) :
    let g := d.serve (events ++ .request (.revokeDevice principalId request) x :: later)
    (∀ token now principal, g.auth.authenticate token now = .ok principal → principal.principalId ≠ principalId) ∧
    (∀ grantId row, g.protectedState.grants.get? grantId = some row → row.grant.principalId = principalId →
      row.state ≠ .active) ∧
    ∀ receipt ∈ g.incidents.store.commandReceipts, receipt.principalId = principalId →
      receipt ∈ (d.serve events).incidents.store.commandReceipts := by
  intro g
  have healthy := d.healthy events
  obtain ⟨first, same⟩ := revokeDevice_out healthy answered
  have out : Out (belonging principalId) (fun grant => grant.principalId = principalId) g := d.out first later
  refine ⟨fun token now principal authenticated => ?_, out.grants, fun receipt member named => ?_⟩
  · obtain ⟨bearer, -, apart⟩ := out.tokens.authenticate authenticated
    exact apart
  · rw [show g = _ from d.serve_cons events later _ x] at member
    have start := appStep_healthy _ (.request (.revokeDevice principalId request) x) healthy
    exact same ▸ run_adds_no_receipt start first later named member

def lostDevice : DeviceRevocationRequest where
  reason := "lost"
  bounded := by decide

/-- The operator's device is lost while an alert is up; later it asks for a command. -/
theorem lost_device_stays_out :
    let g := console.serve ([.analysis (gaugeReading 1 .confirmed) 1] ++
      .request (.revokeDevice "development-operator" lostDevice) (consoleExchange "sentinel-dev-admin-token" 2) ::
      [.request (controlRequest 1 (by decide)) (consoleExchange "sentinel-dev-operator-token" 3)])
    (∀ token now principal, g.auth.authenticate token now = .ok principal →
      principal.principalId ≠ "development-operator") ∧
    (∀ grantId row, g.protectedState.grants.get? grantId = some row →
      row.grant.principalId = "development-operator" → row.state ≠ .active) ∧
    ∀ receipt ∈ g.incidents.store.commandReceipts, receipt.principalId = "development-operator" →
      receipt ∈ (console.serve [.analysis (gaugeReading 1 .confirmed) 1]).incidents.store.commandReceipts := by
  obtain ⟨answer, answered⟩ := Checks.ok_of_isOk (x := (handle (.revokeDevice "development-operator" lostDevice)
    (consoleExchange "sentinel-dev-admin-token" 2) (console.serve [.analysis (gaugeReading 1 .confirmed) 1])).1)
    (by decide +kernel)
  exact revoked_principal_stays_out console [.analysis (gaugeReading 1 .confirmed) 1] "development-operator" lostDevice
    (consoleExchange "sentinel-dev-admin-token" 2) answer answered
    [.request (controlRequest 1 (by decide)) (consoleExchange "sentinel-dev-operator-token" 3)]

end SentinelEdge.Gateway
