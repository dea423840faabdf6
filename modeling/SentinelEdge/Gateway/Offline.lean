import SentinelEdge.Foundation.Checks
import SentinelEdge.Incidents.Receipts

/-! # Offline review tickets

`OfflineCommandService` signs a ticket for a client that goes offline, and makes an
authorized review of it when it comes back. The service keeps nothing: that a
ticket acts once rests on the receipts of the engine.
-/

namespace SentinelEdge.Gateway

open Foundation Domain Storage Security Incidents

variable {P : Platform}

/-- `OfflineReviewRequest` with what its validator checks. -/
structure OfflineReviewRequest where
  action : ReviewActionKind
  idempotencyKey : String
  until_ : Option DateTime
  supported : action = .acknowledge ∨ action = .snooze
  bounded : action = .snooze → until_ ≠ none
  named : isBlank idempotencyKey = false

/-- What the tag of a ticket covers. -/
structure TicketFields where
  incidentId : UUID
  hazard : HazardKind
  action : ReviewActionKind
  idempotencyKey : String
  snoozeUntil : Option DateTime
  baseIncidentVersion : Nat
  issuedAt : DateTime
  expiresAt : DateTime
  principal : PrincipalRef
  deriving DecidableEq

structure OfflineReviewTicket (P : Platform) extends TicketFields where
  ticketId : UUID
  payloadSha256 : P.Digest
  authorizationTag : P.Digest
  deriving DecidableEq

/-- The validator of a decision. -/
def validateDecision (decision : AuthorizationDecision P) : Except Error (AuthorizationDecision P) := do
  Checks.refuse (decision.expiresAt ≤ decision.acceptedAt)
    (.validationError "authorization decision must expire after acceptance")
  Checks.refuse (isBlank decision.operation || isBlank decision.target || isBlank decision.policyVersion)
    (.validationError "authorization decision fields must not be blank")
  pure decision

/-- The validator of an authorized review. -/
def validateAuthorizedReview (command : AuthorizedReviewCommand P) : Except Error (AuthorizedReviewCommand P) := do
  Checks.refuse (command.payloadSha256 ≠ command.authorization.payloadSha256)
    (.validationError "authorization payload digest mismatch")
  Checks.refuse (command.action = .snooze && command.snoozeUntil.isNone)
    (.validationError "snooze command requires snooze_until")
  Checks.refuse (isBlank command.idempotencyKey) (.validationError "idempotency_key must not be blank")
  pure command

structure OfflineCommandService where
  authorizer : CommandAuthorizer
  ttlSeconds : Int := 900
  ticketSecret : String

namespace OfflineCommandService

/-- `_ticket_body` -/
def ticketBody (P : Platform) (fields : TicketFields) : Json := .obj [
  ("action", .str fields.action.value),
  ("base_incident_version", .int fields.baseIncidentVersion),
  ("expires_at", Dump.time P fields.expiresAt),
  ("hazard", .str fields.hazard.value),
  ("idempotency_key", .str fields.idempotencyKey),
  ("incident_id", Dump.uuid fields.incidentId),
  ("issued_at", Dump.time P fields.issuedAt),
  ("principal", fields.principal.modelDump),
  ("snooze_until", Json.optional (Dump.time P) fields.snoozeUntil)]

/-- What the tag authenticates. -/
def tagDocument (P : Platform) (digest : P.Digest) : Json := .obj [("payload_sha256", .str (P.hexdigest digest))]

/-- `_sign_ticket` -/
def signTicket (service : OfflineCommandService) (body : Json) : P.Digest × P.Digest :=
  (P.sha256 body, P.hmac service.ticketSecret (tagDocument P (P.sha256 body)))

/-- `prepare`; the ticket id is drawn by `uuid4`. -/
def prepare (service : OfflineCommandService) (ticketId : UUID) (incident : IncidentRecord) (request : OfflineReviewRequest)
    (principal : PrincipalRef) (now : DateTime) : OfflineReviewTicket P :=
  let fields : TicketFields := {
    incidentId := incident.incidentId
    hazard := incident.hazard
    action := request.action
    idempotencyKey := request.idempotencyKey
    snoozeUntil := request.until_
    baseIncidentVersion := incident.version
    issuedAt := now
    expiresAt := now + service.ttlSeconds * 1000000
    principal := principal }
  { fields with
    ticketId := ticketId
    payloadSha256 := (service.signTicket (ticketBody P fields)).1
    authorizationTag := (service.signTicket (ticketBody P fields)).2 }

/-- The payload the review is authorized for. -/
def reviewPayload (P : Platform) (ticket : TicketFields) : Json := .obj [
  ("action", .str ticket.action.value),
  ("comment", .null),
  ("hazard", .str ticket.hazard.value),
  ("idempotency_key", .str ticket.idempotencyKey),
  ("incident_id", Dump.uuid ticket.incidentId),
  ("snooze_until", Json.optional (Dump.time P) ticket.snoozeUntil)]

/-- `reconcile`; the ids of the command and of its decision are drawn by `uuid4`. -/
def reconcile (service : OfflineCommandService) (ticket : OfflineReviewTicket P) (currentIncident : IncidentRecord)
    (principal : PrincipalRef) (now : DateTime) (commandId decisionId : UUID) :
    Except Error (AuthorizedReviewCommand P) := do
  let (digest, expectedTag) := service.signTicket (ticketBody P ticket.toTicketFields)
  Checks.refuse (digest ≠ ticket.payloadSha256 || expectedTag ≠ ticket.authorizationTag)
    (.authorizationError "offline command ticket authentication failed")
  Checks.refuse (ticket.expiresAt ≤ now) (.authorizationError "offline command expired; reconfirmation required")
  Checks.refuse (ticket.principal ≠ principal)
    (.authorizationError "offline command principal or trust epoch changed")
  Checks.refuse (ticket.incidentId ≠ currentIncident.incidentId || ticket.hazard ≠ currentIncident.hazard)
    (.authorizationError "offline command incident identity changed")
  Checks.refuse (ticket.baseIncidentVersion ≠ currentIncident.version)
    (.authorizationError "offline command base incident version is stale")
  let fresh ← validateDecision (service.authorizer.decide decisionId principal ("incidents:" ++ ticket.action.value)
    ("incident:" ++ ticket.incidentId.str) (reviewPayload P ticket.toTicketFields) now)
  validateAuthorizedReview {
    commandId := commandId
    incidentId := ticket.incidentId
    hazard := ticket.hazard
    action := ticket.action
    snoozeUntil := ticket.snoozeUntil
    comment := none
    idempotencyKey := ticket.idempotencyKey
    authorization := fresh
    payloadSha256 := fresh.payloadSha256
    submittedAt := now }

end OfflineCommandService

/-! ## What a review is scoped to -/

/-- The client key of a review with all that it is scoped to. -/
structure ReviewKey where
  principalId : String
  sessionEpoch : Nat
  deviceTrustEpoch : Nat
  action : ReviewActionKind
  incidentId : UUID
  idempotencyKey : String
  deriving DecidableEq

def TicketFields.reviewKey (ticket : TicketFields) : ReviewKey where
  principalId := ticket.principal.principalId
  sessionEpoch := ticket.principal.sessionEpoch
  deviceTrustEpoch := ticket.principal.deviceTrustEpoch
  action := ticket.action
  incidentId := ticket.incidentId
  idempotencyKey := ticket.idempotencyKey

def reviewKey (command : AuthorizedReviewCommand P) : ReviewKey where
  principalId := command.authorization.principal.principalId
  sessionEpoch := command.authorization.principal.sessionEpoch
  deviceTrustEpoch := command.authorization.principal.deviceTrustEpoch
  action := command.action
  incidentId := command.incidentId
  idempotencyKey := command.idempotencyKey

/-- Reviews under one key have one scoped idempotency key. -/
theorem scopedKey_of_reviewKey {a b : AuthorizedReviewCommand P} (same : reviewKey a = reviewKey b) :
    AuthorizedReview.scopedKey a = AuthorizedReview.scopedKey b := by
  simp only [reviewKey, ReviewKey.mk.injEq] at same
  obtain ⟨principal, session, device, action, incident, key⟩ := same
  simp only [AuthorizedReview.scopedKey, AuthorizedReview.operation, AuthorizedReview.target,
    CommandAuthorizer.scopedIdempotencyKey, CommandAuthorizer.scopedKeyDocument, principal, session, device, action,
    incident, key]

/-! ## Tickets, reviews and everything else in turn -/

structure OfflineState (P : Platform) where
  engine : Engine P
  /-- What `prepare` returned so far. -/
  tickets : List (OfflineReviewTicket P)
  /-- What `reconcile` returned so far. -/
  commands : List (AuthorizedReviewCommand P)

inductive OfflineOperation (P : Platform) where
  | prepare (ticketId : UUID) (incident : IncidentRecord) (request : OfflineReviewRequest) (principal : PrincipalRef)
      (now : DateTime)
  | reconcile (ticket : OfflineReviewTicket P) (currentIncident : IncidentRecord) (principal : PrincipalRef) (now : DateTime)
      (commandId decisionId : UUID)
  /-- `apply_authorized_review` of a command that `reconcile` returned. -/
  | applyReconciled (index : Nat)
  /-- Any other call of the engine. -/
  | engine (op : Operation P)

/-- The authorized review that an operation applies. -/
def applied (s : OfflineState P) : OfflineOperation P → List (AuthorizedReviewCommand P)
  | .applyReconciled index => s.commands[index]?.toList
  | .engine (.applyAuthorizedReview command) => [command]
  | _ => []

def offlineStep (service : OfflineCommandService) (s : OfflineState P) : OfflineOperation P → OfflineState P
  | .prepare ticketId incident request principal now =>
      { s with tickets := s.tickets ++ [service.prepare ticketId incident request principal now] }
  | .reconcile ticket currentIncident principal now commandId decisionId =>
      match service.reconcile ticket currentIncident principal now commandId decisionId with
      | .ok command => { s with commands := s.commands ++ [command] }
      | .error _ => s
  | .applyReconciled index =>
      match s.commands[index]? with
      | some command => { s with engine := step s.engine (.applyAuthorizedReview command) }
      | none => s
  | .engine op => { s with engine := step s.engine op }

/-- Applying the review adds a row to the reviews. -/
def addsReview (e : Engine P) (command : AuthorizedReviewCommand P) : Bool :=
  (applyAuthorizedReview command e).2.store.reviewActions ≠ e.store.reviewActions

/-- The review that an operation applies, where it is recorded. -/
def recorded (s : OfflineState P) (op : OfflineOperation P) : List (AuthorizedReviewCommand P) :=
  (applied s op).filter (addsReview s.engine)

/-- The system after a run from an empty store, with the reviews that were recorded. -/
def afterOffline (service : OfflineCommandService) (budget : Int) (authorizer : CommandAuthorizer)
    (ops : List (OfflineOperation P)) : OfflineState P × List (AuthorizedReviewCommand P) :=
  run (traced (offlineStep service) recorded) (⟨Engine.init Store.empty budget authorizer, [], []⟩, []) ops

/-- No review is applied whose receipt fails after its row is in. -/
def CommitsWhole (s : OfflineState P) (op : OfflineOperation P) : Prop :=
  ∀ command ∈ applied s op, ¬ ReviewHalfCommits s.engine command

/-- The id of the review applied is no receipt's, or its key has a receipt. -/
def ApplyingKnown (s : OfflineState P) (op : OfflineOperation P) : Prop :=
  ∀ command ∈ applied s op, (∀ r ∈ s.engine.store.commandReceipts, command.commandId ≠ r.commandId) ∨
    s.engine.store.commandReceipt (AuthorizedReview.scopedKey command) ≠ none

instance (s : OfflineState P) (op : OfflineOperation P) : Decidable (ApplyingKnown s op) :=
  inferInstanceAs (Decidable (∀ command ∈ applied s op, _))

theorem commitsWhole_of_known {s : OfflineState P} {op : OfflineOperation P} (known : ApplyingKnown s op) :
    CommitsWhole s op := by
  rintro command member ⟨taken, -, free, -⟩
  rcases known command member with fresh | keyed
  · exact idTaken_iff.mp taken fresh
  · exact keyed free

section Step

variable {service : OfflineCommandService} {s : OfflineState P} {op : OfflineOperation P}

theorem offlineStep_engine (service : OfflineCommandService) (s : OfflineState P) (op : OfflineOperation P) :
    (offlineStep service s op).engine = s.engine ∨ ∃ o, (offlineStep service s op).engine = step s.engine o := by
  cases op with
  | prepare ticketId incident request principal now => exact .inl rfl
  | reconcile ticket currentIncident principal now commandId decisionId =>
      left
      unfold offlineStep
      dsimp only
      split <;> rfl
  | applyReconciled index =>
      unfold offlineStep
      dsimp only
      split
      · next command found => exact .inr ⟨.applyAuthorizedReview command, rfl⟩
      · exact .inl rfl
  | engine op => exact .inr ⟨op, rfl⟩

/-- Reviews and receipts are only added. -/
theorem offlineStep_keeps (service : OfflineCommandService) (inv : Invariant s.engine) (op : OfflineOperation P) :
    Invariant (offlineStep service s op).engine ∧
    (∀ a ∈ s.engine.store.reviewActions, a ∈ (offlineStep service s op).engine.store.reviewActions) ∧
    ∀ r ∈ s.engine.store.commandReceipts, r ∈ (offlineStep service s op).engine.store.commandReceipts := by
  rcases offlineStep_engine service s op with same | ⟨o, stepped⟩
  · rw [same]
    exact ⟨inv, fun _ member => member, fun _ member => member⟩
  · rw [stepped]
    exact ⟨step_invariant s.engine o inv, step_reviews inv o, step_receipts inv o⟩

theorem offlineStep_applied (service : OfflineCommandService) {command : AuthorizedReviewCommand P} (member : command ∈ applied s op) :
    applied s op = [command] ∧ (offlineStep service s op).engine = (applyAuthorizedReview command s.engine).2 := by
  cases op with
  | prepare ticketId incident request principal now => cases member
  | reconcile ticket currentIncident principal now commandId decisionId => cases member
  | applyReconciled index =>
      have found : s.commands[index]? = some command := Option.mem_toList.mp member
      unfold applied offlineStep
      dsimp only
      rw [found]
      exact ⟨rfl, rfl⟩
  | engine op =>
      cases op with
      | applyAuthorizedReview other =>
          obtain rfl := List.mem_singleton.mp member
          exact ⟨rfl, rfl⟩
      | applyAnalysis analysis acceptedAt => cases member
      | applyStatusCommand other => cases member
      | review action => cases member
      | dispatchNotifications sender now clock => cases member

/-- A review that is recorded had no receipt under its key. It adds its one row,
    and its receipt unless that fails. -/
theorem addsReview_spec {e : Engine P} {command : AuthorizedReviewCommand P} (inv : Invariant e)
    (adds : addsReview e command = true) :
    e.store.commandReceipt (AuthorizedReview.scopedKey command) = none ∧
    (applyAuthorizedReview command e).2.store.reviewActions = e.store.reviewActions ++ [AuthorizedReview.action command] ∧
    (¬ ReviewHalfCommits e command → ∃ r ∈ (applyAuthorizedReview command e).2.store.commandReceipts,
      r.scopedIdempotencyKey = AuthorizedReview.scopedKey command) := by
  have added : (applyAuthorizedReview command e).2.store.reviewActions ≠ e.store.reviewActions := of_decide_eq_true adds
  cases verified : AuthorizedReview.verify e.commandAuthorizer command with
  | error error =>
      rw [applyAuthorizedReview_unverified verified] at added
      exact absurd rfl added
  | ok u =>
      cases key : e.store.commandReceipt (AuthorizedReview.scopedKey command) with
      | some receipt =>
          rw [applyAuthorizedReview_replay verified key] at added
          exact absurd rfl added
      | none =>
          cases valid : (AuthorizedReview.action command).validate with
          | error error =>
              rw [applyAuthorizedReview_invalid verified key valid] at added
              exact absurd rfl added
          | ok action =>
              rcases review_cases inv.well (AuthorizedReview.action command) with
                ⟨error, raised⟩ | ⟨c, s', found, target, new, recorded, well, domain⟩
              · rw [applyAuthorizedReview_refused verified key valid raised] at added
                exact absurd rfl added
              · have receipts : s'.commandReceipts = e.store.commandReceipts :=
                  field_of_domain domain Store.commandReceipts rfl
                have rows : s'.reviewActions = e.store.reviewActions ++ [AuthorizedReview.action command] :=
                  field_of_domain domain Store.reviewActions rfl
                obtain ⟨committed, uncommitted⟩ :=
                  applyAuthorizedReview_recorded verified key valid recorded well receipts
                by_cases fresh : ∀ r ∈ e.store.commandReceipts, command.commandId ≠ r.commandId
                · obtain ⟨s'', returned, -, domain''⟩ := committed fresh
                  have rows'' : s''.reviewActions = s'.reviewActions := field_of_domain domain'' Store.reviewActions rfl
                  have listed : s''.commandReceipts = s'.commandReceipts ++ [AuthorizedReview.receipt command
                      (reviewUpdate (e.store.reviewState command.incidentId) (AuthorizedReview.action command))] :=
                    field_of_domain domain'' Store.commandReceipts rfl
                  rw [returned]
                  refine ⟨rfl, rows''.trans rows, fun _ => ⟨AuthorizedReview.receipt command (reviewUpdate
                    (e.store.reviewState command.incidentId) (AuthorizedReview.action command)), ?_, rfl⟩⟩
                  show _ ∈ s''.commandReceipts
                  rw [listed]
                  exact List.mem_append_right _ (List.mem_singleton_self _)
                · rw [uncommitted fresh]
                  refine ⟨rfl, rows, fun whole => absurd ?_ whole⟩
                  exact ⟨idTaken_iff.mpr fresh, verified, key, ⟨action, valid⟩, ⟨c, found, target⟩, new⟩

/-- An operation records one review at most. -/
theorem recorded_cases (service : OfflineCommandService) (s : OfflineState P) (op : OfflineOperation P) :
    recorded s op = [] ∨ ∃ command, recorded s op = [command] ∧ command ∈ applied s op ∧
      (offlineStep service s op).engine = (applyAuthorizedReview command s.engine).2 ∧
      addsReview s.engine command = true := by
  cases emitted : recorded s op with
  | nil => exact .inl rfl
  | cons command rest =>
      have here : command ∈ recorded s op := emitted ▸ List.mem_cons_self
      obtain ⟨member, adds⟩ := List.mem_filter.mp here
      obtain ⟨only, stepped⟩ := offlineStep_applied service member
      rw [recorded, only, List.filter_cons_of_pos adds] at emitted
      exact .inr ⟨command, emitted.symm, member, stepped, adds⟩

end Step

/-! ## At most one review -/

/-- Every review recorded has its row and its receipt, and no two have one key. -/
structure Receipted (x : OfflineState P × List (AuthorizedReviewCommand P)) : Prop where
  inv : Invariant x.1.engine
  rows : ∀ command ∈ x.2, AuthorizedReview.action command ∈ x.1.engine.store.reviewActions
  receipted : ∀ command ∈ x.2, ∃ r ∈ x.1.engine.store.commandReceipts,
    r.scopedIdempotencyKey = AuthorizedReview.scopedKey command
  distinct : (x.2.map AuthorizedReview.scopedKey).Nodup

theorem Receipted.step {service : OfflineCommandService} {x : OfflineState P × List (AuthorizedReviewCommand P)}
    {op : OfflineOperation P} (whole : CommitsWhole x.1 op) (receipted : Receipted x) :
    Receipted (traced (offlineStep service) recorded x op) := by
  obtain ⟨inv, shown, kept⟩ := offlineStep_keeps service receipted.inv op
  have old : ∀ command ∈ x.2, ∃ r ∈ (offlineStep service x.1 op).engine.store.commandReceipts,
      r.scopedIdempotencyKey = AuthorizedReview.scopedKey command := by
    intro command member
    obtain ⟨r, listed, keyed⟩ := receipted.receipted command member
    exact ⟨r, kept r listed, keyed⟩
  have oldRows : ∀ command ∈ x.2,
      AuthorizedReview.action command ∈ (offlineStep service x.1 op).engine.store.reviewActions :=
    fun command member => shown _ (receipted.rows command member)
  rcases recorded_cases service x.1 op with none | ⟨command, emitted, member, stepped, adds⟩
  · refine ⟨inv, ?_, ?_, ?_⟩
    · rw [traced, none, List.append_nil]
      exact oldRows
    · rw [traced, none, List.append_nil]
      exact old
    · rw [traced, none, List.append_nil]
      exact receipted.distinct
  · obtain ⟨free, row, receipt⟩ := addsReview_spec receipted.inv adds
    refine ⟨inv, ?_, ?_, ?_⟩
    · rw [traced, emitted, List.forall_mem_append]
      refine ⟨oldRows, List.forall_mem_singleton.mpr ?_⟩
      show _ ∈ (offlineStep service x.1 op).engine.store.reviewActions
      rw [stepped, row]
      exact List.mem_append_right _ (List.mem_singleton_self _)
    · rw [traced, emitted, List.forall_mem_append]
      refine ⟨old, List.forall_mem_singleton.mpr ?_⟩
      show ∃ r ∈ (offlineStep service x.1 op).engine.store.commandReceipts, _
      rw [stepped]
      exact receipt (whole command member)
    · rw [traced, emitted, List.map_append]
      refine List.Nodup.append receipted.distinct (List.nodup_singleton _) ?_
      -- the key of a review recorded before has a receipt
      intro key earlier here
      obtain ⟨other, before, rfl⟩ := List.mem_map.mp earlier
      obtain ⟨r, listed, keyed⟩ := receipted.receipted other before
      rw [List.map_singleton, List.mem_singleton] at here
      have absent := List.find?_eq_none.mp free r listed
      rw [keyed, here] at absent
      exact absent (decide_eq_true rfl)

theorem afterOffline_receipted (service : OfflineCommandService) (budget : Int) (authorizer : CommandAuthorizer)
    {ops : List (OfflineOperation P)}
    (whole : Meets (offlineStep service) CommitsWhole ⟨Engine.init Store.empty budget authorizer, [], []⟩ ops) :
    Receipted (afterOffline service budget authorizer ops) := by
  have init : Receipted (P := P) (⟨Engine.init Store.empty budget authorizer, [], []⟩, []) := {
    inv := invariant_init budget authorizer
    rows := by
      intro command member
      cases member
    receipted := by
      intro command member
      cases member
    distinct := List.nodup_nil }
  refine Meets.invariant (I := Receipted) (C := fun x op => CommitsWhole x.1 op) ?_ init ?_
  · intro x op commits receipted
    exact receipted.step commits
  · exact (meets_traced_iff ops).mpr whole

/-- Reviews of one key among reviews with distinct scoped keys. -/
theorem one_per_key {commands : List (AuthorizedReviewCommand P)} (distinct : (commands.map AuthorizedReview.scopedKey).Nodup)
    (key : ReviewKey) : (commands.filter (fun command => reviewKey command = key)).length ≤ 1 := by
  have within : ((commands.filter (fun command => reviewKey command = key)).map AuthorizedReview.scopedKey).Nodup :=
    distinct.sublist (List.filter_sublist.map _)
  have keyed : ∀ command ∈ commands.filter (fun command => reviewKey command = key), reviewKey command = key :=
    fun command member => of_decide_eq_true (List.mem_filter.mp member).2
  cases shape : commands.filter (fun command => reviewKey command = key) with
  | nil => exact Nat.zero_le 1
  | cons a rest =>
      cases rest with
      | nil => exact le_refl 1
      | cons b rest =>
          rw [shape] at within keyed
          have same : reviewKey a = reviewKey b := (keyed a (by simp)).trans (keyed b (by simp)).symm
          have apart := (List.nodup_cons.mp within).1
          exact absurd (by rw [scopedKey_of_reviewKey same]; simp) apart

/-! ## Only as issued -/

namespace OfflineCommandService

variable {service : OfflineCommandService}

theorem role_injective : ∀ a b : PrincipalRole, a.value = b.value → a = b := by
  intro a b
  cases a <;> cases b <;> decide

theorem action_injective : ∀ a b : ReviewActionKind, a.value = b.value → a = b := by
  intro a b
  cases a <;> cases b <;> decide

theorem hazard_injective : ∀ a b : HazardKind, a.value = b.value → a = b := by
  intro a b
  cases a <;> cases b <;> decide

theorem texts_injective {a b : List String} (same : Dump.texts a = Dump.texts b) : a = b :=
  List.map_injective_iff.mpr (fun _ _ h => Json.str.inj h) (Json.arr.inj same)

theorem principal_of_modelDump {a b : PrincipalRef} (same : a.modelDump = b.modelDump) : a = b := by
  simp only [PrincipalRef.modelDump, Json.obj.injEq, List.cons.injEq, Prod.mk.injEq, Json.str.injEq, Json.int.injEq,
    Json.arr.injEq, true_and, and_true, Nat.cast_inj] at same
  obtain ⟨authentication, device, id, kind, roles, scopes, session⟩ := same
  have roles : a.roles = b.roles :=
    List.map_injective_iff.mpr (fun x y h => role_injective x y (Json.str.inj h)) roles
  cases a
  cases b
  simp only [PrincipalRef.mk.injEq]
  exact ⟨id, roles, texts_injective scopes, authentication, kind, session, device⟩

theorem time_of_dump (isoformat : Function.Injective P.isoformat) {a b : Option DateTime}
    (same : Json.optional (Dump.time P) a = Json.optional (Dump.time P) b) : a = b := by
  cases a with
  | none =>
      cases b with
      | none => rfl
      | some t => cases same
  | some t =>
      cases b with
      | none => cases same
      | some u => rw [isoformat (Json.str.inj same)]

/-- The body of a ticket determines its fields. -/
theorem fields_of_ticketBody (isoformat : Function.Injective P.isoformat) {a b : TicketFields}
    (same : ticketBody P a = ticketBody P b) : a = b := by
  simp only [ticketBody, Dump.uuid, Dump.time, Json.obj.injEq, List.cons.injEq, Prod.mk.injEq, Json.str.injEq,
    Json.int.injEq, true_and, and_true, Nat.cast_inj] at same
  obtain ⟨action, version, expires, hazard, key, incident, issued, principal, snooze⟩ := same
  cases a
  cases b
  simp only [TicketFields.mk.injEq]
  exact ⟨UUID.str_injective (congrArg String.toList incident), hazard_injective _ _ hazard, action_injective _ _ action, key,
    time_of_dump isoformat snooze, version, isoformat issued, isoformat expires, principal_of_modelDump principal⟩

/-- The ticket carries the digest and the tag of its fields. -/
def Signed (service : OfflineCommandService) (ticket : OfflineReviewTicket P) : Prop :=
  service.signTicket (ticketBody P ticket.toTicketFields) = (ticket.payloadSha256, ticket.authorizationTag)

/-- A digest that the ticket shows with a valid tag is one the service has signed. -/
def Unforged (service : OfflineCommandService) (tickets : List (OfflineReviewTicket P)) (ticket : OfflineReviewTicket P) : Prop :=
  P.hmac service.ticketSecret (tagDocument P (P.sha256 (ticketBody P ticket.toTicketFields))) = ticket.authorizationTag →
    ∃ issued ∈ tickets, P.sha256 (ticketBody P ticket.toTicketFields) = issued.payloadSha256

/-- The ticket is one of these, under any id. -/
def IssuedAmong (tickets : List (OfflineReviewTicket P)) (ticket : OfflineReviewTicket P) : Prop :=
  ∃ issued ∈ tickets, { ticket with ticketId := issued.ticketId } = issued

/-- Whatever is done, the tickets are signed. -/
theorem offlineStep_signed (service : OfflineCommandService) (s : OfflineState P) (op : OfflineOperation P)
    (signed : ∀ ticket ∈ s.tickets, service.Signed ticket) :
    ∀ ticket ∈ (offlineStep service s op).tickets, service.Signed ticket := by
  have unchanged : (offlineStep service s op).tickets = s.tickets →
      ∀ ticket ∈ (offlineStep service s op).tickets, service.Signed ticket := by
    intro same
    rw [same]
    exact signed
  cases op with
  | prepare ticketId incident request principal now =>
      show ∀ ticket ∈ s.tickets ++ [_], service.Signed ticket
      rw [List.forall_mem_append]
      exact ⟨signed, List.forall_mem_singleton.mpr rfl⟩
  | reconcile ticket currentIncident principal now commandId decisionId =>
      refine unchanged ?_
      unfold offlineStep
      dsimp only
      split <;> rfl
  | applyReconciled index =>
      refine unchanged ?_
      unfold offlineStep
      dsimp only
      split <;> rfl
  | engine op => exact unchanged rfl

theorem afterOffline_signed (service : OfflineCommandService) (budget : Int) (authorizer : CommandAuthorizer)
    (ops : List (OfflineOperation P)) : ∀ ticket ∈ (afterOffline service budget authorizer ops).1.tickets,
      service.Signed ticket := by
  have init : ∀ ticket ∈ ([] : List (OfflineReviewTicket P)), service.Signed ticket := List.forall_mem_nil _
  have keeps : ∀ (x : OfflineState P × List (AuthorizedReviewCommand P)) (op : OfflineOperation P),
      (∀ ticket ∈ x.1.tickets, service.Signed ticket) →
        ∀ ticket ∈ (traced (offlineStep service) recorded x op).1.tickets, service.Signed ticket :=
    fun x op => offlineStep_signed service x.1 op
  exact run_invariant keeps init ops

theorem validateDecision_ok {decision valid : AuthorizationDecision P} (returned : validateDecision decision = .ok valid) :
    valid = decision := by
  obtain ⟨_, -, returned⟩ := Checks.bind_eq_ok.mp returned
  obtain ⟨_, -, returned⟩ := Checks.bind_eq_ok.mp returned
  exact Checks.pure_eq_ok.mp returned

theorem validateAuthorizedReview_ok {command valid : AuthorizedReviewCommand P}
    (returned : validateAuthorizedReview command = .ok valid) : valid = command := by
  obtain ⟨_, -, returned⟩ := Checks.bind_eq_ok.mp returned
  obtain ⟨_, -, returned⟩ := Checks.bind_eq_ok.mp returned
  obtain ⟨_, -, returned⟩ := Checks.bind_eq_ok.mp returned
  exact Checks.pure_eq_ok.mp returned

section Reconcile

variable {ticket : OfflineReviewTicket P} {currentIncident : IncidentRecord} {principal : PrincipalRef} {now : DateTime}
  {commandId decisionId : UUID} {command : AuthorizedReviewCommand P}

/-- What a ticket has passed that is reconciled, and the review made of it. -/
theorem reconcile_ok (returned : service.reconcile ticket currentIncident principal now commandId decisionId = .ok command) :
    service.Signed ticket ∧ now < ticket.expiresAt ∧ ticket.principal = principal ∧
      ticket.baseIncidentVersion = currentIncident.version ∧ reviewKey command = ticket.reviewKey ∧
      command.hazard = ticket.hazard ∧ command.snoozeUntil = ticket.snoozeUntil ∧ command.comment = none := by
  unfold reconcile at returned
  obtain ⟨_, authentic, returned⟩ := Checks.bind_eq_ok.mp returned
  obtain ⟨_, live, returned⟩ := Checks.bind_eq_ok.mp returned
  obtain ⟨_, same, returned⟩ := Checks.bind_eq_ok.mp returned
  obtain ⟨_, -, returned⟩ := Checks.bind_eq_ok.mp returned
  obtain ⟨_, based, returned⟩ := Checks.bind_eq_ok.mp returned
  obtain ⟨fresh, decided, returned⟩ := Checks.bind_eq_ok.mp returned
  have decided := validateDecision_ok decided
  have command_eq := validateAuthorizedReview_ok returned
  have same : ticket.principal = principal := by simpa using Checks.refuse_eq_ok.mp same
  have authentic := Checks.refuse_eq_ok.mp authentic
  simp only [ne_eq, Bool.or_eq_false_iff, decide_eq_false_iff_not, Decidable.not_not] at authentic
  refine ⟨Prod.ext authentic.1 authentic.2, ?_, same, ?_, ?_, ?_⟩
  · simpa using Checks.refuse_eq_ok.mp live
  · simpa using Checks.refuse_eq_ok.mp based
  · rw [command_eq, decided]
    simp only [reviewKey, TicketFields.reviewKey, CommandAuthorizer.decide, same]
  · rw [command_eq]
    exact ⟨rfl, rfl, rfl⟩

end Reconcile

/-- A signed ticket whose tag is not forged is one that was issued. -/
theorem issuedAmong_of_signed (sha256 : Function.Injective P.sha256) (isoformat : Function.Injective P.isoformat)
    {tickets : List (OfflineReviewTicket P)} (signed : ∀ issued ∈ tickets, service.Signed issued)
    {ticket : OfflineReviewTicket P} (unforged : service.Unforged tickets ticket) (presented : service.Signed ticket) :
    IssuedAmong tickets ticket := by
  obtain ⟨digest, tag⟩ := Prod.mk.inj presented
  obtain ⟨issued, member, digests⟩ := unforged tag
  obtain ⟨digest', tag'⟩ := Prod.mk.inj (signed issued member)
  have fields : ticket.toTicketFields = issued.toTicketFields :=
    fields_of_ticketBody isoformat (sha256 (digests.trans digest'.symm))
  have payload : ticket.payloadSha256 = issued.payloadSha256 := by rw [← digest, digests]
  have tags : ticket.authorizationTag = issued.authorizationTag := by rw [← tag, ← tag', fields]
  refine ⟨issued, member, ?_⟩
  rw [payload, tags, fields]

end OfflineCommandService

/-- A ticket may be altered, shown late, by others or against other incidents, and
    its review be applied again and again among all other calls: where no review is
    left without its receipt, one review is recorded for it at most, and it is made
    from the ticket as it was issued, in time, for its principal and its version. -/
theorem offline_ticket_acts_once (sha256 : Function.Injective P.sha256) (isoformat : Function.Injective P.isoformat)
    (service : OfflineCommandService) (budget : Int) (authorizer : CommandAuthorizer) (ops : List (OfflineOperation P)) :
    let x := afterOffline service budget authorizer ops
    (Meets (offlineStep service) CommitsWhole ⟨Engine.init Store.empty budget authorizer, [], []⟩ ops →
      ∀ ticket ∈ x.1.tickets, (x.2.filter (fun command => reviewKey command = ticket.reviewKey)).length ≤ 1) ∧
    ∀ (ticket : OfflineReviewTicket P) (currentIncident : IncidentRecord) (principal : PrincipalRef) (now : DateTime)
      (commandId decisionId : UUID), service.Unforged x.1.tickets ticket →
      (¬ OfflineCommandService.IssuedAmong x.1.tickets ticket ∨ ticket.expiresAt ≤ now ∨ ticket.principal ≠ principal ∨
        ticket.baseIncidentVersion ≠ currentIncident.version →
        ∃ error, service.reconcile ticket currentIncident principal now commandId decisionId = .error error) ∧
      ∀ command, service.reconcile ticket currentIncident principal now commandId decisionId = .ok command →
        reviewKey command = ticket.reviewKey ∧ command.hazard = ticket.hazard ∧
          command.snoozeUntil = ticket.snoozeUntil ∧ command.comment = none := by
  intro x
  constructor
  · intro whole ticket _
    exact one_per_key (afterOffline_receipted service budget authorizer whole).distinct ticket.reviewKey
  · intro ticket currentIncident principal now commandId decisionId unforged
    constructor
    · intro unfit
      cases outcome : service.reconcile ticket currentIncident principal now commandId decisionId with
      | error error => exact ⟨error, rfl⟩
      | ok command =>
          obtain ⟨presented, live, same, based, -⟩ := OfflineCommandService.reconcile_ok outcome
          have issued : OfflineCommandService.IssuedAmong x.1.tickets ticket :=
            OfflineCommandService.issuedAmong_of_signed sha256 isoformat
              (OfflineCommandService.afterOffline_signed service budget authorizer ops) unforged presented
          rcases unfit with altered | expired | other | stale
          · exact absurd issued altered
          · exact absurd live (not_lt.mpr expired)
          · exact absurd same other
          · exact absurd based stale
    · intro command returned
      exact (OfflineCommandService.reconcile_ok returned).2.2.2.2

/-! ## A gauge under an acknowledgement made offline -/

def operator : PrincipalRef := { principalId := "operator", roles := [.operator] }

def gaugeTickets : OfflineCommandService := { authorizer := gaugeAuthorizer, ticketSecret := "ticket" }

/-- The incident that the first reading opens. -/
def gaugeIncident : IncidentRecord := nextRecord Platform.transparent none (gaugeReading 1 .confirmed) 1

def gaugeRequest : OfflineReviewRequest where
  action := .acknowledge
  idempotencyKey := "offline"
  until_ := none
  supported := .inl rfl
  bounded := nofun
  named := by decide

def gaugeTicket : OfflineReviewTicket Platform.transparent :=
  gaugeTickets.prepare (UUID.ofNat 20) gaugeIncident gaugeRequest operator 1

def alteredTicket : OfflineReviewTicket Platform.transparent := { gaugeTicket with idempotencyKey := "other" }

/-- The ticket is reconciled twice before the first of its reviews is applied. -/
def reconciledTwice : List (OfflineOperation Platform.transparent) :=
  [.engine (.applyAnalysis (gaugeReading 1 .confirmed) 1),
    .prepare (UUID.ofNat 20) gaugeIncident gaugeRequest operator 1,
    .reconcile gaugeTicket gaugeIncident operator 2 (UUID.ofNat 10) (UUID.ofNat 30),
    .reconcile gaugeTicket gaugeIncident operator 3 (UUID.ofNat 11) (UUID.ofNat 31)]

/-- Both reviews are applied, the first of them twice; then the ticket comes back altered. -/
theorem altered_ticket_refused :
    (((afterOffline gaugeTickets 3 gaugeAuthorizer (reconciledTwice ++
      [.applyReconciled 0, .applyReconciled 0, .applyReconciled 1])).2.filter
        (fun command => reviewKey command = gaugeTicket.reviewKey)).length ≤ 1) ∧
    ∃ error, gaugeTickets.reconcile alteredTicket gaugeIncident operator 4 (UUID.ofNat 12) (UUID.ofNat 32) = .error error := by
  have tickets : (afterOffline gaugeTickets 3 gaugeAuthorizer (reconciledTwice ++
      [.applyReconciled 0, .applyReconciled 0, .applyReconciled 1])).1.tickets = [gaugeTicket] := by decide +kernel
  obtain ⟨once, refused⟩ := offline_ticket_acts_once Function.injective_id
    (fun _ _ same => integer_injective (congrArg String.toList same)) gaugeTickets 3 gaugeAuthorizer (reconciledTwice ++ [.applyReconciled 0, .applyReconciled 0, .applyReconciled 1])
  refine ⟨once ?_ gaugeTicket ?_, (refused _ gaugeIncident operator 4 _ _ ?_).1 (.inl ?_)⟩
  · have known : Meets (offlineStep gaugeTickets) ApplyingKnown ⟨Engine.init Store.empty 3 gaugeAuthorizer, [], []⟩
        (reconciledTwice ++ [.applyReconciled 0, .applyReconciled 0, .applyReconciled 1]) := by decide +kernel
    exact known.mono fun _ _ => commitsWhole_of_known
  · rw [tickets]
    exact List.mem_singleton_self _
  · have forged : Platform.transparent.hmac gaugeTickets.ticketSecret (OfflineCommandService.tagDocument Platform.transparent
        (Platform.transparent.sha256 (OfflineCommandService.ticketBody Platform.transparent alteredTicket.toTicketFields))) ≠
          alteredTicket.authorizationTag := by decide +kernel
    exact fun same => absurd same forged
  · rw [tickets]
    rintro ⟨issued, member, same⟩
    rw [← same, List.mem_singleton] at member
    have other : ("other" : String) = "offline" := congrArg (fun t => t.idempotencyKey) member
    exact absurd other (by decide)

/-- A status command takes the id of a review that waits to be applied. -/
theorem ticket_reviewed_twice : ∃ ticket ∈ (afterOffline gaugeTickets 3 gaugeAuthorizer (reconciledTwice ++
      [.engine (.applyStatusCommand (gaugeCommand 10 .control 1)), .applyReconciled 0, .applyReconciled 1])).1.tickets,
    ((afterOffline gaugeTickets 3 gaugeAuthorizer (reconciledTwice ++
      [.engine (.applyStatusCommand (gaugeCommand 10 .control 1)), .applyReconciled 0, .applyReconciled 1])).2.filter
        (fun command => reviewKey command = ticket.reviewKey)).length = 2 :=
  ⟨gaugeTicket, by decide +kernel, by decide +kernel⟩

end SentinelEdge.Gateway
