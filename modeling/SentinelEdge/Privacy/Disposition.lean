import SentinelEdge.Evidence.Transitions

/-! # Disposition requests

A request covers items of evidence; the lineage table lists what was derived from an
item and who received it. Items are restricted from the request on. What recipients
answer is kept in receipts, and what was tried with them in attempts.
-/

namespace SentinelEdge.Privacy

open Foundation Domain Storage Evidence

inductive DispositionAction where
  | erase | restrict | consentWithdrawal | correct
  deriving DecidableEq, Repr

def DispositionAction.value : DispositionAction → String
  | .erase => "erase"
  | .restrict => "restrict"
  | .consentWithdrawal => "consent_withdrawal"
  | .correct => "correct"

inductive DispositionRequestStatus where
  | restricted | inProgress | completed | retainedException | externalRecipientPending | failed
  deriving DecidableEq, Repr

def DispositionRequestStatus.value : DispositionRequestStatus → String
  | .restricted => "restricted"
  | .inProgress => "in_progress"
  | .completed => "completed"
  | .retainedException => "retained_exception"
  | .externalRecipientPending => "external_recipient_pending"
  | .failed => "failed"

inductive RecipientReconciliationState where
  | acknowledged | retryScheduled | exhausted | deadlineExpired | alreadyAcknowledged | notDue
  deriving DecidableEq, Repr

def RecipientReconciliationState.value : RecipientReconciliationState → String
  | .acknowledged => "acknowledged"
  | .retryScheduled => "retry_scheduled"
  | .exhausted => "exhausted"
  | .deadlineExpired => "deadline_expired"
  | .alreadyAcknowledged => "already_acknowledged"
  | .notDue => "not_due"

inductive DispositionNodeKind where
  | original | redaction | thumbnail | ocr | asr | embedding | searchIndex | cache | exported | grant | lease
  | replica | externalRecipient
  deriving DecidableEq, Repr

namespace DispositionNodeKind

def value : DispositionNodeKind → String
  | .original => "original"
  | .redaction => "redaction"
  | .thumbnail => "thumbnail"
  | .ocr => "ocr"
  | .asr => "asr"
  | .embedding => "embedding"
  | .searchIndex => "search_index"
  | .cache => "cache"
  | .exported => "export"
  | .grant => "grant"
  | .lease => "lease"
  | .replica => "replica"
  | .externalRecipient => "external_recipient"

/-- `kind in {EXTERNAL_RECIPIENT, EXPORT, REPLICA}` -/
def isExternal (kind : DispositionNodeKind) : Bool := kind = .externalRecipient || kind = .exported || kind = .replica

/-- `kind in {GRANT, LEASE}` -/
def isGrant (kind : DispositionNodeKind) : Bool := kind = .grant || kind = .lease

end DispositionNodeKind

inductive DispositionNodeStatus where
  | active | restricted | deleted | revoked | retainedException | externalPending | failed
  deriving DecidableEq, Repr

def DispositionNodeStatus.value : DispositionNodeStatus → String
  | .active => "active"
  | .restricted => "restricted"
  | .deleted => "deleted"
  | .revoked => "revoked"
  | .retainedException => "retained_exception"
  | .externalPending => "external_pending"
  | .failed => "failed"

/-- A node of this status keeps a request from being completed. -/
def DispositionNodeStatus.isUnresolved (status : DispositionNodeStatus) : Bool :=
  status = .failed || status = .externalPending || status = .retainedException

/-! ## Records -/

/-- Truth of an optional text: present and not empty. -/
def given (text : Option String) : Bool := text.any (fun t => t ≠ "")

structure DispositionLineageNode (P : Platform) where
  nodeId : UUID
  evidenceId : UUID
  kind : DispositionNodeKind
  targetRef : String
  parentNodeId : Option UUID
  externalRecipientDigest : Option P.Digest
  exceptionReason : Option String
  exceptionExpiresAt : Option DateTime
  createdAt : DateTime
  deriving DecidableEq

structure DispositionRequest (P : Platform) where
  requestId : UUID
  action : DispositionAction
  evidenceIds : List UUID
  subjectDigest : P.Digest
  subjectBasis : String
  actor : String
  reason : String
  deadline : DateTime
  createdAt : DateTime
  status : DispositionRequestStatus := .restricted
  legalExceptionReason : Option String := none
  legalExceptionExpiresAt : Option DateTime := none
  terminalOutcome : Option String := none
  deriving DecidableEq

/-- A row of `disposition_restrictions`. -/
structure Restriction where
  requestId : UUID
  action : DispositionAction
  createdAt : DateTime
  deriving DecidableEq

/-- What `acknowledge_external_recipient` returns; with a recipient it is a row of
    `external_recipient_receipts`. -/
structure ExternalReceipt (P : Platform) where
  receiptId : UUID
  nodeId : UUID
  recipientDigest : Option P.Digest
  actor : String
  createdAt : DateTime
  receiptSha256 : P.Digest
  deriving DecidableEq

structure ExternalRecipientReconciliationAttempt (P : Platform) where
  attemptId : UUID
  requestId : UUID
  nodeId : UUID
  recipientDigest : P.Digest
  attemptNo : Nat
  state : RecipientReconciliationState
  actor : String
  createdAt : DateTime
  nextRetryAt : Option DateTime
  responseCode : Option String
  receiptSha256 : Option P.Digest
  payloadSha256 : P.Digest
  deriving DecidableEq

variable {P : Platform}

namespace DispositionLineageNode

/-- The checks of the model class. -/
def validate (n : DispositionLineageNode P) : Except Error (DispositionLineageNode P) :=
  if isBlank n.targetRef then .error (.validationError "disposition target_ref must not be blank")
  else if n.kind = .externalRecipient && n.externalRecipientDigest.isNone then
    .error (.validationError "external recipient nodes require a recipient digest")
  else if n.exceptionExpiresAt.isSome && !given n.exceptionReason then
    .error (.validationError "retained exception expiry requires an explicit reason")
  else .ok n

/-- An explicit exception is in force. -/
def exempt (n : DispositionLineageNode P) (now : DateTime) : Bool :=
  given n.exceptionReason && n.exceptionExpiresAt.all (fun expiry => expiry > now)

end DispositionLineageNode

namespace DispositionRequest

/-- The checks of the model class. -/
def validate (r : DispositionRequest P) : Except Error (DispositionRequest P) :=
  if !P.isSha256 (P.hexdigest r.subjectDigest) then
    .error (.validationError "subject_digest must be a lowercase SHA-256")
  else if r.evidenceIds.isEmpty then .error (.validationError "disposition request requires evidence scope")
  else if isBlank r.actor || isBlank r.reason || isBlank r.subjectBasis then
    .error (.validationError "disposition request governance fields must not be blank")
  else if r.deadline ≤ r.createdAt then .error (.validationError "disposition deadline must follow creation")
  else if r.legalExceptionExpiresAt.isSome && !given r.legalExceptionReason then
    .error (.validationError "legal exception expiry requires an explicit reason")
  else .ok r

def modelDump (r : DispositionRequest P) : Json := .obj [
  ("action", .str r.action.value),
  ("actor", .str r.actor),
  ("created_at", Dump.time P r.createdAt),
  ("deadline", Dump.time P r.deadline),
  ("evidence_ids", .arr (r.evidenceIds.map Dump.uuid)),
  ("legal_exception_expires_at", Json.optional (Dump.time P) r.legalExceptionExpiresAt),
  ("legal_exception_reason", Json.optional .str r.legalExceptionReason),
  ("reason", .str r.reason),
  ("request_id", Dump.uuid r.requestId),
  ("status", .str r.status.value),
  ("subject_basis", .str r.subjectBasis),
  ("subject_digest", .str (P.hexdigest r.subjectDigest)),
  ("terminal_outcome", Json.optional .str r.terminalOutcome)]

end DispositionRequest

def ExternalReceipt.payload (receipt : ExternalReceipt P) : Json := .obj [
  ("action", .str "deletion_acknowledged"),
  ("actor", .str receipt.actor),
  ("created_at", Dump.time P receipt.createdAt),
  ("node_id", Dump.uuid receipt.nodeId),
  ("receipt_id", Dump.uuid receipt.receiptId),
  ("receipt_sha256", .str (P.hexdigest receipt.receiptSha256)),
  ("recipient_digest", Json.optional (fun digest => .str (P.hexdigest digest)) receipt.recipientDigest)]

/-! ## The tables -/

structure DispositionStore (P : Platform) where
  lineageNodes : List (DispositionLineageNode P) := []
  requests : List (DispositionRequest P) := []
  restrictions : Dict UUID Restriction := Dict.empty
  receipts : List (ExternalReceipt P) := []
  attempts : List (ExternalRecipientReconciliationAttempt P) := []

namespace DispositionStore

/-- `nodes(evidence_id)` -/
def nodes (d : DispositionStore P) (evidenceId : UUID) : List (DispositionLineageNode P) :=
  (d.lineageNodes.filter (fun n => n.evidenceId = evidenceId)).insertionSort
    (fun a b => P.isoformat a.createdAt < P.isoformat b.createdAt ∨
      (P.isoformat a.createdAt = P.isoformat b.createdAt ∧ a.nodeId.str ≤ b.nodeId.str))

/-- `request(request_id)` -/
def request (d : DispositionStore P) (requestId : UUID) : Except Error (DispositionRequest P) :=
  match d.requests.find? (fun r => r.requestId = requestId) with
  | none => .error (.keyError requestId.str)
  | some r => r.validate

def isRestricted (d : DispositionStore P) (evidenceId : UUID) : Bool := (d.restrictions.get? evidenceId).isSome

/-- `_external_ack`: the receipt with the latest text, the first of them stored. -/
def externalAck (d : DispositionStore P) (nodeId : UUID) : Option P.Digest :=
  ((d.receipts.filter (fun r => r.nodeId = nodeId)).foldl (fun best r => match best with
    | some b => if P.isoformat b.createdAt < P.isoformat r.createdAt then some r else some b
    | none => some r) none).map ExternalReceipt.receiptSha256

/-- `external_reconciliation_attempts(request_id)` -/
def externalReconciliationAttempts (d : DispositionStore P) (requestId : UUID) :
    List (ExternalRecipientReconciliationAttempt P) :=
  (d.attempts.filter (fun a => a.requestId = requestId)).insertionSort
    (fun a b => P.isoformat a.createdAt < P.isoformat b.createdAt ∨
      (P.isoformat a.createdAt = P.isoformat b.createdAt ∧ a.attemptId.str ≤ b.attemptId.str))

/-- `UPDATE disposition_requests SET status=?, payload_json=? WHERE request_id=?` -/
def updateRequest (d : DispositionStore P) (requestId : UUID) (updated : DispositionRequest P) : DispositionStore P :=
  { d with requests := d.requests.map (fun r => if r.requestId = requestId then updated else r) }

/-- `INSERT OR IGNORE`: the recipient may not be null. -/
def insertReceipt (d : DispositionStore P) (receipt : ExternalReceipt P) : DispositionStore P :=
  if receipt.recipientDigest.isNone || d.receipts.any (fun r => r.receiptId = receipt.receiptId) then d
  else { d with receipts := d.receipts ++ [receipt] }

/-- `INSERT OR IGNORE`: the id is unique, and so is the number within a request and a node. -/
def insertAttempt (d : DispositionStore P) (attempt : ExternalRecipientReconciliationAttempt P) : DispositionStore P :=
  if d.attempts.any (fun a => a.attemptId = attempt.attemptId ||
      (a.requestId = attempt.requestId && a.nodeId = attempt.nodeId && a.attemptNo = attempt.attemptNo)) then d
  else { d with attempts := d.attempts ++ [attempt] }

theorem mem_nodes {d : DispositionStore P} {evidenceId : UUID} {node : DispositionLineageNode P} :
    node ∈ d.nodes evidenceId ↔ node ∈ d.lineageNodes ∧ node.evidenceId = evidenceId := by
  simp [nodes, List.mem_insertionSort]

/-- A request that is found is stored under its id, and covers an item. -/
theorem request_ok {d : DispositionStore P} {requestId : UUID} {request : DispositionRequest P}
    (found : d.request requestId = .ok request) :
    request ∈ d.requests ∧ request.requestId = requestId ∧ request.evidenceIds ≠ [] := by
  unfold DispositionStore.request at found
  cases stored : d.requests.find? (fun r => r.requestId = requestId) with
  | none =>
      rw [stored] at found
      cases found
  | some r =>
      rw [stored] at found
      have valid : r = request ∧ r.evidenceIds ≠ [] := by
        dsimp only at found
        unfold DispositionRequest.validate at found
        repeat' split at found
        all_goals simp_all
      obtain ⟨rfl, scope⟩ := valid
      exact ⟨List.mem_of_find?_eq_some stored, by simpa using List.find?_some stored, scope⟩

end DispositionStore

/-! ## The service beside the stores it works on -/

/-- What an observer outside the program notes down. -/
inductive Observation (P : Platform) where
  /-- A sender was called for a node of a request. -/
  | contacted (requestId nodeId : UUID) (contactedAt : DateTime)
  /-- `acknowledge_external_recipient` returned. -/
  | acknowledged (receipt : ExternalReceipt P)
  /-- An attempt went to the table of attempts. -/
  | attempted (attempt : ExternalRecipientReconciliationAttempt P)
  /-- A request reached COMPLETED. -/
  | completed (requestId : UUID)

/-- The disposition service with the authority recorder of the journal store. -/
structure PrivacySystem (P : Platform) where
  evidence : EvidenceSystem P
  disposition : DispositionStore P := {}
  observed : List (Observation P) := []

abbrev PrivacyCall (P : Platform) (α : Type) := Call (PrivacySystem P) Error α

/-- A call on the evidence service and its stores. -/
def onEvidence {α : Type} (x : SystemCall P α) : PrivacyCall P α :=
  Call.zoom PrivacySystem.evidence (fun sys e => { sys with evidence := e }) x

theorem onEvidence_of_eq {α : Type} {x : SystemCall P α} {sys : PrivacySystem P} {r : Except Error α} {e : EvidenceSystem P}
    (h : x sys.evidence = (r, e)) : onEvidence x sys = (r, { sys with evidence := e }) :=
  Call.zoom_of_eq h

/-- A statement on the disposition tables. -/
def execute (f : DispositionStore P → DispositionStore P) : PrivacyCall P Unit :=
  Call.modify (fun sys => { sys with disposition := f sys.disposition })

def observe (observation : Observation P) : PrivacyCall P Unit :=
  Call.modify (fun sys => { sys with observed := sys.observed ++ [observation] })

/-- A transaction on the disposition tables; the authority journal has its own. -/
def transaction {α : Type} (x : PrivacyCall P α) : PrivacyCall P α := fun sys => match x sys with
  | (.ok a, t) => (.ok a, t)
  | (.error e, t) => (.error e, { t with disposition := sys.disposition })

namespace PrivacyDispositionService

/-- `_authority` -/
def authority (entityId : UUID) (createdAt : DateTime) (payload : Json) : PrivacyCall P Unit := do
  let _ ← onEvidence (onStore (recordAuthorityMutation (.inl "disposition") entityId.str createdAt payload))
  pure ()

def subjectDigest (P : Platform) (subjectRef : String) : P.Digest :=
  P.sha256Raw ("sentinel-disposition-subject-v1:" ++ subjectRef).toByteArray.data.toList

/-- The arguments of `register_node`. -/
structure NodeArguments where
  evidenceId : UUID
  kind : DispositionNodeKind
  targetRef : String
  parentNodeId : Option UUID := none
  externalRecipient : Option String := none
  exceptionReason : Option String := none
  exceptionExpiresAt : Option DateTime := none
  createdAt : DateTime
  deriving DecidableEq

/-- The node `register_node` builds. -/
def newNode (P : Platform) (arguments : NodeArguments) : DispositionLineageNode P :=
  let recipientDigest :=
    if given arguments.externalRecipient then arguments.externalRecipient.map (subjectDigest P) else none
  { nodeId := P.uuid5 ("sentinel-disposition-node:" ++ P.hexdigest (P.sha256 (.obj [
      ("evidence_id", Dump.uuid arguments.evidenceId),
      ("kind", .str arguments.kind.value),
      ("parent_node_id", Json.optional Dump.uuid arguments.parentNodeId),
      ("recipient_digest", Json.optional (fun digest => .str (P.hexdigest digest)) recipientDigest),
      ("target_ref", .str arguments.targetRef)])))
    evidenceId := arguments.evidenceId
    kind := arguments.kind
    targetRef := arguments.targetRef
    parentNodeId := arguments.parentNodeId
    externalRecipientDigest := recipientDigest
    exceptionReason := arguments.exceptionReason
    exceptionExpiresAt := arguments.exceptionExpiresAt
    createdAt := arguments.createdAt }

def registerNode (arguments : NodeArguments) : PrivacyCall P (DispositionLineageNode P) := do
  let node ← Call.lift (newNode P arguments).validate
  let sys ← Call.read id
  match sys.disposition.lineageNodes.find? (fun n => n.nodeId = node.nodeId) with
  | some existing =>
      if existing ≠ node then Call.raise (.valueError "disposition node identity conflict") else pure existing
  | none => do
      execute (fun d => { d with lineageNodes := d.lineageNodes ++ [node] })
      pure node

/-- The arguments of `create_request`. -/
structure RequestArguments where
  action : DispositionAction
  evidenceIds : List UUID
  subjectRef : String
  subjectBasis : String
  actor : String
  reason : String
  deadline : DateTime
  legalExceptionReason : Option String := none
  legalExceptionExpiresAt : Option DateTime := none
  createdAt : DateTime
  deriving DecidableEq

/-- The request `create_request` builds. -/
def newRequest (P : Platform) (arguments : RequestArguments) : DispositionRequest P where
  requestId := P.uuid5 ("sentinel-disposition-request:" ++ P.hexdigest (P.sha256 (.obj [
    ("action", .str arguments.action.value),
    ("actor", .str arguments.actor),
    ("created_at", Dump.time P arguments.createdAt),
    ("evidence_ids", Dump.texts ((arguments.evidenceIds.map UUID.str).insertionSort (fun a b => a ≤ b))),
    ("reason", .str arguments.reason),
    ("subject_digest", .str (P.hexdigest (subjectDigest P arguments.subjectRef)))])))
  action := arguments.action
  evidenceIds := arguments.evidenceIds.dedup.insertionSort (fun a b => a.str ≤ b.str)
  subjectDigest := subjectDigest P arguments.subjectRef
  subjectBasis := arguments.subjectBasis
  actor := arguments.actor
  reason := arguments.reason
  deadline := arguments.deadline
  createdAt := arguments.createdAt
  legalExceptionReason := arguments.legalExceptionReason
  legalExceptionExpiresAt := arguments.legalExceptionExpiresAt

/-- The rows a new request brings: each of its items is restricted by it, whoever
    restricted it before. -/
def insertRequest (request : DispositionRequest P) (d : DispositionStore P) : DispositionStore P :=
  { d with
    requests := d.requests ++ [request]
    restrictions := request.evidenceIds.foldl (fun rows evidenceId =>
      rows.insert evidenceId ⟨request.requestId, request.action, request.createdAt⟩) d.restrictions }

def createRequest (arguments : RequestArguments) : PrivacyCall P (DispositionRequest P) := do
  let request ← Call.lift (newRequest P arguments).validate
  let sys ← Call.read id
  match sys.disposition.requests.find? (fun r => r.requestId = request.requestId) with
  | some existing => Call.lift existing.validate
  | none => transaction (do
      execute (insertRequest request)
      authority request.requestId request.createdAt request.modelDump
      pure request)

/-- The receipt `acknowledge_external_recipient` builds for a node. -/
def newReceipt (node : DispositionLineageNode P) (actor receipt : String) (createdAt : DateTime) : ExternalReceipt P :=
  let receiptSha256 := P.sha256 (.obj [
    ("actor", .str actor),
    ("created_at", Dump.time P createdAt),
    ("node_id", Dump.uuid node.nodeId),
    ("receipt", .str receipt),
    ("recipient_digest", Json.optional (fun digest => .str (P.hexdigest digest)) node.externalRecipientDigest)])
  { receiptId := P.uuid5 ("sentinel-external-receipt:" ++ P.hexdigest receiptSha256)
    nodeId := node.nodeId
    recipientDigest := node.externalRecipientDigest
    actor := actor
    createdAt := createdAt
    receiptSha256 := receiptSha256 }

def acknowledgeExternalRecipient (nodeId : UUID) (actor receipt : String) (createdAt : DateTime) :
    PrivacyCall P (ExternalReceipt P) := do
  let sys ← Call.read id
  match sys.disposition.lineageNodes.find? (fun n => n.nodeId = nodeId) with
  | none => Call.raise (.keyError nodeId.str)
  | some node =>
      if !node.kind.isExternal then Call.raise (.valueError "node is not an external recipient/export/replica")
      else do
        let row := newReceipt node actor receipt createdAt
        transaction (do
          execute (fun d => d.insertReceipt row)
          authority row.receiptId createdAt row.payload)
        observe (.acknowledged row)
        pure row

/-! ## The authority recorder -/

/-- The journal store after the recorder was called, and what it answered. -/
def recorded (s : Store P) (entityId : UUID) (createdAt : DateTime) (payload : Json) : Except Error Int × Store P :=
  recordAuthorityMutation (.inl "disposition") entityId.str createdAt payload s

theorem authority_eq (entityId : UUID) (createdAt : DateTime) (payload : Json) (sys : PrivacySystem P) :
    authority entityId createdAt payload sys =
      ((recorded sys.evidence.store entityId createdAt payload).1.map (fun _ => ()),
        { sys with evidence := { sys.evidence with store :=
          (recorded sys.evidence.store entityId createdAt payload).2 } }) := by
  unfold authority recorded
  rcases call : recordAuthorityMutation (.inl "disposition") entityId.str createdAt payload sys.evidence.store with ⟨r, s⟩
  have lifted : onEvidence (onStore (recordAuthorityMutation (.inl "disposition") entityId.str createdAt payload)) sys =
      (r, { sys with evidence := { sys.evidence with store := s } }) :=
    onEvidence_of_eq (onStore_of_eq call)
  cases r with
  | error e => exact Call.bind_of_error lifted
  | ok position => exact Call.bind_of_ok lifted

/-- The recorder writes to the authority journal and to nothing else. -/
theorem recorded_domain (s : Store P) (entityId : UUID) (createdAt : DateTime) (payload : Json) :
    (recorded s entityId createdAt payload).2.domain = s.domain := by
  have resolved : AuthorityMutationKind.ofValue "disposition" = some .disposition := by decide
  simp only [recorded, recordAuthorityMutation, resolved]
  rcases call : Call.atomically (appendAuthority .disposition entityId.str createdAt payload : StoreCall P Int) s with ⟨r, t⟩
  cases r with
  | error e => rw [Call.atomically_error call]
  | ok position => exact domain_of_append (Call.atomically_ok.mp call)

/-- In a represented store the recorder never raises. -/
theorem recorded_ok {s : Store P} {log : List Mutation} (rep : Represents s log) (entityId : UUID) (createdAt : DateTime)
    (payload : Json) :
    ∃ position t, recorded s entityId createdAt payload = (.ok position, t) ∧ ∃ more, Represents t (log ++ more) := by
  have resolved : AuthorityMutationKind.ofValue "disposition" = some .disposition := by decide
  have appended := appendAuthority_of_represents rep .disposition entityId.str createdAt payload
  have returned : recorded s entityId createdAt payload =
      (.ok ((log.length : Int) + 1), s.journalled ⟨.disposition, entityId.str, createdAt, payload⟩) := by
    simp only [recorded, recordAuthorityMutation, resolved]
    exact Call.atomically_of_ok appended
  exact ⟨_, _, returned, _, rep.journalled ⟨.disposition, entityId.str, createdAt, payload⟩⟩

end PrivacyDispositionService

end SentinelEdge.Privacy
