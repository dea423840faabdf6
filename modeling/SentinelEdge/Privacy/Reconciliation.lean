import SentinelEdge.Privacy.Disposition

/-! # Reconciling external recipients

One call tries every external node of a request once. What is next for a node is
read off its attempts so far, the receipts, the deadline and the clock; only a step
that is due calls the sender.
-/

namespace SentinelEdge.Privacy

open Foundation Domain Storage Evidence

variable {P : Platform}

structure ExternalRecipientReconciliationReport (P : Platform) where
  requestId : UUID
  generatedAt : DateTime
  attempts : List (ExternalRecipientReconciliationAttempt P)
  acknowledged : Nat
  retryScheduled : Nat
  exhausted : Nat
  deadlineExpired : Nat
  pending : Nat
  complete : Bool

namespace ExternalRecipientReconciliationAttempt

/-- `base`, the fields the digest is taken of. -/
def base (a : ExternalRecipientReconciliationAttempt P) : List (String × Json) := [
  ("actor", .str a.actor),
  ("attempt_no", .int a.attemptNo),
  ("created_at", Dump.time P a.createdAt),
  ("next_retry_at", Json.optional (Dump.time P) a.nextRetryAt),
  ("node_id", Dump.uuid a.nodeId),
  ("receipt_sha256", Json.optional (fun digest => .str (P.hexdigest digest)) a.receiptSha256),
  ("recipient_digest", .str (P.hexdigest a.recipientDigest)),
  ("request_id", Dump.uuid a.requestId),
  ("response_code", Json.optional .str a.responseCode),
  ("state", .str a.state.value)]

def modelDump (a : ExternalRecipientReconciliationAttempt P) : Json := .obj [
  ("actor", .str a.actor),
  ("attempt_id", Dump.uuid a.attemptId),
  ("attempt_no", .int a.attemptNo),
  ("created_at", Dump.time P a.createdAt),
  ("next_retry_at", Json.optional (Dump.time P) a.nextRetryAt),
  ("node_id", Dump.uuid a.nodeId),
  ("payload_sha256", .str (P.hexdigest a.payloadSha256)),
  ("receipt_sha256", Json.optional (fun digest => .str (P.hexdigest digest)) a.receiptSha256),
  ("recipient_digest", .str (P.hexdigest a.recipientDigest)),
  ("request_id", Dump.uuid a.requestId),
  ("response_code", Json.optional .str a.responseCode),
  ("state", .str a.state.value)]

/-- The attempt with the digest of its fields and the id made from that. -/
def sealed (a : ExternalRecipientReconciliationAttempt P) : ExternalRecipientReconciliationAttempt P :=
  let digest := P.sha256 (.obj a.base)
  { a with
    attemptId := P.uuid5 ("sentinel-recipient-reconciliation:" ++ P.hexdigest digest)
    payloadSha256 := digest }

end ExternalRecipientReconciliationAttempt

namespace ExternalRecipientReconciliationReport

def base (r : ExternalRecipientReconciliationReport P) : List (String × Json) := [
  ("acknowledged", .int r.acknowledged),
  ("attempts", .arr (r.attempts.map ExternalRecipientReconciliationAttempt.modelDump)),
  ("complete", .bool r.complete),
  ("deadline_expired", .int r.deadlineExpired),
  ("exhausted", .int r.exhausted),
  ("generated_at", Dump.time P r.generatedAt),
  ("pending", .int r.pending),
  ("request_id", Dump.uuid r.requestId),
  ("retry_scheduled", .int r.retryScheduled)]

def modelDump (r : ExternalRecipientReconciliationReport P) : Json :=
  .obj (r.base.takeWhile (fun field => field.1 < "report_sha256") ++
    ("report_sha256", .str (P.hexdigest (P.sha256 (.obj r.base)))) ::
    r.base.dropWhile (fun field => field.1 < "report_sha256"))

end ExternalRecipientReconciliationReport

namespace PrivacyDispositionService

/-- What a sender does on one call: it answers, or raises an exception of some class. -/
abbrev SenderAnswer := Except String (Bool × String)

/-- What is next for a node. -/
inductive NextStep (P : Platform) where
  | alreadyAcknowledged
  | settled (last : ExternalRecipientReconciliationAttempt P)
  | deadlineExpired
  | notDue (last : ExternalRecipientReconciliationAttempt P)
  | contact

/-- No further attempt follows. -/
def isSettled (state : RecipientReconciliationState) : Bool := state = .exhausted || state = .deadlineExpired

/-- The branches of the loop over the nodes, from the last attempt in the order of the
    stored timestamps. -/
def nextStep (deadline now : DateTime) (acknowledged : Bool)
    (last : Option (ExternalRecipientReconciliationAttempt P)) : NextStep P :=
  if acknowledged then .alreadyAcknowledged
  else match last with
    | some attempt =>
        if isSettled attempt.state then .settled attempt
        else if now ≥ deadline then .deadlineExpired
        else if attempt.nextRetryAt.any (fun due => due > now) then .notDue attempt
        else .contact
    | none => if now ≥ deadline then .deadlineExpired else .contact

/-- The limits of a reconciliation. -/
structure Limits where
  maxAttempts : Int := 3
  retryDelaySeconds : Int := 300
  deriving DecidableEq

/-- The attempt of a node in this call, before what the branch sets. -/
def newAttempt (requestId : UUID) (node : DispositionLineageNode P) (recipientDigest : P.Digest) (actor : String)
    (now : DateTime) (attemptNo : Nat) (state : RecipientReconciliationState) :
    ExternalRecipientReconciliationAttempt P where
  attemptId := requestId
  requestId := requestId
  nodeId := node.nodeId
  recipientDigest := recipientDigest
  attemptNo := attemptNo
  state := state
  actor := actor
  createdAt := now
  nextRetryAt := none
  responseCode := none
  receiptSha256 := none
  payloadSha256 := recipientDigest

/-- `t + timedelta(seconds=seconds)` -/
def addSeconds (t : DateTime) (seconds : Int) : Except Error DateTime :=
  if t + seconds * 1000000 > DateTime.max then .error .overflowError else .ok (t + seconds * 1000000)

/-- The attempt goes to the table and to the authority journal. -/
def recordAttempt (attempt : ExternalRecipientReconciliationAttempt P) :
    PrivacyCall P (ExternalRecipientReconciliationAttempt P) := do
  transaction (do
    execute (fun d => d.insertAttempt attempt)
    authority attempt.attemptId attempt.createdAt attempt.modelDump)
  observe (.attempted attempt)
  pure attempt

/-- `success, response_code = sender(node)`, where an exception is a refusal. -/
def ask (sender : DispositionLineageNode P → SenderAnswer) (node : DispositionLineageNode P) : Bool × String :=
  match sender node with
  | .ok answer => answer
  | .error name => (false, "sender_exception:" ++ name)

/-- The step of a node that is due. -/
def contact (limits : Limits) (sender : DispositionLineageNode P → SenderAnswer) (node : DispositionLineageNode P)
    (attempt : ExternalRecipientReconciliationAttempt P) : PrivacyCall P (ExternalRecipientReconciliationAttempt P) := do
  observe (.contacted attempt.requestId attempt.nodeId attempt.createdAt)
  let answer := ask sender node
  let answered := { attempt with responseCode := some answer.2 }
  if answer.1 then do
    let receipt ← acknowledgeExternalRecipient node.nodeId attempt.actor
      (if answer.2 = "" then "recipient_acknowledged" else answer.2) attempt.createdAt
    recordAttempt
      ({ answered with state := .acknowledged, receiptSha256 := some receipt.receiptSha256 } :
        ExternalRecipientReconciliationAttempt P).sealed
  else if (attempt.attemptNo : Int) ≥ limits.maxAttempts then
    recordAttempt ({ answered with state := .exhausted } : ExternalRecipientReconciliationAttempt P).sealed
  else do
    let due ← Call.lift (addSeconds attempt.createdAt limits.retryDelaySeconds)
    recordAttempt
      ({ answered with state := .retryScheduled, nextRetryAt := some due } :
        ExternalRecipientReconciliationAttempt P).sealed

/-- One turn of the loop over the nodes. -/
def reconcileNode (limits : Limits) (request : DispositionRequest P) (requestId : UUID)
    (sender : DispositionLineageNode P → SenderAnswer) (actor : String) (now : DateTime) (node : DispositionLineageNode P) :
    PrivacyCall P (ExternalRecipientReconciliationAttempt P) :=
  match node.externalRecipientDigest with
  | none => Call.raise (.valueError "external reconciliation requires a recipient digest")
  | some recipientDigest => do
      let sys ← Call.read id
      let acknowledged := sys.disposition.externalAck node.nodeId
      let previous := (sys.disposition.externalReconciliationAttempts requestId).filter (fun a => a.nodeId = node.nodeId)
      let attempt := newAttempt requestId node recipientDigest actor now
      -- projections are reported and not stored
      match nextStep request.deadline now acknowledged.isSome previous.getLast? with
      | .alreadyAcknowledged => pure ({ attempt (previous.length + 1) .alreadyAcknowledged with
          receiptSha256 := acknowledged } : ExternalRecipientReconciliationAttempt P).sealed
      | .settled last => pure ({ attempt last.attemptNo last.state with responseCode := last.responseCode } :
          ExternalRecipientReconciliationAttempt P).sealed
      | .notDue last => pure ({ attempt last.attemptNo .notDue with nextRetryAt := last.nextRetryAt } :
          ExternalRecipientReconciliationAttempt P).sealed
      | .deadlineExpired => recordAttempt (attempt (previous.length + 1) .deadlineExpired).sealed
      | .contact => contact limits sender node (attempt (previous.length + 1) .retryScheduled)

def reconcileNodes (limits : Limits) (request : DispositionRequest P) (requestId : UUID)
    (sender : DispositionLineageNode P → SenderAnswer) (actor : String) (now : DateTime) :
    List (DispositionLineageNode P) → PrivacyCall P (List (ExternalRecipientReconciliationAttempt P))
  | [] => pure []
  | node :: nodes => do
      let attempt ← reconcileNode limits request requestId sender actor now node
      let rest ← reconcileNodes limits request requestId sender actor now nodes
      pure (attempt :: rest)

/-- The external nodes in scope, by their ids. -/
def externalNodes (d : DispositionStore P) (request : DispositionRequest P) : List (DispositionLineageNode P) :=
  ((request.evidenceIds.dedup.flatMap d.nodes).filter (fun n => n.kind.isExternal)).insertionSort
    (fun a b => a.nodeId.str ≤ b.nodeId.str)

def reconciliationReport (requestId : UUID) (now : DateTime) (attempts : List (ExternalRecipientReconciliationAttempt P)) :
    ExternalRecipientReconciliationReport P :=
  let count (states : List RecipientReconciliationState) := attempts.countP (fun a => a.state ∈ states)
  let retries := count [.retryScheduled, .notDue]
  let pending := retries + count [.exhausted] + count [.deadlineExpired]
  { requestId := requestId
    generatedAt := now
    attempts := attempts
    acknowledged := count [.acknowledged, .alreadyAcknowledged]
    retryScheduled := retries
    exhausted := count [.exhausted]
    deadlineExpired := count [.deadlineExpired]
    pending := pending
    complete := pending = 0 }

def reconcileExternalRecipients (limits : Limits) (requestId : UUID) (sender : DispositionLineageNode P → SenderAnswer)
    (actor : String) (now : DateTime) : PrivacyCall P (ExternalRecipientReconciliationReport P) :=
  if limits.maxAttempts ≤ 0 || limits.retryDelaySeconds ≤ 0 then
    Call.raise (.valueError "reconciliation attempt and retry limits must be positive")
  else if isBlank actor then Call.raise (.valueError "reconciliation actor is required")
  else do
    let sys ← Call.read id
    let request ← Call.lift (sys.disposition.request requestId)
    let attempts ← reconcileNodes limits request requestId sender actor now (externalNodes sys.disposition request)
    let report := reconciliationReport requestId now attempts
    authority requestId now (.obj [("external_recipient_reconciliation", report.modelDump)])
    pure report

end PrivacyDispositionService

end SentinelEdge.Privacy
