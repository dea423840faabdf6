import SentinelEdge.Evidence.Deletion
import SentinelEdge.Privacy.Disposition

/-! # Closing a disposition request

Closing walks the lineage of every covered item. What becomes of a node is decided
by its own fields, by the catalog and by the receipts; the action of the request is
asked for only after the nodes of an item, where an erasure deletes the item too.
-/

namespace SentinelEdge.Privacy

open Foundation Domain Storage Evidence EvidenceTrustService

structure DispositionNodeResult where
  nodeId : UUID
  evidenceId : UUID
  kind : DispositionNodeKind
  status : DispositionNodeStatus
  targetDigest : String
  reasonCodes : List String
  updatedAt : DateTime
  receiptSha256 : Option String := none
  deriving DecidableEq

structure DispositionReport (P : Platform) where
  requestId : UUID
  status : DispositionRequestStatus
  completed : Nat
  retainedByException : Nat
  externalRecipientPending : Nat
  failed : Nat
  restricted : Nat
  nodeResults : List DispositionNodeResult
  subjectDigest : P.Digest
  deadline : DateTime
  terminalOutcome : String
  generatedAt : DateTime
  deriving DecidableEq

variable {P : Platform}

namespace DispositionNodeResult

def modelDump (P : Platform) (r : DispositionNodeResult) : Json := .obj [
  ("evidence_id", Dump.uuid r.evidenceId),
  ("kind", .str r.kind.value),
  ("node_id", Dump.uuid r.nodeId),
  ("reason_codes", Dump.texts r.reasonCodes),
  ("receipt_sha256", Json.optional .str r.receiptSha256),
  ("status", .str r.status.value),
  ("target_digest", .str r.targetDigest),
  ("updated_at", Dump.time P r.updatedAt)]

end DispositionNodeResult

namespace DispositionReport

/-- `report_base` -/
def base (r : DispositionReport P) : List (String × Json) := [
  ("completed", .int r.completed),
  ("deadline", Dump.time P r.deadline),
  ("external_recipient_pending", .int r.externalRecipientPending),
  ("failed", .int r.failed),
  ("generated_at", Dump.time P r.generatedAt),
  ("node_results", .arr (r.nodeResults.map (DispositionNodeResult.modelDump P))),
  ("request_id", Dump.uuid r.requestId),
  ("restricted", .int r.restricted),
  ("retained_by_exception", .int r.retainedByException),
  ("status", .str r.status.value),
  ("subject_digest", .str (P.hexdigest r.subjectDigest)),
  ("terminal_outcome", .str r.terminalOutcome)]

/-- The report with `report_sha256`, which is a digest of the rest. -/
def modelDump (r : DispositionReport P) : Json :=
  .obj (r.base.takeWhile (fun field => field.1 < "report_sha256") ++
    ("report_sha256", .str (P.hexdigest (P.sha256 (.obj r.base)))) ::
    r.base.dropWhile (fun field => field.1 < "report_sha256"))

end DispositionReport

/-- What follows the marker at the start of a target, `target_ref.split(":", 1)[1]`. -/
def targetAfter (marker target : String) : Option String :=
  if marker.toList.isPrefixOf target.toList then some (String.ofList (target.toList.drop marker.length)) else none

namespace PrivacyDispositionService

/-- What closing draws: the clock where the references of a node are checked and
    where its deletion is recorded, and what the transition of an item draws. -/
structure CloseDraws where
  checkedAt : UUID → DateTime
  recordedAt : UUID → DateTime
  transition : UUID → Drawn

/-- What becomes of a node: its status, the reasons and a receipt. -/
abbrev Outcome := DispositionNodeStatus × List String × Option String

/-- The outcome of deleting an artifact. -/
def artifactOutcome : Except Error DeletionReceipt → Outcome
  | .ok receipt => (.deleted, ["local_artifact_deleted"], some receipt.deletionProofSha256)
  | .error (.permissionError message) => (.retainedException, ["artifact_retained:" ++ message], none)
  | .error e => (.failed, ["artifact_deletion_failed:" ++ e.typeName], none)

/-- The branches of the loop over the nodes. -/
def settleNode (d : DispositionStore P) (actor : String) (now : DateTime) (draws : CloseDraws)
    (node : DispositionLineageNode P) : SystemCall P Outcome :=
  if node.exempt now then pure (.retainedException, ["explicit_retained_exception"], none)
  else if node.kind.isExternal then match d.externalAck node.nodeId with
    | some receipt => pure (.deleted, ["external_deletion_acknowledged"], some (P.hexdigest receipt))
    | none => pure (.externalPending, ["external_recipient_pending"], none)
  else if node.kind.isGrant then match targetAfter "artifact-reference:" node.targetRef with
    | some reference => do
        onArtifacts (Call.modify (fun a => { a with catalog := a.catalog.removeReference reference }))
        pure (.revoked, ["artifact_reference_revoked"], none)
    | none => pure (.revoked, ["logical_grant_revoked"], none)
  else match targetAfter "artifact-sha256:" node.targetRef with
    | some digest => do
        let deletion ← Call.attempt (onArtifacts (ContentAddressedArtifactStore.deleteDigest digest actor true false
          (draws.checkedAt node.nodeId) (draws.recordedAt node.nodeId)))
        pure (artifactOutcome deletion)
    | none => pure (.deleted, ["logical_descendant_removed"], none)

def nodeResult (P : Platform) (node : DispositionLineageNode P) (now : DateTime) (outcome : Outcome) :
    DispositionNodeResult where
  nodeId := node.nodeId
  evidenceId := node.evidenceId
  kind := node.kind
  status := outcome.1
  targetDigest := P.sha256Text node.targetRef
  reasonCodes := outcome.2.1
  updatedAt := now
  receiptSha256 := outcome.2.2

def closeNodes (d : DispositionStore P) (actor : String) (now : DateTime) (draws : CloseDraws) :
    List (DispositionLineageNode P) → SystemCall P (List DispositionNodeResult)
  | [] => pure []
  | node :: nodes => do
      let outcome ← settleNode d actor now draws node
      let rest ← closeNodes d actor now draws nodes
      pure (nodeResult P node now outcome :: rest)

/-- The transition an erasure asks for. -/
def erasureRequest (request : DispositionRequest P) (evidenceId : UUID) (version : Int) (now : DateTime) :
    TransitionRequest where
  evidenceId := evidenceId
  toState := .deleted
  expectedVersion := version
  actor := request.actor
  reason := request.reason
  now := now

/-- The body of the `try` that deletes an item. -/
def eraseEvidence (request : DispositionRequest P) (now : DateTime) (draws : CloseDraws) (evidenceId : UUID) :
    SystemCall P Unit := do
  let sys ← Call.read id
  let projection ← Call.lift (sys.store.lifecycleProjection evidenceId (draws.transition evidenceId).projectedAt)
  if projection.state ≠ .deleted then do
    let _ ← transition (erasureRequest request evidenceId projection.version now) (draws.transition evidenceId)
    pure ()
  else pure ()

/-- The result that reports a failed erasure under an id of its own. -/
def erasureFailure (P : Platform) (requestId evidenceId : UUID) (now : DateTime) (e : Error) : DispositionNodeResult where
  nodeId := P.uuid5 ("sentinel-disposition-evidence-failure:" ++ requestId.str ++ ":" ++ evidenceId.str)
  evidenceId := evidenceId
  kind := .original
  status := .failed
  targetDigest := P.sha256Text ("evidence:" ++ evidenceId.str)
  reasonCodes := ["evidence_lifecycle_delete_failed:" ++ e.typeName]
  updatedAt := now

/-- What the `try` adds to the results. -/
def closeErasure (request : DispositionRequest P) (now : DateTime) (draws : CloseDraws) (evidenceId : UUID) :
    SystemCall P (List DispositionNodeResult) := do
  let erased ← Call.attempt (eraseEvidence request now draws evidenceId)
  match erased with
  | .ok _ => pure []
  | .error e => pure [erasureFailure P request.requestId evidenceId now e]

/-- The loop over the covered items. -/
def closeItems (d : DispositionStore P) (request : DispositionRequest P) (now : DateTime) (draws : CloseDraws) :
    List UUID → SystemCall P (List DispositionNodeResult)
  | [] => pure []
  | evidenceId :: evidenceIds => do
      let results ← closeNodes d request.actor now draws (d.nodes evidenceId)
      let failures ← if request.action = .erase then closeErasure request now draws evidenceId else pure []
      let rest ← closeItems d request now draws evidenceIds
      pure (results ++ failures ++ rest)

/-- `sum(item.status is status for item in results)` -/
def countStatus (status : DispositionNodeStatus) (results : List DispositionNodeResult) : Nat :=
  results.countP (fun r => r.status = status)

/-- The status and the terminal outcome that the results give a request. -/
def closureOutcome (results : List DispositionNodeResult) : DispositionRequestStatus × String :=
  if countStatus .failed results ≠ 0 then (.failed, "closure_failed")
  else if countStatus .externalPending results ≠ 0 then (.externalRecipientPending, "external_recipients_unresolved")
  else if countStatus .retainedException results ≠ 0 then (.retainedException, "retained_by_explicit_exception")
  else (.completed, "closure_complete")

def closureReport (request : DispositionRequest P) (now : DateTime) (results : List DispositionNodeResult) :
    DispositionReport P where
  requestId := request.requestId
  status := (closureOutcome results).1
  completed := countStatus .deleted results + countStatus .revoked results
  retainedByException := countStatus .retainedException results
  externalRecipientPending := countStatus .externalPending results
  failed := countStatus .failed results
  restricted := countStatus .restricted results
  nodeResults := results
  subjectDigest := request.subjectDigest
  deadline := request.deadline
  terminalOutcome := (closureOutcome results).2
  generatedAt := now

/-- `DELETE FROM disposition_restrictions` for every covered item. -/
def liftRestrictions (request : DispositionRequest P) (d : DispositionStore P) : DispositionStore P :=
  { d with restrictions := d.restrictions.restrict (fun evidenceId => evidenceId ∉ request.evidenceIds) }

/-- The last transaction: the status of the request and the report in the journal. -/
def fileReport (request : DispositionRequest P) (requestId : UUID) (now : DateTime) (report : DispositionReport P) :
    PrivacyCall P (DispositionReport P) := do
  transaction (do
    execute (fun d => d.updateRequest requestId
      { request with status := report.status, terminalOutcome := some report.terminalOutcome })
    authority requestId now report.modelDump)
  if report.status = .completed then observe (.completed requestId) else pure ()
  pure report

def close (requestId : UUID) (now : DateTime) (draws : CloseDraws) : PrivacyCall P (DispositionReport P) := do
  let sys ← Call.read id
  let request ← Call.lift (sys.disposition.request requestId)
  execute (fun d => d.updateRequest requestId { request with status := .inProgress })
  let results ← onEvidence (closeItems sys.disposition request now draws request.evidenceIds)
  let report := closureReport request now results
  execute (fun d => if report.status = .completed then liftRestrictions request d else d)
  fileReport request requestId now report

end PrivacyDispositionService

end SentinelEdge.Privacy
