import Mathlib.Data.List.Infix
import SentinelEdge.Security.KeyLifecycle

/-! # Signed checkpoints of the authority journal

`AuditCheckpointService` digests a contiguous journal prefix into a chain, signs
the root with an active key and keeps the checkpoint; `verify` recomputes the
chain from the entries it is shown and asks the key registry about the signature
at the time of signing.
-/

namespace SentinelEdge.Audit

open Foundation Domain Security

structure AuthorityMutation where
  position : Int
  kind : AuthorityMutationKind
  entityId : String
  acceptedAt : DateTime
  payload : Json
  /-- `Field(ge=1)` -/
  positive : 1 ≤ position

/-- `NON_FORENSIC_WORDING` -/
def nonForensicWording : String :=
  "Tamper-evident local journal checkpoint only. It does not prove that a sensor, " ++
    "external report, physical event, or operator statement was truthful."

variable {P : Platform}

/-- `_entry_payload` -/
def entryPayload (P : Platform) (entry : AuthorityMutation) : Json := .obj [
  ("accepted_at", Dump.time P entry.acceptedAt),
  ("entity_id", .str entry.entityId),
  ("kind", .str entry.kind.value),
  ("payload_sha256", .str (P.hexdigest (P.sha256 entry.payload))),
  ("position", .int entry.position)]

/-- The entry as the transcript lists it, between the digests before and after. -/
def transcriptEntry (P : Platform) (entry : AuthorityMutation) (predecessor digest : P.Digest) : Json := .obj [
  ("accepted_at", Dump.time P entry.acceptedAt),
  ("entity_id", .str entry.entityId),
  ("entry_chain_sha256", .str (P.hexdigest digest)),
  ("kind", .str entry.kind.value),
  ("payload_sha256", .str (P.hexdigest (P.sha256 entry.payload))),
  ("position", .int entry.position),
  ("predecessor_sha256", .str (P.hexdigest predecessor))]

/-- The loop of `authority_chain`: the last digest and the transcript. -/
def chainFrom (P : Platform) (previous : P.Digest) : List AuthorityMutation → P.Digest × List Json
  | [] => (previous, [])
  | entry :: rest =>
      let digest := P.sha256Chained previous (entryPayload P entry)
      ((chainFrom P digest rest).1, transcriptEntry P entry previous digest :: (chainFrom P digest rest).2)

/-- `sorted(entries, key=lambda item: item.position)` -/
def byPosition (entries : List AuthorityMutation) : List AuthorityMutation :=
  entries.insertionSort (fun a b => a.position ≤ b.position)

/-- `list(range(1, head + 1))` -/
def positionsUpTo (head : Int) : List Int := (List.range head.toNat).map (fun i : Nat => (i : Int) + 1)

/-- `authority_chain` -/
def authorityChain (P : Platform) (entries : List AuthorityMutation) : Except Error (P.Digest × List Json) :=
  match (byPosition entries).getLast? with
  | none => .error (.valueError "audit checkpoint requires at least one authority mutation")
  | some last =>
      if (byPosition entries).map AuthorityMutation.position ≠ positionsUpTo last.position then
        .error (.valueError "authority checkpoint prefix must be contiguous from position 1")
      else .ok (chainFrom P P.zeroDigest (byPosition entries))

structure AuditCheckpoint (P : Platform) where
  schemaId : String := "sentinel-edge-audit-checkpoint/1.0"
  checkpointId : UUID
  createdAt : DateTime
  authorityEpochId : String
  firstPosition : Int
  headPosition : Int
  entryCount : Int
  chainRootSha256 : P.Digest
  transcriptSha256 : P.Digest
  signerIdentityId : String
  signerGeneration : Int
  signerPolicyVersion : String
  verificationPolicy : String
  signerStateAtSigning : String
  nonForensicWording : String := Audit.nonForensicWording
  payloadSha256 : P.Digest
  signatureB64 : String
  deriving DecidableEq

namespace AuditCheckpoint

/-- `_signable_payload(model_dump(mode="json"))`: all fields but the payload
    digest and the signature. -/
def unsigned (c : AuditCheckpoint P) : Json := .obj [
  ("authority_epoch_id", .str c.authorityEpochId),
  ("chain_root_sha256", .str (P.hexdigest c.chainRootSha256)),
  ("checkpoint_id", Dump.uuid c.checkpointId),
  ("created_at", Dump.time P c.createdAt),
  ("entry_count", .int c.entryCount),
  ("first_position", .int c.firstPosition),
  ("head_position", .int c.headPosition),
  ("non_forensic_wording", .str c.nonForensicWording),
  ("schema_id", .str c.schemaId),
  ("signer_generation", .int c.signerGeneration),
  ("signer_identity_id", .str c.signerIdentityId),
  ("signer_policy_version", .str c.signerPolicyVersion),
  ("signer_state_at_signing", .str c.signerStateAtSigning),
  ("transcript_sha256", .str (P.hexdigest c.transcriptSha256)),
  ("verification_policy", .str c.verificationPolicy)]

/-- `"does not prove" in wording.lower()`, on the UTF-8 bytes of both texts. -/
def keepsWording (P : Platform) (wording : String) : Bool :=
  "does not prove".toByteArray.data.toList <:+: (P.lower wording).toByteArray.data.toList

/-- The validators of `AuditCheckpoint`. -/
def validate (c : AuditCheckpoint P) : Except Error (AuditCheckpoint P) :=
  if c.firstPosition < 1 || c.headPosition < 1 || c.entryCount < 1 || c.signerGeneration < 1 then
    .error (.validationError "positions, counts and generations must be at least 1")
  else if c.firstPosition ≠ 1 || c.entryCount ≠ c.headPosition then
    .error (.validationError "audit checkpoint must close a contiguous journal prefix from position 1")
  else if !keepsWording P c.nonForensicWording then
    .error (.validationError "audit checkpoint must retain non-forensic wording")
  else .ok c

/-- The generation that signed the checkpoint. -/
def signer (c : AuditCheckpoint P) : KeyRef := ⟨c.signerIdentityId, c.signerGeneration, .auditSigning⟩

end AuditCheckpoint

structure AuditCheckpointVerification where
  valid : Bool
  checkpointId : UUID
  headPosition : Int
  chainValid : Bool
  signature : SignatureVerification
  failures : List String
  nonForensicWording : String

/-- The table `audit_checkpoints`. -/
structure AuditStore (P : Platform) where
  auditCheckpoints : List (AuditCheckpoint P) := []

def auditCheckpointsTable : Table (AuditStore P) (AuditCheckpoint P) where
  rows := AuditStore.auditCheckpoints
  setRows _ rows := ⟨rows⟩
  clash row old := row.checkpointId = old.checkpointId ||
    (row.headPosition = old.headPosition && row.signerIdentityId = old.signerIdentityId &&
      row.signerGeneration = old.signerGeneration)

/-- The arguments of `create`, with the clock's time where `created_at` is not
    given. -/
structure CheckpointRequest where
  entries : List AuthorityMutation
  authorityEpochId : String
  signerIdentityId : String
  signerGeneration : Int
  privateKey : List UInt8
  createdAt : DateTime
  verificationPolicy : String := "audit-checkpoint-policy-v1"

namespace AuditCheckpointService

/-- The digest of this document names the checkpoint. -/
def seed (request : CheckpointRequest) (head : Int) (root : P.Digest) : Json := .obj [
  ("authority_epoch_id", .str request.authorityEpochId),
  ("chain_root_sha256", .str (P.hexdigest root)),
  ("created_at", Dump.time P request.createdAt),
  ("head_position", .int head),
  ("signer_generation", .int request.signerGeneration),
  ("signer_identity_id", .str request.signerIdentityId)]

/-- The checkpoint `create` signs, over the chain it computed. -/
def signedCheckpoint (request : CheckpointRequest) (record : KeyIdentityRecord P) (root : P.Digest)
    (transcript : List Json) : AuditCheckpoint P :=
  let ordered := byPosition request.entries
  let head := (ordered.getLast?.map AuthorityMutation.position).getD 0
  let unsigned : AuditCheckpoint P := {
    checkpointId := P.uuid5 ("sentinel-audit-checkpoint:" ++ P.hexdigest (P.sha256 (seed request head root)))
    createdAt := request.createdAt
    authorityEpochId := request.authorityEpochId
    firstPosition := 1
    headPosition := head
    entryCount := ordered.length
    chainRootSha256 := root
    transcriptSha256 := P.sha256 (.arr transcript)
    signerIdentityId := request.signerIdentityId
    signerGeneration := request.signerGeneration
    signerPolicyVersion := record.policyVersion
    verificationPolicy := request.verificationPolicy
    signerStateAtSigning := record.state.value
    payloadSha256 := P.zeroDigest
    signatureB64 := "" }
  { unsigned with
    payloadSha256 := P.sha256 unsigned.unsigned
    signatureB64 := P.ed25519Sign request.privateKey (P.canonicalJsonBytes unsigned.unsigned) }

/-- The transaction of `create`. -/
def record (checkpoint : AuditCheckpoint P) : Call (AuditStore P) Error (AuditCheckpoint P) :=
  Call.atomically do
    let existing ← Call.read (fun s => s.auditCheckpoints.find? (fun c => c.checkpointId = checkpoint.checkpointId))
    match existing with
    | some observed =>
        if observed ≠ checkpoint then Call.raise (.valueError "audit checkpoint identity conflict")
        else pure observed
    | none => do
        auditCheckpointsTable.insert (.integrityError "audit_checkpoints") checkpoint
        pure checkpoint

def create (registry : KeyLifecycleRegistry P) (request : CheckpointRequest) :
    Call (AuditStore P) Error (AuditCheckpoint P) := do
  let signer ← Call.lift
    (registry.signingAllowed ⟨request.signerIdentityId, request.signerGeneration, .auditSigning⟩ request.createdAt)
  let chain ← Call.lift (authorityChain P request.entries)
  if request.privateKey.length ≠ 32 then Call.raise (.valueError "Ed25519 private key must contain 32 raw bytes")
  else do
    let checkpoint ← Call.lift (signedCheckpoint request signer chain.1 chain.2).validate
    record checkpoint

/-- The journal prefix a checkpoint is about. -/
def prefixOf (c : AuditCheckpoint P) (entries : List AuthorityMutation) : List AuthorityMutation :=
  (byPosition entries).filter (fun item => item.position ≤ c.headPosition)

/-- The failures of the chain check of `verify`. -/
def chainFailures (c : AuditCheckpoint P) (entries : List AuthorityMutation) : List String :=
  match authorityChain P (prefixOf c entries) with
  | .error (.valueError message) => ["journal_prefix_invalid:" ++ message]
  | .error _ => ["journal_prefix_invalid:"]
  | .ok (root, transcript) =>
      (if ((prefixOf c entries).length : Int) ≠ c.entryCount then ["journal_prefix_truncated"] else []) ++
      (if root ≠ c.chainRootSha256 then ["journal_prefix_substituted"] else []) ++
      (if P.sha256 (.arr transcript) ≠ c.transcriptSha256 then ["journal_transcript_digest_mismatch"] else [])

/-- The question `verify` puts to the key registry. -/
def signatureOf (registry : KeyLifecycleRegistry P) (c : AuditCheckpoint P) (acceptedAt : DateTime) : SignatureVerification :=
  registry.verify c.signer (P.canonicalJsonBytes c.unsigned) c.signatureB64 c.createdAt acceptedAt true
    (some c.headPosition)

/-- `verify`; `acceptedAt` is the clock's time. -/
def verify (registry : KeyLifecycleRegistry P) (c : AuditCheckpoint P) (entries : List AuthorityMutation)
    (acceptedAt : DateTime) : AuditCheckpointVerification :=
  let signature := signatureOf registry c acceptedAt
  let failures := chainFailures c entries ++
    (if P.sha256 c.unsigned ≠ c.payloadSha256 then ["checkpoint_payload_digest_mismatch"] else []) ++
    (if !signature.accepted then ["signature:" ++ signature.status] else []) ++
    (if c.nonForensicWording ≠ nonForensicWording then ["non_forensic_wording_changed"] else [])
  { valid := failures.isEmpty
    checkpointId := c.checkpointId
    headPosition := c.headPosition
    chainValid := (chainFailures c entries).isEmpty
    signature := signature
    failures := failures.insertionSort (fun a b => a ≤ b)
    nonForensicWording := c.nonForensicWording }

end AuditCheckpointService

end SentinelEdge.Audit
