import SentinelEdge.Foundation.Checks
import SentinelEdge.Foundation.Dict
import SentinelEdge.Foundation.Run
import SentinelEdge.Storage.Store

/-! # Secrets

A registry of secret references. The metadata of a version and its state are rows; its
bytes are kept in the memory of the process, and are dropped when the version is taken
out of use. A handle is given out for a version in use whose bytes are at hand.
-/

namespace SentinelEdge.Security

open Domain Foundation
open Storage (Stored)

inductive SecretState where
  | staged | active | overlap | revoked | compromised | expired | unavailable
  deriving DecidableEq, Repr

namespace SecretState

def value : SecretState → String
  | .staged => "staged"
  | .active => "active"
  | .overlap => "overlap"
  | .revoked => "revoked"
  | .compromised => "compromised"
  | .expired => "expired"
  | .unavailable => "unavailable"

/-- `state in {ACTIVE, OVERLAP}` -/
def inUse (state : SecretState) : Bool := state = .active || state = .overlap

/-- `state in {REVOKED, COMPROMISED, EXPIRED, UNAVAILABLE}` -/
def isWithdrawn (state : SecretState) : Bool :=
  state = .revoked || state = .compromised || state = .expired || state = .unavailable

end SecretState

structure SecretReference where
  referenceId : String
  version : Nat
  ownerModule : String
  purpose : String
  policyVersion : String
  validFrom : DateTime
  validUntil : DateTime
  state : SecretState := .staged
  positive : 1 ≤ version := by decide
  notBlank : isBlank referenceId = false ∧ isBlank ownerModule = false ∧ isBlank purpose = false ∧
    isBlank policyVersion = false := by decide
  window : validFrom < validUntil := by decide
  deriving DecidableEq

/-- `f"{reference_id}@{version}"` -/
def secretKey (referenceId : String) (version : Nat) : String := referenceId ++ "@" ++ toString version

namespace SecretReference

def key (reference : SecretReference) : String := secretKey reference.referenceId reference.version

def modelDump (P : Platform) (r : SecretReference) : Json := .obj [
  ("owner_module", .str r.ownerModule),
  ("policy_version", .str r.policyVersion),
  ("purpose", .str r.purpose),
  ("reference_id", .str r.referenceId),
  ("state", .str r.state.value),
  ("valid_from", Dump.time P r.validFrom),
  ("valid_until", Dump.time P r.validUntil),
  ("version", .int r.version)]

/-- `_metadata_digest` -/
def metadataDigest (P : Platform) (r : SecretReference) : P.Digest := P.sha256 (r.modelDump P)

end SecretReference

structure SecretRotationPlan where
  referenceId : String
  oldVersion : Nat
  newVersion : Nat
  overlapStartsAt : DateTime
  cutoverAt : DateTime
  overlapEndsAt : DateTime
  maximumOverlapSeconds : Nat
  positive : 1 ≤ oldVersion ∧ 0 < maximumOverlapSeconds ∧ maximumOverlapSeconds ≤ 86400 := by decide
  increases : oldVersion < newVersion := by decide
  timeline : overlapStartsAt < cutoverAt ∧ cutoverAt ≤ overlapEndsAt := by decide
  bounded : overlapEndsAt - overlapStartsAt ≤ maximumOverlapSeconds * 1000000 := by decide
  deriving DecidableEq

namespace SecretRotationPlan

def oldKey (plan : SecretRotationPlan) : String := secretKey plan.referenceId plan.oldVersion

def newKey (plan : SecretRotationPlan) : String := secretKey plan.referenceId plan.newVersion

def modelDump (P : Platform) (plan : SecretRotationPlan) : Json := .obj [
  ("cutover_at", Dump.time P plan.cutoverAt),
  ("maximum_overlap_seconds", .int plan.maximumOverlapSeconds),
  ("new_version", .int plan.newVersion),
  ("old_version", .int plan.oldVersion),
  ("overlap_ends_at", Dump.time P plan.overlapEndsAt),
  ("overlap_starts_at", Dump.time P plan.overlapStartsAt),
  ("reference_id", .str plan.referenceId)]

def planId (P : Platform) (plan : SecretRotationPlan) : String :=
  (P.uuid5 ("sentinel-secret-rotation:" ++ P.hexdigest (P.sha256 (plan.modelDump P)))).str

/-- The states of the old and the new version, from the clock alone. -/
def states (plan : SecretRotationPlan) (now : DateTime) : SecretState × SecretState :=
  if now < plan.overlapStartsAt then (.active, .staged)
  else if now < plan.cutoverAt then (.overlap, .overlap)
  else if now < plan.overlapEndsAt then (.overlap, .active)
  else (.revoked, .active)

end SecretRotationPlan

structure SecretMetadataSnapshot (P : Platform) where
  schema : String := "sentinel-edge-secret-metadata/1.0"
  referenceId : String
  version : Nat
  ownerModule : String
  purpose : String
  policyVersion : String
  state : SecretState
  validFrom : DateTime
  validUntil : DateTime
  metadataSha256 : P.Digest
  deriving DecidableEq

structure SecretHandle where
  handleId : UUID
  referenceKey : String
  ownerModule : String
  purpose : String
  issuedAt : DateTime
  expiresAt : DateTime
  generationEpoch : Nat
  deriving DecidableEq

structure SecretRegistry (P : Platform) where
  maximumHandleSeconds : Int := 300
  references : Dict String (Stored P SecretReference) := .empty
  rotations : Dict String SecretRotationPlan := .empty
  values : Dict String (List UInt8) := .empty
  handles : Dict UUID SecretHandle := .empty
  generationEpoch : Nat := 1

namespace SecretRegistry

variable {P : Platform}

/-- `_load` -/
def load (key : String) (s : SecretRegistry P) : Except Error SecretReference :=
  match s.references.get? key with
  | none => .error (.keyError key)
  | some row => .ok row.record

def snapshot (key : String) : Call (SecretRegistry P) Error (SecretMetadataSnapshot P) := do
  let loaded ← Call.read (load key)
  let ref ← Call.lift loaded
  pure {
    referenceId := ref.referenceId
    version := ref.version
    ownerModule := ref.ownerModule
    purpose := ref.purpose
    policyVersion := ref.policyVersion
    state := ref.state
    validFrom := ref.validFrom
    validUntil := ref.validUntil
    metadataSha256 := ref.metadataDigest P }

/-- A version that is already there keeps its row, and gets its bytes. -/
def registered (reference : SecretReference) (value : List UInt8) (s : SecretRegistry P) : SecretRegistry P :=
  { s with
    references := if (s.references.get? reference.key).isSome then s.references
      else s.references.insert reference.key ⟨reference, reference.metadataDigest P⟩
    values := s.values.insert reference.key value }

def register (reference : SecretReference) (value : List UInt8) :
    Call (SecretRegistry P) Error (SecretMetadataSnapshot P) := do
  Call.lift (Checks.refuse (value = []) (.valueError "secret value must not be empty"))
  let row ← Call.read (fun s => s.references.get? reference.key)
  Call.lift (Checks.refuse (row.any (fun row => row.payloadSha256 ≠ reference.metadataDigest P))
    (.valueError "secret reference identity conflict"))
  Call.modify (registered reference value)
  snapshot reference.key

/-- A version that is withdrawn loses its bytes, and all handles go with it. -/
def withdraw (key : String) (s : SecretRegistry P) : SecretRegistry P :=
  { s with
    values := s.values.restrict (fun other => other ≠ key)
    generationEpoch := s.generationEpoch + 1
    handles := .empty }

def transitioned (key : String) (ref : SecretReference) (s : SecretRegistry P) : SecretRegistry P :=
  let updated := { s with references := s.references.insert key ⟨ref, ref.metadataDigest P⟩ }
  if ref.state.isWithdrawn then withdraw key updated else updated

def transition (key : String) (state : SecretState) : Call (SecretRegistry P) Error (SecretMetadataSnapshot P) := do
  let loaded ← Call.read (load key)
  let ref ← Call.lift loaded
  Call.modify (transitioned key { ref with state := state })
  snapshot key

def planRotation (plan : SecretRotationPlan) : Call (SecretRegistry P) Error String := do
  let old ← Call.read (load plan.oldKey)
  let old ← Call.lift old
  let new ← Call.read (load plan.newKey)
  let new ← Call.lift new
  Call.lift (Checks.refuse (old.ownerModule ≠ new.ownerModule || old.purpose ≠ new.purpose)
    (.valueError "rotation versions must preserve owner and purpose"))
  Call.modify (fun s => { s with rotations :=
    if (s.rotations.get? (plan.planId P)).isSome then s.rotations else s.rotations.insert (plan.planId P) plan })
  pure (plan.planId P)

def applyRotation (planId : String) (now : DateTime) : Call (SecretRegistry P) Error (SecretState × SecretState) := do
  let found ← Call.read (fun s => s.rotations.get? planId)
  let plan ← Call.lift (match found with
    | none => .error (.keyError planId)
    | some plan => .ok plan)
  let _ ← transition plan.oldKey (plan.states now).1
  let _ ← transition plan.newKey (plan.states now).2
  Call.modify (fun s => { s with generationEpoch := s.generationEpoch + 1, handles := .empty })
  pure (plan.states now)

structure ResolveArguments where
  key : String
  requestingModule : String
  purpose : String
  now : DateTime
  lifetimeSeconds : Int := 60
  /-- `uuid4()` -/
  handleId : UUID

/-- The checks of `resolve`, which return the reference. -/
def resolvable (a : ResolveArguments) (s : SecretRegistry P) : Except Error SecretReference := do
  Checks.refuse (a.lifetimeSeconds ≤ 0 || s.maximumHandleSeconds < a.lifetimeSeconds)
    (.valueError "secret handle lifetime is outside policy")
  let ref ← load a.key s
  Checks.refuse (a.requestingModule ≠ ref.ownerModule || a.purpose ≠ ref.purpose)
    (.permissionError "module or purpose is not authorized for this secret")
  Checks.refuse (! (ref.validFrom ≤ a.now && a.now < ref.validUntil))
    (.permissionError "secret reference is outside its validity window")
  Checks.refuse (! ref.state.inUse)
    (.permissionError ("secret reference is not available: " ++ ref.state.value))
  Checks.refuse (s.values.get? a.key).isNone
    (.permissionError "secret bytes are unavailable in this process")
  -- the sum of a date and the lifetime must still be a date
  Checks.refuse (DateTime.max < a.now + a.lifetimeSeconds * 1000000) .overflowError
  pure ref

def resolve (a : ResolveArguments) : Call (SecretRegistry P) Error SecretHandle := do
  let checked ← Call.read (resolvable a)
  let ref ← Call.lift checked
  let epoch ← Call.read SecretRegistry.generationEpoch
  let handle : SecretHandle := {
    handleId := a.handleId
    referenceKey := a.key
    ownerModule := a.requestingModule
    purpose := a.purpose
    issuedAt := a.now
    expiresAt := min (a.now + a.lifetimeSeconds * 1000000) ref.validUntil
    generationEpoch := epoch }
  Call.modify (fun s => { s with handles := s.handles.insert a.handleId handle })
  pure handle

def read (handle : SecretHandle) (now : DateTime) : Call (SecretRegistry P) Error (List UInt8) := do
  let s ← Call.read id
  Call.lift (Checks.refuse (s.handles.get? handle.handleId ≠ some handle || handle.generationEpoch ≠ s.generationEpoch)
    (.permissionError "secret handle is stale or unknown"))
  if handle.expiresAt ≤ now then do
    Call.modify (fun s => { s with handles := s.handles.restrict (fun id => id ≠ handle.handleId) })
    Call.raise (.permissionError "secret handle expired")
  else Call.lift (match s.values.get? handle.referenceKey with
    | none => .error (.permissionError "secret bytes are unavailable")
    | some value => .ok value)

end SecretRegistry

end SentinelEdge.Security
