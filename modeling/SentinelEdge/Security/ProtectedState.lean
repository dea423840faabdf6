import Mathlib.Data.List.Sort
import SentinelEdge.Domain.Incidents
import SentinelEdge.Domain.Timestamp
import SentinelEdge.Foundation.Call
import SentinelEdge.Foundation.Checks
import SentinelEdge.Foundation.Dict
import SentinelEdge.Foundation.Run

/-! # Protected local state

Grants give a principal access to cached payloads and queued commands on this device.
A grant is revoked once; with it goes all that was kept under it. Expiry is noticed by
the first call that uses the grant, and by a purge.
-/

namespace SentinelEdge.Security

open Domain Foundation

inductive GrantState where
  | active | retired | revokedPolicy | suspectedCompromise | compromised | expired
  deriving DecidableEq, Repr

def GrantState.value : GrantState → String
  | .active => "active"
  | .retired => "retired"
  | .revokedPolicy => "revoked_policy"
  | .suspectedCompromise => "suspected_compromise"
  | .compromised => "compromised"
  | .expired => "expired"

inductive GrantLifecycleAction where
  | activate | logout | deviceRevocation | retentionExpiry | plannedRetirement | policyRevocation
  | suspectCompromise | confirmCompromise
  deriving DecidableEq, Repr

namespace GrantLifecycleAction

def value : GrantLifecycleAction → String
  | .activate => "activate"
  | .logout => "logout"
  | .deviceRevocation => "device_revocation"
  | .retentionExpiry => "retention_expiry"
  | .plannedRetirement => "planned_retirement"
  | .policyRevocation => "policy_revocation"
  | .suspectCompromise => "suspect_compromise"
  | .confirmCompromise => "confirm_compromise"

/-- `_ACTION_STATE` -/
def state : GrantLifecycleAction → GrantState
  | .activate => .active
  | .logout => .revokedPolicy
  | .deviceRevocation => .revokedPolicy
  | .retentionExpiry => .expired
  | .plannedRetirement => .retired
  | .policyRevocation => .revokedPolicy
  | .suspectCompromise => .suspectedCompromise
  | .confirmCompromise => .compromised

theorem state_eq_active_iff {action : GrantLifecycleAction} : action.state = .active ↔ action = .activate := by
  cases action <;> simp [state]

end GrantLifecycleAction

structure LocalAccessGrant where
  grantId : UUID
  principalId : String
  sessionEpoch : Nat
  deviceTrustEpoch : Nat
  scope : List String
  issuedAt : Timestamp
  expiresAt : Timestamp
  state : GrantState := .active
  notBlank : isBlank principalId = false
  lasting : issuedAt.instant < expiresAt.instant
  limited : scope ≠ []
  deriving DecidableEq

structure ProtectedStatePurgeReceipt (P : Platform) where
  receiptId : UUID
  grantId : UUID
  action : GrantLifecycleAction
  resultingState : GrantState
  principalId : String
  purgedCacheEntries : Nat
  purgedQueuedAuthority : Nat
  purgedPayloadSha256 : List String
  actor : String
  reason : String
  createdAt : Timestamp
  receiptSha256 : P.Digest

/-- A row of `local_access_grants`. The grant is the payload, which the other columns repeat. -/
structure GrantRow where
  state : GrantState
  grant : LocalAccessGrant

structure ProtectedCacheEntry (P : Platform) where
  cacheId : UUID
  grantId : UUID
  keySha256 : P.Digest
  payloadSha256 : P.Digest
  payload : List UInt8
  retentionExpiresAt : Timestamp
  createdAt : Timestamp

structure QueuedAuthority (P : Platform) where
  queueId : UUID
  grantId : UUID
  payloadSha256 : P.Digest
  payload : P.Text
  createdAt : Timestamp

structure ProtectedLocalStateStore (P : Platform) where
  grants : Dict UUID GrantRow := .empty
  cache : List (ProtectedCacheEntry P) := []
  queue : List (QueuedAuthority P) := []
  receipts : Dict UUID (ProtectedStatePurgeReceipt P) := .empty

namespace ProtectedLocalStateStore

variable {P : Platform}

structure GrantArguments where
  principal : PrincipalRef
  scope : List String
  expiresAt : Timestamp
  issuedAt : Timestamp

def grantSeed (a : GrantArguments) : Json := .obj [
  ("device_trust_epoch", .int a.principal.deviceTrustEpoch),
  ("expires_at", .str a.expiresAt.isoformat),
  ("issued_at", .str a.issuedAt.isoformat),
  ("principal_id", .str a.principal.principalId),
  ("scope", Dump.texts (a.scope.insertionSort (· ≤ ·))),
  ("session_epoch", .int a.principal.sessionEpoch)]

def newGrantId (P : Platform) (a : GrantArguments) : UUID :=
  P.uuid5 ("sentinel-local-grant:" ++ P.hexdigest (P.sha256 (grantSeed a)))

/-- The grant, or the first of its validators that refuses it. -/
def newGrant (P : Platform) (a : GrantArguments) : Except Error LocalAccessGrant :=
  if blank : isBlank a.principal.principalId = true then .error (.validationError "grant principal_id must not be blank")
  else if lasting : a.issuedAt.instant < a.expiresAt.instant then
    if empty : sortedSet a.scope = [] then .error (.validationError "grant requires at least one scope")
    else .ok {
      grantId := newGrantId P a
      principalId := a.principal.principalId
      sessionEpoch := a.principal.sessionEpoch
      deviceTrustEpoch := a.principal.deviceTrustEpoch
      scope := sortedSet a.scope
      issuedAt := a.issuedAt
      expiresAt := a.expiresAt
      notBlank := Bool.eq_false_iff.mpr blank
      lasting := lasting
      limited := empty }
  else .error (.validationError "grant expiry must follow issue time")

/-- What is there already is returned as it was issued. -/
def createGrant (a : GrantArguments) : Call (ProtectedLocalStateStore P) Error LocalAccessGrant := do
  let grant ← Call.lift (newGrant P a)
  let found ← Call.read (fun s => s.grants.get? grant.grantId)
  match found with
  | some row => pure row.grant
  | none => do
    Call.modify (fun s => { s with grants := s.grants.insert grant.grantId ⟨grant.state, grant⟩ })
    pure grant

/-- `_load` -/
def load (grantId : UUID) (s : ProtectedLocalStateStore P) : Except Error LocalAccessGrant :=
  match s.grants.get? grantId with
  | none => .error (.keyError grantId.str)
  | some row => .ok { row.grant with state := row.state }

/-! ## Revocation -/

structure Revocation where
  action : GrantLifecycleAction
  actor : String
  reason : String
  now : Timestamp

def cacheOf (grantId : UUID) (s : ProtectedLocalStateStore P) : List (ProtectedCacheEntry P) :=
  s.cache.filter (fun row => row.grantId = grantId)

def queueOf (grantId : UUID) (s : ProtectedLocalStateStore P) : List (QueuedAuthority P) :=
  s.queue.filter (fun row => row.grantId = grantId)

def payloadDigests (grantId : UUID) (s : ProtectedLocalStateStore P) : List String :=
  sortedSet ((cacheOf grantId s).map (fun row => P.hexdigest row.payloadSha256) ++
    (queueOf grantId s).map (fun row => P.hexdigest row.payloadSha256))

def receiptBase (grant : LocalAccessGrant) (r : Revocation) (s : ProtectedLocalStateStore P) : Json := .obj [
  ("action", .str r.action.value),
  ("actor", .str r.actor),
  ("created_at", .str r.now.isoformat),
  ("grant_id", .str grant.grantId.str),
  ("principal_id", .str grant.principalId),
  ("purged_cache_entries", .int (cacheOf grant.grantId s).length),
  ("purged_payload_sha256", Dump.texts (payloadDigests grant.grantId s)),
  ("purged_queued_authority", .int (queueOf grant.grantId s).length),
  ("reason", .str r.reason),
  ("resulting_state", .str r.action.state.value)]

def purgeReceipt (grant : LocalAccessGrant) (r : Revocation) (s : ProtectedLocalStateStore P) :
    ProtectedStatePurgeReceipt P where
  receiptId := P.uuid5 ("sentinel-protected-purge:" ++ P.hexdigest (P.sha256 (receiptBase grant r s)))
  grantId := grant.grantId
  action := r.action
  resultingState := r.action.state
  principalId := grant.principalId
  purgedCacheEntries := (cacheOf grant.grantId s).length
  purgedQueuedAuthority := (queueOf grant.grantId s).length
  purgedPayloadSha256 := payloadDigests grant.grantId s
  actor := r.actor
  reason := r.reason
  createdAt := r.now
  receiptSha256 := P.sha256 (receiptBase grant r s)

/-- `UPDATE local_access_grants SET state=?` -/
def setState (grantId : UUID) (state : GrantState) (grants : Dict UUID GrantRow) : Dict UUID GrantRow :=
  match grants.get? grantId with
  | none => grants
  | some row => grants.insert grantId { row with state := state }

def purged (receipt : ProtectedStatePurgeReceipt P) (s : ProtectedLocalStateStore P) : ProtectedLocalStateStore P where
  grants := setState receipt.grantId receipt.resultingState s.grants
  cache := s.cache.filter (fun row => row.grantId ≠ receipt.grantId)
  queue := s.queue.filter (fun row => row.grantId ≠ receipt.grantId)
  -- an equal receipt of the same moment is there already
  receipts := if (s.receipts.get? receipt.receiptId).isSome then s.receipts
    else s.receipts.insert receipt.receiptId receipt

def revoke (grantId : UUID) (r : Revocation) :
    Call (ProtectedLocalStateStore P) Error (ProtectedStatePurgeReceipt P) := do
  Call.lift (Checks.refuse (r.action = .activate) (.valueError "activate is not a revocation action"))
  Call.lift (Checks.refuse (isBlank r.actor || isBlank r.reason) (.valueError "revocation actor and reason are required"))
  let loaded ← Call.read (load grantId)
  let grant ← Call.lift loaded
  let receipt ← Call.read (purgeReceipt grant r)
  Call.modify (purged receipt)
  pure receipt

def revokeAll (r : Revocation) :
    List UUID → Call (ProtectedLocalStateStore P) Error (List (ProtectedStatePurgeReceipt P))
  | [] => pure []
  | grantId :: rest => do
    let receipt ← revoke grantId r
    let receipts ← revokeAll r rest
    pure (receipt :: receipts)

/-- The ids of the active grants that a query selects. -/
def activeGrants (select : LocalAccessGrant → Bool) (s : ProtectedLocalStateStore P) : List UUID :=
  (s.grants.items.filter (fun item => item.2.state = .active && select item.2.grant)).map Prod.fst

def byGrantId (ids : List UUID) : List UUID := ids.insertionSort (fun a b => a.str ≤ b.str)

def purgePrincipal (principal : PrincipalRef) (r : Revocation) :
    Call (ProtectedLocalStateStore P) Error (List (ProtectedStatePurgeReceipt P)) := do
  let ids ← Call.read (activeGrants fun grant => grant.principalId = principal.principalId &&
    grant.sessionEpoch = principal.sessionEpoch && grant.deviceTrustEpoch = principal.deviceTrustEpoch)
  revokeAll r ids

def purgePrincipalId (principalId : String) (r : Revocation) :
    Call (ProtectedLocalStateStore P) Error (List (ProtectedStatePurgeReceipt P)) := do
  let ids ← Call.read (activeGrants fun grant => grant.principalId = principalId)
  revokeAll r (byGrantId ids)

/-- The times are compared as the texts they are stored as. -/
def purgeExpired (now : Timestamp) :
    Call (ProtectedLocalStateStore P) Error (List (ProtectedStatePurgeReceipt P)) := do
  let ids ← Call.read (activeGrants fun grant => grant.expiresAt.isoformat ≤ now.isoformat)
  revokeAll { action := .retentionExpiry, actor := "system-retention", reason := "retention_expired", now := now } (byGrantId ids)

/-! ## Use of a grant -/

/-- A grant that has expired is revoked by the call that finds it so. -/
def expire (grant : LocalAccessGrant) (now : Timestamp) : Call (ProtectedLocalStateStore P) Error Unit :=
  if grant.expiresAt.instant ≤ now.instant then do
    let _ ← revoke grant.grantId { action := .retentionExpiry, actor := "system", reason := "grant_expired", now := now }
    Call.raise (.permissionError "local access grant expired")
  else pure ()

/-- `_require_active` -/
def requireActive (grantId : UUID) (scope : String) (now : Timestamp) :
    Call (ProtectedLocalStateStore P) Error LocalAccessGrant := do
  let loaded ← Call.read (load grantId)
  let grant ← Call.lift loaded
  Call.lift (Checks.refuse (grant.state ≠ .active) (.permissionError "local access grant is not active"))
  expire grant now
  Call.lift (Checks.refuse (scope ∉ grant.scope) (.permissionError "local access grant scope mismatch"))
  pure grant

/-- `sha256_bytes(key.encode("utf-8"))` -/
def keyDigest (P : Platform) (key : String) : P.Digest := P.sha256Raw key.toByteArray.data.toList

structure CacheArguments where
  grantId : UUID
  key : String
  payload : List UInt8
  retentionExpiresAt : Timestamp
  scope : String := "protected_cache"
  now : Timestamp

def cacheEntry (P : Platform) (a : CacheArguments) : ProtectedCacheEntry P where
  cacheId := P.uuid5 ("sentinel-protected-cache:" ++ a.grantId.str ++ ":" ++ P.hexdigest (keyDigest P a.key))
  grantId := a.grantId
  keySha256 := keyDigest P a.key
  payloadSha256 := P.sha256Raw a.payload
  payload := a.payload
  retentionExpiresAt := a.retentionExpiresAt
  createdAt := a.now

/-- `grant_id=? AND key_sha256=?` -/
def isKept (grantId : UUID) (key : P.Digest) (row : ProtectedCacheEntry P) : Bool :=
  row.grantId = grantId && row.keySha256 = key

/-- An entry of the same grant and key is overwritten in its row. -/
def upsert (entry : ProtectedCacheEntry P) (s : ProtectedLocalStateStore P) : ProtectedLocalStateStore P :=
  if s.cache.any (isKept entry.grantId entry.keySha256) then
    { s with cache := s.cache.map (fun row =>
      if isKept entry.grantId entry.keySha256 row then { entry with cacheId := row.cacheId } else row) }
  else { s with cache := s.cache ++ [entry] }

def putCache (a : CacheArguments) : Call (ProtectedLocalStateStore P) Error UUID := do
  let _ ← requireActive a.grantId a.scope a.now
  Call.lift (Checks.refuse (a.retentionExpiresAt.instant ≤ a.now.instant)
    (.valueError "cache retention expiry must be in the future"))
  let cache ← Call.read ProtectedLocalStateStore.cache
  -- the primary key may be taken where no entry is overwritten
  Call.lift (Checks.refuse (! cache.any (isKept a.grantId (keyDigest P a.key)) &&
    cache.any (fun row => row.cacheId = (cacheEntry P a).cacheId)) (.integrityError "protected_cache_entries"))
  Call.modify (upsert (cacheEntry P a))
  pure (cacheEntry P a).cacheId

def readCache (grantId : UUID) (key : String) (now : Timestamp) :
    Call (ProtectedLocalStateStore P) Error (List UInt8) := do
  let _ ← requireActive grantId "protected_cache" now
  let found ← Call.read (fun s => s.cache.find? (isKept grantId (keyDigest P key)))
  match found with
  | none => Call.raise (.keyError key)
  | some row =>
    if row.retentionExpiresAt.instant ≤ now.instant then do
      Call.modify (fun s => { s with cache := s.cache.filter (fun row => ! isKept grantId (keyDigest P key) row) })
      Call.raise (.keyError key)
    else pure row.payload

def queuedAuthority (P : Platform) (grantId : UUID) (payload : Json) (now : Timestamp) : QueuedAuthority P where
  queueId := P.uuid5 ("sentinel-protected-queue:" ++ grantId.str ++ ":" ++ P.hexdigest (P.sha256 payload))
  grantId := grantId
  payloadSha256 := P.sha256 payload
  payload := P.dumps payload
  createdAt := now

/-- `INSERT OR IGNORE` -/
def enqueue (row : QueuedAuthority P) (s : ProtectedLocalStateStore P) : ProtectedLocalStateStore P :=
  if s.queue.any (fun other => other.queueId = row.queueId) then s else { s with queue := s.queue ++ [row] }

def queueAuthority (grantId : UUID) (payload : Json) (now : Timestamp) : Call (ProtectedLocalStateStore P) Error UUID := do
  let _ ← requireActive grantId "queued_authority" now
  Call.modify (enqueue (queuedAuthority P grantId payload now))
  pure (queuedAuthority P grantId payload now).queueId

end ProtectedLocalStateStore

end SentinelEdge.Security
