import SentinelEdge.Domain.Evidence
import SentinelEdge.Foundation.Call
import SentinelEdge.Foundation.Dict
import Mathlib.Algebra.Ring.Nat
import Mathlib.Data.List.Sort

/-! # The content-addressed artifact store

Bytes are kept once under their digest, whoever put them there. A catalog beside
the files holds the policies they were registered under, the references that
protect them and a record of deletions. Deleting a digest asks the catalog and
nobody else; `ContentAddressedArtifactStore.Deletable` says when it goes through.
-/

namespace SentinelEdge.Storage

open Foundation Domain

inductive ArtifactClassification where
  | publicData | internal | restricted | secretProhibited
  deriving DecidableEq, Repr

def ArtifactClassification.value : ArtifactClassification → String
  | .publicData => "public"
  | .internal => "internal"
  | .restricted => "restricted"
  | .secretProhibited => "secret_prohibited"

/-- `_CLASS_ORDER` -/
def ArtifactClassification.order : ArtifactClassification → Nat
  | .publicData => 0
  | .internal => 1
  | .restricted => 2
  | .secretProhibited => 3

inductive ArtifactRetention where
  | ephemeral | operational | incidentEvidence | releaseProof | legalHold
  deriving DecidableEq, Repr

def ArtifactRetention.value : ArtifactRetention → String
  | .ephemeral => "ephemeral"
  | .operational => "operational"
  | .incidentEvidence => "incident_evidence"
  | .releaseProof => "release_proof"
  | .legalHold => "legal_hold"

/-- `list(ArtifactRetention).index(retention)` -/
def ArtifactRetention.index : ArtifactRetention → Nat
  | .ephemeral => 0
  | .operational => 1
  | .incidentEvidence => 2
  | .releaseProof => 3
  | .legalHold => 4

inductive ArtifactEncryption where
  | unencrypted | nodeAtRest | externalEnvelopeRequired
  deriving DecidableEq, Repr

def ArtifactEncryption.value : ArtifactEncryption → String
  | .unencrypted => "none"
  | .nodeAtRest => "node_at_rest"
  | .externalEnvelopeRequired => "external_envelope_required"

inductive ArtifactExportPolicy where
  | allowed | redactedOnly | prohibited
  deriving DecidableEq, Repr

def ArtifactExportPolicy.value : ArtifactExportPolicy → String
  | .allowed => "allowed"
  | .redactedOnly => "redacted_only"
  | .prohibited => "prohibited"

inductive ArtifactDeletionPolicy where
  | gcAllowed | tombstoneRequired | holdProtected | manualOnly
  deriving DecidableEq, Repr

def ArtifactDeletionPolicy.value : ArtifactDeletionPolicy → String
  | .gcAllowed => "gc_allowed"
  | .tombstoneRequired => "tombstone_required"
  | .holdProtected => "hold_protected"
  | .manualOnly => "manual_only"

inductive ArtifactReferenceKind where
  | lease | legalHold | incidentHold | releaseCandidate | targetBinding | minimumProof
  deriving DecidableEq, Repr

def ArtifactReferenceKind.value : ArtifactReferenceKind → String
  | .lease => "lease"
  | .legalHold => "legal_hold"
  | .incidentHold => "incident_hold"
  | .releaseCandidate => "release_candidate"
  | .targetBinding => "target_binding"
  | .minimumProof => "minimum_proof"

/-! ## Policies and scopes -/

structure ArtifactPolicy where
  classification : ArtifactClassification
  retention : ArtifactRetention
  encryption : ArtifactEncryption
  exportPolicy : ArtifactExportPolicy
  deletionPolicy : ArtifactDeletionPolicy
  retentionExpiresAt : Option DateTime := none
  reasonCodes : List String := []
  deriving DecidableEq

namespace ArtifactPolicy

/-- `validate_policy` -/
def validate (p : ArtifactPolicy) : Except Error ArtifactPolicy :=
  if p.classification = .secretProhibited then
    .error (.validationError "secret-prohibited artifact persistence is forbidden")
  else if p.classification = .restricted && p.exportPolicy = .allowed then
    .error (.validationError "restricted artifacts require redacted-only or prohibited export policy")
  else if p.retention = .legalHold && p.deletionPolicy ≠ .holdProtected then
    .error (.validationError "legal-hold artifacts must be hold protected")
  else if p.retentionExpiresAt.isSome && p.retention = .legalHold then
    .error (.validationError "legal-hold retention expiry must be represented by an explicit hold reference")
  else .ok p

def modelDump (P : Platform) (p : ArtifactPolicy) : Json := .obj [
  ("classification", .str p.classification.value),
  ("deletion_policy", .str p.deletionPolicy.value),
  ("encryption", .str p.encryption.value),
  ("export_policy", .str p.exportPolicy.value),
  ("reason_codes", Dump.texts p.reasonCodes),
  ("retention", .str p.retention.value),
  ("retention_expires_at", Json.optional (Dump.time P) p.retentionExpiresAt)]

/-- `incident_evidence(restricted=...)` -/
def incidentEvidence (restricted : Bool) : ArtifactPolicy where
  classification := if restricted then .restricted else .internal
  retention := .incidentEvidence
  encryption := .nodeAtRest
  exportPolicy := if restricted then .redactedOnly else .allowed
  deletionPolicy := .tombstoneRequired
  reasonCodes := ["incident_evidence"]

end ArtifactPolicy

structure ArtifactScope where
  sourceId : Option String := none
  incidentId : Option String := none
  scenarioRunId : Option String := none
  releaseCandidateId : Option String := none
  deriving DecidableEq

namespace ArtifactScope

/-- `normalize_blank` on every field. -/
def validate (s : ArtifactScope) : Except Error ArtifactScope :=
  if [s.sourceId, s.incidentId, s.scenarioRunId, s.releaseCandidateId].any (fun value => value.any isBlank) then
    .error (.validationError "artifact scope values must not be blank")
  else .ok s

def modelDump (s : ArtifactScope) : Json := .obj [
  ("incident_id", Json.optional .str s.incidentId),
  ("release_candidate_id", Json.optional .str s.releaseCandidateId),
  ("scenario_run_id", Json.optional .str s.scenarioRunId),
  ("source_id", Json.optional .str s.sourceId)]

end ArtifactScope

structure ArtifactBudgetPolicy where
  nodeMaxObjects : Nat := 100000
  perSourceMaxObjects : Nat := 10000
  perSourceMaxBytes : Nat := 128 * 1024 * 1024
  perIncidentMaxObjects : Nat := 10000
  perIncidentMaxBytes : Nat := 256 * 1024 * 1024
  perRunMaxObjects : Nat := 20000
  perRunMaxBytes : Nat := 512 * 1024 * 1024
  perCandidateMaxObjects : Nat := 20000
  perCandidateMaxBytes : Nat := 512 * 1024 * 1024
  deriving DecidableEq

/-! ## The catalog -/

structure ArtifactRecord (P : Platform) where
  registrationId : UUID
  sha256 : String
  relativePath : String
  bytes : Nat
  mediaType : String
  policy : ArtifactPolicy
  scope : ArtifactScope
  critical : Bool
  createdAt : DateTime
  policySha256 : P.Digest
  deriving DecidableEq

structure ArtifactReference where
  referenceId : UUID
  artifactSha256 : String
  kind : ArtifactReferenceKind
  owner : String
  reason : String
  createdAt : DateTime
  expiresAt : Option DateTime
  deriving DecidableEq

/-- A row of `artifact_gc_events`. -/
structure GcEvent where
  eventId : UUID
  artifactSha256 : String
  action : String
  actor : String
  reasonCodes : List String
  createdAt : DateTime
  deriving DecidableEq

structure ArtifactCatalog (P : Platform) where
  budgets : ArtifactBudgetPolicy := {}
  registrations : List (ArtifactRecord P) := []
  artifactReferences : List ArtifactReference := []
  gcEvents : List GcEvent := []
  deriving DecidableEq

variable {P : Platform}

namespace ArtifactCatalog

/-- One row of `checks` in `_check_scope_budget`. -/
def checkBudget (c : ArtifactCatalog P) (name : String) (field : ArtifactScope → Option String) (scope : ArtifactScope)
    (maxObjects maxBytes size : Nat) : Except Error Unit :=
  match field scope with
  | none => .ok ()
  | some value =>
      let used := c.registrations.filter (fun r => field r.scope = some value)
      if used.length + 1 > maxObjects then .error (.osError ("artifact " ++ name ++ " object-count budget exceeded"))
      else if (used.map ArtifactRecord.bytes).sum + size > maxBytes then
        .error (.osError ("artifact " ++ name ++ " byte budget exceeded"))
      else .ok ()

/-- `_check_scope_budget` -/
def checkScopeBudget (c : ArtifactCatalog P) (scope : ArtifactScope) (size : Nat) : Except Error Unit := do
  if c.registrations.length + 1 > c.budgets.nodeMaxObjects then
    .error (.osError "artifact node object-count budget exceeded")
  c.checkBudget "source_id" ArtifactScope.sourceId scope c.budgets.perSourceMaxObjects c.budgets.perSourceMaxBytes size
  c.checkBudget "incident_id" ArtifactScope.incidentId scope c.budgets.perIncidentMaxObjects
    c.budgets.perIncidentMaxBytes size
  c.checkBudget "scenario_run_id" ArtifactScope.scenarioRunId scope c.budgets.perRunMaxObjects c.budgets.perRunMaxBytes
    size
  c.checkBudget "release_candidate_id" ArtifactScope.releaseCandidateId scope c.budgets.perCandidateMaxObjects
    c.budgets.perCandidateMaxBytes size

/-- The id a digest is registered under with a policy and a scope. -/
def registrationId (P : Platform) (sha256 : String) (policy : ArtifactPolicy) (scope : ArtifactScope) (critical : Bool) :
    UUID :=
  P.uuid5 ("sentinel-artifact-registration:" ++ P.hexdigest (P.sha256 (.obj [
    ("critical", .bool critical),
    ("policy_sha256", .str (P.hexdigest (P.sha256 (policy.modelDump P)))),
    ("scope", scope.modelDump),
    ("sha256", .str sha256)])))

def register (sha256 relativePath : String) (bytesCount : Nat) (mediaType : String) (policy : ArtifactPolicy)
    (scope : ArtifactScope) (critical : Bool) (createdAt : DateTime) :
    Call (ArtifactCatalog P) Error (ArtifactRecord P) := fun c =>
  let record : ArtifactRecord P := {
    registrationId := registrationId P sha256 policy scope critical
    sha256 := sha256
    relativePath := relativePath
    bytes := bytesCount
    mediaType := mediaType
    policy := policy
    scope := scope
    critical := critical
    createdAt := createdAt
    policySha256 := P.sha256 (policy.modelDump P) }
  match c.registrations.find? (fun r => r.registrationId = record.registrationId) with
  | some existing =>
      if existing.policySha256 ≠ record.policySha256 ∨ existing.scope ≠ scope then
        (.error (.valueError "artifact registration identity conflict"), c)
      else (.ok record, c)
  | none => match c.checkScopeBudget scope bytesCount with
      | .error e => (.error e, c)
      | .ok _ => (.ok record, { c with registrations := c.registrations ++ [record] })

/-- `records(sha256)` -/
def records (c : ArtifactCatalog P) (sha256 : String) : List (ArtifactRecord P) :=
  (c.registrations.filter (fun r => r.sha256 = sha256)).insertionSort
    (fun a b => P.isoformat a.createdAt < P.isoformat b.createdAt ∨
      (P.isoformat a.createdAt = P.isoformat b.createdAt ∧ a.registrationId.str ≤ b.registrationId.str))

/-- `max(items, key=...)`: the first of the greatest. -/
def greatest {α : Type} (key : α → Nat) (first : α) (rest : List α) : α :=
  rest.foldl (fun best item => if key best < key item then item else best) first

/-- The policy that all registrations of a digest impose together. -/
def combined (first : ArtifactPolicy) (rest : List ArtifactPolicy) : ArtifactPolicy :=
  let policies := first :: rest
  { classification := (greatest (fun p => p.classification.order) first rest).classification
    retention := (greatest (fun p => p.retention.index) first rest).retention
    encryption :=
      if policies.any (fun p => p.encryption = .externalEnvelopeRequired) then .externalEnvelopeRequired
      else if policies.any (fun p => p.encryption = .nodeAtRest) then .nodeAtRest
      else .unencrypted
    exportPolicy :=
      if policies.any (fun p => p.exportPolicy = .prohibited) then .prohibited
      else if policies.any (fun p => p.exportPolicy = .redactedOnly) then .redactedOnly
      else .allowed
    deletionPolicy :=
      if policies.any (fun p => p.deletionPolicy = .holdProtected) then .holdProtected
      else if policies.any (fun p => p.deletionPolicy = .tombstoneRequired) then .tombstoneRequired
      else if policies.any (fun p => p.deletionPolicy = .manualOnly) then .manualOnly
      else .gcAllowed
    retentionExpiresAt := (policies.filterMap ArtifactPolicy.retentionExpiresAt).min?
    reasonCodes := sortedSet (policies.flatMap ArtifactPolicy.reasonCodes) }

/-- `effective_policy` -/
def effectivePolicy (c : ArtifactCatalog P) (sha256 : String) : Except Error ArtifactPolicy :=
  match (c.records sha256).map ArtifactRecord.policy with
  | [] => .error (.keyError sha256)
  | first :: rest => (combined first rest).validate

/-- `references(artifact_sha256)` with the clock at `now`. -/
def references (c : ArtifactCatalog P) (sha256 : String) (now : DateTime) : List ArtifactReference :=
  ((c.artifactReferences.filter (fun r => r.artifactSha256 = sha256)).insertionSort
    (fun a b => P.isoformat a.createdAt < P.isoformat b.createdAt ∨
      (P.isoformat a.createdAt = P.isoformat b.createdAt ∧ a.referenceId.str ≤ b.referenceId.str))).filter
    (fun r => r.expiresAt.all (fun expiry => expiry > now))

/-- `remove_reference`, which takes the id as text. -/
def removeReference (c : ArtifactCatalog P) (referenceId : String) : ArtifactCatalog P :=
  { c with artifactReferences := c.artifactReferences.filter (fun r => r.referenceId.str ≠ referenceId) }

/-- The row `record_gc_event` builds. -/
def gcEvent (P : Platform) (sha256 action actor : String) (reasonCodes : List String) (now : DateTime) : GcEvent where
  eventId := P.uuid5 ("sentinel-artifact-gc:" ++ P.hexdigest (P.sha256 (.obj [
    ("action", .str action),
    ("actor", .str actor),
    ("artifact_sha256", .str sha256),
    ("created_at", Dump.time P now),
    ("reason_codes", Dump.texts reasonCodes)])))
  artifactSha256 := sha256
  action := action
  actor := actor
  reasonCodes := reasonCodes
  createdAt := now

/-- `record_gc_event`: `INSERT OR IGNORE`. -/
def recordGcEvent (c : ArtifactCatalog P) (event : GcEvent) : ArtifactCatalog P :=
  if c.gcEvents.any (fun e => e.eventId = event.eventId) then c else { c with gcEvents := c.gcEvents ++ [event] }

end ArtifactCatalog

/-! ## The store -/

structure ArtifactRef where
  sha256 : String
  relativePath : String
  bytes : Nat
  mediaType : String
  deriving DecidableEq, Repr

/-- The files stand under the digest their path spells out. -/
structure ContentAddressedArtifactStore (P : Platform) where
  files : Dict String (List UInt8)
  catalog : ArtifactCatalog P
  maxBytes : Nat
  reserveBytes : Nat
  forcedReadOnly : Bool

/-- What `delete_digest` returns. -/
structure DeletionReceipt where
  artifactSha256 : String
  existed : Bool
  bytesRemoved : Nat
  deletionProofSha256 : String
  relativePath : String
  policy : Option ArtifactPolicy
  deriving DecidableEq

abbrev ArtifactCall (P : Platform) (α : Type) := Call (ContentAddressedArtifactStore P) Error α

/-- `hashlib.sha256(data).hexdigest()` -/
def contentDigest (P : Platform) (data : List UInt8) : String := P.hexdigest (P.sha256Raw data)

/-- `(Path(digest[:2]) / digest[2:]).as_posix()` -/
def relativePath (digest : String) : String :=
  String.ofList (digest.toList.take 2) ++ "/" ++ String.ofList (digest.toList.drop 2)

namespace ContentAddressedArtifactStore

/-- A store on an empty directory. -/
def create (maxBytes reserveBytes : Nat) : ContentAddressedArtifactStore P where
  files := Dict.empty
  catalog := {}
  maxBytes := maxBytes
  reserveBytes := reserveBytes
  forcedReadOnly := false

def usedBytes (a : ContentAddressedArtifactStore P) : Nat := (a.files.values.map List.length).sum

/-- Registering a digest that has a file. -/
def register (digest : String) (bytesCount : Nat) (mediaType : String) (policy : ArtifactPolicy) (scope : ArtifactScope)
    (critical : Bool) (now : DateTime) : ArtifactCall P (ArtifactRecord P) :=
  Call.zoom catalog (fun a c => { a with catalog := c })
    (ArtifactCatalog.register digest (relativePath digest) bytesCount mediaType policy scope critical now)

def putBytes (data : List UInt8) (mediaType : String) (critical : Bool) (policy : ArtifactPolicy) (scope : ArtifactScope)
    (now : DateTime) : ArtifactCall P ArtifactRef := do
  let a ← Call.read id
  let digest := contentDigest P data
  if a.forcedReadOnly then Call.raise (.osError "artifact medium is read-only")
  else match a.files.get? digest with
    | some existing =>
        if contentDigest P existing ≠ digest then Call.raise (.runtimeError "content-address collision")
        else do
          let _ ← register digest existing.length mediaType policy scope critical now
          pure ⟨digest, relativePath digest, existing.length, mediaType⟩
    | none =>
        let limit := if critical then a.maxBytes else a.maxBytes - a.reserveBytes
        if a.usedBytes + data.length > limit then
          Call.raise (.osError (if critical then "artifact capacity exhausted"
            else "artifact capacity reserve would be violated"))
        else do
          Call.modify (fun a => { a with files := a.files.insert digest data })
          let _ ← register digest data.length mediaType policy scope critical now
          pure ⟨digest, relativePath digest, data.length, mediaType⟩

def readBytes (a : ContentAddressedArtifactStore P) (digest : String) : Except Error (List UInt8) :=
  if digest.length ≠ 64 || !isHex digest then
    .error (.valueError "artifact digest must be a lowercase SHA-256 value")
  else match a.files.get? digest with
    | none => .error (.fileNotFoundError ("artifact not found for digest " ++ digest))
    | some data =>
        if contentDigest P data ≠ digest then .error (.runtimeError "artifact digest mismatch after reference")
        else .ok data

/-- The bytes of the digest can be read. -/
def Readable (a : ContentAddressedArtifactStore P) (digest : String) : Prop := ∃ data, a.readBytes digest = .ok data

instance (a : ContentAddressedArtifactStore P) (digest : String) : Decidable (a.Readable digest) :=
  match known : a.readBytes digest with
  | .ok data => isTrue ⟨data, known⟩
  | .error e => isFalse (fun ⟨data, read⟩ => by rw [known] at read; cases read)

/-- What the catalog says to a deletion: the policy in force, nothing for a digest
    it does not know, or a refusal. -/
def deletionPolicy (a : ContentAddressedArtifactStore P) (digest : String) (tombstoneAuthorized force : Bool)
    (now : DateTime) : Except Error (Option ArtifactPolicy) :=
  match a.catalog.effectivePolicy digest with
  | .error (.keyError _) => .ok none
  | .error e => .error e
  | .ok policy =>
      if !(a.catalog.references digest now).isEmpty && !force then
        .error (.permissionError "artifact deletion blocked by active references")
      else if policy.deletionPolicy = .tombstoneRequired && !tombstoneAuthorized && !force then
        .error (.permissionError "artifact deletion requires tombstone authorization")
      else if (policy.deletionPolicy = .holdProtected || policy.deletionPolicy = .manualOnly) && !force then
        .error (.permissionError ("artifact deletion blocked by policy " ++ policy.deletionPolicy.value))
      else .ok (some policy)

/-- The receipt of a deletion that removed `data`, if there was any. -/
def receipt (P : Platform) (digest : String) (policy : Option ArtifactPolicy) (data : Option (List UInt8)) :
    DeletionReceipt :=
  let bytesRemoved := (data.map List.length).getD 0
  { artifactSha256 := digest
    existed := data.isSome
    bytesRemoved := bytesRemoved
    deletionProofSha256 := P.sha256Text ("sentinel-artifact-delete-v1:" ++ digest ++ ":" ++
      (if data.isSome then "1" else "0") ++ ":" ++ toString bytesRemoved)
    relativePath := relativePath digest
    policy := policy }

/-- The deletion a catalogued digest leaves a record of. -/
def deletionEvent (P : Platform) (digest actor : String) (tombstoneAuthorized force existed : Bool) (now : DateTime) :
    GcEvent :=
  ArtifactCatalog.gcEvent P digest (if existed then "deleted" else "already_absent") actor
    (if tombstoneAuthorized then ["tombstone_authorized"] else if force then ["forced"] else ["policy_allowed"]) now

/-- The store once the file is unlinked and the deletion of a catalogued digest is
    recorded. -/
def deleted (a : ContentAddressedArtifactStore P) (digest actor : String) (tombstoneAuthorized force catalogued : Bool)
    (now : DateTime) : ContentAddressedArtifactStore P :=
  { a with
    files := a.files.restrict (fun other => other ≠ digest)
    catalog := if catalogued then a.catalog.recordGcEvent
        (deletionEvent P digest actor tombstoneAuthorized force (a.files.get? digest).isSome now)
      else a.catalog }

/-- `delete_digest`, which reads the clock for the references and again for its
    own record. -/
def deleteDigest (digest actor : String) (tombstoneAuthorized force : Bool) (checkedAt recordedAt : DateTime) :
    ArtifactCall P DeletionReceipt := do
  let a ← Call.read id
  if !P.isSha256 digest then Call.raise (.valueError "digest must be a lowercase SHA-256 hex value")
  else do
    let policy ← Call.lift (a.deletionPolicy digest tombstoneAuthorized force checkedAt)
    let data := a.files.get? digest
    if data.any (fun data => contentDigest P data ≠ digest) then
      Call.raise (.runtimeError "artifact digest mismatch before deletion")
    else do
      Call.modify (fun a => a.deleted digest actor tombstoneAuthorized force policy.isSome recordedAt)
      pure (receipt P digest policy data)

/-! ## When a deletion goes through -/

variable {a a' : ContentAddressedArtifactStore P} {digest actor : String} {tombstoneAuthorized force : Bool}
  {checkedAt recordedAt : DateTime}

/-- The file, if there is one, still has the content it is named after. -/
def Intact (a : ContentAddressedArtifactStore P) (digest : String) : Prop :=
  ∀ data, a.files.get? digest = some data → contentDigest P data = digest

/-- A deletion is well-formed, not refused and finds nothing damaged. -/
structure Deletable (a : ContentAddressedArtifactStore P) (digest : String) (tombstoneAuthorized force : Bool)
    (checkedAt : DateTime) (policy : Option ArtifactPolicy) : Prop where
  wellFormed : P.isSha256 digest = true
  permitted : a.deletionPolicy digest tombstoneAuthorized force checkedAt = .ok policy
  intact : a.Intact digest

theorem deleteDigest_of_deletable {policy : Option ArtifactPolicy}
    (deletable : a.Deletable digest tombstoneAuthorized force checkedAt policy) :
    deleteDigest digest actor tombstoneAuthorized force checkedAt recordedAt a =
      (.ok (receipt P digest policy (a.files.get? digest)),
        a.deleted digest actor tombstoneAuthorized force policy.isSome recordedAt) := by
  have undamaged : (a.files.get? digest).any (fun data => contentDigest P data ≠ digest) = false := by
    cases found : a.files.get? digest with
    | none => rfl
    | some data => simp [deletable.intact data found]
  simp only [deleteDigest, Call.read_bind, id, deletable.wellFormed, Bool.not_true, Bool.false_eq_true, if_false]
  rw [Call.bind_of_ok (Call.lift_apply _ _ |>.trans (by rw [deletable.permitted]))]
  rw [undamaged]
  rfl

/-- `delete_digest` raises and leaves everything alone, or all its checks passed. -/
theorem deleteDigest_cases (a : ContentAddressedArtifactStore P) (digest actor : String)
    (tombstoneAuthorized force : Bool) (checkedAt recordedAt : DateTime) :
    (∃ e, deleteDigest digest actor tombstoneAuthorized force checkedAt recordedAt a = (.error e, a)) ∨
      ∃ policy, a.Deletable digest tombstoneAuthorized force checkedAt policy := by
  cases wellFormed : P.isSha256 digest with
  | false => exact .inl ⟨_, by simp [deleteDigest, wellFormed]; rfl⟩
  | true =>
      cases permitted : a.deletionPolicy digest tombstoneAuthorized force checkedAt with
      | error e =>
          refine .inl ⟨e, ?_⟩
          simp only [deleteDigest, Call.read_bind, id, wellFormed, Bool.not_true, Bool.false_eq_true, if_false]
          exact Call.bind_of_error (by rw [Call.lift_apply, permitted])
      | ok policy =>
          by_cases damaged : (a.files.get? digest).any (fun data => contentDigest P data ≠ digest) = true
          · refine .inl ⟨.runtimeError "artifact digest mismatch before deletion", ?_⟩
            simp only [deleteDigest, Call.read_bind, id, wellFormed, Bool.not_true, Bool.false_eq_true, if_false]
            rw [Call.bind_of_ok (Call.lift_apply _ _ |>.trans (by rw [permitted])), if_pos damaged]
            rfl
          · refine .inr ⟨policy, wellFormed, permitted, ?_⟩
            intro data found
            simpa [found] using damaged

theorem deleteDigest_ok {result : DeletionReceipt}
    (h : deleteDigest digest actor tombstoneAuthorized force checkedAt recordedAt a = (.ok result, a')) :
    ∃ policy, a.Deletable digest tombstoneAuthorized force checkedAt policy ∧
      result = receipt P digest policy (a.files.get? digest) ∧
      a' = a.deleted digest actor tombstoneAuthorized force policy.isSome recordedAt := by
  rcases deleteDigest_cases a digest actor tombstoneAuthorized force checkedAt recordedAt with
    ⟨e, raised⟩ | ⟨policy, deletable⟩
  · rw [raised] at h
    cases h
  · rw [deleteDigest_of_deletable deletable] at h
    cases h
    exact ⟨policy, deletable, rfl, rfl⟩

theorem deleteDigest_error {e : Error}
    (h : deleteDigest digest actor tombstoneAuthorized force checkedAt recordedAt a = (.error e, a')) : a' = a := by
  rcases deleteDigest_cases a digest actor tombstoneAuthorized force checkedAt recordedAt with
    ⟨e, raised⟩ | ⟨policy, deletable⟩
  · rw [raised] at h
    exact (Prod.mk.inj h).2.symm
  · rw [deleteDigest_of_deletable deletable] at h
    cases h

theorem get?_deleted (a : ContentAddressedArtifactStore P) (digest actor : String)
    (tombstoneAuthorized force catalogued : Bool) (now : DateTime) (other : String) :
    (a.deleted digest actor tombstoneAuthorized force catalogued now).files.get? other =
      if other = digest then none else a.files.get? other := by
  rw [deleted, Dict.get?_restrict]
  by_cases same : other = digest <;> simp [same]

theorem readable_iff :
    a.Readable digest ↔ digest.length = 64 ∧ isHex digest = true ∧ ∃ data, a.files.get? digest = some data ∧
      contentDigest P data = digest := by
  unfold Readable readBytes
  by_cases length : digest.length = 64
  · cases hex : isHex digest with
    | false => simp [length]
    | true =>
        cases found : a.files.get? digest with
        | none => simp [length]
        | some data => by_cases same : contentDigest P data = digest <;> simp [length, same]
  · simp [length]

end ContentAddressedArtifactStore

end SentinelEdge.Storage
