import SentinelEdge.Foundation.Table
import SentinelEdge.Runtime.Scheduler
import SentinelEdge.Storage.Artifacts

/-! # The configuration store

`ConfigurationStore` keeps the staged bundles under their identity, a record of
every activation, and two pointers to the bundle that is active and to the last one
known to be good. Dictionaries of a bundle are lists in the order of their keys.
-/

namespace SentinelEdge.Configuration

open Foundation Domain Runtime

structure ConfigurationBundle where
  schemaVersion : String := "1.0.0"
  bundleId : String
  version : String
  actor : String
  workloads : List WorkloadSpec
  settings : List (String × Json) := []
  modelHashes : List (String × String) := []
  sourceHashes : List (String × String) := []
  createdAt : DateTime

namespace ConfigurationBundle

/-- `validate_bundle` -/
def validateBundle (b : ConfigurationBundle) : Except Error ConfigurationBundle :=
  let ids := b.workloads.map WorkloadSpec.workloadId
  if b.schemaVersion ≠ "1.0.0" then .error (.validationError "unsupported configuration schema_version")
  else if isBlank b.bundleId || isBlank b.version || isBlank b.actor then
    .error (.validationError "bundle_id, version, and actor must not be blank")
  else if ids.dedup.length ≠ ids.length then .error (.validationError "workload identifiers must be unique")
  else if b.workloads.isEmpty then .error (.validationError "at least one workload is required")
  else .ok b

def dumpWorkload (w : WorkloadSpec) : Json := .obj [
  ("deadline_ms", .int w.deadlineMs),
  ("estimated_cost_ms", .int w.estimatedCostMs),
  ("forced_scan_ms", Json.optional (fun ms : Nat => .int ms) w.forcedScanMs),
  ("hazard", .str w.hazard.value),
  ("max_deferral_ms", .int w.maxDeferralMs),
  ("memory_mb", .int w.memoryMb),
  ("period_ms", .int w.periodMs),
  ("profile_id", .str w.profileId),
  ("tier", .int w.tier.level),
  ("workload_id", .str w.workloadId)]

def modelDump (P : Platform) (b : ConfigurationBundle) : Json := .obj [
  ("actor", .str b.actor),
  ("bundle_id", .str b.bundleId),
  ("created_at", Dump.time P b.createdAt),
  ("model_hashes", .obj (b.modelHashes.map (fun entry => (entry.1, .str entry.2)))),
  ("schema_version", .str b.schemaVersion),
  ("settings", .obj b.settings),
  ("source_hashes", .obj (b.sourceHashes.map (fun entry => (entry.1, .str entry.2)))),
  ("version", .str b.version),
  ("workloads", .arr (b.workloads.map dumpWorkload))]

/-- `ConfigurationStore.key` -/
def key (b : ConfigurationBundle) : String := b.bundleId ++ "@" ++ b.version

end ConfigurationBundle

inductive ConfigurationState where
  | staged | active | lastKnownGood | rejected | rolledBack
  deriving DecidableEq, Repr

structure ConfigurationActivationRecord (P : Platform) where
  activationId : UUID
  bundleId : String
  version : String
  state : ConfigurationState
  actor : String
  bundleSha256 : String
  diffSha256 : P.Digest
  previousBundleId : Option String := none
  reasonCodes : List String := []
  activatedAt : DateTime

/-- A row of `configuration_bundles`. -/
structure BundleRow where
  bundleKey : String
  bundleId : String
  version : String
  state : ConfigurationState
  bundleSha256 : String
  artifactRef : String
  payload : ConfigurationBundle
  createdAt : DateTime

/-- The tables; the last two fields are the row of `configuration_pointers`. -/
structure ConfigurationStore (P : Platform) where
  bundles : List BundleRow := []
  activations : List (ConfigurationActivationRecord P) := []
  activeBundleKey : Option String := none
  lastKnownGoodBundleKey : Option String := none

namespace ConfigurationStore

variable {P : Platform}

abbrev ConfigurationCall (P : Platform) (α : Type) := Call (ConfigurationStore P) Error α

/-- `SELECT … FROM configuration_bundles WHERE bundle_key=?` -/
def row (s : ConfigurationStore P) (key : String) : Option BundleRow := s.bundles.find? (fun r => r.bundleKey = key)

def stage (bundle : ConfigurationBundle) (bundleSha256 artifactRef : String) : ConfigurationCall P Unit := do
  let existing ← Call.read (fun s => s.row bundle.key)
  match existing with
  | some existing =>
      if existing.bundleSha256 ≠ bundleSha256 then Call.raise (.valueError "configuration identity is immutable")
      else pure ()
  | none => Call.modify (fun s => { s with bundles := s.bundles ++ [{
      bundleKey := bundle.key
      bundleId := bundle.bundleId
      version := bundle.version
      state := .staged
      bundleSha256 := bundleSha256
      artifactRef := artifactRef
      payload := bundle
      createdAt := bundle.createdAt }] })

/-- `_bundle_for_key` -/
def bundleForKey (s : ConfigurationStore P) (key : Option String) : Option ConfigurationBundle :=
  key.bind (fun key => (s.row key).map BundleRow.payload)

def active (s : ConfigurationStore P) : Option ConfigurationBundle := s.bundleForKey s.activeBundleKey

def lastKnownGood (s : ConfigurationStore P) : Option ConfigurationBundle := s.bundleForKey s.lastKnownGoodBundleKey

/-- `UPDATE configuration_bundles SET state=? WHERE bundle_key=?` -/
def setState (key : String) (state : ConfigurationState) : ConfigurationCall P Unit :=
  Call.modify (fun s => { s with
    bundles := s.bundles.map (fun r => if r.bundleKey = key then { r with state := state } else r) })

/-- `UPDATE configuration_pointers SET … WHERE singleton=1` -/
def setPointers (active lastKnownGood : Option String) : ConfigurationCall P Unit :=
  Call.modify (fun s => { s with activeBundleKey := active, lastKnownGoodBundleKey := lastKnownGood })

def activationsTable : Table (ConfigurationStore P) (ConfigurationActivationRecord P) where
  rows := activations
  setRows s rows := { s with activations := rows }
  clash record old := record.activationId = old.activationId

/-- `_insert_activation` -/
def insertActivation (activation : ConfigurationActivationRecord P) : ConfigurationCall P Unit := do
  activationsTable.insert (.integrityError "configuration_activations") activation
  setState (activation.bundleId ++ "@" ++ activation.version) activation.state

def record (activation : ConfigurationActivationRecord P) : ConfigurationCall P Unit :=
  Call.atomically (insertActivation activation)

def activate (bundle : ConfigurationBundle) (activation : ConfigurationActivationRecord P) : ConfigurationCall P Unit :=
  Call.atomically do
    let previous ← Call.read activeBundleKey
    match previous with
    | some previous => if previous ≠ bundle.key then setState previous .lastKnownGood else pure ()
    | none => pure ()
    insertActivation activation
    let lastKnownGoodKey ← Call.read lastKnownGoodBundleKey
    setPointers (some bundle.key) (if previous ≠ some bundle.key then previous else lastKnownGoodKey)

def rollback (candidate : ConfigurationBundle) (previous : Option ConfigurationBundle)
    (activation : ConfigurationActivationRecord P) : ConfigurationCall P Unit :=
  Call.atomically do
    insertActivation activation
    match previous with
    | some previous => setState previous.key .active
    | none => pure ()
    setPointers (previous.map ConfigurationBundle.key) (previous.map ConfigurationBundle.key)
    setState candidate.key .rolledBack

end ConfigurationStore

end SentinelEdge.Configuration

/-! ## The configuration manager

`ConfigurationManager.activate`: the bundle is staged, tested, made active, and only
then shown to the canary, which may still turn it down. The self test is a
parameter, as in the constructor.
-/

namespace SentinelEdge.Configuration

open Foundation Domain Storage

variable {P : Platform}

/-- What the manager works on. -/
structure ConfigurationManager (P : Platform) where
  store : ConfigurationStore P := {}
  artifacts : ContentAddressedArtifactStore P

abbrev ManagerCall (P : Platform) (α : Type) := Call (ConfigurationManager P) Error α

/-- A self test or a canary: its verdict and reasons, or what it raises. -/
abbrev Trial := ConfigurationBundle → Except Error (Bool × List String)

/-- A bundle, or a document with the result of reading its fields. -/
inductive RawBundle where
  | bundle (bundle : ConfigurationBundle)
  | document (fields : Except Error ConfigurationBundle)

/-- One call of `activate`: its arguments, and the clock readings and ids it draws
    for the artifact, the record of the activation and that of a rollback. -/
structure Activation where
  raw : RawBundle
  canary : Option Trial
  storedAt : DateTime
  activationId : UUID
  activatedAt : DateTime
  rollbackId : UUID
  rolledBackAt : DateTime

namespace ConfigurationManager

def onStore {α : Type} (x : Call (ConfigurationStore P) Error α) : ManagerCall P α :=
  Call.zoom ConfigurationManager.store (fun m s => { m with store := s }) x

def onArtifacts {α : Type} (x : ArtifactCall P α) : ManagerCall P α :=
  Call.zoom ConfigurationManager.artifacts (fun m a => { m with artifacts := a }) x

/-- `_SHA256.fullmatch(value)` -/
def isDigest (value : String) : Bool := value.length = 64 && isHex value

/-- One label of the loop in `validate`. -/
def checkHashes (label : String) (values : List (String × String)) : Except Error Unit :=
  let invalid := (values.filter (fun entry => !isDigest entry.2)).map Prod.fst
  if invalid ≠ [] then
    .error (.valueError ("invalid " ++ label ++ " SHA-256 for: " ++
      ",".intercalate (invalid.insertionSort (fun a b => a ≤ b))))
  else .ok ()

def validate (raw : RawBundle) : Except Error ConfigurationBundle := do
  let bundle ← match raw with
    | .bundle bundle => .ok bundle
    | .document fields => do
        let bundle ← fields
        bundle.validateBundle
  checkHashes "model" bundle.modelHashes
  checkHashes "source" bundle.sourceHashes
  .ok bundle

/-- `ArtifactPolicy.configuration_bundle()` -/
def configurationBundlePolicy : ArtifactPolicy where
  classification := .internal
  retention := .operational
  encryption := .nodeAtRest
  exportPolicy := .prohibited
  deletionPolicy := .manualOnly
  reasonCodes := ["configuration_bundle"]

def stage (raw : RawBundle) (now : DateTime) : ManagerCall P (ConfigurationBundle × String × String) := do
  let bundle ← Call.lift (validate raw)
  let payload := P.canonicalJsonBytes (bundle.modelDump P)
  let ref ← onArtifacts (ContentAddressedArtifactStore.putBytes payload "application/json" false configurationBundlePolicy
    { scenarioRunId := some ("configuration:" ++ bundle.bundleId) } now)
  onStore (ConfigurationStore.stage bundle ref.sha256 ("sha256:" ++ ref.sha256))
  pure (bundle, ref.sha256, ref.relativePath)

/-- The record that `activate` builds for one of its ends. -/
def activationRecord (bundle : ConfigurationBundle) (previous : Option ConfigurationBundle) (bundleSha256 : String)
    (state : ConfigurationState) (reasonCodes : List String) (id : UUID) (at_ : DateTime) :
    ConfigurationActivationRecord P where
  activationId := id
  bundleId := bundle.bundleId
  version := bundle.version
  state := state
  actor := bundle.actor
  bundleSha256 := bundleSha256
  diffSha256 := P.sha256 (.obj [
    ("from", (previous.map (ConfigurationBundle.modelDump P)).getD (.obj [])),
    ("to", bundle.modelDump P)])
  previousBundleId := previous.map ConfigurationBundle.bundleId
  reasonCodes := reasonCodes
  activatedAt := at_

def activate (selfTest : Trial) (call : Activation) : ManagerCall P (ConfigurationActivationRecord P) := do
  let previous ← Call.read (fun m => m.store.active)
  let (bundle, bundleSha256, _) ← stage call.raw call.storedAt
  let (passed, reasons) ← Call.lift (selfTest bundle)
  if !passed then do
    let rejected := activationRecord bundle previous bundleSha256 .rejected ("self_test_failed" :: reasons)
      call.activationId call.activatedAt
    onStore (ConfigurationStore.record rejected)
    pure rejected
  else do
    let activated := activationRecord bundle previous bundleSha256 .active ["self_test_passed"]
      call.activationId call.activatedAt
    onStore (ConfigurationStore.activate bundle activated)
    match call.canary with
    | none => pure activated
    | some canary => do
        let (canaryPassed, canaryReasons) ← Call.lift (canary bundle)
        if !canaryPassed then do
          let rolledBack := activationRecord bundle previous bundleSha256 .rolledBack ("canary_failed" :: canaryReasons)
            call.rollbackId call.rolledBackAt
          onStore (ConfigurationStore.rollback bundle previous rolledBack)
          pure rolledBack
        else pure activated

end ConfigurationManager

end SentinelEdge.Configuration
