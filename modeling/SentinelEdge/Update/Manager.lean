import SentinelEdge.Foundation.Values
import SentinelEdge.Runtime.Scheduler
import SentinelEdge.Update.Metadata

/-! # Offline updates

`OfflineUpdateManager` verifies a signed bundle, stages its targets in a directory, and
activates what it then finds there, by a copy and a pointer to it. The files are one
tree, in which every step may fail.
-/

namespace SentinelEdge.Update

open Foundation Domain Checks SentinelEdge.Runtime
open Collaboration (WireTime)

inductive UpdateBundleState where
  | staged | verified | rejected | activated | rolledBack
  deriving DecidableEq, Repr

structure OfflineUpdateVerification where
  bundleId : String
  version : Nat
  state : UpdateBundleState
  verifiedAt : WireTime
  metadataSha256 : String
  signerKeyId : String
  reasonCodes : List String
  deriving DecidableEq

/-- The document in `active.json`. -/
structure ActivePointer where
  bundleId : String
  version : Nat
  path : String
  metadataSha256 : String
  activatedAt : WireTime
  deriving DecidableEq

/-- What the manager calls, with its public key. -/
structure UpdateLibrary where
  /-- `json.loads` of bytes, with the fields as the types of the metadata take them. -/
  loads : List UInt8 → Except Error UpdateDocument
  /-- The same of `read_text(encoding="utf-8")`. -/
  loadsText : List UInt8 → Except Error UpdateDocument
  /-- `canonical_json_bytes` -/
  canonicalJsonBytes : UpdateDocument → List UInt8
  sha256 : List UInt8 → String
  /-- `key_id(public_key)` -/
  keyId : String
  /-- Whether `public_key.verify(b64decode(signature, validate=True), message)` returns. -/
  verifies : List UInt8 → List UInt8 → Bool
  /-- `json.dumps(pointer, indent=2, sort_keys=True) + "\n"` -/
  pointerBytes : ActivePointer → List UInt8
  /-- `int(json.loads(text)["version"])` -/
  pointerVersion : List UInt8 → Except Error Int

/-- An opened bundle: `namelist` and `read`. -/
structure UpdateArchive where
  names : List String
  read : String → Except Error (List UInt8)

/-- The steps of the manager on its files. -/
inductive DiskStep where
  | readPointer | removeStaged | makeTemp | writeTarget | writeMetadata | moveStaged
  | readMetadata | removeActivated | copyTree | readActivated | writePointer | syncPointer | movePointer
  deriving DecidableEq, Repr

/-- What each step raises, if it fails. -/
abbrev Disk := DiskStep → Option Error

/-- A step that fails has done nothing. -/
def Disk.perform (disk : Disk) (step : DiskStep) : Except Error Unit :=
  match disk step with
  | some e => .error e
  | none => .ok ()

@[simp] theorem Disk.perform_eq_ok {disk : Disk} {step : DiskStep} {done : Unit} :
    disk.perform step = .ok done ↔ disk step = none := by
  unfold Disk.perform
  cases disk step with
  | some e => simp
  | none => simp

/-! ## Files -/

def readFile (disk : Disk) (step : DiskStep) (path : FilePath) (t : FileTree) : Except Error (List UInt8) := do
  disk.perform step
  match t.get? path with
  | some content => .ok content
  | none => .error (if t.isDirectory path then .osError "is a directory" else .fileNotFoundError "no such file")

/-- `path.write_bytes` -/
def writeFile (path : FilePath) (content : List UInt8) (t : FileTree) : Except Error FileTree := do
  refuse (t.isCutOff path) (.osError "not a directory")
  refuse (t.isDirectory path) (.osError "is a directory")
  return t.insert path content

/-- `if path.exists(): shutil.rmtree(path)` -/
def removeTree (disk : Disk) (step : DiskStep) (path : FilePath) (t : FileTree) : Except Error FileTree := do
  disk.perform step
  refuse (t.isFile path) (.osError "not a directory")
  return t.remove path

/-- A tree copied into a directory that it has below one of its own has no end. -/
def isEndless (t : FileTree) (source destination : FilePath) : Bool :=
  source.isPrefixOf destination &&
    match destination.drop source.length with
    | first :: _ :: _ => t.isPresent (source ++ [first])
    | _ => false

/-- `shutil.copytree(source, destination)`, where nothing is at the destination. -/
def copyTree (disk : Disk) (source destination : FilePath) (t : FileTree) : Except Error FileTree := do
  disk.perform .copyTree
  refuse (!t.isPresent source) (.fileNotFoundError "no such directory")
  refuse (t.isFile source) (.osError "not a directory")
  refuse (t.isCutOff destination) (.osError "not a directory")
  refuse (isEndless t source destination) (.osError "file name too long")
  return t.graft destination (t.below source)

/-- `os.replace(path, destination)` of a file. -/
def moveFile (disk : Disk) (step : DiskStep) (path destination : FilePath) (t : FileTree) : Except Error FileTree := do
  disk.perform step
  refuse (t.isDirectory destination) (.osError "is a directory")
  let content ← readFile disk step path t
  return (t.remove path).insert destination content

section

variable {disk : Disk} {step : DiskStep} {path source destination : FilePath} {content : List UInt8} {t t' : FileTree}

theorem readFile_ok : readFile disk step path t = .ok content ↔ disk step = none ∧ t.get? path = some content := by
  unfold readFile
  cases found : t.get? path with
  | none => simp [bind_eq_ok]
  | some here => simp [bind_eq_ok]

theorem writeFile_ok : writeFile path content t = .ok t' ↔
    t.isCutOff path = false ∧ t.isDirectory path = false ∧ t' = t.insert path content := by
  simp only [writeFile, bind_eq_ok, refuse_eq_ok, pure_eq_ok, exists_const]

theorem removeTree_ok : removeTree disk step path t = .ok t' ↔
    disk step = none ∧ t.isFile path = false ∧ t' = t.remove path := by
  simp only [removeTree, bind_eq_ok, refuse_eq_ok, pure_eq_ok, exists_const, Disk.perform_eq_ok]

theorem copyTree_ok : copyTree disk source destination t = .ok t' ↔ disk .copyTree = none ∧ t.isPresent source = true ∧
    t.isFile source = false ∧ t.isCutOff destination = false ∧ isEndless t source destination = false ∧
    t' = t.graft destination (t.below source) := by
  simp only [copyTree, bind_eq_ok, refuse_eq_ok, pure_eq_ok, exists_const, Disk.perform_eq_ok, Bool.not_eq_eq_eq_not,
    Bool.not_false]

theorem moveFile_ok : moveFile disk step path destination t = .ok t' ↔ disk step = none ∧ t.isDirectory destination = false ∧
    ∃ content, t.get? path = some content ∧ t' = (t.remove path).insert destination content := by
  simp only [moveFile, bind_eq_ok, refuse_eq_ok, pure_eq_ok, exists_const, Disk.perform_eq_ok, readFile_ok]
  constructor
  · rintro ⟨working, leaf, content, ⟨-, found⟩, moved⟩
    exact ⟨working, leaf, content, found, moved⟩
  · rintro ⟨working, leaf, content, found, moved⟩
    exact ⟨working, leaf, content, ⟨working, found⟩, moved⟩

end

/-- A step on the files, which they keep if it returns. -/
def onFiles (step : FileTree → Except Error FileTree) : Call FileTree Error Unit := fun t =>
  match step t with
  | .ok t' => (.ok (), t')
  | .error e => (.error e, t)

theorem onFiles_ok {step : FileTree → Except Error FileTree} {t t' : FileTree} {done : Unit} :
    onFiles step t = (.ok done, t') ↔ step t = .ok t' := by
  unfold onFiles
  cases step t with
  | ok left => simp
  | error e => simp

/-! ## The manager -/

structure OfflineUpdateManager where
  stateDir : FilePath
  currentProjectVersion : String
  mode : RuntimeMode

/-- `_version_tuple` -/
def versionTuple (value : String) : Except Error (List Int) :=
  let number := (split ((split value '+').headD "") '-').headD ""
  (split number '.').mapM fun part =>
    match PyText.toInt (PyText.of part) with
    | some n => .ok n
    | none => .error (.valueError ("invalid semantic version: " ++ value))

def metadataName : String := "metadata.json"

def signatureName : String := "metadata.ed25519"

/-- `_ALLOWED_CONTROL_FILES` -/
def allowedControlFiles : List String := [metadataName, signatureName]

/-- `_PROTECTED_TARGET_PREFIXES` -/
def protectedTargetPrefixes : List String := ["artifacts/", "evidence/", "backups/", "privacy/", "state/"]

/-- `_verify_tombstone_requirement`, with the current status of the tombstones. -/
def verifyTombstoneRequirement (status : Except Error (Int × String)) (metadata : OfflineUpdateMetadata) :
    Except Error (List String) := do
  let current ← status
  refuse (current.1 < metadata.minimumTombstoneAuthorityPosition)
    (.valueError "update requires a newer privacy tombstone watermark")
  refuse (metadata.requiredTombstoneJournalSha256.isSome && current.1 = metadata.minimumTombstoneAuthorityPosition &&
      some current.2 ≠ metadata.requiredTombstoneJournalSha256)
    (.valueError "update tombstone journal digest does not match the required watermark")
  return ["tombstone_position:" ++ toString current.1, "tombstone_requirement_satisfied"]

namespace OfflineUpdateManager

variable (manager : OfflineUpdateManager)

def updateRoot : FilePath := manager.stateDir ++ ["updates"]

def stagedRoot : FilePath := manager.updateRoot ++ ["staged"]

def activatedRoot : FilePath := manager.updateRoot ++ ["activated"]

def pointerPath : FilePath := manager.updateRoot ++ ["active.json"]

/-- `self.pointer_path.with_suffix(".tmp")` -/
def tempPointer : FilePath := manager.updateRoot ++ ["active.tmp"]

/-- `f"{bundle_id}-{version}"` -/
def directoryName (bundleId : String) (version : Nat) : String := bundleId ++ "-" ++ toString version

def stagedPath (bundleId : String) (version : Nat) : FilePath :=
  FilePath.resolve manager.stagedRoot (directoryName bundleId version)

def activatedPath (bundleId : String) (version : Nat) : FilePath :=
  FilePath.resolve manager.activatedRoot (directoryName bundleId version)

/-- `activated.relative_to(self.state_dir).as_posix()`, which does not look at where
    the path leads. -/
def relativeName (bundleId : String) (version : Nat) : Except Error String :=
  let name := directoryName bundleId version
  let parts := if FilePath.isAbsolute name then FilePath.parts name else manager.activatedRoot ++ FilePath.parts name
  let twoSlashes := (name.toList.takeWhile (· = '/')).length = 2
  if !twoSlashes && manager.stateDir.isPrefixOf parts then .ok ("/".intercalate (parts.drop manager.stateDir.length))
  else .error (.valueError "path is not in the subpath of the state directory")

variable (L : UpdateLibrary)

def currentUpdateVersion (disk : Disk) (t : FileTree) : Except Error Int := do
  if !t.isPresent manager.pointerPath then return 0
  let text ← readFile disk .readPointer manager.pointerPath t
  L.pointerVersion text

/-- The checks of the archive members' names. -/
def checkNames (names : List String) : Except Error Unit := do
  refuse (!decide names.Nodup) (.valueError "update bundle contains duplicate archive members")
  names.forM fun name => do
    let safe ← safeRelativeTargetPath name
    refuse (safe ≠ name) (.valueError "update archive member is not canonical")
  refuse (allowedControlFiles.any fun control => !names.contains control)
    (.valueError "update bundle is missing signed metadata")

/-- The signature, over the bytes of the metadata. -/
def checkSignature (archive : UpdateArchive) (metadataBytes : List UInt8) : Except Error Unit :=
  match archive.read signatureName with
  | .error e => .error (if e.isValueError then .valueError "update metadata signature is invalid" else e)
  | .ok signature => refuse (!L.verifies signature metadataBytes) (.valueError "update metadata signature is invalid")

/-- Whether the project version lies outside of the bounds; the higher one is read only
    if it is not below the lower one. -/
def isIncompatible (metadata : OfflineUpdateMetadata) : Except Error Bool := do
  let current ← versionTuple manager.currentProjectVersion
  let lowest ← versionTuple metadata.compatibleMinVersion
  if current < lowest then return true
  let highest ← versionTuple metadata.compatibleMaxVersion
  return highest < current

def checkTarget (archive : UpdateArchive) (target : OfflineUpdateTarget) : Except Error Unit := do
  refuse (protectedTargetPrefixes.any fun start => start.toList.isPrefixOf target.path.toList)
    (.valueError "update metadata targets a protected state or privacy path")
  let data ← archive.read target.path
  refuse (data.length ≠ target.length || L.sha256 data ≠ target.sha256)
    (.valueError ("update target verification failed: " ++ target.path))

def verify (status : Except Error (Int × String)) (disk : Disk) (archive : UpdateArchive) (now : WireTime) (t : FileTree) :
    Except Error (OfflineUpdateMetadata × OfflineUpdateVerification) := do
  checkNames archive.names
  let metadataBytes ← archive.read metadataName
  checkSignature L archive metadataBytes
  let document ← L.loads metadataBytes
  let metadata ← OfflineUpdateMetadata.modelValidate document
  refuse (L.keyId ≠ metadata.rootKeyId) (.valueError "update root key identifier mismatch")
  refuse (L.canonicalJsonBytes metadata.modelDump ≠ metadataBytes) (.valueError "update metadata is not canonical")
  let expired ← metadata.expiresAt.le now
  refuse expired (.valueError "update metadata is expired")
  let created ← metadata.createdAt.le now
  refuse (!created) (.valueError "update metadata creation time is in the future")
  let incompatible ← manager.isIncompatible metadata
  refuse incompatible (.valueError "update bundle is incompatible with the current project version")
  let current ← manager.currentUpdateVersion L disk t
  refuse (metadata.version ≤ current) (.valueError "update rollback or replay detected")
  let declared := metadata.targets.map OfflineUpdateTarget.path
  refuse ((archive.names.any fun name => !declared.contains name && !allowedControlFiles.contains name) ||
      declared.any fun path => !archive.names.contains path)
    (.valueError "update archive members differ from signed targets")
  metadata.targets.forM (checkTarget L archive)
  let reasons ← verifyTombstoneRequirement status metadata
  return (metadata, {
    bundleId := metadata.bundleId
    version := metadata.version
    state := .verified
    verifiedAt := now
    metadataSha256 := L.sha256 metadataBytes
    signerKeyId := metadata.rootKeyId
    reasonCodes := ["ed25519_signature_valid", "expiry_valid", "rollback_check_passed", "targets_verified"] ++ reasons })

/-- Write one target into the new directory. -/
def extractTarget (disk : Disk) (archive : UpdateArchive) (temp : FileTree) (target : OfflineUpdateTarget) :
    Except Error FileTree := do
  disk.perform .writeTarget
  refuse (temp.isCutOff target.parts) (.osError "not a directory")
  let data ← archive.read target.path
  let temp ← writeFile target.parts data temp
  refuse (L.sha256 data ≠ target.sha256) (.valueError "staged target digest mismatch")
  return temp

/-- The directory that is moved to its place when it is complete. -/
def extract (disk : Disk) (archive : Except Error UpdateArchive) (metadata : OfflineUpdateMetadata) :
    Except Error FileTree := do
  let archive ← archive
  let temp ← metadata.targets.foldlM (extractTarget L disk archive) Dict.empty
  disk.perform .writeMetadata
  writeFile [metadataName] (L.canonicalJsonBytes metadata.modelDump) temp

/-- The directories that the manager has made, and those with files below. -/
def isMade (path : FilePath) (t : FileTree) : Bool :=
  path.isPrefixOf manager.stagedRoot || path.isPrefixOf manager.activatedRoot || t.isDirectory path

/-- `os.replace(temp, destination)` -/
def moveStaged (disk : Disk) (destination : FilePath) (temp t : FileTree) : Except Error FileTree := do
  disk.perform .moveStaged
  refuse (t.isCutOff destination) (.osError "not a directory")
  refuse (!manager.isMade destination.dropLast t) (.fileNotFoundError "no such directory")
  return t.graft destination temp

/-- The bundle is opened twice, once to verify it and once to extract it. -/
def stage (status : Except Error (Int × String)) (disk : Disk) (verified extracted : Except Error UpdateArchive)
    (now : WireTime) : Call FileTree Error (FilePath × OfflineUpdateVerification) := do
  Call.lift (refuse (manager.mode = .judge || manager.mode = .benchmark)
    (.permissionError "judge and benchmark modes are immutable"))
  let archive ← Call.lift verified
  let t ← Call.read id
  let verification ← Call.lift (manager.verify L status disk archive now t)
  let metadata := verification.1
  let destination := manager.stagedPath metadata.bundleId metadata.version
  onFiles (removeTree disk .removeStaged destination)
  Call.lift (disk.perform .makeTemp)
  -- with a directory above it, the one for the temporary directory is gone
  Call.lift (refuse (destination.isPrefixOf manager.stagedRoot) (.fileNotFoundError "no such directory"))
  let temp ← Call.lift (extract L disk extracted metadata)
  onFiles (manager.moveStaged disk destination temp)
  return (destination, { verification.2 with state := .staged })

/-- The file of a target has its length and its digest. -/
def isIntact (directory : FilePath) (t : FileTree) (target : OfflineUpdateTarget) : Bool :=
  match t.get? (FilePath.resolve directory target.path) with
  | some content => content.length = target.length && L.sha256 content = target.sha256
  | none => false

/-- What `activate` checks before the self test, all of it on the staged directory. -/
def checkStaged (status : Except Error (Int × String)) (disk : Disk) (staged : FilePath) (t : FileTree) :
    Except Error OfflineUpdateMetadata := do
  refuse (manager.mode ≠ .fieldLab) (.permissionError "offline update activation is field-lab only")
  refuse (!manager.stagedRoot.isPrefixOf staged) (.valueError "staged update is outside the update root")
  let text ← readFile disk .readMetadata (staged ++ [metadataName]) t
  let document ← L.loadsText text
  let metadata ← OfflineUpdateMetadata.modelValidate document
  let _ ← verifyTombstoneRequirement status metadata
  let current ← manager.currentUpdateVersion L disk t
  refuse (metadata.version ≤ current) (.valueError "update rollback or replay detected")
  refuse (!metadata.targets.all (isIntact L staged t))
    (.valueError "staged update target no longer matches signed metadata")
  return metadata

def receipt (metadata : OfflineUpdateMetadata) (state : UpdateBundleState) (now : WireTime) (metadataSha256 : String)
    (reasonCodes : List String) : OfflineUpdateVerification where
  bundleId := metadata.bundleId
  version := metadata.version
  state := state
  verifiedAt := now
  metadataSha256 := metadataSha256
  signerKeyId := metadata.rootKeyId
  reasonCodes := reasonCodes

/-- The copy, and the pointer to it. -/
def commit (disk : Disk) (staged : FilePath) (now : WireTime) (metadata : OfflineUpdateMetadata) :
    Call FileTree Error OfflineUpdateVerification := do
  let activated := manager.activatedPath metadata.bundleId metadata.version
  onFiles (removeTree disk .removeActivated activated)
  onFiles (copyTree disk staged activated)
  let path ← Call.lift (manager.relativeName metadata.bundleId metadata.version)
  let t ← Call.read id
  let metadataBytes ← Call.lift (readFile disk .readActivated (activated ++ [metadataName]) t)
  let pointer : ActivePointer := {
    bundleId := metadata.bundleId
    version := metadata.version
    path := path
    metadataSha256 := L.sha256 metadataBytes
    activatedAt := now }
  Call.lift (disk.perform .writePointer)
  onFiles (writeFile manager.tempPointer (L.pointerBytes pointer))
  Call.lift (disk.perform .syncPointer)
  onFiles (moveFile disk .movePointer manager.tempPointer manager.pointerPath)
  return receipt metadata .activated now pointer.metadataSha256 ["self_test_passed", "activation_pointer_committed"]

/-- The self test is given the staged directory, which it may also change. -/
def activate (status : Except Error (Int × String)) (disk : Disk) (staged : FilePath) (selfTest : Call FileTree Error Bool)
    (now : WireTime) : Call FileTree Error OfflineUpdateVerification := do
  let t ← Call.read id
  let metadata ← Call.lift (manager.checkStaged L status disk staged t)
  let passed ← Call.zoom (fun t => t.below staged) (fun t content => t.replace staged content) selfTest
  if passed then
    manager.commit L disk staged now metadata
  else do
    let t ← Call.read id
    let metadataBytes ← Call.lift (readFile disk .readMetadata (staged ++ [metadataName]) t)
    return receipt metadata .rolledBack now (L.sha256 metadataBytes) ["self_test_failed", "previous_active_pointer_preserved"]

end OfflineUpdateManager

end SentinelEdge.Update

/-! ## Staging

What a bundle has passed that is staged, and what it leaves in its directory: the signed
metadata, and files of its targets alone.
-/

namespace SentinelEdge.Update

open Foundation Domain Checks
open Collaboration (WireTime)

/-- The metadata file is that of the metadata, and all other files are of its targets. -/
structure HoldsOnly (L : UpdateLibrary) (metadata : OfflineUpdateMetadata) (content : FileTree) : Prop where
  described : content.get? [metadataName] = some (L.canonicalJsonBytes metadata.modelDump)
  nothingElse : ∀ path data, content.get? path = some data →
    path = [metadataName] ∨ ∃ target ∈ metadata.targets, path = target.parts

namespace OfflineUpdateManager

/-- What `verify` has checked when it returns the metadata. -/
structure Verifies (manager : OfflineUpdateManager) (L : UpdateLibrary) (status : Except Error (Int × String)) (disk : Disk)
    (archive : UpdateArchive) (now : WireTime) (t : FileTree) (metadata : OfflineUpdateMetadata) : Prop where
  names : checkNames archive.names = .ok ()
  read : archive.read metadataName = .ok (L.canonicalJsonBytes metadata.modelDump)
  signed : ∃ signature, archive.read signatureName = .ok signature ∧
    L.verifies signature (L.canonicalJsonBytes metadata.modelDump) = true
  keyed : L.keyId = metadata.rootKeyId
  unexpired : metadata.expiresAt.le now = .ok false
  begun : metadata.createdAt.le now = .ok true
  compatible : manager.isIncompatible metadata = .ok false
  newer : ∃ current, manager.currentUpdateVersion L disk t = .ok current ∧ current < metadata.version
  declared : ∀ name ∈ archive.names, name ∈ metadata.targets.map OfflineUpdateTarget.path ∨ name ∈ allowedControlFiles
  complete : ∀ target ∈ metadata.targets, target.path ∈ archive.names
  targets : ∀ target ∈ metadata.targets, checkTarget L archive target = .ok ()
  tombstones : ∃ reasons, verifyTombstoneRequirement status metadata = .ok reasons

variable {manager : OfflineUpdateManager} {L : UpdateLibrary} {status : Except Error (Int × String)} {disk : Disk}
  {archive : UpdateArchive} {now : WireTime} {t : FileTree} {metadata : OfflineUpdateMetadata}

theorem checkSignature_ok {message : List UInt8} (checked : checkSignature L archive message = .ok ()) :
    ∃ signature, archive.read signatureName = .ok signature ∧ L.verifies signature message = true := by
  unfold checkSignature at checked
  cases read : archive.read signatureName with
  | error e =>
      rw [read] at checked
      cases checked
  | ok signature =>
      rw [read] at checked
      exact ⟨signature, rfl, by simpa using checked⟩

theorem verify_ok {result : OfflineUpdateMetadata × OfflineUpdateVerification}
    (verified : manager.verify L status disk archive now t = .ok result) :
    manager.Verifies L status disk archive now t result.1 := by
  simp only [verify, bind_eq_ok, refuse_eq_ok, pure_eq_ok, exists_const, decide_eq_false_iff_not, not_not] at verified
  obtain ⟨_, names, bytes, read, _, signed, document, -, metadata, -, keyed, rfl, _, unexpired, rfl, created, begun, before,
    _, compatible, rfl, current, pointed, newer, members, _, targets, reasons, tombstones, rfl⟩ := verified
  rw [Bool.not_eq_eq_eq_not, Bool.not_false] at before
  subst before
  rw [Bool.or_eq_false_iff, List.any_eq_false, List.any_eq_false] at members
  refine ⟨names, read, checkSignature_ok signed, keyed, unexpired, begun, compatible, ⟨current, pointed, not_le.mp newer⟩,
    ?_, ?_, forM_eq_ok.mp targets, reasons, tombstones⟩
  · intro name member
    by_contra apart
    rw [not_or] at apart
    exact members.1 name member (by simpa using apart)
  · intro target member
    simpa using members.2 target.path (List.mem_map_of_mem member)

/-- All files are of targets. -/
def HoldsTargets (metadata : OfflineUpdateMetadata) (content : FileTree) : Prop :=
  ∀ path data, content.get? path = some data → ∃ target ∈ metadata.targets, path = target.parts

/-- A directory that is complete holds the metadata and files of the targets. -/
theorem extract_holdsOnly {extracted : Except Error UpdateArchive} {temp : FileTree}
    (complete : extract L disk extracted metadata = .ok temp) : HoldsOnly L metadata temp := by
  simp only [extract, bind_eq_ok, writeFile_ok] at complete
  obtain ⟨archive, -, before, targets, _, -, -, -, rfl⟩ := complete
  have known : HoldsTargets metadata before := by
    refine foldlM_invariant ?_ ?_ targets
    · intro temp target temp' member known written path data found
      simp only [extractTarget, bind_eq_ok, writeFile_ok, refuse_eq_ok, pure_eq_ok] at written
      obtain ⟨_, -, _, -, content, -, _, ⟨-, -, rfl⟩, _, -, rfl⟩ := written
      rw [Dict.get?_insert] at found
      split at found
      · next here => exact ⟨target, member, here⟩
      · exact known path data found
    · intro path data found
      cases found
  constructor
  · exact Dict.get?_insert_self _ _ _
  · intro path data found
    rw [Dict.get?_insert] at found
    split at found
    · next here => exact Or.inl here
    · exact Or.inr (known path data found)

/-- What is staged was verified, and stands alone in its directory; all else stays. -/
theorem stage_ok {verified extracted : Except Error UpdateArchive} {destination : FilePath}
    {result : OfflineUpdateVerification} {t' : FileTree}
    (staged : manager.stage L status disk verified extracted now t = (.ok (destination, result), t')) :
    ∃ archive metadata, verified = .ok archive ∧ manager.Verifies L status disk archive now t metadata ∧
      destination = manager.stagedPath metadata.bundleId metadata.version ∧ HoldsOnly L metadata (t'.below destination) ∧
      ∀ path, ¬ destination <+: path → t'.get? path = t.get? path := by
  simp only [stage, Call.bind_ok, onFiles_ok, removeTree_ok, Call.lift_apply, Call.read, Call.pure_apply, Prod.mk.injEq,
    Except.ok.injEq] at staged
  obtain ⟨_, _, ⟨-, rfl⟩, archive, _, ⟨opened, rfl⟩, _, _, ⟨rfl, rfl⟩, verification, _, ⟨verified, rfl⟩,
    _, _, ⟨-, -, rfl⟩, _, _, ⟨-, rfl⟩, _, _, ⟨-, rfl⟩, temp, _, ⟨complete, rfl⟩, _, _, moved, ⟨rfl, rfl⟩, rfl⟩ := staged
  simp only [moveStaged, bind_eq_ok, pure_eq_ok] at moved
  obtain ⟨_, -, _, -, _, -, rfl⟩ := moved
  refine ⟨archive, verification.1, opened, verify_ok verified, rfl, ?_, ?_⟩
  · obtain ⟨described, nothingElse⟩ := extract_holdsOnly complete
    have same : ∀ path, ((t.replace (manager.stagedPath verification.1.bundleId verification.1.version) temp).below
        (manager.stagedPath verification.1.bundleId verification.1.version)).get? path = temp.get? path :=
      fun path => FileTree.get?_below_replace t _ path temp
    constructor
    · exact (same _).trans described
    · intro path data found
      exact nothingElse path data ((same path).symm.trans found)
  · intro path outside
    exact FileTree.get?_replace_of_not_prefix t outside temp

end OfflineUpdateManager

end SentinelEdge.Update
