import SentinelEdge.Security.Hmac
import SentinelEdge.Update.Manager

/-! # Activations

What an activation copies is what it finds in the staged directory when the self test is
through. The signature, the time of expiry and the list of the files were checked when
the bundle was staged, and are not checked again.
-/

namespace SentinelEdge.Update

open Foundation Domain Checks
open Collaboration (WireTime)

/-- The content is the targets of the metadata, and the metadata file, and nothing else. -/
structure ConsistsOf (L : UpdateLibrary) (metadata : OfflineUpdateMetadata) (content : FileTree) : Prop
    extends HoldsOnly L metadata content where
  intact : ∀ target ∈ metadata.targets, ∃ data, content.get? target.parts = some data ∧
    data.length = target.length ∧ L.sha256 data = target.sha256

/-- The content is that of metadata which is signed, and not expired at `now`. -/
def SignedContent (L : UpdateLibrary) (Signed : List UInt8 → Prop) (now : WireTime) (content : FileTree) : Prop :=
  ∃ metadata, Signed (L.canonicalJsonBytes metadata.modelDump) ∧ metadata.expiresAt.le now = .ok false ∧
    ConsistsOf L metadata content

theorem SignedContent.congr {L : UpdateLibrary} {Signed : List UInt8 → Prop} {now : WireTime} {a b : FileTree}
    (same : ∀ path, a.get? path = b.get? path) : SignedContent L Signed now a ↔ SignedContent L Signed now b := by
  have consists : ∀ metadata, ConsistsOf L metadata a ↔ ConsistsOf L metadata b := by
    intro metadata
    constructor
    · rintro ⟨⟨described, nothingElse⟩, intact⟩
      simp only [same] at described intact nothingElse
      exact ⟨⟨described, nothingElse⟩, intact⟩
    · rintro ⟨⟨described, nothingElse⟩, intact⟩
      simp only [← same] at described intact nothingElse
      exact ⟨⟨described, nothingElse⟩, intact⟩
  simp only [SignedContent, consists]

/-- The arguments of a call of `activate`, with what its surroundings do. -/
structure ActivateCall where
  status : Except Error (Int × String)
  disk : Disk
  staged : FilePath
  selfTest : Call FileTree Error Bool
  now : WireTime

inductive UpdateOperation where
  | stage (status : Except Error (Int × String)) (disk : Disk) (verified extracted : Except Error UpdateArchive) (now : WireTime)
  | activate (call : ActivateCall)
  /-- Anything else is in the directory of the staged updates from now on. -/
  | change (content : FileTree)

namespace OfflineUpdateManager

variable (manager : OfflineUpdateManager) (L : UpdateLibrary)

def activateWith (call : ActivateCall) : Call FileTree Error OfflineUpdateVerification :=
  manager.activate L call.status call.disk call.staged call.selfTest call.now

def step (t : FileTree) : UpdateOperation → FileTree
  | .stage status disk verified extracted now => (manager.stage L status disk verified extracted now t).2
  | .activate call => (manager.activateWith L call t).2
  | .change content => t.replace manager.stagedRoot content

/-- The activated directory, and when it was activated. -/
def activations (t : FileTree) : UpdateOperation → List (WireTime × FileTree)
  | .activate call =>
      match manager.activateWith L call t with
      | (.ok result, t) =>
          if result.state = .activated then [(call.now, t.below (manager.activatedPath result.bundleId result.version))]
          else []
      | (.error _, _) => []
  | .stage .. | .change _ => []

/-- All that a run activates. -/
def activatedIn (t : FileTree) (ops : List UpdateOperation) : List (WireTime × FileTree) :=
  (run (traced (manager.step L) (manager.activations L)) (t, []) ops).2

/-! ## What an activation copies -/

/-- The files as the self test leaves them. -/
def tested (call : ActivateCall) (t : FileTree) : FileTree := t.replace call.staged (call.selfTest (t.below call.staged)).2

variable (metadata : OfflineUpdateMetadata)

/-- The place of the activated directory. -/
def place : FilePath := manager.activatedPath metadata.bundleId metadata.version

/-- The files when the place is clear. -/
def cleared (t : FileTree) : FileTree := t.remove (manager.place metadata)

/-- The files with the copy. -/
def copied (staged : FilePath) (t : FileTree) : FileTree :=
  (manager.cleared metadata t).graft (manager.place metadata) ((manager.cleared metadata t).below staged)

/-- The steps of a commit. -/
def commitSteps : List DiskStep := [.removeActivated, .copyTree, .readActivated, .writePointer, .syncPointer, .movePointer]

/-- Nothing keeps the copy and the pointer from being written. -/
structure Commits (disk : Disk) (staged : FilePath) (t : FileTree) : Prop where
  working : ∀ step ∈ commitSteps, disk step = none
  replaceable : t.isFile (manager.place metadata) = false
  present : (manager.cleared metadata t).isPresent staged = true
  directory : (manager.cleared metadata t).isFile staged = false
  reachable : (manager.cleared metadata t).isCutOff (manager.place metadata) = false
  finite : isEndless (manager.cleared metadata t) staged (manager.place metadata) = false
  named : ∃ name, manager.relativeName metadata.bundleId metadata.version = .ok name
  described : ((manager.copied metadata staged t).get? (manager.place metadata ++ [metadataName])).isSome
  temporary : (manager.copied metadata staged t).isCutOff manager.tempPointer = false ∧
    (manager.copied metadata staged t).isDirectory manager.tempPointer = false
  pointed : (manager.copied metadata staged t).isDirectory manager.pointerPath = false

/-- The files with the copy and the pointer. -/
def pointed (staged : FilePath) (t : FileTree) (pointer : ActivePointer) : FileTree :=
  let written : FileTree := (manager.copied metadata staged t).insert manager.tempPointer (L.pointerBytes pointer)
  (written.remove manager.tempPointer).insert manager.pointerPath (L.pointerBytes pointer)

variable {manager : OfflineUpdateManager} {L : UpdateLibrary} {metadata : OfflineUpdateMetadata}

theorem pointer_apart : ¬ manager.pointerPath <+: manager.tempPointer := by
  intro starts
  have same : manager.pointerPath = manager.tempPointer := starts.eq_of_length (by simp [pointerPath, tempPointer])
  simp [pointerPath, tempPointer] at same

/-- A commit returns exactly when nothing keeps it from it. -/
theorem commit_ok_iff {disk : Disk} {staged : FilePath} {now : WireTime} {t t' : FileTree}
    {result : OfflineUpdateVerification} :
    manager.commit L disk staged now metadata t = (.ok result, t') ↔
      manager.Commits metadata disk staged t ∧ ∃ pointer : ActivePointer,
        pointer.bundleId = metadata.bundleId ∧ pointer.version = metadata.version ∧ pointer.activatedAt = now ∧
        manager.relativeName metadata.bundleId metadata.version = .ok pointer.path ∧
        ((manager.copied metadata staged t).get? (manager.place metadata ++ [metadataName])).map L.sha256 =
          some pointer.metadataSha256 ∧
        result = receipt metadata .activated now pointer.metadataSha256 ["self_test_passed", "activation_pointer_committed"] ∧
        t' = manager.pointed L metadata staged t pointer := by
  simp only [commit, Call.bind_ok, onFiles_ok, removeTree_ok, copyTree_ok, writeFile_ok, moveFile_ok, readFile_ok, Call.lift_apply,
    Call.read, Call.pure_apply, Prod.mk.injEq, Disk.perform_eq_ok, Except.ok.injEq]
  constructor
  · rintro ⟨_, _, ⟨removes, replaceable, rfl⟩, _, _, ⟨copies, present, directory, reachable, finite, rfl⟩,
      name, _, ⟨named, rfl⟩, _, _, ⟨rfl, rfl⟩, bytes, _, ⟨⟨reads, described⟩, rfl⟩, _, _, ⟨writes, rfl⟩,
      _, _, ⟨whole, leaf, rfl⟩, _, _, ⟨syncs, rfl⟩, _, _, ⟨moves, pointed, content, found, rfl⟩, rfl, rfl⟩
    have working : ∀ step ∈ commitSteps, disk step = none := by
      simp only [commitSteps, List.forall_mem_cons]
      exact ⟨removes, copies, reads, writes, syncs, moves, List.forall_mem_nil _⟩
    rw [FileTree.isDirectory_insert pointer_apart] at pointed
    rw [Dict.get?_insert_self] at found
    cases found
    refine ⟨⟨working, replaceable, present, directory, reachable, finite, ⟨name, named⟩, ?_, ⟨whole, leaf⟩,
      pointed⟩, ⟨metadata.bundleId, metadata.version, name, L.sha256 bytes, now⟩, rfl, rfl, rfl, named, ?_, rfl, rfl⟩
    · exact Option.isSome_iff_exists.mpr ⟨bytes, described⟩
    · exact congrArg (Option.map L.sha256) described
  · rintro ⟨⟨working, replaceable, present, directory, reachable, finite, -, -, ⟨whole, leaf⟩, pointed⟩,
      ⟨bundleId, version, path, digest, activatedAt⟩, rfl, rfl, rfl, named, hashed, rfl, rfl⟩
    simp only [commitSteps, List.forall_mem_cons] at working
    obtain ⟨removes, copies, reads, writes, syncs, moves, -⟩ := working
    obtain ⟨bytes, described, digested⟩ := Option.map_eq_some_iff.mp hashed
    dsimp only at digested named
    subst digested
    refine ⟨(), _, ⟨removes, replaceable, rfl⟩, (), _, ⟨copies, present, directory, reachable, finite, rfl⟩,
      path, _, ⟨named, rfl⟩, _, _, ⟨rfl, rfl⟩, bytes, _, ⟨⟨reads, described⟩, rfl⟩, (), _, ⟨writes, rfl⟩,
      (), _, ⟨whole, leaf, rfl⟩, (), _, ⟨syncs, rfl⟩, (), _, ⟨moves, ?_, _, Dict.get?_insert_self _ _ _, rfl⟩, rfl, rfl⟩
    rw [FileTree.isDirectory_insert pointer_apart]
    exact pointed

/-- The pointer and its temporary file are written apart from the copy. -/
theorem not_prefix_place {disk : Disk} {staged : FilePath} {t : FileTree} (commits : manager.Commits metadata disk staged t)
    (within : manager.stagedRoot <+: staged) {name : String}
    (leaf : (manager.copied metadata staged t).isDirectory (manager.updateRoot ++ [name]) = false) (rest : FilePath) :
    ¬ manager.updateRoot ++ [name] <+: manager.place metadata ++ rest := by
  obtain ⟨bytes, described⟩ := Option.isSome_iff_exists.mp commits.described
  have notAbove : ¬ manager.updateRoot ++ [name] <+: manager.place metadata := by
    rintro ⟨middle, same⟩
    rw [← same, List.append_assoc] at described
    cases middle with
    | nil =>
        rw [List.nil_append, FileTree.get?_of_not_isDirectory leaf] at described
        cases described
    | cons first middle =>
        rw [List.cons_append, FileTree.get?_of_not_isDirectory leaf] at described
        cases described
  -- a place above the updates is above the staged directory too, which is then gone
  have notBelow : ¬ manager.place metadata <+: manager.updateRoot := by
    intro above
    have gone := FileTree.not_isPresent_remove (t := t) (above.trans ((List.prefix_append _ _).trans within))
    have present := commits.present
    rw [cleared, gone] at present
    cases present
  intro starts
  cases List.prefix_or_prefix_of_prefix starts (List.prefix_append (manager.place metadata) rest) with
  | inl above => exact notAbove above
  | inr below =>
      cases List.prefix_concat_iff.mp below with
      | inl same => exact notAbove (same ▸ List.prefix_refl _)
      | inr below => exact notBelow below

/-- What an activation gives is what it copied. -/
theorem get?_pointed {disk : Disk} {staged : FilePath} {t : FileTree} (commits : manager.Commits metadata disk staged t)
    (within : manager.stagedRoot <+: staged) (pointer : ActivePointer) (rest : FilePath) :
    (manager.pointed L metadata staged t pointer).get? (manager.place metadata ++ rest) =
      (manager.cleared metadata t).get? (staged ++ rest) := by
  have temporary : ¬ manager.tempPointer <+: manager.place metadata ++ rest :=
    not_prefix_place commits within commits.temporary.2 rest
  have final : ¬ manager.pointerPath <+: manager.place metadata ++ rest :=
    not_prefix_place commits within commits.pointed rest
  have empty : (manager.cleared metadata t).get? (manager.place metadata ++ rest) = none := by
    rw [cleared, FileTree.get?_remove, if_pos (List.prefix_append _ _)]
  have notFinal : manager.place metadata ++ rest ≠ manager.pointerPath := by
    intro same
    exact final (same ▸ List.prefix_refl _)
  have notTemporary : manager.place metadata ++ rest ≠ manager.tempPointer := by
    intro same
    exact temporary (same ▸ List.prefix_refl _)
  rw [pointed, Dict.get?_insert, if_neg notFinal, FileTree.get?_remove, if_neg temporary, Dict.get?_insert,
    if_neg notTemporary, copied, FileTree.get?_graft _ _ _ _ empty, FileTree.get?_below]

/-! ## Runs -/

/-- The call passes its checks and its self test, and nothing keeps it from its commit. -/
structure Activates (manager : OfflineUpdateManager) (L : UpdateLibrary) (call : ActivateCall) (t : FileTree)
    (metadata : OfflineUpdateMetadata) : Prop where
  checked : manager.checkStaged L call.status call.disk call.staged t = .ok metadata
  passed : (call.selfTest (t.below call.staged)).1 = .ok true
  commits : manager.Commits metadata call.disk call.staged (tested call t)

theorem activated_iff {call : ActivateCall} {t t' : FileTree} {result : OfflineUpdateVerification} :
    manager.activateWith L call t = (.ok result, t') ∧ result.state = .activated ↔
      ∃ metadata, manager.Activates L call t metadata ∧
        manager.commit L call.disk call.staged call.now metadata (tested call t) = (.ok result, t') := by
  simp only [activateWith, activate, Call.bind_ok, Call.read, Call.lift_apply, Call.zoom, Prod.mk.injEq, Except.ok.injEq]
  constructor
  · rintro ⟨⟨_, _, ⟨rfl, rfl⟩, metadata, _, ⟨checked, rfl⟩, passed, _, ⟨answer, rfl⟩, returned⟩, active⟩
    cases passed with
    | true =>
        refine ⟨metadata, ⟨checked, answer, ?_⟩, returned⟩
        exact (commit_ok_iff.mp returned).1
    | false =>
        rw [if_neg Bool.false_ne_true] at returned
        simp only [Call.bind_ok, Call.read, Call.lift_apply, Call.pure_apply, Prod.mk.injEq, Except.ok.injEq] at returned
        obtain ⟨_, _, -, _, _, -, rfl, -⟩ := returned
        cases active
  · rintro ⟨metadata, ⟨checked, passed, -⟩, committed⟩
    refine ⟨⟨t, t, ⟨rfl, rfl⟩, metadata, t, ⟨checked, rfl⟩, true, _, ⟨passed, rfl⟩, ?_⟩, ?_⟩
    · rw [if_pos rfl]
      exact committed
    · obtain ⟨-, _, -, -, -, -, -, rfl, -⟩ := commit_ok_iff.mp committed
      rfl

/-- The directory that is to be copied holds the files of signed metadata that has not
    expired, wherever the call gets as far as its commit. -/
def FindsSigned (manager : OfflineUpdateManager) (L : UpdateLibrary) (Signed : List UInt8 → Prop) (t : FileTree) :
    UpdateOperation → Prop
  | .activate call => ∀ metadata, manager.Activates L call t metadata →
      SignedContent L Signed call.now ((manager.cleared metadata (tested call t)).below call.staged)
  | .stage .. | .change _ => True

theorem checkStaged_within {status : Except Error (Int × String)} {disk : Disk} {staged : FilePath} {t : FileTree}
    (checked : manager.checkStaged L status disk staged t = .ok metadata) : manager.stagedRoot <+: staged := by
  simp only [checkStaged, bind_eq_ok, refuse_eq_ok, exists_const, Bool.not_eq_eq_eq_not, Bool.not_false] at checked
  exact List.isPrefixOf_iff_prefix.mp checked.2.1

theorem mem_activations_iff {call : ActivateCall} {t : FileTree} {entry : WireTime × FileTree} :
    entry ∈ manager.activations L t (.activate call) ↔ ∃ result t',
      (manager.activateWith L call t = (.ok result, t') ∧ result.state = .activated) ∧
      entry = (call.now, t'.below (manager.activatedPath result.bundleId result.version)) := by
  unfold activations
  dsimp only
  generalize manager.activateWith L call t = outcome
  obtain ⟨returned, left⟩ := outcome
  cases returned with
  | error e => simp
  | ok result => by_cases active : result.state = .activated <;> simp [active]

/-- What was committed is signed exactly when what was to be copied is. -/
theorem committed_signed_iff {Signed : List UInt8 → Prop} {call : ActivateCall} {t t' : FileTree}
    {result : OfflineUpdateVerification} (activates : manager.Activates L call t metadata)
    (committed : manager.commit L call.disk call.staged call.now metadata (tested call t) = (.ok result, t')) :
    SignedContent L Signed call.now (t'.below (manager.activatedPath result.bundleId result.version)) ↔
      SignedContent L Signed call.now ((manager.cleared metadata (tested call t)).below call.staged) := by
  obtain ⟨commits, pointer, -, -, -, -, -, rfl, rfl⟩ := commit_ok_iff.mp committed
  apply SignedContent.congr
  intro path
  rw [FileTree.get?_below, FileTree.get?_below]
  exact get?_pointed commits (checkStaged_within activates.checked) pointer path

/-- Nothing is missing for a commit that nothing keeps. -/
theorem commit_returns (L : UpdateLibrary) {disk : Disk} {staged : FilePath} (now : WireTime) {t : FileTree}
    (commits : manager.Commits metadata disk staged t) :
    ∃ result t', manager.commit L disk staged now metadata t = (.ok result, t') := by
  obtain ⟨name, named⟩ := commits.named
  obtain ⟨bytes, described⟩ := Option.isSome_iff_exists.mp commits.described
  exact ⟨_, _, commit_ok_iff.mpr ⟨commits, ⟨metadata.bundleId, metadata.version, name, L.sha256 bytes, now⟩, rfl, rfl, rfl,
    named, congrArg (Option.map L.sha256) described, rfl, rfl⟩⟩

theorem activations_signed_iff {Signed : List UInt8 → Prop} {t : FileTree} {op : UpdateOperation} :
    (∀ entry ∈ manager.activations L t op, SignedContent L Signed entry.1 entry.2) ↔
      manager.FindsSigned L Signed t op := by
  cases op with
  | stage status disk verified extracted now => exact iff_of_true nofun trivial
  | change content => exact iff_of_true nofun trivial
  | activate call =>
      constructor
      · intro signed metadata activates
        obtain ⟨result, t', committed⟩ := commit_returns L call.now activates.commits
        have active := activated_iff.mpr ⟨metadata, activates, committed⟩
        exact (committed_signed_iff activates committed).mp (signed _ (mem_activations_iff.mpr ⟨result, t', active, rfl⟩))
      · intro finds entry given
        obtain ⟨result, t', active, rfl⟩ := mem_activations_iff.mp given
        obtain ⟨metadata, activates, committed⟩ := activated_iff.mp active
        exact (committed_signed_iff activates committed).mpr (finds metadata activates)

/-- All that a run activates is signed content exactly when every activation finds it. -/
theorem activated_signed_iff (Signed : List UInt8 → Prop) (t : FileTree) (ops : List UpdateOperation) :
    (∀ entry ∈ manager.activatedIn L t ops, SignedContent L Signed entry.1 entry.2) ↔
      Meets (manager.step L) (manager.FindsSigned L Signed) t ops := by
  rw [activatedIn, forall_trace_iff,
    Meets.congr (I := fun _ => True) (fun _ _ _ => activations_signed_iff) (fun _ _ _ _ => trivial) trivial]
  exact and_iff_right nofun

/-- Metadata of one target, to evaluate on. -/
def fieldUpdate (content : List UInt8) : UpdateDocument where
  bundleId := "field-update"
  version := 1
  createdAt := ⟨⟨0, 0⟩, false⟩
  expiresAt := ⟨⟨86400000000, 0⟩, false⟩
  compatibleMinVersion := "0.4.0"
  compatibleMaxVersion := "0.4.9"
  targets := [("src/app.py", content.length, Security.hex content)]
  rootKeyId := "root"

/-- The text of a document, in ASCII. -/
def compactBytes (document : UpdateDocument) : List UInt8 :=
  let fields : Json := .obj [
    ("bundle_id", .str document.bundleId),
    ("compatible_max_version", .str document.compatibleMaxVersion),
    ("compatible_min_version", .str document.compatibleMinVersion),
    ("compatible_project", .str document.compatibleProject),
    ("created_at", .str document.createdAt.time.isoformat),
    ("expires_at", .str document.expiresAt.time.isoformat),
    ("minimum_tombstone_authority_position", .int document.minimumTombstoneAuthorityPosition),
    ("required_tombstone_journal_sha256", (document.requiredTombstoneJournalSha256.map Json.str).getD .null),
    ("root_key_id", .str document.rootKeyId),
    ("schema_version", .str document.schemaVersion),
    ("targets", .arr (document.targets.map fun target =>
      .obj [("length", .int target.2.1), ("path", .str target.1), ("sha256", .str target.2.2)])),
    ("version", .int document.version)]
  fields.chars.map fun c => UInt8.ofNat c.toNat

def releasedContent : List UInt8 := [1, 2, 3]

def otherContent : List UInt8 := [4, 5, 6]

/-- Reads the two documents there are. -/
def readUpdate (bytes : List UInt8) : Except Error UpdateDocument :=
  match [fieldUpdate releasedContent, fieldUpdate otherContent].find? fun document => compactBytes document = bytes with
  | some document => .ok document
  | none => .error .jsonDecodeError

/-- A library to evaluate on, where content is its own digest. -/
def demoLibrary : UpdateLibrary where
  loads := readUpdate
  loadsText := readUpdate
  canonicalJsonBytes := compactBytes
  sha256 := Security.hex
  keyId := "root"
  verifies signature message := signature = 0 :: message
  pointerBytes pointer := Security.encode (toString pointer.version)
  pointerVersion bytes := .ok (bytes.foldl (fun n byte => n * 10 + (byte.toNat - 48 : Int)) 0)

/-- The bundle that was released, with its signature. -/
def releasedBundle : UpdateArchive where
  names := ["metadata.json", "metadata.ed25519", "src/app.py"]
  read name :=
    if name = "metadata.json" then .ok (compactBytes (fieldUpdate releasedContent))
    else if name = "metadata.ed25519" then .ok (0 :: compactBytes (fieldUpdate releasedContent))
    else .ok releasedContent

def fieldManager : OfflineUpdateManager := ⟨["var", "lib"], "0.4.0", .fieldLab⟩

def noTombstones : Except Error (Int × String) := .ok (0, "")

/-- Between its staging and its activation both the metadata file and the target are
    rewritten. -/
def rewritten : List UpdateOperation := [
  .stage noTombstones (fun _ => none) (.ok releasedBundle) (.ok releasedBundle) ⟨⟨60000000, 0⟩, false⟩,
  .change (Dict.insert (Dict.insert Dict.empty ["field-update-1", "metadata.json"] (compactBytes (fieldUpdate otherContent)))
    ["field-update-1", "src", "app.py"] otherContent),
  .activate ⟨noTombstones, fun _ => none, fieldManager.stagedPath "field-update" 1, pure true, ⟨⟨120000000, 0⟩, false⟩⟩]

/-- Metadata that nobody signed is activated. -/
theorem unsigned_activated :
    ¬ ∀ entry ∈ fieldManager.activatedIn demoLibrary Dict.empty rewritten,
      SignedContent demoLibrary (fun message => message = compactBytes (fieldUpdate releasedContent)) entry.1 entry.2 := by
  have given : (fieldManager.activatedIn demoLibrary Dict.empty rewritten).map (fun entry => entry.2.get? ["metadata.json"]) =
      [some (compactBytes (fieldUpdate otherContent))] := by decide +kernel
  intro signed
  obtain ⟨entry, member, found⟩ : ∃ entry ∈ fieldManager.activatedIn demoLibrary Dict.empty rewritten,
      entry.2.get? ["metadata.json"] = some (compactBytes (fieldUpdate otherContent)) :=
    List.mem_map.mp (given ▸ List.mem_singleton_self _)
  obtain ⟨metadata, released, -, consists⟩ := signed entry member
  have described := consists.described
  rw [released] at described
  have different : compactBytes (fieldUpdate otherContent) ≠ compactBytes (fieldUpdate releasedContent) := by decide +kernel
  exact different (Option.some.inj (found.symm.trans described))

/-! ## Directories that stay as they were staged -/

theorem isIntact_iff {directory : FilePath} {t : FileTree} {target : OfflineUpdateTarget} :
    isIntact L directory t target = true ↔ ∃ data, t.get? (directory ++ target.parts) = some data ∧
      data.length = target.length ∧ L.sha256 data = target.sha256 := by
  rw [isIntact, target.resolve_path]
  cases t.get? (directory ++ target.parts) with
  | none => simp
  | some data => simp

/-- The metadata that a call has read is what the file holds, and its targets are there. -/
theorem checkStaged_ok {status : Except Error (Int × String)} {disk : Disk} {staged : FilePath} {t : FileTree}
    (checked : manager.checkStaged L status disk staged t = .ok metadata) :
    ∃ text document, t.get? (staged ++ [metadataName]) = some text ∧ L.loadsText text = .ok document ∧
      OfflineUpdateMetadata.modelValidate document = .ok metadata ∧
      ∀ target ∈ metadata.targets, isIntact L staged t target = true := by
  simp only [checkStaged, bind_eq_ok, refuse_eq_ok, pure_eq_ok, readFile_ok] at checked
  obtain ⟨_, -, _, -, text, ⟨-, found⟩, document, loaded, metadata, valid, _, -, _, -, _, -, _, intact, rfl⟩ := checked
  rw [Bool.not_eq_eq_eq_not, Bool.not_false, List.all_eq_true] at intact
  exact ⟨text, document, found, loaded, valid, intact⟩

/-- What was written as metadata is read as the same. -/
def Faithful (L : UpdateLibrary) : Prop :=
  ∀ metadata : OfflineUpdateMetadata, L.loadsText (L.canonicalJsonBytes metadata.modelDump) = .ok metadata.modelDump

variable {Signed : List UInt8 → Prop}

/-- A directory that holds what signed metadata says is found so, as long as it is left
    alone and its time has not come. -/
theorem findsSigned_of_untouched {call : ActivateCall} {t : FileTree}
    (faithful : Faithful L)
    (holds : HoldsOnly L metadata (t.below call.staged)) (signed : Signed (L.canonicalJsonBytes metadata.modelDump))
    (unexpired : metadata.expiresAt.le call.now = .ok false)
    (untouched : ∀ rest, (manager.cleared metadata (tested call t)).get? (call.staged ++ rest) = t.get? (call.staged ++ rest)) :
    manager.FindsSigned L Signed t (.activate call) := by
  intro read activates
  obtain ⟨text, document, found, loaded, valid, intact⟩ := checkStaged_ok activates.checked
  obtain ⟨described, nothingElse⟩ := holds
  simp only [FileTree.get?_below] at described nothingElse
  rw [found] at described
  cases described
  rw [faithful] at loaded
  cases loaded
  rw [OfflineUpdateMetadata.modelValidate_modelDump] at valid
  cases valid
  refine ⟨metadata, signed, unexpired, ⟨?_, ?_⟩, ?_⟩
  · rw [FileTree.get?_below, untouched, found]
  · intro path data found
    rw [FileTree.get?_below, untouched] at found
    exact nothingElse path data found
  · intro target member
    rw [FileTree.get?_below, untouched]
    exact isIntact_iff.mp (intact target member)

/-- What a bundle leaves when it is staged can be activated, by whoever leaves it alone, until
    it expires. -/
theorem stage_findsSigned {status : Except Error (Int × String)} {disk : Disk}
    {verified extracted : Except Error UpdateArchive} {now : WireTime} {t t' : FileTree} {destination : FilePath} {result : OfflineUpdateVerification}
    (unforgeable : ∀ signature message, L.verifies signature message = true → Signed message)
    (faithful : Faithful L)
    (staged : manager.stage L status disk verified extracted now t = (.ok (destination, result), t')) :
    ∃ metadata : OfflineUpdateMetadata, metadata.expiresAt.le now = .ok false ∧
      ∀ call : ActivateCall, call.staged = destination → metadata.expiresAt.le call.now = .ok false →
        (∀ rest, (manager.cleared metadata (tested call t')).get? (destination ++ rest) = t'.get? (destination ++ rest)) →
        manager.FindsSigned L Signed t' (.activate call) := by
  obtain ⟨archive, metadata, -, verifies, -, holds, -⟩ := stage_ok staged
  obtain ⟨signature, -, signed⟩ := verifies.signed
  refine ⟨metadata, verifies.unexpired, ?_⟩
  rintro call rfl unexpired untouched
  exact findsSigned_of_untouched faithful holds (unforgeable signature _ signed) unexpired untouched

end OfflineUpdateManager

end SentinelEdge.Update
