import Mathlib.Data.List.DropRight
import Mathlib.Data.List.TakeWhile
import SentinelEdge.Collaboration.Signals
import SentinelEdge.Foundation.Checks
import SentinelEdge.Foundation.Files

/-! # Update metadata

The metadata of an update bundle names its targets. A target has a safe path, and the
metadata ends after it begins, has a target at least, and names no path twice.
-/

namespace SentinelEdge.Update

open Foundation Domain Checks
open Collaboration (WireTime)

/-- `value.split(separator)` -/
def split (value : String) (separator : Char) : List String := (value.toList.splitOn separator).map String.ofList

/-- `candidate.replace("\\", "/")` -/
def replaceBackslashes (candidate : String) : String :=
  String.ofList (candidate.toList.map fun c => if c = Char.ofNat 92 then '/' else c)

/-- `safe_relative_target_path` -/
def safeRelativeTargetPath (value : String) : Except Error String :=
  let candidate := replaceBackslashes (strip value)
  if candidate = "" || FilePath.isAbsolute candidate || (split candidate '/').contains ".." then
    .error (.validationError "update target path must be a safe relative path")
  else .ok candidate

/-- `OfflineUpdateTarget`, with a path that its own check lets through as it is. -/
structure OfflineUpdateTarget where
  path : String
  length : Nat
  sha256 : String
  safe : safeRelativeTargetPath path = .ok path
  deriving DecidableEq

/-- The fields of update metadata, as the types of the model take them from a document. -/
structure UpdateDocument where
  schemaVersion : String := "1.0.0"
  bundleId : String
  version : Int
  createdAt : WireTime
  expiresAt : WireTime
  compatibleProject : String := "sentinel-edge"
  compatibleMinVersion : String
  compatibleMaxVersion : String
  targets : List (String × Int × String)
  rootKeyId : String
  minimumTombstoneAuthorityPosition : Int := 0
  requiredTombstoneJournalSha256 : Option String := none
  deriving DecidableEq

/-- 64 digits of either case, for all that the message of the check says. -/
def isSha256 (value : String) : Bool :=
  value.length = 64 && value.toList.all fun c => "0123456789abcdef".toList.contains c.toLower

@[ext]
structure OfflineUpdateMetadata where
  schemaVersion : String
  bundleId : String
  version : Nat
  createdAt : WireTime
  expiresAt : WireTime
  compatibleProject : String
  compatibleMinVersion : String
  compatibleMaxVersion : String
  targets : List OfflineUpdateTarget
  rootKeyId : String
  minimumTombstoneAuthorityPosition : Nat
  requiredTombstoneJournalSha256 : Option String
  positive : 1 ≤ version
  ordered : expiresAt.le createdAt = .ok false
  filled : targets ≠ []
  digest : requiredTombstoneJournalSha256.all isSha256 = true
  distinct : (targets.map OfflineUpdateTarget.path).Nodup

instance : DecidableEq OfflineUpdateMetadata := fun _ _ => decidable_of_iff _ OfflineUpdateMetadata.ext_iff.symm

/-! ## Validation -/

/-- What stripping leaves is left as it is by stripping. -/
theorem dropWhile_rdropWhile (p : Char → Bool) (text : List Char) :
    ((text.dropWhile p).rdropWhile p).dropWhile p = (text.dropWhile p).rdropWhile p := by
  rw [List.dropWhile_eq_self_iff]
  intro inhabited
  have starts : (text.dropWhile p).rdropWhile p <+: text.dropWhile p := List.rdropWhile_prefix p _
  have longer : 0 < (text.dropWhile p).length := inhabited.trans_le starts.length_le
  rw [starts.getElem inhabited]
  exact List.dropWhile_eq_self_iff.mp (List.dropWhile_idempotent p _) longer

theorem strip_toList (value : String) : (strip value).toList = (value.toList.dropWhile isSpace).rdropWhile isSpace := by
  rw [strip, String.toList_ofList, List.rdropWhile]

theorem isSpace_slash (c : Char) : isSpace (if c = Char.ofNat 92 then '/' else c) = isSpace c := by
  split
  · next backslash =>
      rw [backslash]
      decide
  · rfl

/-- A path that was let through is let through again, as it is. -/
theorem safeRelativeTargetPath_idem {value path : String} (safe : safeRelativeTargetPath value = .ok path) :
    safeRelativeTargetPath path = .ok path := by
  have stripped : strip (replaceBackslashes (strip value)) = replaceBackslashes (strip value) := by
    apply String.toList_inj.mp
    have commutes : (isSpace ∘ fun c : Char => if c = Char.ofNat 92 then '/' else c) = isSpace := funext isSpace_slash
    rw [strip_toList, replaceBackslashes, String.toList_ofList, List.dropWhile_map, commutes, List.rdropWhile,
      ← List.map_reverse, List.dropWhile_map, commutes, ← List.map_reverse, strip_toList, dropWhile_rdropWhile]
    exact congrArg _ (List.rdropWhile_idempotent isSpace _)
  have slashed : ∀ text, replaceBackslashes (replaceBackslashes text) = replaceBackslashes text := by
    intro text
    unfold replaceBackslashes
    rw [String.toList_ofList, List.map_map]
    refine congrArg String.ofList (List.map_congr_left ?_)
    intro c _
    rw [Function.comp_apply]
    by_cases backslash : c = Char.ofNat 92
    · rw [if_pos backslash]
      rfl
    · rw [if_neg backslash, if_neg backslash]
  rw [safeRelativeTargetPath] at safe
  by_cases refused : replaceBackslashes (strip value) = "" || FilePath.isAbsolute (replaceBackslashes (strip value)) ||
      (split (replaceBackslashes (strip value)) '/').contains ".."
  · rw [if_pos refused] at safe
    exact absurd safe nofun
  · rw [if_neg refused] at safe
    rw [← Except.ok.inj safe, safeRelativeTargetPath, stripped, slashed, if_neg refused]

/-- `OfflineUpdateTarget(path=path, length=length, sha256=sha256)` -/
def OfflineUpdateTarget.make (path : String) (length : Int) (sha256 : String) : Except Error OfflineUpdateTarget :=
  match safe : safeRelativeTargetPath path with
  | .error e => .error e
  | .ok path =>
      if length < 0 then .error (.validationError "length")
      else .ok ⟨path, length.toNat, sha256, safeRelativeTargetPath_idem safe⟩

namespace OfflineUpdateMetadata

/-- `validate_update_metadata`, after the checks of the fields. -/
def ofTargets (document : UpdateDocument) (targets : List OfflineUpdateTarget) : Except Error OfflineUpdateMetadata :=
  if positive : 1 ≤ document.version.toNat ∧ 0 ≤ document.minimumTombstoneAuthorityPosition then
    match ordered : document.expiresAt.le document.createdAt with
    | .error e => .error e
    | .ok true => .error (.validationError "update metadata expiry must follow creation")
    | .ok false =>
        if filled : targets ≠ [] then
          if digest : document.requiredTombstoneJournalSha256.all isSha256 = true then
            if distinct : (targets.map OfflineUpdateTarget.path).Nodup then
              .ok {
                schemaVersion := document.schemaVersion
                bundleId := document.bundleId
                version := document.version.toNat
                createdAt := document.createdAt
                expiresAt := document.expiresAt
                compatibleProject := document.compatibleProject
                compatibleMinVersion := document.compatibleMinVersion
                compatibleMaxVersion := document.compatibleMaxVersion
                targets := targets
                rootKeyId := document.rootKeyId
                minimumTombstoneAuthorityPosition := document.minimumTombstoneAuthorityPosition.toNat
                requiredTombstoneJournalSha256 := document.requiredTombstoneJournalSha256
                positive := positive.1
                ordered := ordered
                filled := filled
                digest := digest
                distinct := distinct }
            else .error (.validationError "update target paths must be unique")
          else .error (.validationError "required_tombstone_journal_sha256 must be a lowercase SHA-256 digest")
        else .error (.validationError "update bundle requires at least one target")
  else .error (.validationError "greater_than_equal")

/-- `OfflineUpdateMetadata.model_validate(document)` -/
def modelValidate (document : UpdateDocument) : Except Error OfflineUpdateMetadata := do
  let targets ← document.targets.mapM fun item => OfflineUpdateTarget.make item.1 item.2.1 item.2.2
  ofTargets document targets

/-- `metadata.model_dump(mode="json")` -/
def modelDump (metadata : OfflineUpdateMetadata) : UpdateDocument where
  schemaVersion := metadata.schemaVersion
  bundleId := metadata.bundleId
  version := metadata.version
  createdAt := metadata.createdAt
  expiresAt := metadata.expiresAt
  compatibleProject := metadata.compatibleProject
  compatibleMinVersion := metadata.compatibleMinVersion
  compatibleMaxVersion := metadata.compatibleMaxVersion
  targets := metadata.targets.map fun target => (target.path, (target.length : Int), target.sha256)
  rootKeyId := metadata.rootKeyId
  minimumTombstoneAuthorityPosition := metadata.minimumTombstoneAuthorityPosition
  requiredTombstoneJournalSha256 := metadata.requiredTombstoneJournalSha256

theorem make_self (target : OfflineUpdateTarget) :
    OfflineUpdateTarget.make target.path target.length target.sha256 = .ok target := by
  obtain ⟨path, length, sha256, safe⟩ := target
  unfold OfflineUpdateTarget.make
  split
  · next raised =>
      rw [safe] at raised
      cases raised
  · next _ passed =>
      rw [safe] at passed
      cases passed
      rw [if_neg (by simp)]
      rfl

/-- What was dumped is read back. -/
theorem modelValidate_modelDump (metadata : OfflineUpdateMetadata) : modelValidate metadata.modelDump = .ok metadata := by
  have targets : (metadata.targets.map fun target => (target.path, (target.length : Int), target.sha256)).mapM
      (fun item => OfflineUpdateTarget.make item.1 item.2.1 item.2.2) = .ok metadata.targets := by
    rw [mapM_eq_ok, List.forall₂_map_left_iff, List.forall₂_same]
    exact fun target _ => make_self target
  show (_ >>= _) = _
  rw [modelDump, targets, ok_bind, ofTargets]
  rw [dif_pos ⟨by simpa using metadata.positive, by simp⟩]
  split
  · next raised =>
      rw [metadata.ordered] at raised
      cases raised
  · next late =>
      rw [metadata.ordered] at late
      cases late
  · rw [dif_pos metadata.filled, dif_pos metadata.digest, dif_pos metadata.distinct]
    simp

end OfflineUpdateMetadata

/-- The parts of the path of a target, below the directory it is for. -/
def OfflineUpdateTarget.parts (target : OfflineUpdateTarget) : FilePath := FilePath.parts target.path

theorem OfflineUpdateTarget.relative_down (target : OfflineUpdateTarget) :
    FilePath.isAbsolute target.path = false ∧ ".." ∉ target.parts := by
  have safe := target.safe
  unfold safeRelativeTargetPath at safe
  dsimp only at safe
  split at safe
  · cases safe
  · next passes =>
      rw [Except.ok.inj safe] at passes
      simp only [Bool.or_eq_true, decide_eq_true_eq, not_or, List.contains_iff_mem] at passes
      exact ⟨Bool.eq_false_iff.mpr passes.1.2, fun up => passes.2 (List.mem_filter.mp up).1⟩

/-- A target stays below the directory it is for. -/
theorem OfflineUpdateTarget.resolve_path (target : OfflineUpdateTarget) (base : FilePath) :
    FilePath.resolve base target.path = base ++ target.parts :=
  FilePath.resolve_eq_append target.relative_down.1 target.relative_down.2 base

end SentinelEdge.Update
