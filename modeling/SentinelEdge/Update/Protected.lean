import SentinelEdge.Update.Rollback

/-! # Protected directories

The check of a target looks at the beginning of its path as it is written. The path leads
into a protected directory all the same if it says first that it stays where it is, and is
in the place of the directory if that is all there is of it.
-/

namespace SentinelEdge.Update

open Foundation Domain Checks
open Collaboration (WireTime)

/-- The directories that `_PROTECTED_TARGET_PREFIXES` is for. -/
def protectedNames : List String := ["artifacts", "evidence", "backups", "privacy", "state"]

theorem protectedTargetPrefixes_eq : protectedTargetPrefixes = protectedNames.map (· ++ "/") := by decide

theorem parts_split (path : String) : FilePath.parts path = (split path '/').filter fun part => part ≠ "" && part ≠ "." :=
  rfl

/-- A path is one segment, or begins with the first of its segments and a slash. -/
theorem split_cases (path : String) : split path '/' = [path] ∨
    ∃ first rest, split path '/' = first :: rest ∧ (first ++ "/").toList <+: path.toList := by
  have joined : ['/'].intercalate (path.toList.splitOn '/') = path.toList := List.intercalate_splitOn '/'
  unfold split
  cases segments : path.toList.splitOn '/' with
  | nil => exact absurd segments (List.splitOn_ne_nil '/' _)
  | cons first rest =>
      rw [segments] at joined
      cases rest with
      | nil =>
          left
          have whole : first = path.toList := by simpa using joined
          simp [whole]
      | cons second rest =>
          right
          rw [List.intercalate_cons_cons] at joined
          refine ⟨String.ofList first, (second :: rest).map String.ofList, rfl, ?_⟩
          rw [← joined, String.toList_append, String.toList_ofList]
          exact List.prefix_append _ _

namespace OfflineUpdateTarget

variable {target : OfflineUpdateTarget}

/-- The path stays below the directory it is for, outside of the protected ones. -/
structure Confined (target : OfflineUpdateTarget) : Prop where
  relative : FilePath.isAbsolute target.path = false
  down : ".." ∉ target.parts
  outside : ∀ first ∈ target.parts.head?, first ∉ protectedNames

/-- The path is the name of a protected directory, or leads into one after a first segment
    that names the directory it is in. -/
def Evades (target : OfflineUpdateTarget) : Prop :=
  target.path ∈ protectedNames ∨
    (split target.path '/').head? = some "." ∧ ∃ first ∈ target.parts.head?, first ∈ protectedNames

/-- A path that the check lets through leads into a protected directory only if it evades
    the check. -/
theorem protected_iff_evades
    (unrefused : ¬ protectedTargetPrefixes.any (fun start => start.toList.isPrefixOf target.path.toList) = true) :
    (∃ first ∈ target.parts.head?, first ∈ protectedNames) ↔ target.Evades := by
  unfold Evades
  constructor
  · rintro ⟨first, head, isProtected⟩
    rcases split_cases target.path with alone | ⟨segment, rest, segments, begins⟩
    · left
      have one : target.parts = [target.path].filter fun part => part ≠ "" && part ≠ "." := by
        rw [parts, parts_split, alone]
      have member : first ∈ target.parts := List.mem_of_mem_head? head
      rw [one, List.mem_filter, List.mem_singleton] at member
      exact member.1 ▸ isProtected
    · right
      rw [segments]
      refine ⟨?_, first, head, isProtected⟩
      by_cases dot : segment = "."
      · rw [dot]
        rfl
      · by_cases empty : segment = ""
        · have absolute : FilePath.isAbsolute target.path = true := by
            obtain ⟨tail, whole⟩ := begins
            rw [FilePath.isAbsolute, ← whole, empty]
            rfl
          rw [target.relative_down.1] at absolute
          cases absolute
        · have whole : target.parts.head? = some segment := by
            rw [parts, parts_split, segments, List.filter_cons_of_pos (by simp [dot, empty])]
            rfl
          cases whole.symm.trans head
          refine absurd (List.any_eq_true.mpr ⟨first ++ "/", ?_, List.isPrefixOf_iff_prefix.mpr begins⟩) unrefused
          rw [protectedTargetPrefixes_eq]
          exact List.mem_map_of_mem isProtected
  · rintro (named | ⟨-, leads⟩)
    · have single : ∀ name ∈ protectedNames, FilePath.parts name = [name] := by decide
      exact ⟨target.path, by rw [parts, single _ named]; rfl, named⟩
    · exact leads

end OfflineUpdateTarget

namespace OfflineUpdateManager

variable {manager : OfflineUpdateManager} {L : UpdateLibrary} {status : Except Error (Int × String)} {disk : Disk}
  {archive : UpdateArchive} {now : WireTime} {t : FileTree} {metadata : OfflineUpdateMetadata}
  {verification : OfflineUpdateVerification}

/-- The targets of an accepted bundle are outside of the protected directories exactly if none of
    their paths evades the check. -/
theorem verified_targets_confined_iff (verified : manager.verify L status disk archive now t = .ok (metadata, verification)) :
    (∀ target ∈ metadata.targets, target.Confined) ↔ ∀ target ∈ metadata.targets, ¬ target.Evades := by
  refine forall_congr' fun target => forall_congr' fun member => ?_
  have checked := (verify_ok verified).targets target member
  simp only [checkTarget, bind_eq_ok, refuse_eq_ok, exists_const] at checked
  rw [← OfflineUpdateTarget.protected_iff_evades (by simp [checked.1])]
  constructor
  · rintro confined ⟨first, head, isProtected⟩
    exact confined.outside first head isProtected
  · intro elsewhere
    obtain ⟨relative, down⟩ := target.relative_down
    exact ⟨relative, down, fun first head isProtected => elsewhere ⟨first, head, isProtected⟩⟩

theorem field_update_is_confined : ∃ metadata verification,
    fieldManager.verify edgeLibrary noTombstones (fun _ => none) (bundleOf (fieldUpdate releasedContent)) (minute 1)
      Dict.empty = .ok (metadata, verification) ∧ ∀ target ∈ metadata.targets, target.Confined := by
  have paths : ((fieldManager.verify edgeLibrary noTombstones (fun _ => none) (bundleOf (fieldUpdate releasedContent))
      (minute 1) Dict.empty).toOption.map fun verified => verified.1.targets.map OfflineUpdateTarget.path) =
        some ["src/app.py"] := by decide +kernel
  obtain ⟨⟨metadata, verification⟩, verified, named⟩ := Option.map_eq_some_iff.mp paths
  rw [toOption_eq_some] at verified
  refine ⟨metadata, verification, verified, (verified_targets_confined_iff verified).mpr ?_⟩
  intro target member
  have path : target.path = "src/app.py" := by
    have listed : target.path ∈ metadata.targets.map OfflineUpdateTarget.path := List.mem_map_of_mem member
    rw [named] at listed
    exact List.mem_singleton.mp listed
  unfold OfflineUpdateTarget.Evades OfflineUpdateTarget.parts
  rw [path]
  decide

/-- A bundle with a file for the protected state. -/
def dottedUpdate : UpdateDocument :=
  { fieldUpdate releasedContent with
    targets := [("./state/keys.json", releasedContent.length, Security.hex releasedContent)] }

def dottedLibrary : UpdateLibrary :=
  let read (bytes : List UInt8) : Except Error UpdateDocument :=
    if bytes = compactBytes dottedUpdate then .ok dottedUpdate else .error .jsonDecodeError
  { demoLibrary with loads := read, loadsText := read }

def dottedBundle : UpdateArchive where
  names := ["metadata.json", "metadata.ed25519", "./state/keys.json"]
  read := (bundleOf dottedUpdate).read

theorem dotted_update_is_accepted :
    ¬ ∀ (manager : OfflineUpdateManager) (status : Except Error (Int × String)) (disk : Disk) (archive : UpdateArchive)
      (now : WireTime) (t : FileTree) (metadata : OfflineUpdateMetadata) (verification : OfflineUpdateVerification),
      manager.verify dottedLibrary status disk archive now t = .ok (metadata, verification) →
      ∀ target ∈ metadata.targets, target.Confined := by
  intro confined
  have parts : ((fieldManager.verify dottedLibrary noTombstones (fun _ => none) dottedBundle (minute 1)
      Dict.empty).toOption.map fun verified => verified.1.targets.map OfflineUpdateTarget.parts) =
        some [["state", "keys.json"]] := by decide +kernel
  obtain ⟨⟨metadata, verification⟩, verified, placed⟩ := Option.map_eq_some_iff.mp parts
  rw [toOption_eq_some] at verified
  obtain ⟨target, member, leads⟩ : ∃ target ∈ metadata.targets, target.parts = ["state", "keys.json"] :=
    List.mem_map.mp (placed ▸ List.mem_singleton_self _)
  refine (confined _ _ _ _ _ _ metadata verification verified target member).outside "state" ?_ (by decide)
  rw [leads]
  rfl

end OfflineUpdateManager

end SentinelEdge.Update
