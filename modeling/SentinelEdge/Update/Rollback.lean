import SentinelEdge.Update.Activation

/-! # The version in the pointer

An activation writes a pointer with a higher version, and all else leaves the pointer as
it is. The place of a bundle is made of its name, though: a name that leads up to a
directory above the pointer clears it away, and one that leads below it puts a directory
in its place.
-/

namespace SentinelEdge.Update

open Foundation Domain Checks

namespace OfflineUpdateManager

variable (manager : OfflineUpdateManager) (L : UpdateLibrary)

/-- What is read of the pointer where nothing fails. -/
def pointedVersion (t : FileTree) : Except Error Int := manager.currentUpdateVersion L (fun _ => none) t

/-- The version goes up with an activation, and stays with everything else. -/
structure NeverRollsBack (t : FileTree) (op : UpdateOperation) : Prop where
  increases : ∀ call result t', op = .activate call → manager.activateWith L call t = (.ok result, t') →
    result.state = .activated → ∃ before later, manager.pointedVersion L t = .ok before ∧
      manager.pointedVersion L t' = .ok later ∧ before < later
  unchanged : (∀ call result t', op = .activate call → manager.activateWith L call t = (.ok result, t') →
    result.state ≠ .activated) → manager.pointedVersion L (manager.step L t op) = manager.pointedVersion L t

/-- A directory with the pointer in it is cleared away. -/
def ClearsPointer (disk : Disk) (step : DiskStep) (path : FilePath) (t : FileTree) : Prop :=
  disk step = none ∧ t.isFile path = false ∧ path <+: manager.pointerPath ∧ manager.pointedVersion L t ≠ .ok 0

/-- The copy goes to where the pointer belongs. -/
def CopiesOntoPointer (disk : Disk) (staged path : FilePath) (t : FileTree) : Prop :=
  disk .removeActivated = none ∧ t.isFile path = false ∧ manager.pointerPath <+: path ∧
    ∃ t', copyTree disk staged path (t.remove path) = .ok t'

/-- The bundle is verified, in a mode that allows it. -/
def Opens (status : Except Error (Int × String)) (disk : Disk) (verified : Except Error UpdateArchive)
    (now : Collaboration.WireTime) (t : FileTree) (metadata : OfflineUpdateMetadata) : Prop :=
  ¬ (manager.mode = .judge ∨ manager.mode = .benchmark) ∧
    ∃ archive result, verified = .ok archive ∧ manager.verify L status disk archive now t = .ok (metadata, result)

/-- The name of a bundle that passes its checks leads to the pointer. -/
def MeetsPointer (t : FileTree) : UpdateOperation → Prop
  | .stage status disk verified _ now => ∃ metadata, manager.Opens L status disk verified now t metadata ∧
      manager.ClearsPointer L disk .removeStaged (manager.stagedPath metadata.bundleId metadata.version) t
  | .activate call => ∃ metadata, manager.checkStaged L call.status call.disk call.staged t = .ok metadata ∧
      (call.selfTest (t.below call.staged)).1 = .ok true ∧
        (manager.ClearsPointer L call.disk .removeActivated (manager.place metadata) (tested call t) ∨
          manager.CopiesOntoPointer call.disk call.staged (manager.place metadata) (tested call t))
  | .change _ => False

variable {manager : OfflineUpdateManager} {L : UpdateLibrary} {t t' : FileTree}

/-! ## The pointer in a tree -/

theorem pointedVersion_of_absent (absent : t.isPresent manager.pointerPath = false) : manager.pointedVersion L t = .ok 0 := by
  rw [pointedVersion, currentUpdateVersion, absent]
  rfl

theorem pointedVersion_of_file {content : List UInt8} (found : t.get? manager.pointerPath = some content) :
    manager.pointedVersion L t = L.pointerVersion content := by
  have present : t.isPresent manager.pointerPath = true :=
    FileTree.isPresent_iff.mpr ⟨[], by rw [List.append_nil, found]; rfl⟩
  have read : readFile (fun _ => none) .readPointer manager.pointerPath t = .ok content := readFile_ok.mpr ⟨rfl, found⟩
  rw [pointedVersion, currentUpdateVersion, present, read]
  rfl

/-- A directory in the place of the pointer cannot be read. -/
theorem pointedVersion_of_directory (present : t.isPresent manager.pointerPath = true)
    (leafless : t.get? manager.pointerPath = none) : manager.pointedVersion L t = .error (.osError "is a directory") := by
  have directory : t.isDirectory manager.pointerPath = true := FileTree.isDirectory_of_isPresent present leafless
  have read : readFile (fun _ => none) .readPointer manager.pointerPath t = .error (.osError "is a directory") := by
    rw [readFile, leafless, directory]
    rfl
  rw [pointedVersion, currentUpdateVersion, present, read]
  rfl

/-- What has a version has none, or a file. -/
theorem pointer_cases {v : Int} (read : manager.pointedVersion L t = .ok v) :
    t.isPresent manager.pointerPath = false ∧ v = 0 ∨ ∃ content, t.get? manager.pointerPath = some content := by
  cases present : t.isPresent manager.pointerPath with
  | false =>
      rw [pointedVersion_of_absent present] at read
      exact Or.inl ⟨rfl, (Except.ok.inj read).symm⟩
  | true =>
      cases found : t.get? manager.pointerPath with
      | some content => exact Or.inr ⟨content, rfl⟩
      | none =>
          rw [pointedVersion_of_directory present found] at read
          cases read

/-- The version stays where the file stays, or its absence. -/
theorem pointedVersion_kept {v : Int} (read : manager.pointedVersion L t = .ok v)
    (file : t'.get? manager.pointerPath = t.get? manager.pointerPath)
    (absent : t.isPresent manager.pointerPath = false → t'.isPresent manager.pointerPath = false) :
    manager.pointedVersion L t' = manager.pointedVersion L t := by
  rcases pointer_cases read with ⟨missing, -⟩ | ⟨content, found⟩
  · rw [pointedVersion_of_absent (absent missing), pointedVersion_of_absent missing]
  · rw [pointedVersion_of_file (file.trans found), pointedVersion_of_file found]

theorem pointedVersion_congr (same : ∀ rest, t'.get? (manager.pointerPath ++ rest) = t.get? (manager.pointerPath ++ rest)) :
    manager.pointedVersion L t' = manager.pointedVersion L t := by
  have file : t'.get? manager.pointerPath = t.get? manager.pointerPath := by
    have whole := same []
    rwa [List.append_nil] at whole
  have present : t'.isPresent manager.pointerPath = t.isPresent manager.pointerPath := by
    rw [Bool.eq_iff_iff, FileTree.isPresent_iff, FileTree.isPresent_iff]
    simp only [same]
  cases before : t.isPresent manager.pointerPath with
  | false => rw [pointedVersion_of_absent (present.trans before), pointedVersion_of_absent before]
  | true =>
      cases found : t.get? manager.pointerPath with
      | some content => rw [pointedVersion_of_file (file.trans found), pointedVersion_of_file found]
      | none =>
          rw [pointedVersion_of_directory (present.trans before) (file.trans found), pointedVersion_of_directory before found]

theorem ok_pointedVersion {disk : Disk} {v : Int} (read : manager.currentUpdateVersion L disk t = .ok v) :
    manager.pointedVersion L t = .ok v := by
  unfold currentUpdateVersion at read
  cases present : t.isPresent manager.pointerPath with
  | false =>
      rw [present] at read
      rw [pointedVersion_of_absent present]
      exact read
  | true =>
      rw [present] at read
      obtain ⟨text, found, parsed⟩ := bind_eq_ok.mp read
      rw [pointedVersion_of_file (readFile_ok.mp found).2]
      exact parsed

/-- Nothing comes to lie at or below a path that has nothing there, by what is done elsewhere. -/
theorem isPresent_kept (elsewhere : ∀ rest, t.get? (manager.pointerPath ++ rest) = none →
    t'.get? (manager.pointerPath ++ rest) = none) (absent : t.isPresent manager.pointerPath = false) :
    t'.isPresent manager.pointerPath = false := by
  rw [Bool.eq_false_iff, ne_eq, FileTree.isPresent_iff] at absent ⊢
  rintro ⟨rest, found⟩
  cases before : t.get? (manager.pointerPath ++ rest) with
  | some content => exact absent ⟨rest, by rw [before]; rfl⟩
  | none =>
      rw [elsewhere rest before] at found
      cases found

/-- Clearing a directory leaves the version, if the pointer is not in it. -/
theorem pointedVersion_remove {v : Int} (read : manager.pointedVersion L t = .ok v) {path : FilePath}
    (outside : ¬ path <+: manager.pointerPath) : manager.pointedVersion L (t.remove path) = manager.pointedVersion L t := by
  refine pointedVersion_kept read ?_ (isPresent_kept ?_)
  · rw [FileTree.get?_remove, if_neg outside]
  · intro rest missing
    rw [FileTree.get?_remove, missing, ite_self]

theorem pointedVersion_remove_above {path : FilePath} (inside : path <+: manager.pointerPath) :
    manager.pointedVersion L (t.remove path) = .ok 0 :=
  pointedVersion_of_absent (FileTree.not_isPresent_remove inside)

/-- The staged directories are apart from the pointer. -/
theorem staged_apart {staged : FilePath} (within : manager.stagedRoot <+: staged) (rest : FilePath) :
    ¬ staged <+: manager.pointerPath ++ rest := by
  intro starts
  have inside := within.trans starts
  rw [stagedRoot, pointerPath, List.append_assoc, List.prefix_append_right_inj, List.singleton_append] at inside
  exact absurd (List.cons_prefix_cons.mp inside).1 (by decide)

theorem pointedVersion_tested {call : ActivateCall} (within : manager.stagedRoot <+: call.staged) :
    manager.pointedVersion L (tested call t) = manager.pointedVersion L t :=
  pointedVersion_congr fun rest => FileTree.get?_replace_of_not_prefix t (staged_apart within rest) _

theorem pointedVersion_change (content : FileTree) :
    manager.pointedVersion L (t.replace manager.stagedRoot content) = manager.pointedVersion L t :=
  pointedVersion_congr fun rest => FileTree.get?_replace_of_not_prefix t (staged_apart (List.prefix_refl _) rest) _

/-! ## The place of a bundle -/

/-- The last part of the name of a directory has the version in it, after a dash. -/
theorem parts_directoryName (bundleId : String) (version : Nat) :
    ∃ init last, FilePath.parts (directoryName bundleId version) = init ++ [last] ∧ '-' ∈ last.toList := by
  have plain : '/' ∉ '-' :: (toString version).toList := by
    intro member
    cases List.mem_cons.mp member with
    | inl dash => exact absurd dash (by decide)
    | inr digit => exact absurd (decimal_isDigit digit) (by decide)
  obtain ⟨init, last, split⟩ := FilePath.splitOn_append plain bundleId.toList
  have text : (directoryName bundleId version).toList = bundleId.toList ++ '-' :: (toString version).toList := by
    rw [directoryName, String.toList_append, String.toList_append, List.append_assoc]
    rfl
  have dashed : '-' ∈ (String.ofList (last ++ '-' :: (toString version).toList)).toList := by
    rw [String.toList_ofList]
    exact List.mem_append_right _ List.mem_cons_self
  rw [FilePath.parts, text, split, List.map_append, List.filter_append, List.map_singleton]
  generalize String.ofList (last ++ '-' :: (toString version).toList) = part at dashed ⊢
  have kept : (decide (part ≠ "") && decide (part ≠ ".")) = true := by
    rw [Bool.and_eq_true, decide_eq_true_eq, decide_eq_true_eq]
    constructor
    · rintro rfl
      exact absurd dashed (by decide)
    · rintro rfl
      exact absurd dashed (by decide)
  rw [List.filter_singleton, kept, cond_true]
  exact ⟨_, part, rfl, dashed⟩

/-- The place of a bundle is never that of the pointer. -/
theorem resolve_ne_pointerPath (base : FilePath) (bundleId : String) (version : Nat) :
    FilePath.resolve base (directoryName bundleId version) ≠ manager.pointerPath := by
  obtain ⟨init, last, ends, dashed⟩ := parts_directoryName bundleId version
  have down : last ≠ ".." := by
    rintro rfl
    exact absurd dashed (by decide)
  obtain ⟨above, resolved⟩ := FilePath.resolve_eq_concat ends down base
  rw [resolved, pointerPath]
  intro same
  rw [List.singleton_inj.mp (List.append_inj_right' same rfl)] at dashed
  exact absurd dashed (by decide)

/-- What leads up to the pointer is above the directories of the manager. -/
theorem above_of_beginning {base path : FilePath} {bundleId : String} {version : Nat}
    (place : path = FilePath.resolve base (directoryName bundleId version)) (inside : path <+: manager.pointerPath) :
    path <+: manager.stagedRoot := by
  subst place
  cases List.prefix_concat_iff.mp inside with
  | inl same => exact absurd same (resolve_ne_pointerPath base bundleId version)
  | inr above => exact above.trans (List.prefix_append _ _)

/-! ## Staging -/

/-- A directory that is put in its place leaves the version. -/
theorem pointedVersion_moved {v : Int} (read : manager.pointedVersion L t = .ok v) {destination : FilePath} (temp : FileTree)
    (outside : ¬ destination <+: manager.pointerPath) (made : manager.isMade destination.dropLast (t.remove destination) = true) :
    manager.pointedVersion L ((t.remove destination).graft destination temp) = manager.pointedVersion L t := by
  refine pointedVersion_kept read ?_ ?_
  · rw [FileTree.get?_graft_of_not_prefix _ outside, FileTree.get?_remove, if_neg outside]
  · intro absent
    -- what lies below the pointer has a directory above it, which nothing lies in
    have apart : ¬ manager.pointerPath <+: destination := by
      rintro ⟨rest, rfl⟩
      have inner : rest ≠ [] := by
        rintro rfl
        rw [List.append_nil] at outside
        exact outside (List.prefix_refl _)
      have above : manager.pointerPath <+: (manager.pointerPath ++ rest).dropLast := by
        rw [List.dropLast_append_of_ne_nil inner]
        exact List.prefix_append _ _
      simp only [isMade, Bool.or_eq_true, List.isPrefixOf_iff_prefix] at made
      rcases made with (staged | activated) | directory
      · have same := (above.trans staged).eq_of_length (by simp [pointerPath, stagedRoot])
        simp [pointerPath, stagedRoot] at same
      · have same := (above.trans activated).eq_of_length (by simp [pointerPath, activatedRoot])
        simp [pointerPath, activatedRoot] at same
      · rw [FileTree.isDirectory, Bool.or_eq_true] at directory
        rcases directory with empty | occupied
        · have nothing := above.length_le
          rw [List.isEmpty_iff.mp empty] at nothing
          simp [pointerPath] at nothing
        · obtain ⟨other, member, found⟩ := List.any_eq_true.mp occupied
          rw [Bool.and_eq_true, List.isPrefixOf_iff_prefix] at found
          obtain ⟨tail, rfl⟩ := above.trans found.2
          have there := Dict.mem_keys_iff.mp member
          rw [FileTree.get?_remove] at there
          split at there
          · cases there
          · rw [FileTree.isPresent_iff.mpr ⟨tail, there⟩] at absent
            cases absent
    refine isPresent_kept ?_ absent
    intro rest missing
    rw [FileTree.get?_graft_of_not_prefix, FileTree.get?_remove, missing, ite_self]
    intro starts
    cases List.prefix_or_prefix_of_prefix starts (List.prefix_append manager.pointerPath rest) with
    | inl inside => exact outside inside
    | inr inside => exact apart inside

theorem onFiles_error {step : FileTree → Except Error FileTree} {e : Error} :
    onFiles step t = (.error e, t') ↔ step t = .error e ∧ t' = t := by
  unfold onFiles
  cases step t with
  | ok left => simp
  | error e' => simp [eq_comm]

theorem lift_error {α : Type} {x : Except Error α} {e : Error} :
    Call.lift x t = (.error e, t') ↔ x = .error e ∧ t' = t := by
  rw [Call.lift_apply, Prod.mk.injEq]
  exact and_congr_right fun _ => eq_comm

theorem lift_ok {α : Type} {x : Except Error α} {a : α} : Call.lift x t = (.ok a, t') ↔ x = .ok a ∧ t' = t := by
  rw [Call.lift_apply, Prod.mk.injEq]
  exact and_congr_right fun _ => eq_comm

/-- What a call of `stage` may leave once the bundle is verified. -/
inductive StageLeaves (manager : OfflineUpdateManager) (disk : Disk) (destination : FilePath) (t : FileTree) : FileTree → Prop where
  | refused (unclear : ¬ (disk .removeStaged = none ∧ t.isFile destination = false)) : StageLeaves manager disk destination t t
  | cleared (working : disk .removeStaged = none) (replaceable : t.isFile destination = false) :
      StageLeaves manager disk destination t (t.remove destination)
  | moved (working : disk .removeStaged = none) (replaceable : t.isFile destination = false) (temp : FileTree)
      (outside : ¬ destination <+: manager.stagedRoot) (made : manager.isMade destination.dropLast (t.remove destination) = true) :
      StageLeaves manager disk destination t ((t.remove destination).graft destination temp)

variable {status : Except Error (Int × String)} {disk : Disk} {verified extracted : Except Error UpdateArchive}
  {now : Collaboration.WireTime} {metadata : OfflineUpdateMetadata}

theorem stage_cases : (manager.stage L status disk verified extracted now t).2 = t ∧
      (∀ metadata, ¬ manager.Opens L status disk verified now t metadata) ∨
    ∃ metadata, manager.Opens L status disk verified now t metadata ∧
      manager.StageLeaves disk (manager.stagedPath metadata.bundleId metadata.version) t
        (manager.stage L status disk verified extracted now t).2 := by
  rcases called : manager.stage L status disk verified extracted now t with ⟨outcome, left⟩
  unfold stage at called
  by_cases immutable : manager.mode = .judge ∨ manager.mode = .benchmark
  · rw [refuse, if_pos (by simpa using immutable), Call.bind_of_error (Call.lift_apply _ _)] at called
    cases called
    exact Or.inl ⟨rfl, fun _ opens => opens.1 immutable⟩
  rw [refuse, if_neg (by simpa using immutable), Call.bind_of_ok (Call.lift_apply _ _)] at called
  cases opened : verified with
  | error e =>
      rw [opened, Call.bind_of_error (Call.lift_apply _ _)] at called
      cases called
      refine Or.inl ⟨rfl, ?_⟩
      rintro metadata ⟨-, _, _, other, -⟩
      cases other
  | ok archive =>
      rw [opened, Call.bind_of_ok (Call.lift_apply _ _), Call.read_bind, id] at called
      cases checked : manager.verify L status disk archive now t with
      | error e =>
          rw [checked, Call.bind_of_error (Call.lift_apply _ _)] at called
          cases called
          refine Or.inl ⟨rfl, ?_⟩
          rintro metadata ⟨-, _, _, same, verified⟩
          cases same
          rw [verified] at checked
          cases checked
      | ok verification =>
          rw [checked, Call.bind_of_ok (Call.lift_apply _ _)] at called
          refine Or.inr ⟨verification.1, ⟨immutable, archive, verification.2, rfl, checked⟩, ?_⟩
          dsimp only at called ⊢
          generalize manager.stagedPath verification.1.bundleId verification.1.version = destination at called ⊢
          cases outcome with
          | ok result =>
              simp only [Call.bind_ok, onFiles_ok, removeTree_ok, moveStaged, lift_ok, bind_eq_ok, refuse_eq_ok, pure_eq_ok,
                Call.pure_apply, exists_const, Bool.not_eq_eq_eq_not, Bool.not_false, Prod.mk.injEq] at called
              obtain ⟨_, ⟨working, replaceable, rfl⟩, _, _, ⟨-, rfl⟩, _, ⟨outside, rfl⟩, temp, _, ⟨-, rfl⟩, _,
                ⟨_, -, -, made, rfl⟩, -, rfl⟩ := called
              rw [Bool.eq_false_iff, ne_eq, List.isPrefixOf_iff_prefix] at outside
              exact .moved working replaceable temp outside made
          | error e =>
              rcases Call.bind_error.mp called with raised | ⟨_, _, removed, called⟩
              · obtain ⟨failed, rfl⟩ := onFiles_error.mp raised
                refine .refused ?_
                rintro ⟨working, replaceable⟩
                cases failed.symm.trans (removeTree_ok.mpr ⟨working, replaceable, rfl⟩)
              obtain ⟨working, replaceable, rfl⟩ := removeTree_ok.mp (onFiles_ok.mp removed)
              have cleared : manager.StageLeaves disk destination t (t.remove destination) := .cleared working replaceable
              rcases Call.bind_error.mp called with raised | ⟨_, _, made, called⟩
              · exact (lift_error.mp raised).2 ▸ cleared
              obtain ⟨-, rfl⟩ := lift_ok.mp made
              rcases Call.bind_error.mp called with raised | ⟨_, _, outside, called⟩
              · exact (lift_error.mp raised).2 ▸ cleared
              obtain ⟨-, rfl⟩ := lift_ok.mp outside
              rcases Call.bind_error.mp called with raised | ⟨_, _, complete, called⟩
              · exact (lift_error.mp raised).2 ▸ cleared
              obtain ⟨-, rfl⟩ := lift_ok.mp complete
              rcases Call.bind_error.mp called with raised | ⟨_, _, moved, called⟩
              · exact (onFiles_error.mp raised).2 ▸ cleared
              cases called

theorem Opens.unique {other : OfflineUpdateMetadata} (opens : manager.Opens L status disk verified now t metadata)
    (again : manager.Opens L status disk verified now t other) : other = metadata := by
  obtain ⟨-, archive, result, rfl, checked⟩ := opens
  obtain ⟨-, archive', result', same, checked'⟩ := again
  cases same
  rw [checked] at checked'
  cases checked'
  rfl

theorem Opens.version (opens : manager.Opens L status disk verified now t metadata) :
    ∃ current, manager.pointedVersion L t = .ok current := by
  obtain ⟨-, archive, result, -, checked⟩ := opens
  obtain ⟨current, read, -⟩ := (verify_ok checked).newer
  exact ⟨current, ok_pointedVersion read⟩

theorem stage_keeps_iff : manager.pointedVersion L (manager.stage L status disk verified extracted now t).2 =
      manager.pointedVersion L t ↔ ¬ manager.MeetsPointer L t (.stage status disk verified extracted now) := by
  rcases stage_cases with ⟨same, closed⟩ | ⟨metadata, opens, leaves⟩
  · rw [same]
    exact iff_of_true rfl fun meets => closed _ meets.choose_spec.1
  obtain ⟨current, version⟩ := opens.version
  have meets_iff : manager.MeetsPointer L t (.stage status disk verified extracted now) ↔
      manager.ClearsPointer L disk .removeStaged (manager.stagedPath metadata.bundleId metadata.version) t := by
    constructor
    · rintro ⟨other, again, clears⟩
      rw [opens.unique again] at clears
      exact clears
    · intro clears
      exact ⟨metadata, opens, clears⟩
  rw [meets_iff]
  have above : manager.stagedPath metadata.bundleId metadata.version <+: manager.pointerPath →
      manager.stagedPath metadata.bundleId metadata.version <+: manager.stagedRoot := above_of_beginning rfl
  generalize manager.stagedPath metadata.bundleId metadata.version = destination at leaves above ⊢
  generalize (manager.stage L status disk verified extracted now t).2 = left at leaves ⊢
  cases leaves with
  | refused unclear => exact iff_of_true rfl fun clears => unclear ⟨clears.1, clears.2.1⟩
  | cleared working replaceable =>
      by_cases inside : destination <+: manager.pointerPath
      · rw [pointedVersion_remove_above inside]
        constructor
        · intro zero clears
          exact clears.2.2.2 zero.symm
        · intro quiet
          by_contra other
          exact quiet ⟨working, replaceable, inside, fun zero => other zero.symm⟩
      · exact iff_of_true (pointedVersion_remove version inside) fun clears => inside clears.2.2.1
  | moved working replaceable temp outside made =>
      have apart : ¬ destination <+: manager.pointerPath := fun inside => outside (above inside)
      exact iff_of_true (pointedVersion_moved version temp apart made) fun clears => apart clears.2.2.1

/-! ## Activation -/

/-- What a commit returns and leaves. -/
inductive CommitLeaves (manager : OfflineUpdateManager) (L : UpdateLibrary) (disk : Disk) (staged : FilePath)
    (metadata : OfflineUpdateMetadata) (t : FileTree) : Except Error OfflineUpdateVerification → FileTree → Prop where
  | refused {e : Error} (unclear : ¬ (disk .removeActivated = none ∧ t.isFile (manager.place metadata) = false)) :
      CommitLeaves manager L disk staged metadata t (.error e) t
  | cleared {e : Error} (working : disk .removeActivated = none) (replaceable : t.isFile (manager.place metadata) = false)
      (uncopied : ∀ t', copyTree disk staged (manager.place metadata) (manager.cleared metadata t) ≠ .ok t') :
      CommitLeaves manager L disk staged metadata t (.error e) (manager.cleared metadata t)
  | copied {e : Error} (working : disk .removeActivated = none) (replaceable : t.isFile (manager.place metadata) = false)
      (copies : copyTree disk staged (manager.place metadata) (manager.cleared metadata t) = .ok (manager.copied metadata staged t)) :
      CommitLeaves manager L disk staged metadata t (.error e) (manager.copied metadata staged t)
  | written {e : Error} (working : disk .removeActivated = none) (replaceable : t.isFile (manager.place metadata) = false)
      (copies : copyTree disk staged (manager.place metadata) (manager.cleared metadata t) = .ok (manager.copied metadata staged t))
      (content : List UInt8) : CommitLeaves manager L disk staged metadata t (.error e)
        (Dict.insert (manager.copied metadata staged t) manager.tempPointer content)
  | committed {result : OfflineUpdateVerification} (commits : manager.Commits metadata disk staged t) (pointer : ActivePointer)
      (versioned : pointer.version = metadata.version) (active : result.state = .activated) :
      CommitLeaves manager L disk staged metadata t (.ok result) (manager.pointed L metadata staged t pointer)

theorem commit_cases {staged : FilePath} {outcome : Except Error OfflineUpdateVerification}
    (called : manager.commit L disk staged now metadata t = (outcome, t')) :
    manager.CommitLeaves L disk staged metadata t outcome t' := by
  cases outcome with
  | ok result =>
      obtain ⟨commits, pointer, -, versioned, -, -, -, rfl, rfl⟩ := commit_ok_iff.mp called
      exact .committed commits pointer versioned rfl
  | error e =>
      rcases Call.bind_error.mp called with raised | ⟨_, u, removed, called⟩
      · obtain ⟨failed, rfl⟩ := onFiles_error.mp raised
        refine .refused ?_
        rintro ⟨working, replaceable⟩
        cases failed.symm.trans (removeTree_ok.mpr ⟨working, replaceable, rfl⟩)
      obtain ⟨working, replaceable, rfl⟩ := removeTree_ok.mp (onFiles_ok.mp removed)
      rcases Call.bind_error.mp called with raised | ⟨_, v, copied, called⟩
      · obtain ⟨failed, rfl⟩ := onFiles_error.mp raised
        refine .cleared working replaceable fun t' copied => ?_
        cases failed.symm.trans copied
      have copies := onFiles_ok.mp copied
      obtain ⟨-, -, -, -, -, rfl⟩ := copyTree_ok.mp copies
      rcases Call.bind_error.mp called with raised | ⟨path, _, named, called⟩
      · obtain ⟨-, rfl⟩ := lift_error.mp raised
        exact .copied working replaceable copies
      obtain ⟨-, rfl⟩ := lift_ok.mp named
      rw [Call.read_bind] at called
      rcases Call.bind_error.mp called with raised | ⟨bytes, _, described, called⟩
      · obtain ⟨-, rfl⟩ := lift_error.mp raised
        exact .copied working replaceable copies
      obtain ⟨-, rfl⟩ := lift_ok.mp described
      rcases Call.bind_error.mp called with raised | ⟨_, _, writes, called⟩
      · obtain ⟨-, rfl⟩ := lift_error.mp raised
        exact .copied working replaceable copies
      obtain ⟨-, rfl⟩ := lift_ok.mp writes
      rcases Call.bind_error.mp called with raised | ⟨_, _, written, called⟩
      · obtain ⟨-, rfl⟩ := onFiles_error.mp raised
        exact .copied working replaceable copies
      obtain ⟨-, -, rfl⟩ := writeFile_ok.mp (onFiles_ok.mp written)
      rcases Call.bind_error.mp called with raised | ⟨_, _, syncs, called⟩
      · obtain ⟨-, rfl⟩ := lift_error.mp raised
        exact .written working replaceable copies _
      obtain ⟨-, rfl⟩ := lift_ok.mp syncs
      rcases Call.bind_error.mp called with raised | ⟨_, _, moved, called⟩
      · obtain ⟨-, rfl⟩ := onFiles_error.mp raised
        exact .written working replaceable copies _
      cases called

/-- A copy needs a staged directory that was not cleared away. -/
theorem place_outside {staged : FilePath} (within : manager.stagedRoot <+: staged)
    (copies : copyTree disk staged (manager.place metadata) (manager.cleared metadata t) = .ok t') :
    ¬ manager.place metadata <+: manager.pointerPath := by
  intro inside
  have above : manager.place metadata <+: staged := (above_of_beginning rfl inside).trans within
  have present := (copyTree_ok.mp copies).2.1
  rw [cleared, FileTree.not_isPresent_remove above] at present
  cases present

/-- A copy to another place leaves the version. -/
theorem pointedVersion_copied {staged : FilePath}
    (outside : ¬ manager.place metadata <+: manager.pointerPath) (apart : ¬ manager.pointerPath <+: manager.place metadata) :
    manager.pointedVersion L (manager.copied metadata staged t) = manager.pointedVersion L t := by
  have elsewhere : ∀ rest, ¬ manager.place metadata <+: manager.pointerPath ++ rest := by
    intro rest starts
    cases List.prefix_or_prefix_of_prefix starts (List.prefix_append manager.pointerPath rest) with
    | inl inside => exact outside inside
    | inr inside => exact apart inside
  refine pointedVersion_congr fun rest => ?_
  rw [copied, cleared, FileTree.get?_graft_of_not_prefix _ (elsewhere rest), FileTree.get?_remove, if_neg (elsewhere rest)]

/-- A copy to below the pointer, or onto it, makes a directory of it. -/
theorem pointedVersion_onto {staged : FilePath} (within : manager.stagedRoot <+: staged)
    (onto : manager.pointerPath <+: manager.place metadata)
    (copies : copyTree disk staged (manager.place metadata) (manager.cleared metadata t) = .ok t') :
    manager.pointedVersion L (manager.copied metadata staged t) = .error (.osError "is a directory") := by
  have outside := place_outside within copies
  obtain ⟨-, present, -, reachable, -, -⟩ := copyTree_ok.mp copies
  obtain ⟨middle, below⟩ := onto
  apply pointedVersion_of_directory
  · obtain ⟨rest, found⟩ := FileTree.isPresent_iff.mp present
    refine FileTree.isPresent_iff.mpr ⟨middle ++ rest, ?_⟩
    rw [← List.append_assoc, below, copied, FileTree.get?_graft, FileTree.get?_below, found]
    rw [cleared, FileTree.get?_remove, if_pos (List.prefix_append _ _)]
  · rw [copied, FileTree.get?_graft_of_not_prefix _ outside]
    cases file : (manager.cleared metadata t).get? manager.pointerPath with
    | none => rfl
    | some content =>
        have member : manager.pointerPath ∈ (manager.cleared metadata t).keys := Dict.mem_keys_iff.mpr (by rw [file]; rfl)
        have free := List.any_eq_false.mp reachable _ member
        refine absurd ?_ free
        rw [Bool.and_eq_true, decide_eq_true_eq, List.isPrefixOf_iff_prefix]
        refine ⟨fun same => outside (same ▸ List.prefix_refl _), ⟨middle, below⟩⟩

theorem pointedVersion_insert_temp (content : List UInt8) :
    manager.pointedVersion L (Dict.insert t manager.tempPointer content) = manager.pointedVersion L t := by
  refine pointedVersion_congr fun rest => ?_
  rw [Dict.get?_insert, if_neg]
  intro same
  exact pointer_apart ⟨rest, same⟩

theorem checkStaged_newer {call : ActivateCall}
    (checked : manager.checkStaged L call.status call.disk call.staged t = .ok metadata) :
    ∃ current, manager.pointedVersion L t = .ok current ∧ current < metadata.version := by
  simp only [checkStaged, bind_eq_ok, refuse_eq_ok, pure_eq_ok] at checked
  obtain ⟨_, -, _, -, text, -, document, -, metadata, -, _, -, current, read, _, newer, _, -, rfl⟩ := checked
  exact ⟨current, ok_pointedVersion read, not_le.mp (of_decide_eq_false newer)⟩

/-- A call that activates nothing is to leave the version. -/
theorem neverRollsBack_of_not_activated {call : ActivateCall} {outcome : Except Error OfflineUpdateVerification}
    (called : manager.activateWith L call t = (outcome, t')) (other : ∀ result, outcome = .ok result → result.state ≠ .activated) :
    manager.NeverRollsBack L t (.activate call) ↔ manager.pointedVersion L t' = manager.pointedVersion L t := by
  have left : manager.step L t (.activate call) = t' := by rw [step, called]
  constructor
  · intro never
    rw [← left]
    refine never.unchanged ?_
    rintro _ result _ ⟨⟩ returned
    rw [called] at returned
    cases returned
    exact other result rfl
  · intro same
    refine ⟨?_, fun _ => by rw [left, same]⟩
    rintro _ result _ ⟨⟩ returned active
    rw [called] at returned
    cases returned
    exact absurd active (other result rfl)

theorem meetsPointer_activate_iff {call : ActivateCall}
    (checked : manager.checkStaged L call.status call.disk call.staged t = .ok metadata)
    (passed : (call.selfTest (t.below call.staged)).1 = .ok true) : manager.MeetsPointer L t (.activate call) ↔
      manager.ClearsPointer L call.disk .removeActivated (manager.place metadata) (tested call t) ∨
        manager.CopiesOntoPointer call.disk call.staged (manager.place metadata) (tested call t) := by
  constructor
  · rintro ⟨other, again, -, meets⟩
    rw [checked] at again
    cases again
    exact meets
  · intro meets
    exact ⟨metadata, checked, passed, meets⟩

/-- A commit that raises leaves the version, unless its place is that of the pointer. -/
theorem commit_keeps_iff {staged : FilePath} {v : Int} {e : Error} (within : manager.stagedRoot <+: staged)
    (read : manager.pointedVersion L t = .ok v) (raised : manager.commit L disk staged now metadata t = (.error e, t')) :
    manager.pointedVersion L t' = manager.pointedVersion L t ↔
      ¬ (manager.ClearsPointer L disk .removeActivated (manager.place metadata) t ∨
        manager.CopiesOntoPointer disk staged (manager.place metadata) t) := by
  have copied_iff (copies : copyTree disk staged (manager.place metadata) (manager.cleared metadata t) =
      .ok (manager.copied metadata staged t)) (working : disk .removeActivated = none)
      (replaceable : t.isFile (manager.place metadata) = false) :
      manager.pointedVersion L (manager.copied metadata staged t) = manager.pointedVersion L t ↔
        ¬ (manager.ClearsPointer L disk .removeActivated (manager.place metadata) t ∨
          manager.CopiesOntoPointer disk staged (manager.place metadata) t) := by
    have outside := place_outside within copies
    by_cases onto : manager.pointerPath <+: manager.place metadata
    · rw [pointedVersion_onto within onto copies, read]
      refine iff_of_false nofun (not_not.mpr (Or.inr ⟨working, replaceable, onto, _, copies⟩))
    · refine iff_of_true (pointedVersion_copied outside onto) ?_
      rintro (clears | copiesOnto)
      · exact outside clears.2.2.1
      · exact onto copiesOnto.2.2.1
  cases commit_cases raised with
  | refused unclear =>
      refine iff_of_true rfl ?_
      rintro (clears | copiesOnto)
      · exact unclear ⟨clears.1, clears.2.1⟩
      · exact unclear ⟨copiesOnto.1, copiesOnto.2.1⟩
  | cleared working replaceable uncopied =>
      have notOnto : ¬ manager.CopiesOntoPointer disk staged (manager.place metadata) t :=
        fun copiesOnto => uncopied _ copiesOnto.2.2.2.choose_spec
      rw [or_iff_left notOnto, cleared]
      by_cases inside : manager.place metadata <+: manager.pointerPath
      · rw [pointedVersion_remove_above inside]
        constructor
        · intro zero clears
          exact clears.2.2.2 zero.symm
        · intro quiet
          by_contra other
          exact quiet ⟨working, replaceable, inside, fun zero => other zero.symm⟩
      · exact iff_of_true (pointedVersion_remove read inside) fun clears => inside clears.2.2.1
  | copied working replaceable copies => exact copied_iff copies working replaceable
  | written working replaceable copies content =>
      rw [pointedVersion_insert_temp]
      exact copied_iff copies working replaceable

/-- A commit that returns writes the version of its metadata. -/
theorem commit_points {staged : FilePath} {result : OfflineUpdateVerification}
    (reads : ∀ pointer, L.pointerVersion (L.pointerBytes pointer) = .ok (pointer.version : Int))
    (within : manager.stagedRoot <+: staged) (committed : manager.commit L disk staged now metadata t = (.ok result, t')) :
    result.state = .activated ∧ manager.pointedVersion L t' = .ok (metadata.version : Int) ∧
      ¬ (manager.ClearsPointer L disk .removeActivated (manager.place metadata) t ∨
        manager.CopiesOntoPointer disk staged (manager.place metadata) t) := by
  cases commit_cases committed with
  | committed commits pointer versioned active =>
      refine ⟨active, ?_, ?_⟩
      · rw [pointed, pointedVersion_of_file (Dict.get?_insert_self _ _ _), reads, versioned]
      · rintro (clears | copiesOnto)
        · have above : manager.place metadata <+: staged := (above_of_beginning rfl clears.2.2.1).trans within
          have present := commits.present
          rw [cleared, FileTree.not_isPresent_remove above] at present
          cases present
        · have apart := not_prefix_place commits within commits.pointed []
          rw [List.append_nil] at apart
          exact apart copiesOnto.2.2.1

theorem neverRollsBack_of_error {call : ActivateCall} {e : Error} (called : manager.activateWith L call t = (.error e, t')) :
    manager.NeverRollsBack L t (.activate call) ↔ manager.pointedVersion L t' = manager.pointedVersion L t := by
  refine neverRollsBack_of_not_activated called ?_
  intro result returned
  cases returned

theorem activate_never_iff (reads : ∀ pointer, L.pointerVersion (L.pointerBytes pointer) = .ok (pointer.version : Int))
    (call : ActivateCall) : manager.NeverRollsBack L t (.activate call) ↔ ¬ manager.MeetsPointer L t (.activate call) := by
  cases checked : manager.checkStaged L call.status call.disk call.staged t with
  | error e =>
      have called : manager.activateWith L call t = (.error e, t) := by
        rw [activateWith, activate, Call.read_bind, id, checked, Call.bind_of_error (Call.lift_apply _ _)]
      rw [neverRollsBack_of_error called]
      refine iff_of_true rfl ?_
      rintro ⟨metadata, other, -⟩
      rw [checked] at other
      cases other
  | ok metadata =>
      have within := checkStaged_within checked
      obtain ⟨current, version, newer⟩ := checkStaged_newer checked
      have after : manager.pointedVersion L (tested call t) = manager.pointedVersion L t := pointedVersion_tested within
      have unpassed (answer : (call.selfTest (t.below call.staged)).1 ≠ .ok true) :
          ¬ manager.MeetsPointer L t (.activate call) := by
        rintro ⟨_, -, passed, -⟩
        exact answer passed
      cases answer : (call.selfTest (t.below call.staged)).1 with
      | error e =>
          have called : manager.activateWith L call t = (.error e, tested call t) := by
            rw [activateWith, activate, Call.read_bind, id, checked, Call.bind_of_ok (Call.lift_apply _ _), Call.bind_of_error]
            rw [Call.zoom, answer]
            rfl
          rw [neverRollsBack_of_error called, after]
          exact iff_of_true rfl (unpassed (by simp [answer]))
      | ok passed =>
          have zoomed : Call.zoom (fun t : FileTree => t.below call.staged) (fun t content => t.replace call.staged content)
              call.selfTest t = (.ok passed, tested call t) := by
            rw [Call.zoom, answer]
            rfl
          cases passed with
          | false =>
              have called : ∃ outcome, manager.activateWith L call t = (outcome, tested call t) ∧
                  ∀ result, outcome = .ok result → result.state ≠ .activated := by
                rw [activateWith, activate, Call.read_bind, id, checked, Call.bind_of_ok (Call.lift_apply _ _),
                  Call.bind_of_ok zoomed, if_neg Bool.false_ne_true, Call.read_bind, id]
                cases readFile call.disk .readMetadata (call.staged ++ [metadataName]) (tested call t) with
                | error e => exact ⟨.error e, Call.bind_of_error (Call.lift_apply _ _), by simp⟩
                | ok bytes =>
                    refine ⟨_, Call.bind_of_ok (Call.lift_apply _ _), ?_⟩
                    rintro _ ⟨⟩ activated
                    cases activated
              obtain ⟨outcome, called, other⟩ := called
              rw [neverRollsBack_of_not_activated called other, after]
              exact iff_of_true rfl (unpassed (by simp [answer]))
          | true =>
              rw [meetsPointer_activate_iff checked answer]
              rcases committed : manager.commit L call.disk call.staged call.now metadata (tested call t) with ⟨outcome, left⟩
              have called : manager.activateWith L call t = (outcome, left) := by
                rw [activateWith, activate, Call.read_bind, id, checked, Call.bind_of_ok (Call.lift_apply _ _),
                  Call.bind_of_ok zoomed, if_pos rfl, committed]
              cases outcome with
              | error e =>
                  rw [neverRollsBack_of_error called, ← after]
                  exact commit_keeps_iff within (after.trans version) committed
              | ok result =>
                  obtain ⟨active, points, quiet⟩ := commit_points reads within committed
                  refine iff_of_true ⟨?_, ?_⟩ quiet
                  · rintro _ other _ ⟨⟩ returned -
                    rw [called] at returned
                    cases returned
                    exact ⟨current, metadata.version, version, points, newer⟩
                  · intro inactive
                    exact absurd active (inactive call result left rfl called)

theorem neverRollsBack_iff (reads : ∀ pointer, L.pointerVersion (L.pointerBytes pointer) = .ok (pointer.version : Int))
    (op : UpdateOperation) : manager.NeverRollsBack L t op ↔ ¬ manager.MeetsPointer L t op := by
  cases op with
  | stage status disk verified extracted now =>
      rw [← stage_keeps_iff]
      constructor
      · intro never
        refine never.unchanged ?_
        intro call _ _ other
        cases other
      · intro same
        refine ⟨?_, fun _ => same⟩
        intro call _ _ other
        cases other
  | activate call => exact activate_never_iff reads call
  | change content =>
      refine iff_of_true ⟨?_, fun _ => pointedVersion_change content⟩ id
      intro call _ _ other
      cases other

/-- The version in the pointer never goes back, exactly in the runs where no bundle
    meets the pointer. -/
theorem updates_never_roll_back_iff (manager : OfflineUpdateManager) (L : UpdateLibrary)
    (reads : ∀ pointer, L.pointerVersion (L.pointerBytes pointer) = .ok (pointer.version : Int))
    (t : FileTree) (ops : List UpdateOperation) : Meets (manager.step L) (manager.NeverRollsBack L) t ops ↔
      Meets (manager.step L) (fun t op => ¬ manager.MeetsPointer L t op) t ops :=
  Meets.congr (I := fun _ => True) (fun _ op _ => neverRollsBack_iff reads op) (fun _ _ _ _ => trivial) trivial ops

/-- A bundle with a name that leads up to the directory of the state. -/
def climbingUpdate : UpdateDocument := { fieldUpdate releasedContent with bundleId := "../../../edge", version := 7 }

/-- Reads the document of either bundle, and a pointer that is its version alone. -/
def edgeLibrary : UpdateLibrary :=
  let read (bytes : List UInt8) : Except Error UpdateDocument :=
    match [fieldUpdate releasedContent, climbingUpdate].find? fun document => compactBytes document = bytes with
    | some document => .ok document
    | none => .error .jsonDecodeError
  { demoLibrary with
    loads := read
    loadsText := read
    pointerBytes := fun pointer => (toString pointer.version).toList.map fun c => UInt8.ofNat c.toNat
    pointerVersion := fun bytes => .ok (Nat.ofDigitChars 10 (bytes.map fun byte => Char.ofNat byte.toNat) 0) }

theorem edgeLibrary_reads (pointer : ActivePointer) :
    edgeLibrary.pointerVersion (edgeLibrary.pointerBytes pointer) = .ok (pointer.version : Int) := by
  have digits : ((toString pointer.version).toList.map fun c => UInt8.ofNat c.toNat).map (fun byte => Char.ofNat byte.toNat) =
      (toString pointer.version).toList := by
    rw [List.map_map]
    refine (List.map_congr_left fun c member => ?_).trans (List.map_id _)
    have digit := decimal_isDigit member
    rw [Char.isDigit, Bool.and_eq_true, decide_eq_true_eq, decide_eq_true_eq] at digit
    have bound : c.toNat ≤ 57 := digit.2
    have small : c.toNat < 256 := by omega
    rw [Function.comp_apply, UInt8.toNat_ofNat', Nat.mod_eq_of_lt small, Char.ofNat_toNat]
    rfl
  rw [edgeLibrary]
  dsimp only
  rw [digits, Nat.toString_eq_repr, Nat.toList_repr, Nat.ofDigitChars_ten_toDigits]

def edgeManager : OfflineUpdateManager := ⟨["srv", "edge-7"], "0.4.0", .fieldLab⟩

/-- The files of a device with the first version. -/
def edgeFiles : FileTree := Dict.insert Dict.empty edgeManager.pointerPath [49]

def minute (n : Int) : Collaboration.WireTime := ⟨⟨n * 60000000, 0⟩, false⟩

/-- The bundle of a document, with its signature. -/
def bundleOf (document : UpdateDocument) : UpdateArchive where
  names := ["metadata.json", "metadata.ed25519", "src/app.py"]
  read name :=
    if name = "metadata.json" then .ok (compactBytes document)
    else if name = "metadata.ed25519" then .ok (0 :: compactBytes document)
    else .ok releasedContent

def stageOf (document : UpdateDocument) : UpdateOperation :=
  .stage noTombstones (fun _ => none) (.ok (bundleOf document)) (.ok (bundleOf document)) (minute 1)

def fieldUpdates : List UpdateOperation := [
  stageOf (fieldUpdate releasedContent),
  .activate ⟨noTombstones, fun _ => none, fieldManager.stagedPath "field-update" 1, pure true, minute 2⟩]

/-- A bundle with a plain name is staged and activated. -/
theorem field_update_never_rolls_back :
    Meets (fieldManager.step edgeLibrary) (fieldManager.NeverRollsBack edgeLibrary) Dict.empty fieldUpdates := by
  refine (updates_never_roll_back_iff fieldManager edgeLibrary edgeLibrary_reads Dict.empty fieldUpdates).mpr ⟨?_, ?_, trivial⟩
  · rintro ⟨metadata, ⟨-, archive, result, opened, checked⟩, clears⟩
    cases opened
    have staged : ((fieldManager.verify edgeLibrary noTombstones (fun _ => none) (bundleOf (fieldUpdate releasedContent))
        (minute 1) Dict.empty).toOption.map fun verified => fieldManager.stagedPath verified.1.bundleId verified.1.version) =
          some ["var", "lib", "updates", "staged", "field-update-1"] := by decide +kernel
    rw [checked] at staged
    have place : fieldManager.stagedPath metadata.bundleId metadata.version =
        ["var", "lib", "updates", "staged", "field-update-1"] := Option.some.inj staged
    rw [place] at clears
    exact absurd clears.2.2.1 (by decide)
  · rintro ⟨metadata, checked, -, meets⟩
    have placed : ((fieldManager.checkStaged edgeLibrary noTombstones (fun _ => none) (fieldManager.stagedPath "field-update" 1)
        (fieldManager.step edgeLibrary Dict.empty (stageOf (fieldUpdate releasedContent)))).toOption.map fieldManager.place) =
          some ["var", "lib", "updates", "activated", "field-update-1"] := by decide +kernel
    rw [show fieldManager.checkStaged edgeLibrary noTombstones _ _ _ = .ok metadata from checked] at placed
    have place : fieldManager.place metadata = ["var", "lib", "updates", "activated", "field-update-1"] := Option.some.inj placed
    rw [place] at meets
    rcases meets with clears | copies
    · exact absurd clears.2.2.1 (by decide)
    · exact absurd copies.2.2.1 (by decide)

/-- The bundle is staged in the directory of the state, which is cleared for it. -/
theorem climbing_update_rolls_back : ¬ Meets (edgeManager.step edgeLibrary) (edgeManager.NeverRollsBack edgeLibrary) edgeFiles
    [stageOf climbingUpdate] := by
  rintro ⟨never, -⟩
  have same : edgeManager.pointedVersion edgeLibrary (edgeManager.step edgeLibrary edgeFiles (stageOf climbingUpdate)) =
      edgeManager.pointedVersion edgeLibrary edgeFiles := by
    refine never.unchanged ?_
    intro call _ _ other
    cases other
  have versions := congrArg Except.toOption same
  revert versions
  decide +kernel

end OfflineUpdateManager

end SentinelEdge.Update
