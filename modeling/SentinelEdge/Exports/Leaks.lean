import SentinelEdge.Exports.Entries

/-! # What an archive gives away

Bytes are known by their digest. Those of a prohibited artifact, and those of an item
that is restricted, expired or not available, are protected. A selected item keeps its
own content back if it is protected, but asks nothing of other items that share it,
and a derivative names any digest it likes.
-/

namespace SentinelEdge.Exports.EvidenceExportService

open Foundation Domain Storage Evidence Privacy

variable {P : Platform} (service : EvidenceExportService P)

/-- The effective policy of the artifact prohibits its export. -/
def Prohibited (digest : String) : Prop :=
  ∃ policy, service.artifacts.catalog.effectivePolicy digest = .ok policy ∧ policy.exportPolicy = .prohibited

/-- The item is under an active restriction, its rights have expired, or it is not
    available. -/
def Withheld (now : DateTime) (evidenceId : UUID) : Prop :=
  service.isRestricted evidenceId = true ∨
  ∃ lifecycle, service.store.lifecycleProjection evidenceId now = .ok lifecycle ∧
    (lifecycle.rightsActive = false ∨ lifecycle.state ≠ .available)

/-- The digest of a prohibited artifact or of the content of a withheld item. -/
def Protected (now : DateTime) (digest : String) : Prop :=
  service.Prohibited digest ∨ ∃ item ∈ service.store.allEvidence, item.contentSha256 = digest ∧ service.Withheld now item.evidenceId

/-- The item `create` reads for an id. -/
def itemOf (evidenceId : UUID) : Option EvidenceItem :=
  (Dict.ofList EvidenceItem.evidenceId service.store.allEvidence).get? evidenceId

/-- What the request names beside the checked content is not protected: the artifacts
    of the derivatives, content that other items share, and, byte for byte, the
    documents the archive is made with. -/
structure KeepsApart (now : DateTime) (request : ExportRequest P) (manifest : EvidenceExportManifest) : Prop where
  derivatives : ∀ derivative ∈ request.derivatives, ¬ service.Protected now derivative.artifactSha256
  contents : ∀ selection ∈ request.selections, selection.includeContent = true →
    ∀ item, service.itemOf selection.evidenceId = some item →
      ∀ other ∈ service.store.allEvidence, other.evidenceId ≠ item.evidenceId →
        other.contentSha256 = item.contentSha256 → ¬ service.Withheld now other.evidenceId
  metadata : ∀ selection ∈ request.selections, ∀ item, service.itemOf selection.evidenceId = some item →
    ¬ service.Protected now
      (contentDigest P (metadataPayload P item selection.classification selection.redactionProfile).1)
  manifest : ¬ service.Protected now (contentDigest P (P.canonicalJsonBytes (manifest.modelDump P)))

/-! ## Content that was checked -/

variable {service} {clock : ExportClock}

theorem rightsActive_earlier {item : EvidenceItem} {now later : DateTime} (onward : now ≤ later)
    (active : Store.rightsActive item later = true) : Store.rightsActive item now = true := by
  unfold Store.rightsActive at *
  cases expiry : item.rightsExpiresAt with
  | none => rfl
  | some expiry' =>
      simp only [expiry, Option.all_some, decide_eq_true_eq] at *
      exact lt_of_le_of_lt onward active

/-- An item whose content passed the checks was not withheld when the call began. -/
theorem Cleared.not_withheld {item : EvidenceItem} (cleared : Cleared service clock item) :
    ¬ service.Withheld clock.start item.evidenceId := by
  obtain ⟨lifecycle, projected, readable, _⟩ := cleared.readable
  unfold Store.lifecycleProjection at projected
  cases found : service.store.evidenceRow item.evidenceId with
  | none => simp [found] at projected
  | some row =>
      cases last : (service.store.lifecycleEvents item.evidenceId).getLast? with
      | none => simp [found, last] at projected
      | some event =>
          simp only [found, last, Except.ok.injEq] at projected
          subst projected
          simp only [Store.projectionOf, Bool.and_eq_true, decide_eq_true_eq] at readable
          have active := rightsActive_earlier (clock.onward item.evidenceId) readable.2
          rintro (restricted | ⟨atStart, projected, expired | unavailable⟩)
          · simp [cleared.unrestricted] at restricted
          · simp only [Store.lifecycleProjection, found, last, Except.ok.injEq] at projected
            subst projected
            simp [Store.projectionOf, active] at expired
          · simp only [Store.lifecycleProjection, found, last, Except.ok.injEq] at projected
            subst projected
            exact unavailable readable.1

/-- Checked content is protected only on account of another item. -/
theorem Cleared.protected_iff {item : EvidenceItem} (cleared : Cleared service clock item) :
    service.Protected clock.start item.contentSha256 ↔
      ∃ other ∈ service.store.allEvidence, other.evidenceId ≠ item.evidenceId ∧ other.contentSha256 = item.contentSha256 ∧
        service.Withheld clock.start other.evidenceId := by
  constructor
  · rintro (⟨policy, known, prohibited⟩ | ⟨other, among, shared, withheld⟩)
    · exact absurd prohibited (cleared.permitted policy known)
    · refine ⟨other, among, ?_, shared, withheld⟩
      intro same
      exact cleared.not_withheld (same ▸ withheld)
  · rintro ⟨other, among, _, shared, withheld⟩
    exact Or.inr ⟨other, among, shared, withheld⟩

/-! ## Archives -/

variable {request : ExportRequest P} {written : Written} {entries : List ExportEntry}

/-- The bytes of an archive are those of the manifest and of the entries. -/
theorem Created.clean_iff (created : Created service clock request written entries) :
    (∀ member ∈ written.archive, ¬ service.Protected clock.start (contentDigest P member.2)) ↔
      ¬ service.Protected clock.start (contentDigest P (P.canonicalJsonBytes (written.manifest.modelDump P))) ∧
      ∀ entry ∈ entries, ¬ service.Protected clock.start (contentDigest P entry.data) := by
  rw [created.archive, List.forall_mem_cons]
  refine and_congr_right (fun _ => ?_)
  constructor
  · intro clean entry member
    exact clean _ ((mem_sortedPayloads created.distinct).mpr ⟨entry, member, rfl, rfl⟩)
  · intro clean member among
    obtain ⟨entry, here, _, same⟩ := (mem_sortedPayloads created.distinct).mp among
    rw [← same]
    exact clean entry here

/-- The entries are clean exactly if the selections and the derivatives are. -/
theorem Gathered.clean_iff (gathered : Gathered service clock request entries) :
    (∀ entry ∈ entries, ¬ service.Protected clock.start (contentDigest P entry.data)) ↔
      (∀ derivative ∈ request.derivatives, ¬ service.Protected clock.start derivative.artifactSha256) ∧
      ∀ selection ∈ request.selections, ∀ item, service.itemOf selection.evidenceId = some item →
        ¬ service.Protected clock.start
          (contentDigest P (metadataPayload P item selection.classification selection.redactionProfile).1) ∧
        (selection.includeContent = true → ¬ service.Protected clock.start item.contentSha256) := by
  constructor
  · intro clean
    constructor
    · intro derivative asked
      obtain ⟨entry, member, content⟩ := gathered.derived derivative asked
      exact content ▸ clean entry member
    · intro selection asked item found
      obtain ⟨item', part, within, found', selected⟩ := gathered.selected selection asked
      cases Option.some.inj (found.symm.trans found')
      constructor
      · obtain ⟨entry, member, metadata⟩ := selected.metadata
        exact metadata ▸ clean entry (within member)
      · intro included
        obtain ⟨_, entry, member, content⟩ := selected.content included
        exact content ▸ clean entry (within member)
  · rintro ⟨derivatives, selections⟩ entry member
    obtain ⟨_, ⟨selection, asked, item, part, here, found, selected⟩ | ⟨derivative, asked, content⟩⟩ :=
      gathered.only entry member
    · obtain ⟨metadata, contents⟩ := selections selection asked item found
      cases selected.only entry here with
      | inl document => exact document ▸ metadata
      | inr content => exact content.2 ▸ contents content.1
    · exact content ▸ derivatives derivative asked

/-- For every call of `create` that returns: no member of the archive holds protected
    bytes exactly if the request keeps its derivatives, shared content and documents
    apart from them. -/
theorem leaks_nothing_iff (P : Platform) (service : EvidenceExportService P) (clock : ExportClock) (request : ExportRequest P)
    (written : Written) (returned : service.create clock request = .ok written) :
    (∀ member ∈ written.archive, ¬ service.Protected clock.start (contentDigest P member.2)) ↔
      service.KeepsApart clock.start request written.manifest := by
  obtain ⟨entries, created⟩ := create_ok returned
  rw [created.clean_iff, created.gathered.clean_iff]
  constructor
  · rintro ⟨manifest, derivatives, selections⟩
    constructor
    · exact derivatives
    · intro selection asked included item found other among different shared withheld
      exact (selections selection asked item found).2 included (Or.inr ⟨other, among, shared, withheld⟩)
    · intro selection asked item found
      exact (selections selection asked item found).1
    · exact manifest
  · intro apart
    refine ⟨apart.manifest, apart.derivatives, ?_⟩
    intro selection asked item found
    refine ⟨apart.metadata selection asked item found, ?_⟩
    intro included isProtected
    obtain ⟨item', part, _, found', selected⟩ := created.gathered.selected selection asked
    cases Option.some.inj (found.symm.trans found')
    obtain ⟨other, among, different, shared, withheld⟩ := (selected.content included).1.protected_iff.mp isProtected
    exact apart.contents selection asked included item found other among different shared withheld

/-! ## Derivatives of something else -/

/-- An artifact that must not be exported. -/
def blueprint : List UInt8 := [5]

def blueprintPolicy : ArtifactPolicy := { ArtifactPolicy.incidentEvidence true with exportPolicy := .prohibited }

/-- A report, and beside it the blueprint. -/
def ridgeArchive : PrivacySystem Platform.hexadecimal :=
  PrivacySystem.run {} shelf true [.evidence openRidgeFire,
    .evidence (.ingest {} (report 1 'a' "post-1") (UUID.ofNat 101) 1),
    .evidence (.artifacts (do
      let _ ← ContentAddressedArtifactStore.putBytes blueprint "image/png" false blueprintPolicy {} 0))]

/-- Content that is said to be derived from the report. -/
def derivedFrom (data : List UInt8) : DerivedArtifactSelection Platform.hexadecimal where
  sourceEvidenceId := UUID.ofNat 1
  artifactSha256 := contentDigest Platform.hexadecimal data
  mediaType := "image/png"
  classification := .restricted
  transformation := "thumbnail-v1"
  digestValid := hexadecimal_isSha256 _

def ridgeService : EvidenceExportService Platform.hexadecimal := ofSystem ridgeArchive (fun _ => quiet) unread

/-- The metadata of the report, with the derivatives. -/
def ridgeRequest (derivatives : List (List UInt8)) : ExportRequest Platform.hexadecimal where
  selections := [⟨UUID.ofNat 1, .restricted, false, none⟩]
  derivatives := derivatives.map derivedFrom

theorem metadata_leaks_nothing_iff :
    ∃ written, ridgeService.create (ExportClock.still 10) (ridgeRequest []) = .ok written ∧
      ((∀ member ∈ written.archive, ¬ ridgeService.Protected 10 (contentDigest Platform.hexadecimal member.2)) ↔
        ridgeService.KeepsApart 10 (ridgeRequest []) written.manifest) := by
  have returns : (ridgeService.create (ExportClock.still 10) (ridgeRequest [])).isOk = true := by decide +kernel
  cases returned : ridgeService.create (ExportClock.still 10) (ridgeRequest []) with
  | error e =>
      rw [returned] at returns
      cases returns
  | ok written => exact ⟨written, rfl, leaks_nothing_iff Platform.hexadecimal ridgeService _ _ written returned⟩

/-- Given out as a derivative of the report, the blueprint goes into the archive. -/
theorem blueprint_leaks :
    ∃ written, ridgeService.create (ExportClock.still 10) (ridgeRequest [blueprint]) = .ok written ∧
      ∃ member ∈ written.archive, ridgeService.Protected 10 (contentDigest Platform.hexadecimal member.2) := by
  have returns : (ridgeService.create (ExportClock.still 10) (ridgeRequest [blueprint])).isOk = true := by decide +kernel
  have prohibited : (ridgeService.artifacts.catalog.effectivePolicy (contentDigest Platform.hexadecimal blueprint)).toOption.map
      ArtifactPolicy.exportPolicy = some .prohibited := by decide +kernel
  cases returned : ridgeService.create (ExportClock.still 10) (ridgeRequest [blueprint]) with
  | error e =>
      rw [returned] at returns
      cases returns
  | ok written =>
      obtain ⟨entries, created⟩ := create_ok returned
      obtain ⟨entry, member, content⟩ := created.gathered.derived (derivedFrom blueprint) (by simp [ridgeRequest])
      refine ⟨written, rfl, (entry.member.path, entry.data), ?_, ?_⟩
      · rw [created.archive]
        exact List.mem_cons_of_mem _ ((mem_sortedPayloads created.distinct).mpr ⟨entry, member, rfl, rfl⟩)
      · cases policed : ridgeService.artifacts.catalog.effectivePolicy (contentDigest Platform.hexadecimal blueprint) with
        | error e =>
            rw [policed] at prohibited
            cases prohibited
        | ok policy =>
            rw [policed] at prohibited
            rw [content]
            exact Or.inl ⟨policy, policed, Option.some.inj prohibited⟩

end SentinelEdge.Exports.EvidenceExportService
