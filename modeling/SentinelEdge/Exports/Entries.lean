import SentinelEdge.Exports.Service

/-! # The entries of an archive

What a call of `create` that returns went through: every entry is described by its
member, and the archive holds the manifest and the data of every entry.
-/

namespace SentinelEdge.Exports

open Foundation Domain Storage Evidence Privacy Checks

variable {P : Platform}

/-! ## One entry -/

/-- The member has the size and the digest of the data, and a path of its own. -/
structure Describes (P : Platform) (entry : ExportEntry) : Prop where
  size : entry.data.length = entry.member.bytes
  digest : contentDigest P entry.data = entry.member.sha256
  apart : entry.member.path ≠ "manifest.json"

section

variable {path sha256 mediaType targetBinding transformation rightsDecision : String} {data : List UInt8}
  {classification : ArtifactClassification} {sourceEvidenceId : UUID} {lifecycleState : EvidenceContentState}
  {redactions : List String} {entry : ExportEntry}

theorem exportMember_data (made : exportMember path sha256 mediaType data classification sourceEvidenceId targetBinding
    transformation rightsDecision lifecycleState redactions = .ok entry) : entry.data = data := by
  unfold exportMember at made
  split at made
  · cases made
    rfl
  · cases made

theorem exportMember_describes (made : exportMember path sha256 mediaType data classification sourceEvidenceId targetBinding
    transformation rightsDecision lifecycleState redactions = .ok entry) (same : contentDigest P data = sha256)
    (apart : path.toList.head? ≠ some 'm') : Describes P entry := by
  unfold exportMember at made
  split at made
  · cases made
    refine ⟨rfl, same, ?_⟩
    intro named
    subst named
    exact apart rfl
  · cases made

end

theorem head_append (text : String) {c : Char} {rest : String} (starts : rest.toList.head? = some c) :
    (rest ++ text).toList.head? = some c := by
  rw [String.toList_append, List.head?_append, starts]
  rfl

namespace EvidenceExportService

variable {service : EvidenceExportService P} {clock : ExportClock}

theorem artifactBytes_ok {digest : String} {data : List UInt8} (read : service.artifactBytes digest = .ok data) :
    contentDigest P data = digest := by
  unfold artifactBytes at read
  split at read
  · cases read
  · split at read
    · cases read
    · next same =>
        cases read
        exact not_not.mp same

/-! ## Selected items -/

/-- The content of an item passed every check. -/
structure Cleared (service : EvidenceExportService P) (clock : ExportClock) (item : EvidenceItem) : Prop where
  unrestricted : service.isRestricted item.evidenceId = false
  readable : ∃ lifecycle, service.store.lifecycleProjection item.evidenceId (clock.item item.evidenceId) = .ok lifecycle ∧
    lifecycle.readable = true ∧ lifecycle.rightsActive = true
  permitted : ∀ policy, service.artifacts.catalog.effectivePolicy item.contentSha256 = .ok policy →
    policy.exportPolicy ≠ .prohibited

/-- What a turn of the first loop hands on. -/
structure Selected (service : EvidenceExportService P) (clock : ExportClock) (selection : EvidenceExportSelection)
    (item : EvidenceItem) (entries : List ExportEntry) : Prop where
  described : ∀ entry ∈ entries, Describes P entry
  metadata : ∃ entry ∈ entries, entry.data = (metadataPayload P item selection.classification selection.redactionProfile).1
  content : selection.includeContent = true → Cleared service clock item ∧
    ∃ entry ∈ entries, contentDigest P entry.data = item.contentSha256
  only : ∀ entry ∈ entries,
    entry.data = (metadataPayload P item selection.classification selection.redactionProfile).1 ∨
    (selection.includeContent = true ∧ contentDigest P entry.data = item.contentSha256)

theorem permitted_of_checks {selection : EvidenceExportSelection} {digest : String} {effective : Option ArtifactPolicy}
    (included : selection.includeContent = true) (found : service.effectivePolicy digest = .ok effective) {done : Unit}
    (checked : checkPolicy selection effective = .ok done) {policy : ArtifactPolicy}
    (known : service.artifacts.catalog.effectivePolicy digest = .ok policy) : policy.exportPolicy ≠ .prohibited := by
  unfold effectivePolicy at found
  rw [known] at found
  cases found
  obtain ⟨_, permitted, _⟩ := bind_eq_ok.mp checked
  simpa [included] using permitted

theorem metadataEntry_ok {selection : EvidenceExportSelection} {item : EvidenceItem}
    {lifecycle : EvidenceLifecycleProjection} {entry : ExportEntry}
    (made : metadataEntry (P := P) selection item lifecycle = .ok entry) : Describes P entry ∧
      entry.data = (metadataPayload P item selection.classification selection.redactionProfile).1 := by
  refine ⟨exportMember_describes made rfl ?_, exportMember_data made⟩
  rw [head_append _ (head_append _ (show "evidence/".toList.head? = some 'e' from rfl))]
  simp

theorem contentEntry_ok {selection : EvidenceExportSelection} {item : EvidenceItem}
    {lifecycle : EvidenceLifecycleProjection} {entry : ExportEntry}
    (made : service.contentEntry selection item lifecycle = .ok entry) :
    lifecycle.readable = true ∧ lifecycle.rightsActive = true ∧ Describes P entry ∧
      contentDigest P entry.data = item.contentSha256 := by
  obtain ⟨_, readable, made⟩ := bind_eq_ok.mp made
  obtain ⟨_, _, made⟩ := bind_eq_ok.mp made
  obtain ⟨data, read, made⟩ := bind_eq_ok.mp made
  have content := artifactBytes_ok read
  simp only [refuse_eq_ok, Bool.or_eq_false_iff, Bool.not_eq_false'] at readable
  refine ⟨readable.1, readable.2, exportMember_describes made content ?_, (exportMember_data made).symm ▸ content⟩
  rw [head_append _ (head_append _ (show "evidence/".toList.head? = some 'e' from rfl))]
  simp

theorem exportSelection_ok {evidenceById : Dict UUID EvidenceItem} {selection : EvidenceExportSelection}
    {entries : List ExportEntry} (returned : service.exportSelection clock evidenceById selection = .ok entries) :
    ∃ item, evidenceById.get? selection.evidenceId = some item ∧ Selected service clock selection item entries := by
  unfold exportSelection at returned
  cases found : evidenceById.get? selection.evidenceId with
  | none =>
      rw [found] at returned
      cases returned
  | some item =>
      rw [found] at returned
      obtain ⟨_, unrestricted, returned⟩ := bind_eq_ok.mp returned
      obtain ⟨lifecycle, projected, returned⟩ := bind_eq_ok.mp returned
      obtain ⟨_, _, returned⟩ := bind_eq_ok.mp returned
      obtain ⟨effective, known, returned⟩ := bind_eq_ok.mp returned
      obtain ⟨_, checked, returned⟩ := bind_eq_ok.mp returned
      obtain ⟨metadata, made, returned⟩ := bind_eq_ok.mp returned
      obtain ⟨described, bytes⟩ := metadataEntry_ok made
      refine ⟨item, rfl, ?_⟩
      cases included : selection.includeContent with
      | false =>
          simp only [included, Bool.false_eq_true, if_false, Except.ok.injEq] at returned
          subst returned
          constructor
          · simpa using described
          · exact ⟨metadata, by simp, bytes⟩
          · intro content
            rw [included] at content
            cases content
          · intro entry member
            rw [List.mem_singleton.mp member]
            exact Or.inl bytes
      | true =>
          simp only [included, if_true] at returned
          obtain ⟨content, made, returned⟩ := bind_eq_ok.mp returned
          obtain ⟨readable, active, describes, digest⟩ := contentEntry_ok made
          cases returned
          constructor
          · intro entry member
            cases List.mem_pair.mp member with
            | inl first => exact first ▸ described
            | inr second => exact second ▸ describes
          · exact ⟨metadata, by simp, bytes⟩
          · intro _
            have cleared : Cleared service clock item := by
              refine ⟨refuse_eq_ok.mp unrestricted, ⟨lifecycle, projected, readable, active⟩, ?_⟩
              intro policy policed
              exact permitted_of_checks included known checked policed
            exact ⟨cleared, content, by simp, digest⟩
          · intro entry member
            cases List.mem_pair.mp member with
            | inl first => exact Or.inl (first ▸ bytes)
            | inr second => exact Or.inr ⟨included, second ▸ digest⟩

/-! ## Derivatives -/

theorem exportDerivative_ok {evidenceById : Dict UUID EvidenceItem} {selectionById : Dict UUID EvidenceExportSelection}
    {derivative : DerivedArtifactSelection P} {entry : ExportEntry}
    (returned : service.exportDerivative clock evidenceById selectionById derivative = .ok entry) :
    Describes P entry ∧ contentDigest P entry.data = derivative.artifactSha256 := by
  obtain ⟨_, _, returned⟩ := bind_eq_ok.mp returned
  split at returned
  · obtain ⟨_, _, returned⟩ := bind_eq_ok.mp returned
    obtain ⟨_, _, returned⟩ := bind_eq_ok.mp returned
    obtain ⟨_, _, returned⟩ := bind_eq_ok.mp returned
    obtain ⟨data, read, made⟩ := bind_eq_ok.mp returned
    have content := artifactBytes_ok read
    refine ⟨exportMember_describes made content ?_, (exportMember_data made).symm ▸ content⟩
    rw [head_append _ (head_append _ (head_append _ (head_append _
      (show "derivatives/".toList.head? = some 'd' from rfl))))]
    simp
  · cases returned

/-! ## The archive -/

/-- The entries come from the selections and the derivatives, none left out. -/
structure Gathered (service : EvidenceExportService P) (clock : ExportClock) (request : ExportRequest P)
    (entries : List ExportEntry) : Prop where
  selected : ∀ selection ∈ request.selections, ∃ item selectedEntries, selectedEntries ⊆ entries ∧
    (Dict.ofList EvidenceItem.evidenceId service.store.allEvidence).get? selection.evidenceId = some item ∧
    Selected service clock selection item selectedEntries
  derived : ∀ derivative ∈ request.derivatives, ∃ entry ∈ entries, contentDigest P entry.data = derivative.artifactSha256
  only : ∀ entry ∈ entries, Describes P entry ∧
    ((∃ selection ∈ request.selections, ∃ item selectedEntries, entry ∈ selectedEntries ∧
      (Dict.ofList EvidenceItem.evidenceId service.store.allEvidence).get? selection.evidenceId = some item ∧
      Selected service clock selection item selectedEntries) ∨
    ∃ derivative ∈ request.derivatives, contentDigest P entry.data = derivative.artifactSha256)

theorem exportEntries_ok {request : ExportRequest P} {entries : List ExportEntry}
    (returned : service.exportEntries clock request = .ok entries) : Gathered service clock request entries := by
  obtain ⟨selected, first, returned⟩ := bind_eq_ok.mp returned
  obtain ⟨derived, second, returned⟩ := bind_eq_ok.mp returned
  cases returned
  constructor
  · intro selection member
    obtain ⟨part, among, result⟩ := result_of_item first (by simpa [inOrder, List.mem_insertionSort] using member)
    obtain ⟨item, found, selection⟩ := exportSelection_ok result
    refine ⟨item, part, ?_, found, selection⟩
    intro entry here
    exact List.mem_append_left _ (List.mem_flatten.mpr ⟨part, among, here⟩)
  · intro derivative member
    obtain ⟨entry, among, result⟩ :=
      result_of_item second (by simpa [derivativesInOrder, List.mem_insertionSort] using member)
    exact ⟨entry, List.mem_append_right _ among, (exportDerivative_ok result).2⟩
  · intro entry member
    cases List.mem_append.mp member with
    | inl here =>
        obtain ⟨part, among, here⟩ := List.mem_flatten.mp here
        obtain ⟨selection, asked, result⟩ := item_of_result first among
        obtain ⟨item, found, selected⟩ := exportSelection_ok result
        refine ⟨selected.described entry here, Or.inl ⟨selection, ?_, item, part, here, found, selected⟩⟩
        simpa [inOrder, List.mem_insertionSort] using asked
    | inr here =>
        obtain ⟨derivative, asked, result⟩ := item_of_result second here
        obtain ⟨described, content⟩ := exportDerivative_ok result
        refine ⟨described, Or.inr ⟨derivative, ?_, content⟩⟩
        simpa [derivativesInOrder, List.mem_insertionSort] using asked

/-- Under distinct paths no payload replaces another. -/
theorem mem_sortedPayloads {entries : List ExportEntry} (distinct : (entries.map (fun entry => entry.member.path)).Nodup)
    {path : String} {data : List UInt8} :
    (path, data) ∈ sortedPayloads entries ↔ ∃ entry ∈ entries, entry.member.path = path ∧ entry.data = data := by
  simp only [sortedPayloads, payloads, List.mem_insertionSort, List.mem_map, Prod.mk.injEq]
  constructor
  · rintro ⟨⟨key, entry⟩, among, rfl, rfl⟩
    obtain ⟨member, named⟩ := (Dict.get?_ofList_of_nodup distinct).mp (Dict.get?_eq_some_iff.mpr among)
    exact ⟨entry, member, named, rfl⟩
  · rintro ⟨entry, member, named, rfl⟩
    refine ⟨(path, entry), ?_, rfl, rfl⟩
    exact Dict.get?_eq_some_iff.mp ((Dict.get?_ofList_of_nodup distinct).mpr ⟨member, named⟩)

/-- The names of the payloads are distinct whatever the entries are. -/
theorem nodup_sortedPayloads (entries : List ExportEntry) : ((sortedPayloads entries).map Prod.fst).Nodup := by
  have perm : (sortedPayloads entries).Perm (payloads entries) := List.perm_insertionSort _ _
  rw [(perm.map Prod.fst).nodup_iff, payloads, List.map_map]
  exact (Dict.ofList (fun entry => entry.member.path) entries).nodup

/-- The digest of a manifest is that of its own document without the digest. -/
def Sealed (P : Platform) (manifest : EvidenceExportManifest) : Prop :=
  manifest.manifestPayloadSha256 = exportManifestPayloadSha256 P manifest.authorityWatermark
    ((manifest.dumpFields P).filter (fun field => field.1 ≠ "manifest_payload_sha256"))

/-- What a call of `create` that returns has written. -/
structure Created (service : EvidenceExportService P) (clock : ExportClock) (request : ExportRequest P) (written : Written)
    (entries : List ExportEntry) : Prop where
  gathered : Gathered service clock request entries
  members : written.manifest.members = entries.map ExportEntry.member
  archive : written.archive =
    ("manifest.json", P.canonicalJsonBytes (written.manifest.modelDump P)) :: sortedPayloads entries
  isSealed : Sealed P written.manifest

theorem create_ok {request : ExportRequest P} {written : Written} (created : service.create clock request = .ok written) :
    ∃ entries, Created service clock request written entries := by
  obtain ⟨incidentIds, _, created⟩ := bind_eq_ok.mp created
  obtain ⟨graphs, _, created⟩ := bind_eq_ok.mp created
  obtain ⟨entries, gathered, created⟩ := bind_eq_ok.mp created
  obtain ⟨_, _, created⟩ := bind_eq_ok.mp created
  obtain ⟨conformance, _, created⟩ := bind_eq_ok.mp created
  obtain ⟨watermark, _, created⟩ := bind_eq_ok.mp created
  obtain ⟨_, _, created⟩ := bind_eq_ok.mp created
  obtain ⟨manifest, valid, created⟩ := bind_eq_ok.mp created
  have fields := EvidenceExportManifest.validate_ok valid
  cases created
  refine ⟨entries, exportEntries_ok gathered, ?_, rfl, ?_⟩
  · rw [fields]
  · unfold Sealed
    rw [fields]
    rfl

/-- The entries of a written archive have distinct paths. -/
theorem Created.distinct {request : ExportRequest P} {written : Written} {entries : List ExportEntry}
    (created : Created service clock request written entries) : (entries.map (fun entry => entry.member.path)).Nodup := by
  have distinct := written.manifest.distinctPaths
  rwa [ManifestFields.paths, created.members, List.map_map] at distinct

end EvidenceExportService

end SentinelEdge.Exports
