import Mathlib.Data.List.Infix
import SentinelEdge.Exports.Leaks

/-! # What the leak scan sees

`scan` looks at the first four mebibytes of each payload, and `create` writes the
manifest after it. A member the scan let through is free of what the patterns look
for if nothing of that kind ends further in.
-/

namespace SentinelEdge.Exports

open Foundation Domain Storage Evidence Privacy Checks

/-- The bytes of a payload the scanner samples. -/
def sampleSize : Nat := 4 * 1024 * 1024

/-- No pattern accepts any part of the data. -/
def Clean (patterns : String → Matcher) (data : List UInt8) : Prop :=
  ∀ category ∈ leakCategories, ∀ part, part <:+: data → ¬ (patterns category).accepts part

/-- Whatever part of the data a pattern accepts, it ends within the sample. -/
def EndsEarly (patterns : String → Matcher) (data : List UInt8) : Prop :=
  ∀ category ∈ leakCategories, ∀ before part after, before ++ part ++ after = data → (patterns category).accepts part →
    (before ++ part).length ≤ sampleSize

variable {patterns : String → Matcher} {members : List (String × List UInt8)} {audience : ExportAudience}

theorem scan_nil_iff (shown : audience ≠ .internal) :
    scan patterns members audience = [] ↔ ∀ member ∈ members, Clean patterns (member.2.take sampleSize) := by
  unfold scan Clean
  simp only [if_neg shown, List.flatMap_eq_nil_iff, List.map_eq_nil_iff, (patterns _).finds]
  exact Iff.rfl

/-- Behind a scan that found nothing, the data is clean exactly if every accepted part
    ends early. -/
theorem clean_iff_endsEarly {data : List UInt8} (scanned : Clean patterns (data.take sampleSize)) :
    Clean patterns data ↔ EndsEarly patterns data := by
  constructor
  · intro clean category known before part after same accepted
    exact absurd accepted (clean category known part ⟨before, after, same⟩)
  · intro early category known part within accepted
    obtain ⟨before, after, same⟩ := within
    have ends := early category known before part after same accepted
    apply scanned category known part _ accepted
    refine ⟨before, after.take (sampleSize - (before ++ part).length), ?_⟩
    rw [← same, List.take_append, List.take_of_length_le ends]

namespace EvidenceExportService

variable {P : Platform} (service : EvidenceExportService P)

/-- The bytes a request puts under the declared members: the metadata of the selected
    items, their content where it is asked for, and the artifacts of the derivatives. -/
inductive Carries (request : ExportRequest P) : List UInt8 → Prop where
  | metadata {selection item} (asked : selection ∈ request.selections) (found : service.itemOf selection.evidenceId = some item) :
      Carries request (metadataPayload P item selection.classification selection.redactionProfile).1
  | content {selection item data} (asked : selection ∈ request.selections)
      (found : service.itemOf selection.evidenceId = some item) (included : selection.includeContent = true)
      (stored : service.artifacts.files.get? item.contentSha256 = some data) : Carries request data
  | derivative {derivative data} (asked : derivative ∈ request.derivatives)
      (stored : service.artifacts.files.get? derivative.artifactSha256 = some data) : Carries request data

variable {service} {clock : ExportClock} {request : ExportRequest P}

theorem artifactBytes_stored {digest : String} {data : List UInt8} (read : service.artifactBytes digest = .ok data) :
    service.artifacts.files.get? digest = some data := by
  unfold artifactBytes at read
  cases stored : service.artifacts.files.get? digest with
  | none => simp [stored] at read
  | some data' =>
      simp only [stored] at read
      split at read
      · cases read
      · cases read
        rfl

theorem contentEntry_stored {selection : EvidenceExportSelection} {item : EvidenceItem}
    {lifecycle : EvidenceLifecycleProjection} {entry : ExportEntry}
    (made : service.contentEntry selection item lifecycle = .ok entry) :
    service.artifacts.files.get? item.contentSha256 = some entry.data := by
  obtain ⟨_, _, made⟩ := bind_eq_ok.mp made
  obtain ⟨_, _, made⟩ := bind_eq_ok.mp made
  obtain ⟨data, read, made⟩ := bind_eq_ok.mp made
  rw [exportMember_data made]
  exact artifactBytes_stored read

/-- A turn of the first loop hands on the metadata of its item, and its content. -/
theorem exportSelection_data {selection : EvidenceExportSelection} {entries : List ExportEntry}
    (returned : service.exportSelection clock (Dict.ofList EvidenceItem.evidenceId service.store.allEvidence) selection =
      .ok entries) :
    ∃ item, service.itemOf selection.evidenceId = some item ∧ ∀ data, data ∈ entries.map ExportEntry.data ↔
      data = (metadataPayload P item selection.classification selection.redactionProfile).1 ∨
      (selection.includeContent = true ∧ service.artifacts.files.get? item.contentSha256 = some data) := by
  unfold exportSelection at returned
  cases found : (Dict.ofList EvidenceItem.evidenceId service.store.allEvidence).get? selection.evidenceId with
  | none =>
      rw [found] at returned
      cases returned
  | some item =>
      rw [found] at returned
      obtain ⟨_, _, returned⟩ := bind_eq_ok.mp returned
      obtain ⟨lifecycle, _, returned⟩ := bind_eq_ok.mp returned
      obtain ⟨_, _, returned⟩ := bind_eq_ok.mp returned
      obtain ⟨_, _, returned⟩ := bind_eq_ok.mp returned
      obtain ⟨_, _, returned⟩ := bind_eq_ok.mp returned
      obtain ⟨metadata, made, returned⟩ := bind_eq_ok.mp returned
      have document := (metadataEntry_ok made).2
      refine ⟨item, found, ?_⟩
      intro data
      cases included : selection.includeContent with
      | false =>
          simp only [included, Bool.false_eq_true, if_false, Except.ok.injEq] at returned
          subst returned
          simp [document, eq_comm]
      | true =>
          simp only [included, if_true] at returned
          obtain ⟨content, made, returned⟩ := bind_eq_ok.mp returned
          cases returned
          simp [document, contentEntry_stored made, eq_comm]

theorem exportDerivative_stored {evidenceById : Dict UUID EvidenceItem} {selectionById : Dict UUID EvidenceExportSelection}
    {derivative : DerivedArtifactSelection P} {entry : ExportEntry}
    (returned : service.exportDerivative clock evidenceById selectionById derivative = .ok entry) :
    service.artifacts.files.get? derivative.artifactSha256 = some entry.data := by
  obtain ⟨_, _, returned⟩ := bind_eq_ok.mp returned
  split at returned
  · obtain ⟨_, _, returned⟩ := bind_eq_ok.mp returned
    obtain ⟨_, _, returned⟩ := bind_eq_ok.mp returned
    obtain ⟨_, _, returned⟩ := bind_eq_ok.mp returned
    obtain ⟨data, read, made⟩ := bind_eq_ok.mp returned
    rw [exportMember_data made]
    exact artifactBytes_stored read
  · cases returned

/-- The entries hold exactly what the request carries. -/
theorem exportEntries_data {entries : List ExportEntry} (returned : service.exportEntries clock request = .ok entries)
    (data : List UInt8) : data ∈ entries.map ExportEntry.data ↔ service.Carries request data := by
  obtain ⟨selected, first, returned⟩ := bind_eq_ok.mp returned
  obtain ⟨derived, second, returned⟩ := bind_eq_ok.mp returned
  cases returned
  rw [List.map_append, List.mem_append]
  constructor
  · rintro (here | here)
    · obtain ⟨entry, among, rfl⟩ := List.mem_map.mp here
      obtain ⟨part, taken, among⟩ := List.mem_flatten.mp among
      obtain ⟨selection, asked, result⟩ := item_of_result first taken
      obtain ⟨item, found, bytes⟩ := exportSelection_data result
      have asked : selection ∈ request.selections := by simpa [inOrder, List.mem_insertionSort] using asked
      cases (bytes entry.data).mp (List.mem_map_of_mem among) with
      | inl document => exact document ▸ .metadata asked found
      | inr content => exact .content asked found content.1 content.2
    · obtain ⟨entry, among, rfl⟩ := List.mem_map.mp here
      obtain ⟨derivative, asked, result⟩ := item_of_result second among
      exact .derivative (by simpa [derivativesInOrder, List.mem_insertionSort] using asked) (exportDerivative_stored result)
  · intro carried
    have ofSelection {selection : EvidenceExportSelection} {item : EvidenceItem} (asked : selection ∈ request.selections)
        (found : service.itemOf selection.evidenceId = some item)
        (which : data = (metadataPayload P item selection.classification selection.redactionProfile).1 ∨
          (selection.includeContent = true ∧ service.artifacts.files.get? item.contentSha256 = some data)) :
        data ∈ selected.flatten.map ExportEntry.data := by
      obtain ⟨part, taken, result⟩ := result_of_item first (by simpa [inOrder, List.mem_insertionSort] using asked)
      obtain ⟨item', found', bytes⟩ := exportSelection_data result
      cases Option.some.inj (found.symm.trans found')
      obtain ⟨entry, among, rfl⟩ := List.mem_map.mp ((bytes data).mpr which)
      exact List.mem_map_of_mem (List.mem_flatten.mpr ⟨part, taken, among⟩)
    cases carried with
    | metadata asked found => exact Or.inl (ofSelection asked found (Or.inl rfl))
    | content asked found included stored => exact Or.inl (ofSelection asked found (Or.inr ⟨included, stored⟩))
    | derivative asked stored =>
        obtain ⟨entry, among, result⟩ :=
          result_of_item second (by simpa [derivativesInOrder, List.mem_insertionSort] using asked)
        cases Option.some.inj (stored.symm.trans (exportDerivative_stored result))
        exact Or.inr (List.mem_map_of_mem among)

/-- A call that returns has scanned the entries and found nothing. -/
theorem create_scanned {written : Written} (returned : service.create clock request = .ok written) :
    ∃ entries, Created service clock request written entries ∧
      (∀ data, data ∈ entries.map ExportEntry.data ↔ service.Carries request data) ∧
      scan service.patterns (payloads entries) request.audience = [] := by
  obtain ⟨incidentIds, _, returned⟩ := bind_eq_ok.mp returned
  obtain ⟨graphs, _, returned⟩ := bind_eq_ok.mp returned
  obtain ⟨entries, gathered, returned⟩ := bind_eq_ok.mp returned
  obtain ⟨_, scanned, returned⟩ := bind_eq_ok.mp returned
  obtain ⟨conformance, _, returned⟩ := bind_eq_ok.mp returned
  obtain ⟨watermark, _, returned⟩ := bind_eq_ok.mp returned
  obtain ⟨_, _, returned⟩ := bind_eq_ok.mp returned
  obtain ⟨manifest, valid, returned⟩ := bind_eq_ok.mp returned
  have fields := EvidenceExportManifest.validate_ok valid
  cases returned
  refine ⟨entries, ⟨exportEntries_ok gathered, ?_, rfl, ?_⟩, exportEntries_data gathered, ?_⟩
  · rw [fields]
  · unfold Sealed
    rw [fields]
    rfl
  · simpa using refuse_eq_ok.mp scanned

/-- For every public or Judge export that is created: its declared members are clean
    exactly if everything a pattern accepts in what the request carries ends within the
    sample, and the whole archive if the manifest is clean besides. -/
theorem leak_scan_is_complete_iff (P : Platform) (service : EvidenceExportService P) (clock : ExportClock)
    (request : ExportRequest P) (written : Written) (returned : service.create clock request = .ok written)
    (shown : request.audience ≠ .internal) :
    ((∀ member ∈ written.manifest.members, ∀ data, (member.path, data) ∈ written.archive → Clean service.patterns data) ↔
      ∀ data, service.Carries request data → EndsEarly service.patterns data) ∧
    ((∀ member ∈ written.archive, Clean service.patterns member.2) ↔
      (∀ data, service.Carries request data → EndsEarly service.patterns data) ∧
        Clean service.patterns (P.canonicalJsonBytes (written.manifest.modelDump P))) := by
  obtain ⟨entries, created, carried, scanned⟩ := create_scanned returned
  have sampled : ∀ data, service.Carries request data → Clean service.patterns (data.take sampleSize) := by
    intro data carries
    obtain ⟨entry, among, rfl⟩ := List.mem_map.mp ((carried data).mpr carries)
    obtain here := (mem_sortedPayloads created.distinct).mpr ⟨entry, among, rfl, rfl⟩
    exact (scan_nil_iff shown).mp scanned _ ((List.mem_insertionSort _).mp here)
  have payloadsClean : (∀ member ∈ sortedPayloads entries, Clean service.patterns member.2) ↔
      ∀ data, service.Carries request data → EndsEarly service.patterns data := by
    constructor
    · intro clean data carries
      obtain ⟨entry, among, rfl⟩ := List.mem_map.mp ((carried data).mpr carries)
      exact (clean_iff_endsEarly (sampled _ carries)).mp
        (clean _ ((mem_sortedPayloads created.distinct).mpr ⟨entry, among, rfl, rfl⟩))
    · intro early member here
      obtain ⟨entry, among, _, same⟩ := (mem_sortedPayloads created.distinct).mp here
      have carries := (carried member.2).mp (List.mem_map.mpr ⟨entry, among, same⟩)
      exact (clean_iff_endsEarly (sampled _ carries)).mpr (early _ carries)
  rw [created.archive]
  constructor
  · rw [← payloadsClean, created.members]
    constructor
    · intro clean member here
      obtain ⟨entry, among, named, _⟩ := (mem_sortedPayloads created.distinct).mp here
      exact clean entry.member (List.mem_map_of_mem among) member.2 (List.mem_cons_of_mem _ (named ▸ here))
    · intro clean member listed data here
      obtain ⟨entry, among, rfl⟩ := List.mem_map.mp listed
      cases List.mem_cons.mp here with
      | inl manifest => exact absurd (congrArg Prod.fst manifest) (created.gathered.only entry among).1.apart
      | inr payload => exact clean _ payload
  · rw [List.forall_mem_cons, payloadsClean]
    exact And.comm

/-- A call returns once its parts do, if the scan finds nothing and the journal is in
    order. -/
theorem create_returns {incidentIds : List UUID} {graphs : List String} {entries : List ExportEntry}
    {conformance : AuthorityReport} {watermark : AuthorityWatermark} (checked : service.checkRequest request = .ok incidentIds)
    (graphed : incidentIds.mapM (fun incidentId => graphDigest service.store incidentId (clock.graph incidentId)) = .ok graphs)
    (gathered : service.exportEntries clock request = .ok entries)
    (scanned : scan service.patterns (payloads entries) request.audience = [])
    (conforms : service.conformance = .ok conformance) (marked : AuthorityWatermark.fromConformance conformance = .ok watermark)
    (valid : watermark.valid = true) (distinct : (entries.map (fun entry => entry.member.path)).Nodup)
    (open' : ∀ entry ∈ entries, entry.member.classification ≠ .secretProhibited) :
    ∃ written, service.create clock request = .ok written := by
  have passes : ∀ f : ManifestFields, f.members = entries.map ExportEntry.member → f.authorityWatermarkRecord = watermark →
      watermark.epochId = f.authorityEpochId → watermark.highestContiguousPosition = f.authorityWatermark →
      ∃ manifest, EvidenceExportManifest.validate f = .ok manifest := by
    intro f members record epoch position
    have paths : f.paths.Nodup := by
      rw [ManifestFields.paths, members, List.map_map]
      exact distinct
    have classified : ∀ member ∈ f.members, member.classification ≠ .secretProhibited := by
      rw [members]
      intro member listed
      obtain ⟨entry, among, rfl⟩ := List.mem_map.mp listed
      exact open' entry among
    unfold EvidenceExportManifest.validate
    rw [dif_pos paths, dif_pos classified, dif_pos (record ▸ epoch), dif_pos (record ▸ position), dif_pos (record ▸ valid)]
    exact ⟨_, rfl⟩
  have finishes : ∀ {x : Except Error EvidenceExportManifest} {f : EvidenceExportManifest → Written},
      (∃ manifest, x = .ok manifest) → ∃ written, (x >>= fun manifest => .ok (f manifest)) = .ok written := by
    rintro _ f ⟨manifest, rfl⟩
    exact ⟨f manifest, rfl⟩
  unfold create
  simp only [checked, ok_bind, graphed, gathered, scanned, conforms, marked, valid, List.isEmpty_nil, Bool.not_true, refuse,
    Bool.false_eq_true, if_false]
  exact finishes (passes _ rfl rfl rfl rfl)

/-! ## A marker behind the sample -/

/-- A pattern for a fixed text. -/
def literal (text : List UInt8) : Matcher where
  accepts part := part = text
  finditer sample := if text <:+: sample then [text] else []
  finds sample := by
    constructor
    · intro none part within same
      simp [← same, within] at none
    · intro absent
      rw [if_neg (fun within => absent text within rfl)]

/-- `machine_id` -/
def marker : List UInt8 := [109, 97, 99, 104, 105, 110, 101, 95, 105, 100]

def markers (category : String) : Matcher := if category = "device_identifier" then literal marker else quiet

/-- A platform whose digest of raw bytes is their number, so that long artifacts can be
    put into an example. -/
def sized : Platform := { Platform.spelled with sha256Raw := fun raw => .int raw.length }

/-- A report. -/
def reportArchive : PrivacySystem sized :=
  PrivacySystem.run {} (ContentAddressedArtifactStore.create 10000000 1000) true
    [.evidence (.write ⟨.appendIncidentWithNotification ridgeFire none, rfl⟩),
      .evidence (.ingest {} (report 1 'a' "post-1") (UUID.ofNat 101) 1)]

def watchful : EvidenceExportService sized := ofSystem reportArchive markers unread

/-- The metadata of the report for the public. -/
def publicRequest : ExportRequest sized where
  selections := [⟨UUID.ofNat 1, .restricted, false, none⟩]
  audience := .publicAudience

theorem metadata_is_clean :
    ∃ written, watchful.create (ExportClock.still 10) publicRequest = .ok written ∧
      ((∀ member ∈ written.manifest.members, ∀ data, (member.path, data) ∈ written.archive → Clean watchful.patterns data) ↔
        ∀ data, watchful.Carries publicRequest data → EndsEarly watchful.patterns data) ∧
      ((∀ member ∈ written.archive, Clean watchful.patterns member.2) ↔
        (∀ data, watchful.Carries publicRequest data → EndsEarly watchful.patterns data) ∧
          Clean watchful.patterns
            (sized.canonicalJsonBytes (written.manifest.modelDump sized))) := by
  have returns : (watchful.create (ExportClock.still 10) publicRequest).isOk = true := by decide +kernel
  have shown : publicRequest.audience ≠ .internal := by decide
  obtain ⟨written, returned⟩ := ok_of_isOk returns
  exact ⟨written, returned, leak_scan_is_complete_iff sized watchful _ publicRequest written returned shown⟩

/-- Blanks as long as the sample, then the marker. -/
def padded : List UInt8 := List.replicate sampleSize 32 ++ marker

theorem padded_length : padded.length = sampleSize + 10 := by
  rw [padded, List.length_append, List.length_replicate]
  rfl

def paddedDigest : String := sized.hexdigest (.int (sampleSize + 10 : Nat))

theorem padded_digest : contentDigest sized padded = paddedDigest := by
  have digest : sized.sha256Raw padded = .int (padded.length : Nat) := rfl
  rw [contentDigest, digest, padded_length, paddedDigest]

/-- The report, and the padded artifact beside it. -/
def paddedService : EvidenceExportService sized :=
  { watchful with artifacts := { reportArchive.evidence.artifacts with files := Dict.empty.insert paddedDigest padded } }

def paddedDerivative : DerivedArtifactSelection sized where
  sourceEvidenceId := UUID.ofNat 1
  artifactSha256 := paddedDigest
  mediaType := "text/plain"
  classification := .restricted
  transformation := "extract-v1"
  digestValid := by decide +kernel

/-- The same with the artifact as its derivative. -/
def paddedRequest : ExportRequest sized := { publicRequest with derivatives := [paddedDerivative] }

theorem exportDerivative_returns {evidenceById : Dict UUID EvidenceItem} {selectionById : Dict UUID EvidenceExportSelection}
    {derivative : DerivedArtifactSelection P} {source : EvidenceExportSelection} {item : EvidenceItem}
    {lifecycle : EvidenceLifecycleProjection} {data : List UInt8} (classified : derivative.classification ≠ .secretProhibited)
    (selected : selectionById.get? derivative.sourceEvidenceId = some source)
    (found : evidenceById.get? derivative.sourceEvidenceId = some item)
    (projected : service.store.lifecycleProjection item.evidenceId (clock.source item.evidenceId) = .ok lifecycle)
    (live : lifecycle.state ∉ [.expired, .deleted, .missingExternal])
    (guarded : source.classification.order ≤ derivative.classification.order)
    (stored : service.artifacts.files.get? derivative.artifactSha256 = some data)
    (intact : contentDigest P data = derivative.artifactSha256)
    (safe : isSafePath ("derivatives/" ++ derivative.sourceEvidenceId.str ++ "/" ++ derivative.artifactSha256 ++ ".bin") = true) :
    ∃ entry, service.exportDerivative clock evidenceById selectionById derivative = .ok entry ∧ entry.data = data ∧
      entry.member.classification = derivative.classification ∧
      entry.member.path = "derivatives/" ++ derivative.sourceEvidenceId.str ++ "/" ++ derivative.artifactSha256 ++ ".bin" := by
  have read : service.artifactBytes derivative.artifactSha256 = .ok data := by simp [artifactBytes, stored, intact]
  simp only [List.mem_cons, List.not_mem_nil, or_false, not_or] at live
  unfold exportDerivative
  simp only [refuse, classified, decide_false, Bool.false_eq_true, if_false, ok_bind, selected, found, projected, live,
    Bool.or_self, not_lt.mpr guarded, read, exportMember, safe, dif_pos]
  exact ⟨_, rfl, rfl, rfl, rfl⟩

theorem padded_clean : Clean paddedService.patterns (padded.take sampleSize) := by
  have blanks : padded.take sampleSize = List.replicate sampleSize 32 := List.take_left' List.length_replicate
  rw [blanks]
  intro category _ part within accepted
  have accepts : (markers category).accepts part := accepted
  unfold markers at accepts
  split at accepts
  · have same : part = marker := accepts
    have letter : (109 : UInt8) ∈ List.replicate sampleSize 32 := within.subset (same ▸ List.mem_cons_self)
    exact absurd (List.eq_of_mem_replicate letter) (by decide)
  · exact accepts

/-- The turns of the first loop. -/
def paddedParts : Except Error (List (List ExportEntry)) :=
  (inOrder paddedRequest.selections).mapM (paddedService.exportSelection (ExportClock.still 10)
    (Dict.ofList EvidenceItem.evidenceId paddedService.store.allEvidence))

def metadataName : String := "evidence/" ++ (UUID.ofNat 1).str ++ "/metadata.json"

theorem paddedParts_scanned : paddedParts.toOption.map (fun parts =>
    (parts.flatten.map (fun entry => (entry.member.path, entry.member.classification)),
      scan paddedService.patterns (parts.flatten.map (fun entry => (entry.member.path, entry.data))) .publicAudience)) =
      some ([(metadataName, .restricted)], []) := by
  decide +kernel

/-- The metadata is the one entry of the first loop, and clean. -/
theorem paddedParts_metadata : ∃ parts metadata, paddedParts = .ok parts ∧ parts.flatten = [metadata] ∧
    metadata.member.path = metadataName ∧ metadata.member.classification = .restricted ∧
    Clean paddedService.patterns (metadata.data.take sampleSize) := by
  obtain ⟨parts, returned, found⟩ := Option.map_eq_some_iff.mp paddedParts_scanned
  obtain ⟨names, scanned⟩ := Prod.mk.inj found
  obtain ⟨metadata, single, named⟩ := List.map_eq_singleton_iff.mp names
  have shown : ExportAudience.publicAudience ≠ .internal := by decide
  rw [single] at scanned
  refine ⟨parts, metadata, toOption_eq_some.mp returned, single, congrArg Prod.fst named, congrArg Prod.snd named, ?_⟩
  exact (scan_nil_iff shown).mp scanned _ List.mem_cons_self

theorem padded_derivative : ∃ entry, paddedService.exportDerivative (ExportClock.still 10)
      (Dict.ofList EvidenceItem.evidenceId paddedService.store.allEvidence)
      (Dict.ofList EvidenceExportSelection.evidenceId paddedRequest.selections) paddedDerivative = .ok entry ∧
    entry.data = padded ∧ entry.member.classification = .restricted ∧
    entry.member.path = "derivatives/" ++ (UUID.ofNat 1).str ++ "/" ++ paddedDigest ++ ".bin" := by
  obtain ⟨item, found⟩ : ∃ item, (Dict.ofList EvidenceItem.evidenceId paddedService.store.allEvidence).get? (UUID.ofNat 1) =
      some item := Option.isSome_iff_exists.mp (by decide +kernel)
  have identity : ((Dict.ofList EvidenceItem.evidenceId paddedService.store.allEvidence).get? (UUID.ofNat 1)).map
      EvidenceItem.evidenceId = some (UUID.ofNat 1) := by decide +kernel
  rw [found] at identity
  have same : item.evidenceId = UUID.ofNat 1 := Option.some.inj identity
  have live : (paddedService.store.lifecycleProjection (UUID.ofNat 1) 10).toOption.map EvidenceLifecycleProjection.state =
      some .metadataOnly := by decide +kernel
  obtain ⟨lifecycle, projected, state⟩ := Option.map_eq_some_iff.mp live
  have selected : (Dict.ofList EvidenceExportSelection.evidenceId paddedRequest.selections).get? (UUID.ofNat 1) =
      some ⟨UUID.ofNat 1, .restricted, false, none⟩ := by decide +kernel
  have projectedItem : paddedService.store.lifecycleProjection item.evidenceId 10 = .ok lifecycle := by
    rw [same]
    exact toOption_eq_some.mp projected
  have readable : lifecycle.state ∉ [.expired, .deleted, .missingExternal] := by
    rw [state]
    decide
  exact exportDerivative_returns (by decide) selected found projectedItem readable (le_refl _) (Dict.get?_insert_self _ _ _)
    padded_digest (by decide +kernel)

/-- The entries of the request: the metadata, and the padded artifact behind it. -/
theorem padded_entries : ∃ entries, paddedService.exportEntries (ExportClock.still 10) paddedRequest = .ok entries ∧
    (entries.map (fun entry => entry.member.path)).Nodup ∧
    (∀ entry ∈ entries, entry.member.classification = .restricted) ∧
    ∀ entry ∈ entries, Clean paddedService.patterns (entry.data.take sampleSize) := by
  obtain ⟨parts, metadata, selected, single, named, restricted, clean⟩ := paddedParts_metadata
  obtain ⟨artifact, made, data, restricted', named'⟩ := padded_derivative
  refine ⟨[metadata, artifact], ?_, ?_, ?_, ?_⟩
  · have derived : (derivativesInOrder paddedRequest.derivatives).mapM (paddedService.exportDerivative (ExportClock.still 10)
        (Dict.ofList EvidenceItem.evidenceId paddedService.store.allEvidence)
        (Dict.ofList EvidenceExportSelection.evidenceId paddedRequest.selections)) = .ok [artifact] := by
      show List.mapM _ [paddedDerivative] = _
      rw [List.mapM_cons, made]
      rfl
    show (paddedParts >>= fun selected => (derivativesInOrder paddedRequest.derivatives).mapM _ >>= fun derived =>
      .ok (selected.flatten ++ derived)) = _
    rw [selected, ok_bind, derived, ok_bind, single]
    rfl
  · have apart : metadataName ≠ "derivatives/" ++ (UUID.ofNat 1).str ++ "/" ++ paddedDigest ++ ".bin" := by decide +kernel
    simp [named, named', apart]
  · intro entry member
    cases List.mem_pair.mp member with
    | inl first => exact first ▸ restricted
    | inr second => exact second ▸ restricted'
  · intro entry member
    cases List.mem_pair.mp member with
    | inl first => exact first ▸ clean
    | inr second =>
        rw [second, data]
        exact padded_clean

/-- Everything is checked, and the marker goes into the archive. -/
theorem marker_is_not_scanned :
    ∃ written, paddedService.create (ExportClock.still 10) paddedRequest = .ok written ∧
      paddedRequest.audience ≠ .internal ∧ ∃ member ∈ written.manifest.members, ∃ data,
        (member.path, data) ∈ written.archive ∧ ¬ Clean paddedService.patterns data := by
  obtain ⟨entries, gathered, distinct, restricted, sampled⟩ := padded_entries
  have shown : paddedRequest.audience ≠ .internal := by decide
  have requested : (paddedService.checkRequest paddedRequest >>= fun incidentIds =>
      incidentIds.mapM (fun incidentId => graphDigest paddedService.store incidentId 10)).isOk = true := by decide +kernel
  have conformant : (paddedService.conformance >>= fun report => AuthorityWatermark.fromConformance report >>= fun watermark =>
      .ok watermark.valid) = .ok true := by decide +kernel
  obtain ⟨graphs, requested⟩ := ok_of_isOk requested
  obtain ⟨incidentIds, checked, graphed⟩ := bind_eq_ok.mp requested
  obtain ⟨report, conforms, conformant⟩ := bind_eq_ok.mp conformant
  obtain ⟨watermark, marked, valid⟩ := bind_eq_ok.mp conformant
  have scanned : scan paddedService.patterns (payloads entries) paddedRequest.audience = [] := by
    apply (scan_nil_iff shown).mpr
    intro member listed
    obtain ⟨entry, here, _, same⟩ :=
      (mem_sortedPayloads distinct).mp ((List.mem_insertionSort _).mpr listed)
    exact same ▸ sampled entry here
  obtain ⟨written, returned⟩ := create_returns checked graphed gathered scanned conforms marked (Except.ok.inj valid) distinct
    (fun entry here => by rw [restricted entry here]; decide)
  obtain ⟨entries, created, carried, _⟩ := create_scanned returned
  have carries : paddedService.Carries paddedRequest padded :=
    .derivative (show paddedDerivative ∈ paddedRequest.derivatives from List.mem_cons_self) (Dict.get?_insert_self _ _ _)
  obtain ⟨entry, among, same⟩ := List.mem_map.mp ((carried padded).mpr carries)
  refine ⟨written, returned, shown, entry.member, ?_, padded, ?_, ?_⟩
  · rw [created.members]
    exact List.mem_map_of_mem among
  · rw [created.archive]
    exact List.mem_cons_of_mem _ ((mem_sortedPayloads created.distinct).mpr ⟨entry, among, rfl, same⟩)
  · intro clean
    exact clean "device_identifier" (by decide) marker ⟨List.replicate sampleSize 32, [], by simp [padded]⟩ rfl

end EvidenceExportService

end SentinelEdge.Exports
