import SentinelEdge.Evidence.Trust
import SentinelEdge.Exports.Manifest
import SentinelEdge.Privacy.Runs

/-! # The export service

`create` works through the selected items of evidence and then through the
derivatives. An item is checked against its lifecycle, the disposition requests and
the artifact catalog; a derivative is a digest of its own, checked against the
lifecycle of the item it is said to come from. `verify` reads an archive back.
-/

namespace SentinelEdge.Exports

open Foundation Domain Storage Evidence Privacy Checks

/-! ## Leak scans -/

/-- A compiled pattern: the substrings it accepts, and the matches `finditer` finds. -/
structure Matcher where
  accepts : List UInt8 → Prop
  finditer : List UInt8 → List (List UInt8)
  finds : ∀ sample, finditer sample = [] ↔ ∀ part, part <:+: sample → ¬ accepts part

/-- A pattern that is nowhere found. -/
def quiet : Matcher where
  accepts _ := False
  finditer _ := []
  finds _ := by simp

structure LeakFinding where
  member : String
  category : String
  /-- The first bytes of the match, before they are decoded. -/
  token : List UInt8
  deriving DecidableEq, Repr

/-- The categories of `_patterns`. -/
def leakCategories : List String :=
  ["private_key", "bearer_token", "credential_assignment", "reporter_contact", "device_identifier", "mac_address",
    "restricted_coordinates", "raw_coordinate_field", "coordinate_precision", "nonredistributable_marker"]

/-- `ExportLeakScanner.scan` -/
def scan (patterns : String → Matcher) (members : List (String × List UInt8)) (audience : ExportAudience) :
    List LeakFinding :=
  if audience = .internal then []
  else members.flatMap (fun entry =>
    let sample := entry.2.take (4 * 1024 * 1024)
    leakCategories.flatMap (fun category =>
      ((patterns category).finditer sample).map (fun token => ⟨entry.1, category, token.take 96⟩)))

/-! ## Requests -/

structure EvidenceExportSelection where
  evidenceId : UUID
  classification : ArtifactClassification
  includeContent : Bool := false
  redactionProfile : Option String := none
  deriving DecidableEq

def EvidenceExportSelection.modelDump (s : EvidenceExportSelection) : Json := .obj [
  ("classification", .str s.classification.value),
  ("evidence_id", Dump.uuid s.evidenceId),
  ("include_content", .bool s.includeContent),
  ("redaction_profile", Json.optional .str s.redactionProfile)]

structure DerivedArtifactSelection (P : Platform) where
  sourceEvidenceId : UUID
  artifactSha256 : String
  mediaType : String
  classification : ArtifactClassification
  transformation : String
  redactions : List String := []
  digestValid : P.isSha256 artifactSha256 = true
  deriving DecidableEq

variable {P : Platform}

def DerivedArtifactSelection.modelDump (d : DerivedArtifactSelection P) : Json := .obj [
  ("artifact_sha256", .str d.artifactSha256),
  ("classification", .str d.classification.value),
  ("media_type", .str d.mediaType),
  ("redactions", Dump.texts d.redactions),
  ("source_evidence_id", Dump.uuid d.sourceEvidenceId),
  ("transformation", .str d.transformation)]

/-- The arguments of `create`. -/
structure ExportRequest (P : Platform) where
  selections : List EvidenceExportSelection
  derivatives : List (DerivedArtifactSelection P) := []
  createdAt : Option DateTime := none
  audience : ExportAudience := .internal

/-- The clock during one call: the first reading, and those of each graph and item. -/
structure ExportClock where
  start : DateTime
  graph : UUID → DateTime
  item : UUID → DateTime
  source : UUID → DateTime
  onward : ∀ evidenceId, start ≤ item evidenceId

/-- A clock that stands still. -/
def ExportClock.still (now : DateTime) : ExportClock where
  start := now
  graph _ := now
  item _ := now
  source _ := now
  onward _ := le_refl now

/-- The collaborators of the service as they stand at one call. -/
structure EvidenceExportService (P : Platform) where
  store : Store P
  artifacts : ContentAddressedArtifactStore P
  disposition : Option (DispositionStore P)
  /-- What the supplier of the authority watermark answers, if there is one. -/
  authority : Option (Except Error AuthorityReport)
  patterns : String → Matcher
  reader : ManifestReader

/-- The service of an engine. -/
def EvidenceExportService.ofSystem (sys : PrivacySystem P) (patterns : String → Matcher) (reader : ManifestReader) :
    EvidenceExportService P where
  store := sys.evidence.store
  artifacts := sys.evidence.artifacts
  disposition := some sys.disposition
  authority := some (authorityConformance sys.evidence.store)
  patterns := patterns
  reader := reader

/-- A member with the bytes that go under its path. -/
structure ExportEntry where
  member : ExportMember
  data : List UInt8
  deriving DecidableEq

/-- The constructor of `ExportMember`. -/
def exportMember (path sha256 mediaType : String) (data : List UInt8) (classification : ArtifactClassification)
    (sourceEvidenceId : UUID) (targetBinding transformation rightsDecision : String) (lifecycleState : EvidenceContentState)
    (redactions : List String) : Except Error ExportEntry :=
  if safe : isSafePath path = true then
    .ok ⟨{
      path := path
      bytes := data.length
      sha256 := sha256
      mediaType := mediaType
      classification := classification
      sourceEvidenceId := sourceEvidenceId
      targetBinding := targetBinding
      transformation := transformation
      rightsDecision := rightsDecision
      lifecycleState := lifecycleState
      redactions := redactions
      safe := safe }, data⟩
  else .error (.validationError "export member path must be a safe relative path")

/-- The rights mode of a validated item, which derives one where none was given. -/
def rightsModeOf (item : EvidenceItem) : EvidenceRightsMode :=
  item.rightsMode.getD (match item.retentionState with
    | .retained => .retainBytes
    | .metadataOnly => .derivedOnly
    | .rejected => .referenceOnly)

/-- `payload[key] = value` for a key that is there. -/
def setField (key : String) (value : Json) : Json → Json
  | .obj fields => .obj (fields.map (fun field => if field.1 = key then (key, value) else field))
  | other => other

/-- `f"…-sha256:{sha256_bytes(str(value).encode())[:16]}"` -/
def pseudonym (P : Platform) (kind value : String) : Json :=
  .str (kind ++ "-sha256:" ++ String.ofList ((P.sha256Text value).toList.take 16))

/-- `_metadata_payload` -/
def metadataPayload (P : Platform) (item : EvidenceItem) (classification : ArtifactClassification)
    (redactionProfile : Option String) : List UInt8 × List String :=
  let restricted := classification = .restricted
  let payload := item.modelDump P
  let payload := if restricted then
      setField "origin_key" (pseudonym P "origin" item.originKey)
        (setField "source_id" (pseudonym P "source" item.sourceId) (setField "claim_text" (.str "[REDACTED]") payload))
    else payload
  let redactions := (if restricted then ["claim_text", "source_id", "origin_key"] else []) ++
    (match redactionProfile with
      | some profile => if profile = "" then [] else ["profile:" ++ profile]
      | none => [])
  (P.canonicalJsonBytes payload, sortedSet redactions)

namespace EvidenceExportService

variable (service : EvidenceExportService P)

/-- `_artifact_bytes` -/
def artifactBytes (digest : String) : Except Error (List UInt8) :=
  match service.artifacts.files.get? digest with
  | none => .error (.fileNotFoundError ("artifact not found for digest " ++ digest))
  | some data =>
      if contentDigest P data ≠ digest then .error (.runtimeError "artifact digest mismatch during export")
      else .ok data

/-- `self.disposition is not None and self.disposition.is_restricted(evidence_id)` -/
def isRestricted (evidenceId : UUID) : Bool := service.disposition.any (fun d => d.isRestricted evidenceId)

/-- The policy of a digest, nothing for one the catalog does not know. -/
def effectivePolicy (digest : String) : Except Error (Option ArtifactPolicy) :=
  match service.artifacts.catalog.effectivePolicy digest with
  | .error (.keyError _) => .ok none
  | .error e => .error e
  | .ok policy => .ok (some policy)

/-- The checks of a selected item against the policy of its content. -/
def checkPolicy (selection : EvidenceExportSelection) : Option ArtifactPolicy → Except Error Unit
  | none => .ok ()
  | some policy => do
      refuse (policy.exportPolicy = .prohibited && selection.includeContent)
        (.permissionError "artifact policy prohibits content export")
      refuse (selection.classification.order < policy.classification.order)
        (.permissionError "export classification cannot be less restrictive than artifact catalog policy")

def metadataEntry (selection : EvidenceExportSelection) (item : EvidenceItem) (lifecycle : EvidenceLifecycleProjection) :
    Except Error ExportEntry :=
  let metadata := metadataPayload P item selection.classification selection.redactionProfile
  exportMember ("evidence/" ++ item.evidenceId.str ++ "/metadata.json") (contentDigest P metadata.1) "application/json"
    metadata.1 selection.classification item.evidenceId ("evidence:" ++ item.evidenceId.str) "canonical_metadata_export_v1"
    ((rightsModeOf item).value ++ ":" ++ lifecycle.state.value) lifecycle.state metadata.2

def contentEntry (selection : EvidenceExportSelection) (item : EvidenceItem) (lifecycle : EvidenceLifecycleProjection) :
    Except Error ExportEntry := do
  refuse (!lifecycle.readable || !lifecycle.rightsActive)
    (.permissionError ("evidence content is not exportable in state " ++ lifecycle.state.value))
  refuse (item.retentionState ≠ .retained || rightsModeOf item ≠ .retainBytes)
    (.permissionError "evidence content retention policy does not permit byte export")
  let data ← service.artifactBytes item.contentSha256
  exportMember ("evidence/" ++ item.evidenceId.str ++ "/content.bin") item.contentSha256 "application/octet-stream" data
    selection.classification item.evidenceId ("artifact-sha256:" ++ item.contentSha256) "identity_content_export"
    "retain_bytes_rights_active" lifecycle.state []

/-- One turn of the loop over the selections. -/
def exportSelection (clock : ExportClock) (evidenceById : Dict UUID EvidenceItem) (selection : EvidenceExportSelection) :
    Except Error (List ExportEntry) := do
  match evidenceById.get? selection.evidenceId with
  | none => .error (.keyError selection.evidenceId.str)
  | some item => do
      refuse (service.isRestricted item.evidenceId)
        (.permissionError "evidence is restricted by an active disposition request")
      let lifecycle ← service.store.lifecycleProjection item.evidenceId (clock.item item.evidenceId)
      refuse (selection.includeContent && (!lifecycle.readable || !lifecycle.rightsActive))
        (.permissionError ("evidence content is not exportable in state " ++ lifecycle.state.value))
      let policy ← service.effectivePolicy item.contentSha256
      checkPolicy selection policy
      let metadata ← metadataEntry (P := P) selection item lifecycle
      if selection.includeContent then do
        let content ← service.contentEntry selection item lifecycle
        .ok [metadata, content]
      else .ok [metadata]

/-- One turn of the loop over the derivatives. -/
def exportDerivative (clock : ExportClock) (evidenceById : Dict UUID EvidenceItem)
    (selectionById : Dict UUID EvidenceExportSelection) (derivative : DerivedArtifactSelection P) : Except Error ExportEntry := do
  refuse (derivative.classification = .secretProhibited) (.valueError "secret-prohibited derivatives cannot be exported")
  match selectionById.get? derivative.sourceEvidenceId, evidenceById.get? derivative.sourceEvidenceId with
  | some source, some item => do
      let lifecycle ← service.store.lifecycleProjection item.evidenceId (clock.source item.evidenceId)
      refuse (lifecycle.state = .expired || lifecycle.state = .deleted || lifecycle.state = .missingExternal)
        (.permissionError "derivative cannot bypass source lifecycle restriction")
      refuse (derivative.classification.order < source.classification.order)
        (.permissionError "derivative classification cannot be less restrictive than its source")
      let data ← service.artifactBytes derivative.artifactSha256
      exportMember ("derivatives/" ++ derivative.sourceEvidenceId.str ++ "/" ++ derivative.artifactSha256 ++ ".bin")
        derivative.artifactSha256 derivative.mediaType data derivative.classification derivative.sourceEvidenceId
        ("artifact-sha256:" ++ derivative.artifactSha256) derivative.transformation
        ("inherits:" ++ (rightsModeOf item).value ++ ":" ++ lifecycle.state.value) lifecycle.state derivative.redactions
  | _, _ => .error (.valueError "derivative source evidence must be selected")

/-- `sorted(selections, key=lambda item: str(item.evidence_id))` -/
def inOrder (selections : List EvidenceExportSelection) : List EvidenceExportSelection :=
  selections.insertionSort (fun a b => a.evidenceId.str ≤ b.evidenceId.str)

/-- `sorted(derivatives, key=lambda item: (str(item.source_evidence_id), item.artifact_sha256))` -/
def derivativesInOrder (derivatives : List (DerivedArtifactSelection P)) : List (DerivedArtifactSelection P) :=
  derivatives.insertionSort (fun a b => a.sourceEvidenceId.str < b.sourceEvidenceId.str ∨
    (a.sourceEvidenceId.str = b.sourceEvidenceId.str ∧ a.artifactSha256 ≤ b.artifactSha256))

/-- `members`, each beside its payload. -/
def exportEntries (clock : ExportClock) (request : ExportRequest P) : Except Error (List ExportEntry) := do
  let evidenceById := Dict.ofList EvidenceItem.evidenceId service.store.allEvidence
  let selectionById := Dict.ofList EvidenceExportSelection.evidenceId request.selections
  let selected ← (inOrder request.selections).mapM (service.exportSelection clock evidenceById)
  let derived ← (derivativesInOrder request.derivatives).mapM (service.exportDerivative clock evidenceById selectionById)
  .ok (selected.flatten ++ derived)

/-- `payloads.items()` -/
def payloads (entries : List ExportEntry) : List (String × List UInt8) :=
  (Dict.ofList (fun entry => entry.member.path) entries).items.map (fun item => (item.1, item.2.data))

/-- `sorted(payloads.items())` -/
def sortedPayloads (entries : List ExportEntry) : List (String × List UInt8) :=
  (payloads entries).insertionSort (fun a b => a.1 ≤ b.1)

/-- The checks before anything is read, with the incidents of the selected items. -/
def checkRequest (request : ExportRequest P) : Except Error (List UUID) := do
  refuse request.selections.isEmpty (.valueError "export requires at least one evidence selection")
  let evidenceById := Dict.ofList EvidenceItem.evidenceId service.store.allEvidence
  let selectionById := Dict.ofList EvidenceExportSelection.evidenceId request.selections
  refuse (selectionById.items.length ≠ request.selections.length) (.valueError "duplicate evidence selection")
  let missing := selectionById.keys.filter (fun evidenceId => (evidenceById.get? evidenceId).isNone)
  refuse (!missing.isEmpty) (.keyError ("unknown evidence selections: [" ++
    String.intercalate ", " ((missing.map UUID.str).insertionSort (fun a b => a ≤ b) |>.map (fun text => "'" ++ text ++ "'")) ++
    "]"))
  refuse (request.selections.any (fun selection => selection.classification = .secretProhibited))
    (.valueError "secret-prohibited artifacts cannot be finalized or exported")
  let items := request.selections.filterMap (fun selection => evidenceById.get? selection.evidenceId)
  .ok ((items.map EvidenceItem.incidentId).dedup.insertionSort (fun a b => a.str ≤ b.str))

/-- `authority_watermark_supplier()`, or the answer of a service without one. -/
def conformance : Except Error AuthorityReport :=
  service.authority.getD (.ok ⟨false, "unknown", 0, 0, ["authority_supplier_missing"]⟩)

/-- The name the id of an export is made from. -/
def exportSeed (request : ExportRequest P) (createdAt : DateTime) (graphDigests : List (String × String)) : Json := .obj [
  ("created_at", Dump.time P createdAt),
  ("derivatives", .arr (request.derivatives.map DerivedArtifactSelection.modelDump)),
  ("graphs", .obj (graphDigests.map (fun graph => (graph.1, .str graph.2)))),
  ("selections", .arr (request.selections.map EvidenceExportSelection.modelDump))]

/-- The document `leak_scan_sha256` is the digest of. -/
def scanDocument (audience : ExportAudience) (paths : List String) : Json := .obj [
  ("audience", .str audience.value),
  ("findings", .arr []),
  ("members", Dump.texts paths),
  ("research_warning", .str researchWarning)]

/-- The dictionary `base`. -/
def base (P : Platform) (f : ManifestFields) : List (String × Json) := [
  ("audience", .str f.audience.value),
  ("authority_epoch_id", .str f.authorityWatermarkRecord.epochId),
  ("authority_watermark", .int f.authorityWatermarkRecord.highestContiguousPosition),
  ("authority_watermark_record", f.authorityWatermarkRecord.modelDump),
  ("completeness", .str "closed_over_declared_members"),
  ("created_at", Dump.time P f.createdAt),
  ("export_id", Dump.uuid f.exportId),
  ("incident_ids", .arr (f.incidentIds.map Dump.uuid)),
  ("leak_scan_sha256", Json.optional .str f.leakScanSha256),
  ("members", .arr (f.members.map ExportMember.modelDump)),
  ("schema", .str "sentinel-edge-evidence-export/1.0"),
  ("secret_values_persisted", .bool false),
  ("source_graph_sha256", .obj (f.sourceGraphSha256.map (fun entry => (entry.1, .str entry.2))))]

/-- What a call leaves behind: the manifest it returns and the archive it wrote. -/
structure Written where
  manifest : EvidenceExportManifest
  archive : List (String × List UInt8)

def create (clock : ExportClock) (request : ExportRequest P) : Except Error Written := do
  let incidentIds ← service.checkRequest request
  let createdAt := request.createdAt.getD clock.start
  let graphs ← incidentIds.mapM (fun incidentId => graphDigest service.store incidentId (clock.graph incidentId))
  let graphDigests := (incidentIds.map UUID.str).zip graphs
  let exportId := P.uuid5 ("sentinel-export:" ++ P.hexdigest (P.sha256 (exportSeed request createdAt graphDigests)))
  let entries ← service.exportEntries clock request
  let findings := scan service.patterns (payloads entries) request.audience
  refuse (!findings.isEmpty) (.permissionError ("export leak scan rejected bundle: " ++
    String.intercalate "," ((findings.take 8).map (fun finding => finding.category ++ ":" ++ finding.member))))
  let conformance ← service.conformance
  let watermark ← AuthorityWatermark.fromConformance conformance
  refuse (!watermark.valid) (.runtimeError "authority journal is not conformant for export")
  let fields : ManifestFields := {
    exportId := exportId
    createdAt := createdAt
    incidentIds := incidentIds
    members := entries.map ExportEntry.member
    sourceGraphSha256 := graphDigests
    audience := request.audience
    leakScanSha256 := some (P.hexdigest (P.sha256 (scanDocument request.audience ((sortedPayloads entries).map Prod.fst))))
    authorityEpochId := watermark.epochId
    authorityWatermark := watermark.highestContiguousPosition
    authorityWatermarkRecord := watermark
    manifestPayloadSha256 := "" }
  -- the digest is compared with itself when the manifest is validated
  let digest := exportManifestPayloadSha256 P watermark.highestContiguousPosition (base P fields)
  let manifest ← EvidenceExportManifest.validate { fields with manifestPayloadSha256 := digest }
  .ok ⟨manifest, ("manifest.json", P.canonicalJsonBytes (manifest.modelDump P)) :: sortedPayloads entries⟩

/-- A reader that is never asked. -/
def unread : ManifestReader where
  loads _ := .error (.valueError "Expecting value")
  int _ := none
  fields _ := .error "Field required"

/-! ## Verification -/

/-- `archive.read(name)`: the last member of that name. -/
def readMember (archive : List (String × List UInt8)) (name : String) : Option (List UInt8) :=
  ((archive.filter (fun entry => entry.1 = name)).getLast?).map Prod.snd

/-- The errors of one declared member. -/
def memberErrors (P : Platform) (archive : List (String × List UInt8)) (member : ExportMember) : List String :=
  match readMember archive member.path with
  | none => ["member_missing:" ++ member.path]
  | some data =>
      (if data.length ≠ member.bytes then ["member_size_mismatch:" ++ member.path] else []) ++
      (if contentDigest P data ≠ member.sha256 then ["member_digest_mismatch:" ++ member.path] else []) ++
      (if member.classification = .secretProhibited then ["secret_prohibited_member:" ++ member.path] else [])

/-- The errors of an archive under its manifest, in the order they are found. -/
def archiveErrors (P : Platform) (archive : List (String × List UInt8)) (manifest : EvidenceExportManifest) : List String :=
  let names := archive.map Prod.fst
  (if names.Nodup then [] else ["duplicate_member"]) ++
  (names.filter leavesRoot).map (fun name => "unsafe_member:" ++ name) ++
  (if (∀ name ∈ names, name ∈ "manifest.json" :: manifest.paths) ∧ ∀ name ∈ "manifest.json" :: manifest.paths, name ∈ names
    then [] else ["member_closure_failed"]) ++
  manifest.members.flatMap (memberErrors P archive)

structure Verification where
  valid : Bool
  errors : List String
  /-- The source also repeats its id. -/
  manifest : Option EvidenceExportManifest := none

def verify (archive : List (String × List UInt8)) : Except ReadError Verification :=
  match readMember archive "manifest.json" with
  | none => .ok { valid := false, errors := ["manifest_missing"] }
  | some data => match service.reader.read P data with
      | .error (.valueError text) => .ok { valid := false, errors := ["manifest_invalid:" ++ text] }
      | .error e => .error e
      | .ok manifest =>
          let errors := archiveErrors P archive manifest
          .ok { valid := errors.isEmpty, errors := errors.insertionSort (fun a b => a ≤ b), manifest := some manifest }

end EvidenceExportService

end SentinelEdge.Exports
