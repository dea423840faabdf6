import SentinelEdge.Foundation.Checks
import SentinelEdge.Storage.Artifacts
import SentinelEdge.Storage.Writes

/-! # Export manifests

A manifest lists the members of an archive with their sizes and digests, and carries
the watermark of the authority journal and a digest over most of its own document.
The model classes check themselves: a member has a safe path, a watermark that is
not valid stands at zero, and the paths of a manifest are distinct.
-/

namespace SentinelEdge.Exports

open Foundation Domain Storage Checks

inductive ExportAudience where
  | internal | publicAudience | judge
  deriving DecidableEq, Repr

def ExportAudience.value : ExportAudience → String
  | .internal => "internal"
  | .publicAudience => "public"
  | .judge => "judge"

/-! ## Paths -/

/-- `PurePosixPath(value).is_absolute()` -/
def isAbsolute (value : String) : Bool := value.toList.head? = some '/'

/-- `PurePosixPath(value).parts`, without the root of an absolute path. -/
def pathParts (value : String) : List (List Char) :=
  (value.toList.splitOn '/').filter (fun part => !part.isEmpty && part ≠ ['.'])

/-- `path.is_absolute() or ".." in path.parts` -/
def leavesRoot (value : String) : Bool := isAbsolute value || (pathParts value).contains ['.', '.']

/-- `safe_path` lets the path through. -/
def isSafePath (value : String) : Bool :=
  !(leavesRoot value || isBlank value || value.toList.contains (Char.ofNat 92) ||
    (pathParts value).head?.any (fun part => part.length = 2 && part[1]? = some ':'))

/-! ## Members and watermarks -/

structure ExportMember where
  path : String
  bytes : Nat
  sha256 : String
  mediaType : String
  classification : ArtifactClassification
  sourceEvidenceId : UUID
  targetBinding : String
  transformation : String
  rightsDecision : String
  lifecycleState : EvidenceContentState
  redactions : List String
  safe : isSafePath path = true
  deriving DecidableEq

def ExportMember.modelDump (m : ExportMember) : Json := .obj [
  ("bytes", .int m.bytes),
  ("classification", .str m.classification.value),
  ("lifecycle_state", .str m.lifecycleState.value),
  ("media_type", .str m.mediaType),
  ("path", .str m.path),
  ("redactions", Dump.texts m.redactions),
  ("rights_decision", .str m.rightsDecision),
  ("sha256", .str m.sha256),
  ("source_evidence_id", Dump.uuid m.sourceEvidenceId),
  ("target_binding", .str m.targetBinding),
  ("transformation", .str m.transformation)]

@[ext]
structure AuthorityWatermark where
  schemaId : String := "sentinel-edge-authority-watermark/1.0"
  epochId : String
  highestContiguousPosition : Nat
  acceptedEventCount : Nat
  valid : Bool
  failures : List String
  named : isBlank epochId = false
  clean : valid = true → failures = []
  closed : valid = false → highestContiguousPosition = 0

namespace AuthorityWatermark

instance : DecidableEq AuthorityWatermark := fun _ _ => decidable_of_iff _ AuthorityWatermark.ext_iff.symm

def modelDump (w : AuthorityWatermark) : Json := .obj [
  ("accepted_event_count", .int w.acceptedEventCount),
  ("epoch_id", .str w.epochId),
  ("failures", Dump.texts w.failures),
  ("highest_contiguous_position", .int w.highestContiguousPosition),
  ("schema", .str w.schemaId),
  ("valid", .bool w.valid)]

/-- `from_conformance` -/
def fromConformance (conformance : AuthorityReport) : Except Error AuthorityWatermark :=
  if conformance.highestContiguousPosition < 0 then
    .error (.validationError "Input should be greater than or equal to 0")
  else if named : isBlank conformance.epochId = false then
    if clean : conformance.valid = true → conformance.failures = [] then
      if closed : conformance.valid = false → conformance.highestContiguousPosition.toNat = 0 then
        .ok {
          epochId := conformance.epochId
          highestContiguousPosition := conformance.highestContiguousPosition.toNat
          acceptedEventCount := conformance.eventCount
          valid := conformance.valid
          failures := conformance.failures
          named := named
          clean := clean
          closed := closed }
      else .error (.validationError "invalid authority watermark must fail closed at position zero")
    else .error (.validationError "valid authority watermark cannot carry failures")
  else .error (.validationError "authority watermark epoch_id must not be blank")

end AuthorityWatermark

/-! ## Manifests -/

def researchWarning : String := "Research monitoring and decision support; not an official warning service."

/-- The fields of a manifest. -/
structure ManifestFields where
  schema : String := "sentinel-edge-evidence-export/1.0"
  exportId : UUID
  createdAt : DateTime
  incidentIds : List UUID
  members : List ExportMember
  /-- A dictionary, listed in key order. -/
  sourceGraphSha256 : List (String × String)
  completeness : String := "closed_over_declared_members"
  secretValuesPersisted : Bool := false
  audience : ExportAudience := .internal
  researchWarning : String := Exports.researchWarning
  leakScanSha256 : Option String := none
  authorityEpochId : String := "unknown"
  authorityWatermark : Nat := 0
  authorityWatermarkRecord : AuthorityWatermark
  manifestPayloadSha256 : String

def ManifestFields.paths (f : ManifestFields) : List String := f.members.map ExportMember.path

/-- A manifest that passed `validate_manifest`. -/
structure EvidenceExportManifest extends ManifestFields where
  distinctPaths : toManifestFields.paths.Nodup
  noSecrets : ∀ member ∈ members, member.classification ≠ .secretProhibited
  epoch : authorityWatermarkRecord.epochId = authorityEpochId
  position : authorityWatermarkRecord.highestContiguousPosition = authorityWatermark
  authorityValid : authorityWatermarkRecord.valid = true

namespace EvidenceExportManifest

/-- `validate_manifest` -/
def validate (f : ManifestFields) : Except Error EvidenceExportManifest :=
  if distinctPaths : f.paths.Nodup then
    if noSecrets : ∀ member ∈ f.members, member.classification ≠ .secretProhibited then
      if epoch : f.authorityWatermarkRecord.epochId = f.authorityEpochId then
        if position : f.authorityWatermarkRecord.highestContiguousPosition = f.authorityWatermark then
          if authorityValid : f.authorityWatermarkRecord.valid = true then
            .ok { f with distinctPaths, noSecrets, epoch, position, authorityValid }
          else .error (.validationError "export requires a valid authority watermark")
        else .error (.validationError "authority watermark position mismatch")
      else .error (.validationError "authority watermark epoch mismatch")
    else .error (.validationError "secret-prohibited artifacts cannot be exported")
  else .error (.validationError "export member paths must be unique")

theorem validate_ok {f : ManifestFields} {manifest : EvidenceExportManifest} (valid : validate f = .ok manifest) :
    manifest.toManifestFields = f := by
  unfold validate at valid
  repeat' split at valid
  all_goals cases valid
  rfl

end EvidenceExportManifest

def ManifestFields.dumpFields (P : Platform) (m : ManifestFields) : List (String × Json) := [
  ("audience", .str m.audience.value),
  ("authority_epoch_id", .str m.authorityEpochId),
  ("authority_watermark", .int m.authorityWatermark),
  ("authority_watermark_record", m.authorityWatermarkRecord.modelDump),
  ("completeness", .str m.completeness),
  ("created_at", Dump.time P m.createdAt),
  ("export_id", Dump.uuid m.exportId),
  ("incident_ids", .arr (m.incidentIds.map Dump.uuid)),
  ("leak_scan_sha256", Json.optional .str m.leakScanSha256),
  ("manifest_payload_sha256", .str m.manifestPayloadSha256),
  ("members", .arr (m.members.map ExportMember.modelDump)),
  ("research_warning", .str m.researchWarning),
  ("schema", .str m.schema),
  ("secret_values_persisted", .bool m.secretValuesPersisted),
  ("source_graph_sha256", .obj (m.sourceGraphSha256.map (fun entry => (entry.1, .str entry.2))))]

def ManifestFields.modelDump (P : Platform) (m : ManifestFields) : Json := .obj (m.dumpFields P)

/-! ## The digest of a manifest document -/

/-- `payload.get(key, default)` -/
def getField (payload : List (String × Json)) (key : String) (default : Json) : Json :=
  ((payload.find? (fun field => field.1 = key)).map Prod.snd).getD default

/-- `bool(value)` -/
def truthy : Json → Bool
  | .null => false
  | .bool b => b
  | .int n => n ≠ 0
  | .float q => q ≠ 0
  | .str s => s ≠ ""
  | .arr items => !items.isEmpty
  | .obj fields => !fields.isEmpty

/-- `export_manifest_payload_sha256`, once `int` has read the watermark. -/
def exportManifestPayloadSha256 (P : Platform) (watermark : Int) (payload : List (String × Json)) : String :=
  P.hexdigest (P.sha256 (.obj [
    ("audience", getField payload "audience" (.str "internal")),
    ("authority_epoch_id", getField payload "authority_epoch_id" (.str "unknown")),
    ("authority_watermark", .int watermark),
    ("authority_watermark_record", getField payload "authority_watermark_record" .null),
    ("completeness", getField payload "completeness" (.str "closed_over_declared_members")),
    ("incident_ids", getField payload "incident_ids" (.arr [])),
    ("leak_scan_sha256", getField payload "leak_scan_sha256" .null),
    ("members", getField payload "members" (.arr [])),
    ("schema", getField payload "schema" (.str "sentinel-edge-evidence-export/1.0")),
    ("secret_values_persisted", .bool (truthy (getField payload "secret_values_persisted" (.bool false)))),
    ("source_graph_sha256", getField payload "source_graph_sha256" (.obj []))]))

/-! ## Reading a manifest back -/

/-- What `json.loads` and `model_validate` raise: `verify` catches a `ValueError`,
    also as `JSONDecodeError` or `ValidationError`, and nothing else. -/
inductive ReadError where
  | valueError (text : String)
  | typeError
  | overflowError
  | recursionError
  deriving DecidableEq, Repr

/-- The parts of reading that are not the program's own. -/
structure ManifestReader where
  /-- `json.loads`; texts without a place in `Json` raise what reading on would raise. -/
  loads : List UInt8 → Except ReadError Json
  /-- `int` of a text. -/
  int : String → Option Int
  /-- Validation of the fields of a dictionary, and of the classes in them. -/
  fields : List (String × Json) → Except String EvidenceExportManifest

namespace ManifestReader

variable (reader : ManifestReader)

/-- `int(value)` -/
def toInt : Json → Except ReadError Int
  | .int n => .ok n
  | .bool b => .ok (if b then 1 else 0)
  | .float q => .ok (q.num.tdiv q.den)
  | .str s => match reader.int s with
      | some n => .ok n
      | none => .error (.valueError "invalid literal for int() with base 10")
  | .null => .error .typeError
  | .arr _ => .error .typeError
  | .obj _ => .error .typeError

/-- `EvidenceExportManifest.model_validate`: `validate_payload_digest` goes first. -/
def modelValidate (P : Platform) : Json → Except ReadError EvidenceExportManifest
  | .obj document => do
      let payload := document.filter (fun field => field.1 ≠ "manifest_payload_sha256")
      let watermark ← reader.toInt (getField payload "authority_watermark" (.int 0))
      let expected := exportManifestPayloadSha256 P watermark payload
      refuse (getField document "manifest_payload_sha256" .null ≠ .str expected)
        (.valueError "export manifest payload digest mismatch")
      match reader.fields document with
      | .ok manifest => .ok manifest
      | .error text => .error (.valueError text)
  | _ => .error (.valueError "Input should be a valid dictionary or instance of EvidenceExportManifest")

/-- `EvidenceExportManifest.model_validate(json.loads(data))` -/
def read (P : Platform) (data : List UInt8) : Except ReadError EvidenceExportManifest := do
  let document ← reader.loads data
  reader.modelValidate P document

end ManifestReader

end SentinelEdge.Exports
