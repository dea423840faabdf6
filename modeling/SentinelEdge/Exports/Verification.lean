import SentinelEdge.Exports.Entries

/-! # Verified archives

An archive that verifies is the one its manifest declares, and an archive that was
written verifies. Changing any other member than the manifest breaks this, which the
verification reports, unless the member that takes the place of the manifest makes
reading it fail in a way `verify` does not expect.
-/

namespace SentinelEdge.Exports

open Foundation Domain Storage Evidence Privacy Checks

variable {P : Platform}

/-- Named members with their bytes, in the order of the file. -/
abbrev Archive := List (String × List UInt8)

/-- Some other member than the manifest is replaced, added, removed or renamed. -/
inductive Tampered : Archive → Archive → Prop where
  | replaced {before after : Archive} {name : String} {data other : List UInt8} (apart : name ≠ "manifest.json")
      (changed : other ≠ data) : Tampered (before ++ (name, data) :: after) (before ++ (name, other) :: after)
  | added {before after : Archive} {name : String} {data : List UInt8} (apart : name ≠ "manifest.json") :
      Tampered (before ++ after) (before ++ (name, data) :: after)
  | removed {before after : Archive} {name : String} {data : List UInt8} (apart : name ≠ "manifest.json") :
      Tampered (before ++ (name, data) :: after) (before ++ after)
  | renamed {before after : Archive} {name other : String} {data : List UInt8} (apart : name ≠ "manifest.json")
      (changed : other ≠ name) : Tampered (before ++ (name, data) :: after) (before ++ (other, data) :: after)

/-- The members are the manifest and what it declares, each once and with its bytes. -/
structure Exact (P : Platform) (archive : Archive) (manifest : EvidenceExportManifest) : Prop where
  distinct : (archive.map Prod.fst).Nodup
  closed : ∀ name, name ∈ archive.map Prod.fst ↔ name ∈ "manifest.json" :: manifest.paths
  described : ∀ member ∈ manifest.members, ∀ data, (member.path, data) ∈ archive →
    data.length = member.bytes ∧ contentDigest P data = member.sha256

namespace ManifestReader

/-- What was written for the manifest is read back: the JSON text and the fields. -/
structure Reads (reader : ManifestReader) (P : Platform) (manifest : EvidenceExportManifest) : Prop where
  document : reader.loads (P.canonicalJsonBytes (manifest.modelDump P)) = .ok (manifest.modelDump P)
  fields : reader.fields (manifest.dumpFields P) = .ok manifest

/-- `int(value)` raises a `TypeError`. -/
def isNumberless : Json → Bool
  | .null => true
  | .arr _ => true
  | .obj _ => true
  | .bool _ => false
  | .int _ => false
  | .float _ => false
  | .str _ => false

/-- Reading the text raises something else than a `ValueError`: the JSON reader does,
    or the watermark of the document is not what `int` takes. -/
def Unreadable (reader : ManifestReader) (data : List UInt8) : Prop :=
  (∃ e, reader.loads data = .error e ∧ ∀ text, e ≠ .valueError text) ∨
  ∃ document, reader.loads data = .ok (.obj document) ∧
    isNumberless (getField document "authority_watermark" (.int 0)) = true

variable {reader : ManifestReader}

theorem getField_filter {document : List (String × Json)} {key other : String} {default : Json} (different : key ≠ other) :
    getField (document.filter (fun field => field.1 ≠ other)) key default = getField document key default := by
  unfold getField
  rw [List.find?_filter]
  congr 3
  funext field
  by_cases here : field.1 = key
  · simp [here, different]
  · simp [here]

theorem toInt_error {value : Json} {e : ReadError} (raised : reader.toInt value = .error e) :
    (∃ text, e = .valueError text) ∨ (isNumberless value = true ∧ ∀ text, e ≠ .valueError text) := by
  cases value with
  | null | arr _ | obj _ =>
      cases raised
      exact Or.inr ⟨rfl, fun _ other => by cases other⟩
  | bool _ | int _ | float _ => cases raised
  | str s =>
      simp only [toInt] at raised
      split at raised
      · cases raised
      · cases raised
        exact Or.inl ⟨_, rfl⟩

theorem toInt_numberless {value : Json} (numberless : isNumberless value = true) :
    reader.toInt value = .error .typeError := by
  cases value with
  | null | arr _ | obj _ => rfl
  | bool _ | int _ | float _ | str _ => cases numberless

/-- Validation raises something else than a `ValueError` only where `int` does. -/
theorem modelValidate_raises_iff {document : List (String × Json)} :
    (∃ e, reader.modelValidate P (.obj document) = .error e ∧ ∀ text, e ≠ .valueError text) ↔
      isNumberless (getField document "authority_watermark" (.int 0)) = true := by
  have sameField : getField (document.filter (fun field => field.1 ≠ "manifest_payload_sha256")) "authority_watermark"
      (.int 0) = getField document "authority_watermark" (.int 0) := getField_filter (by decide)
  constructor
  · rintro ⟨e, raised, other⟩
    rcases bind_eq_error.mp raised with number | ⟨number, _, raised⟩
    · rw [sameField] at number
      rcases toInt_error number with ⟨text, same⟩ | ⟨numberless, _⟩
      · exact absurd same (other text)
      · exact numberless
    · rcases bind_eq_error.mp raised with digest | ⟨_, _, raised⟩
      · exact absurd (refuse_eq_error.mp digest).2.symm (other _)
      · split at raised
        · cases raised
        · cases raised
          exact absurd rfl (other _)
  · intro numberless
    refine ⟨.typeError, bind_eq_error.mpr (Or.inl ?_), fun _ same => by cases same⟩
    rw [sameField, toInt_numberless numberless]

/-- Reading raises something else than a `ValueError` exactly on unreadable bytes. -/
theorem read_raises_iff {data : List UInt8} :
    (∃ e, reader.read P data = .error e ∧ ∀ text, e ≠ .valueError text) ↔ reader.Unreadable data := by
  unfold read Unreadable
  constructor
  · rintro ⟨e, raised, other⟩
    rcases bind_eq_error.mp raised with loading | ⟨document, loaded, raised⟩
    · exact Or.inl ⟨e, loading, other⟩
    · cases document with
      | obj document => exact Or.inr ⟨document, loaded, modelValidate_raises_iff.mp ⟨e, raised, other⟩⟩
      | null | bool _ | int _ | float _ | str _ | arr _ =>
          cases raised
          exact absurd rfl (other _)
  · rintro (⟨e, loading, other⟩ | ⟨document, loaded, numberless⟩)
    · exact ⟨e, bind_eq_error.mpr (Or.inl loading), other⟩
    · obtain ⟨e, raised, other⟩ := modelValidate_raises_iff.mpr numberless
      exact ⟨e, bind_eq_error.mpr (Or.inr ⟨_, loaded, raised⟩), other⟩

/-- The document of a sealed manifest is read back. -/
theorem Reads.read {manifest : EvidenceExportManifest} (reads : reader.Reads P manifest)
    (isSealed : EvidenceExportService.Sealed P manifest) :
    reader.read P (P.canonicalJsonBytes (manifest.modelDump P)) = .ok manifest := by
  refine bind_eq_ok.mpr ⟨_, reads.document, ?_⟩
  refine bind_eq_ok.mpr ⟨(manifest.authorityWatermark : Int), rfl, ?_⟩
  refine bind_eq_ok.mpr ⟨(), refuse_eq_ok.mpr ?_, ?_⟩
  · rw [decide_eq_false_iff_not, not_not]
    exact congrArg Json.str isSealed
  · rw [reads.fields]

end ManifestReader

namespace EvidenceExportService

variable {service : EvidenceExportService P} {archive archive' : Archive} {manifest : EvidenceExportManifest}

/-! ## Archives without errors -/

theorem readMember_eq_some {name : String} {data : List UInt8} (distinct : (archive.map Prod.fst).Nodup) :
    readMember archive name = some data ↔ (name, data) ∈ archive := by
  have looked := @Dict.get?_ofList_of_nodup _ _ _ Prod.fst archive distinct name
  rw [Dict.get?_ofList] at looked
  rw [readMember, Option.map_eq_some_iff]
  constructor
  · rintro ⟨⟨_, _⟩, last, rfl⟩
    obtain ⟨member, rfl⟩ := looked.mp last
    exact member
  · intro member
    exact ⟨(name, data), looked.mpr ⟨member, rfl⟩, rfl⟩

theorem readMember_eq_none {name : String} : readMember archive name = none ↔ name ∉ archive.map Prod.fst := by
  rw [readMember, Option.map_eq_none_iff, List.getLast?_eq_none_iff, List.filter_eq_nil_iff, List.mem_map, not_exists]
  constructor
  · rintro other entry ⟨member, rfl⟩
    exact other entry member (by simp)
  · intro unnamed entry member
    rw [decide_eq_true_eq]
    exact fun named => unnamed entry ⟨member, named⟩

theorem memberErrors_nil {member : ExportMember} {data : List UInt8} (read : readMember archive member.path = some data)
    (permitted : member.classification ≠ .secretProhibited) : memberErrors P archive member = [] ↔
      data.length = member.bytes ∧ contentDigest P data = member.sha256 := by
  simp [memberErrors, read, permitted]

/-- The errors are about names that leave the root, or the archive is exact. -/
theorem archiveErrors_nil : archiveErrors P archive manifest = [] ↔
    (∀ name ∈ archive.map Prod.fst, leavesRoot name = false) ∧ Exact P archive manifest := by
  simp only [archiveErrors, List.append_eq_nil_iff, ite_eq_left_iff, List.cons_ne_self, imp_false, not_not,
    List.map_eq_nil_iff, List.filter_eq_nil_iff, List.flatMap_eq_nil_iff, Bool.not_eq_true]
  constructor
  · rintro ⟨⟨⟨distinct, inside⟩, within, whole⟩, clean⟩
    refine ⟨inside, distinct, fun name => ⟨within name, whole name⟩, ?_⟩
    intro member declared data here
    exact (memberErrors_nil ((readMember_eq_some distinct).mpr here) (manifest.noSecrets member declared)).mp
      (clean member declared)
  · rintro ⟨inside, precise⟩
    refine ⟨⟨⟨precise.distinct, inside⟩, fun name => (precise.closed name).mp, fun name => (precise.closed name).mpr⟩, ?_⟩
    intro member declared
    cases read : readMember archive member.path with
    | none =>
        refine absurd ((precise.closed member.path).mpr ?_) (readMember_eq_none.mp read)
        exact List.mem_cons_of_mem _ (List.mem_map_of_mem declared)
    | some data =>
        refine (memberErrors_nil read (manifest.noSecrets member declared)).mpr ?_
        exact precise.described member declared data ((readMember_eq_some precise.distinct).mp read)

/-! ## Tampering -/

/-- A changed archive is not the one its manifest declares. -/
theorem Tampered.errors (collisionFree : Function.Injective (contentDigest P)) (tampered : Tampered archive archive')
    (precise : Exact P archive manifest) {manifest' : EvidenceExportManifest}
    (same : readMember archive' "manifest.json" = readMember archive "manifest.json" → manifest' = manifest) :
    ¬ Exact P archive' manifest' := by
  intro precise'
  have distinct := precise.distinct
  have distinct' := precise'.distinct
  cases tampered with
  | @replaced before after name data other apart changed =>
      obtain rfl : manifest' = manifest := same (by simp [readMember, List.filter_append, apart])
      have declared : name ∈ "manifest.json" :: manifest'.paths := (precise.closed name).mp (by simp)
      obtain ⟨member, among, rfl⟩ := List.mem_map.mp (List.mem_of_ne_of_mem apart declared)
      have content := (precise.described member among data (by simp)).2
      have content' := (precise'.described member among other (by simp)).2
      exact changed (collisionFree (content'.trans content.symm))
  | @added before after name data apart =>
      obtain rfl : manifest' = manifest := same (by simp [readMember, List.filter_append, apart])
      have there : name ∈ (before ++ after).map Prod.fst :=
        (precise.closed name).mpr ((precise'.closed name).mp (by simp))
      rw [List.map_append, List.map_cons, List.nodup_middle, ← List.map_append] at distinct'
      exact (List.nodup_cons.mp distinct').1 there
  | @removed before after name data apart =>
      obtain rfl : manifest' = manifest := same (by simp [readMember, List.filter_append, apart])
      have there : name ∈ (before ++ after).map Prod.fst :=
        (precise'.closed name).mpr ((precise.closed name).mp (by simp))
      rw [List.map_append, List.map_cons, List.nodup_middle, ← List.map_append] at distinct
      exact (List.nodup_cons.mp distinct).1 there
  | @renamed before after name other data apart changed =>
      have there : other ∈ (before ++ (name, data) :: after).map Prod.fst := by
        by_cases taken : other = "manifest.json"
        · exact (precise.closed other).mpr (by simp [taken])
        · obtain rfl : manifest' = manifest := same (by simp [readMember, List.filter_append, apart, taken])
          exact (precise.closed other).mpr ((precise'.closed other).mp (by simp))
      have beside : other ∈ (before ++ after).map Prod.fst := by simpa [changed] using there
      rw [List.map_append, List.map_cons, List.nodup_middle, ← List.map_append] at distinct'
      exact (List.nodup_cons.mp distinct').1 beside

/-! ## What verification reports -/

/-- The archive is reported to be valid. -/
def Accepts (service : EvidenceExportService P) (archive : Archive) : Prop :=
  ∃ report, service.verify archive = .ok report ∧ report.valid = true

/-- The archive is reported to be invalid. -/
def Rejects (service : EvidenceExportService P) (archive : Archive) : Prop :=
  ∃ report, service.verify archive = .ok report ∧ report.valid = false

theorem accepts_iff : service.Accepts archive ↔ ∃ data manifest, readMember archive "manifest.json" = some data ∧
    service.reader.read P data = .ok manifest ∧ archiveErrors P archive manifest = [] := by
  unfold Accepts verify
  cases found : readMember archive "manifest.json" with
  | none => simp
  | some data =>
      cases read : service.reader.read P data with
      | error e => cases e <;> simp [read]
      | ok manifest => simp [read]

/-- An archive with errors under every manifest is rejected, unless its manifest is
    unreadable. -/
theorem rejects_iff (errors : ∀ data manifest, readMember archive "manifest.json" = some data →
    service.reader.read P data = .ok manifest → archiveErrors P archive manifest ≠ []) :
    service.Rejects archive ↔
      ¬ ∃ data, readMember archive "manifest.json" = some data ∧ service.reader.Unreadable data := by
  unfold Rejects verify
  cases found : readMember archive "manifest.json" with
  | none => simp
  | some data =>
      simp only [Option.some.injEq, exists_eq_left', ← ManifestReader.read_raises_iff (P := P)]
      cases read : service.reader.read P data with
      | error e => cases e <;> simp
      | ok manifest => simp [errors data manifest found read]

section

variable {clock : ExportClock} {request : ExportRequest P} {written : Written} {entries : List ExportEntry}

theorem Created.paths (created : Created service clock request written entries) :
    written.manifest.paths = entries.map (fun entry => entry.member.path) := by
  rw [ManifestFields.paths, created.members, List.map_map]
  rfl

/-- The payloads have the names the manifest lists. -/
theorem Created.named (created : Created service clock request written entries) (name : String) :
    name ∈ (sortedPayloads entries).map Prod.fst ↔ name ∈ written.manifest.paths := by
  rw [created.paths]
  constructor
  · intro there
    obtain ⟨⟨_, data⟩, member, rfl⟩ := List.mem_map.mp there
    obtain ⟨entry, among, rfl, _⟩ := (mem_sortedPayloads created.distinct).mp member
    exact List.mem_map_of_mem among
  · intro there
    obtain ⟨entry, among, rfl⟩ := List.mem_map.mp there
    exact List.mem_map.mpr ⟨_, (mem_sortedPayloads created.distinct).mpr ⟨entry, among, rfl, rfl⟩, rfl⟩

theorem Created.apart (created : Created service clock request written entries) :
    "manifest.json" ∉ (sortedPayloads entries).map Prod.fst := by
  rw [created.named, created.paths]
  intro there
  obtain ⟨entry, among, path⟩ := List.mem_map.mp there
  exact (created.gathered.only entry among).1.apart path

/-- What was written verifies. -/
theorem Created.accepts (created : Created service clock request written entries)
    (reads : service.reader.Reads P written.manifest) : service.Accepts written.archive := by
  have distinct : (written.archive.map Prod.fst).Nodup := by
    rw [created.archive, List.map_cons, List.nodup_cons]
    exact ⟨created.apart, nodup_sortedPayloads entries⟩
  refine accepts_iff.mpr ⟨_, written.manifest, (readMember_eq_some distinct).mpr ?_, reads.read created.isSealed, ?_⟩
  · rw [created.archive]
    exact List.mem_cons_self
  · refine archiveErrors_nil.mpr ⟨?_, distinct, ?_, ?_⟩
    · intro name there
      rw [created.archive, List.map_cons, List.mem_cons, created.named, created.paths] at there
      rcases there with rfl | there
      · show leavesRoot "manifest.json" = false
        decide
      · obtain ⟨entry, among, rfl⟩ := List.mem_map.mp there
        have safe := entry.member.safe
        simp only [isSafePath, Bool.not_eq_true', Bool.or_eq_false_iff] at safe
        exact safe.1.1.1
    · intro name
      rw [created.archive, List.map_cons, List.mem_cons, created.named, List.mem_cons]
    · intro member declared data here
      rw [created.archive, List.mem_cons] at here
      rw [created.members] at declared
      obtain ⟨entry, among, rfl⟩ := List.mem_map.mp declared
      have described := (created.gathered.only entry among).1
      rcases here with manifest | here
      · exact absurd (congrArg Prod.fst manifest) described.apart
      · obtain ⟨other, among', path, rfl⟩ := (mem_sortedPayloads created.distinct).mp here
        obtain rfl : other = entry := List.inj_on_of_nodup_map created.distinct among' among path
        exact ⟨described.size, described.digest⟩

end

/-- The character a digest spells a byte with. -/
def byteChar : Json → Char
  | .int n => Char.ofNat n.toNat
  | _ => ' '

/-- A platform whose content digests spell the bytes out, so that none collide. -/
def spelled : Platform :=
  { Platform.mixing with
    hexdigest := fun digest => match digest with
      | .arr items => String.ofList (items.map byteChar)
      | other => other.text }

theorem spelled_injective : Function.Injective (contentDigest spelled) := by
  have bytes : ∀ n : Fin 256, (byteChar (.int n.val)).toNat = n.val := by decide +kernel
  intro data other same
  have chars : data.map (fun b => byteChar (.int b.toNat)) = other.map (fun b => byteChar (.int b.toNat)) := by
    have texts := String.ofList_injective same
    rwa [List.map_map, List.map_map] at texts
  refine List.map_injective_iff.mpr ?_ chars
  intro a b char
  have codes := congrArg Char.toNat char
  have left := bytes ⟨a.toNat, a.toNat_lt⟩
  have right := bytes ⟨b.toNat, b.toNat_lt⟩
  exact UInt8.toNat_inj.mp (left.symm.trans (codes.trans right))

/-- The content of a report: a document whose watermark is null. -/
def scrap : List UInt8 := "\x7b\"authority_watermark\":null\x7d".toByteArray.data.toList

/-- The report is taken in after its content. -/
def scrapRidge : EvidenceSystem spelled :=
  EvidenceSystem.run (ContentAddressedArtifactStore.create 1000000 1000) true [
    .write ⟨.appendIncidentWithNotification ridgeFire none, rfl⟩,
    .artifacts (do
      let _ ← ContentAddressedArtifactStore.putBytes scrap "application/json" false (ArtifactPolicy.incidentEvidence true) {} 0),
    .ingest {} { report 1 'a' "post-1" with
      contentSha256 := contentDigest spelled scrap
      retentionState := .retained
      rightsBasis := some "licence"
      rightsMode := some .retainBytes } (UUID.ofNat 101) 1]

/-- The service beside the report. -/
def scrapWriter : EvidenceExportService spelled where
  store := scrapRidge.store
  artifacts := scrapRidge.artifacts
  disposition := none
  authority := some (authorityConformance scrapRidge.store)
  patterns := fun _ => quiet
  reader := unread

/-- The same service with a reader. -/
def scrapService (reader : ManifestReader) : EvidenceExportService spelled := { scrapWriter with reader := reader }

def scrapRequest : ExportRequest spelled where
  selections := [⟨UUID.ofNat 1, .restricted, true, none⟩]

/-- A reader that knows the document of one manifest, and the content of the report. -/
def scrapReader (manifest : EvidenceExportManifest) : ManifestReader where
  loads data :=
    if data = scrap then .ok (.obj [("authority_watermark", .null)])
    else if data = spelled.canonicalJsonBytes (manifest.modelDump spelled) then .ok (manifest.modelDump spelled)
    else .error (.valueError "Expecting value")
  int _ := none
  fields document := if document = manifest.dumpFields spelled then .ok manifest else .error "Field required"

theorem text_obj (key : String) (value : Json) (fields : List (String × Json)) :
    ∃ rest, (Json.obj ((key, value) :: fields)).text.toList = "\x7b\"".toList ++ key.toList ++ rest := by
  cases fields with
  | nil | cons _ _ =>
      simp only [Json.text, Json.textFields, Json.quoted, String.toList_append, List.append_assoc]
      exact ⟨_, rfl⟩

/-- The document of a manifest begins in another way. -/
theorem scrap_ne (manifest : EvidenceExportManifest) : spelled.canonicalJsonBytes (manifest.modelDump spelled) ≠ scrap := by
  intro same
  obtain ⟨rest, text⟩ := text_obj "audience" (.str manifest.audience.value) (manifest.dumpFields spelled).tail
  have bytes : spelled.canonicalJsonBytes (manifest.modelDump spelled) =
      ("\x7b\"".toList ++ "audience".toList).map (fun c => UInt8.ofNat c.toNat) ++ rest.map (fun c => UInt8.ofNat c.toNat) := by
    rw [← List.map_append, ← text]
    rfl
  have first : ("\x7b\"".toList ++ "audience".toList).map (fun c => UInt8.ofNat c.toNat) =
      [123, 34, 97, 117, 100, 105, 101, 110, 99, 101] := by decide
  have other : scrap.take 5 = [123, 34, 97, 117, 116] := by decide
  rw [← same, bytes, first] at other
  exact absurd other (by simp)

theorem scrapReader_reads (manifest : EvidenceExportManifest) : (scrapReader manifest).Reads spelled manifest where
  document := (if_neg (scrap_ne manifest)).trans (if_pos rfl)
  fields := if_pos rfl

/-- `create` does not read anything back. -/
theorem create_reader (service : EvidenceExportService P) (reader : ManifestReader) :
    ({ service with reader := reader }).create = service.create := rfl

theorem scrap_created : ∃ written, ∀ reader,
    (scrapService reader).create (ExportClock.still 10) scrapRequest = .ok written := by
  have returns : (scrapWriter.create (ExportClock.still 10) scrapRequest).isOk = true := by decide +kernel
  cases returned : scrapWriter.create (ExportClock.still 10) scrapRequest with
  | error e =>
      rw [returned] at returns
      cases returns
  | ok written =>
      refine ⟨written, fun reader => ?_⟩
      rw [scrapService, create_reader]
      exact returned

/-- The archive holds the content of the report. -/
theorem scrap_inside {reader : ManifestReader} {written : Written} {entries : List ExportEntry}
    (created : Created (scrapService reader) (ExportClock.still 10) scrapRequest written entries) :
    ∃ entry ∈ entries, entry.data = scrap := by
  have digest : ((Dict.ofList EvidenceItem.evidenceId scrapWriter.store.allEvidence).get? (UUID.ofNat 1)).map
      EvidenceItem.contentSha256 = some (contentDigest spelled scrap) := by decide +kernel
  obtain ⟨item, part, within, found, selected⟩ := created.gathered.selected ⟨UUID.ofNat 1, .restricted, true, none⟩
    (by simp [scrapRequest])
  obtain ⟨_, entry, member, content⟩ := selected.content rfl
  simp only [scrapService] at found
  rw [found] at digest
  exact ⟨entry, within member, spelled_injective (content.trans (Option.some.inj digest))⟩

end EvidenceExportService

end SentinelEdge.Exports
