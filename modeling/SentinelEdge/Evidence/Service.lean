import Mathlib.Algebra.Ring.Nat
import Mathlib.Data.List.Dedup
import SentinelEdge.Foundation.Dict
import SentinelEdge.Foundation.Run
import SentinelEdge.Storage.Writes

/-! # The evidence trust service

`ingest` puts an item into the family of the first stored item it matches, in the
order in which the store lists them, or into a family named after the item itself.
Families are never merged afterwards. `families` reads the grouping back.
-/

namespace SentinelEdge.Evidence

open Foundation Domain Storage

/-- The collaborators of the service as they answer at one call. -/
structure EvidenceTrustService where
  /-- `disposition.processing_allowed(…)["allowed"]` of a subject and a basis. -/
  disposition : Option (String → String → Except Error Bool) := none
  /-- Registering the content of an item in the artifact catalog. -/
  artifacts : Option (EvidenceItem → Except Error Unit) := none

structure EvidenceFamilySummary where
  familyId : String
  incidentId : UUID
  evidenceIds : List UUID
  originKeys : List String
  independenceUnits : Nat
  exactDuplicates : Nat
  nearDuplicates : Nat
  independentOrigins : Nat
  deriving DecidableEq, Repr

variable {P : Platform}

/-- A text that is given and not empty. -/
def isGiven (text : Option String) : Bool := text.any (fun value => value ≠ "")

/-- The conditions of the loop in `ingest`: same content, same perceptual hash, same
    origin, or one is the parent of the other. -/
def matchesDirectly (P : Platform) (prior item : EvidenceItem) : Bool :=
  prior.contentSha256 = item.contentSha256 ||
    (isGiven prior.perceptualHash && isGiven item.perceptualHash && prior.perceptualHash = item.perceptualHash) ||
    P.lower (strip prior.originKey) = P.lower (strip item.originKey) ||
    (item.parentEvidenceId = some prior.evidenceId || prior.parentEvidenceId = some item.evidenceId)

/-- `_family_seed` -/
def familySeed (P : Platform) (item : EvidenceItem) : String :=
  match item.parentEvidenceId with
  | some parent => "parent:" ++ parent.str
  | none =>
      if isGiven item.perceptualHash then "phash:" ++ item.perceptualHash.getD ""
      else if item.originKey ≠ "" then "origin:" ++ P.lower (strip item.originKey)
      else "sha256:" ++ item.contentSha256

/-- The family of an item that matches nothing. -/
def seedFamily (P : Platform) (item : EvidenceItem) : String :=
  (P.uuid5 ("sentinel-evidence-family:" ++ item.incidentId.str ++ ":" ++ familySeed P item)).str

/-- The family `ingest` assigns: that of the first match, unless it has none. -/
def familyFor (P : Platform) (existing : List EvidenceItem) (item : EvidenceItem) : String :=
  ((existing.find? (fun prior => matchesDirectly P prior item)).bind EvidenceItem.familyId).getD (seedFamily P item)

namespace EvidenceTrustService

/-- Whether the consent service lets the item through. -/
def processingAllowed (service : EvidenceTrustService) (item : EvidenceItem) : Except Error Bool :=
  match service.disposition, item.subjectRef with
  | some allowed, some subject => allowed subject item.processingBasis
  | _, _ => .ok true

/-- The incident of the item is current and has its hazard. -/
def targetsIncident (s : Store P) (item : EvidenceItem) : Bool :=
  (s.latestByHazard.find? (fun record => record.incidentId = item.incidentId)).any
    (fun record => record.hazard = item.hazard)

def registerArtifact (service : EvidenceTrustService) (item : EvidenceItem) : Except Error Unit :=
  match service.artifacts with
  | some register => register item
  | none => .ok ()

def ingest (service : EvidenceTrustService) (item : EvidenceItem) (lifecycleEventId : UUID) :
    StoreCall P EvidenceItem := do
  let allowed ← Call.lift (service.processingAllowed item)
  if !allowed then Call.raise (.valueError "future processing blocked by consent withdrawal")
  else do
    let current ← Call.read (fun s => targetsIncident s item)
    if !current then Call.raise (.valueError "evidence must target an existing incident with the same hazard")
    else do
      let existing ← Call.read (fun s => s.evidence item.incidentId)
      let assigned := { item with familyId := some (familyFor P existing item) }
      Call.lift (service.registerArtifact assigned)
      recordEvidence assigned lifecycleEventId

end EvidenceTrustService

/-! ## Families -/

/-- `sum(max(0, count - 1) for count in Counter(keys).values())` -/
def duplicates (keys : List String) : Nat := (keys.dedup.map (fun key => keys.count key - 1)).sum

/-- `grouped.setdefault(item.family_id, []).append(item)` over the items. -/
def groupByFamily : List EvidenceItem → Dict String (List EvidenceItem) → Except Error (Dict String (List EvidenceItem))
  | [], grouped => .ok grouped
  | item :: items, grouped => match item.familyId with
      | none => .error .assertionError
      | some family => groupByFamily items (grouped.insert family ((grouped.get? family).getD [] ++ [item]))

def summarize (incidentId : UUID) (family : String) (items : List EvidenceItem) : EvidenceFamilySummary where
  familyId := family
  incidentId := incidentId
  evidenceIds := items.map EvidenceItem.evidenceId
  originKeys := sortedSet (items.map EvidenceItem.originKey)
  independenceUnits := 1 + items.countP EvidenceItem.independentOriginProven
  exactDuplicates := duplicates (items.map EvidenceItem.contentSha256)
  nearDuplicates := duplicates ((items.filterMap EvidenceItem.perceptualHash).filter (fun hash => hash ≠ ""))
  independentOrigins := items.countP EvidenceItem.independentOriginProven

def families (s : Store P) (incidentId : UUID) : Except Error (List EvidenceFamilySummary) :=
  match groupByFamily (s.evidence incidentId) Dict.empty with
  | .error e => .error e
  | .ok grouped => .ok ((grouped.items.insertionSort (fun a b => a.1 ≤ b.1)).map
      (fun entry => summarize incidentId entry.1 entry.2))

/-! ## Runs -/

/-- The service takes in an item, or something else is written: anything but
    `evidence_items`, which only `ingest` writes to. -/
inductive Operation (P : Platform) where
  | ingest (service : EvidenceTrustService) (item : EvidenceItem) (lifecycleEventId : UUID)
  | elsewhere (store : Store P)

def step (s : Store P) : Operation P → Store P
  | .ingest service item lifecycleEventId => (service.ingest item lifecycleEventId s).2
  | .elsewhere store => { store with evidenceItems := s.evidenceItems }

def run (ops : List (Operation P)) : Store P := Foundation.run step Store.empty ops

end SentinelEdge.Evidence
