import SentinelEdge.Foundation.Checks
import SentinelEdge.Incidents.Projection
import SentinelEdge.Incidents.Receipts

/-! # Signed projections of the incident engine

`ProjectionService.snapshot` lists the current incidents beside the commands that
caused them. Status commands and reviews write the target of a receipt in two
ways; the projection reads one of them.
-/

namespace SentinelEdge.Projections

open Foundation Domain Storage Incidents

variable {P : Platform}

/-- `Field(ge=0)` -/
def nonNegative (value : Int) : Except Error Unit :=
  Checks.refuse (value < 0) (.validationError "Input should be greater than or equal to 0")

/-! ## The authority watermark -/

structure AuthorityWatermark where
  schemaId : String := "sentinel-edge-authority-watermark/1.0"
  epochId : String
  highestContiguousPosition : Int
  acceptedEventCount : Nat
  valid : Bool
  failures : List String
  deriving DecidableEq

/-- `AuthorityWatermark.from_conformance` with its validators -/
def AuthorityWatermark.ofConformance (conformance : AuthorityReport) : Except Error AuthorityWatermark := do
  nonNegative conformance.highestContiguousPosition
  Checks.refuse (isBlank conformance.epochId) (.validationError "authority watermark epoch_id must not be blank")
  Checks.refuse (conformance.valid && !conformance.failures.isEmpty)
    (.validationError "valid authority watermark cannot carry failures")
  Checks.refuse (!conformance.valid && conformance.highestContiguousPosition ≠ 0)
    (.validationError "invalid authority watermark must fail closed at position zero")
  pure {
    epochId := conformance.epochId
    highestContiguousPosition := conformance.highestContiguousPosition
    acceptedEventCount := conformance.eventCount
    valid := conformance.valid
    failures := conformance.failures }

def AuthorityWatermark.modelDump (w : AuthorityWatermark) : Json := .obj [
  ("accepted_event_count", .int w.acceptedEventCount),
  ("epoch_id", .str w.epochId),
  ("failures", Dump.texts w.failures),
  ("highest_contiguous_position", .int w.highestContiguousPosition),
  ("schema", .str w.schemaId),
  ("valid", .bool w.valid)]

/-- `authority_watermark` -/
def authorityWatermark (e : Engine P) : Except Error AuthorityWatermark := do
  AuthorityWatermark.ofConformance (← authorityConformance e.store)

/-! ## Cursors and projections -/

structure ProjectionCursor where
  streamEpoch : UUID
  authorityPosition : Int
  projectionVersion : Nat
  scopeSha256 : String := "unbound"
  deriving DecidableEq

def ProjectionCursor.eventId (c : ProjectionCursor) : String :=
  c.streamEpoch.str ++ ":" ++ toString c.authorityPosition ++ ":" ++ toString c.projectionVersion ++ ":" ++ c.scopeSha256

def ProjectionCursor.modelDump (c : ProjectionCursor) : Json := .obj [
  ("authority_position", .int c.authorityPosition),
  ("projection_version", .int c.projectionVersion),
  ("scope_sha256", .str c.scopeSha256),
  ("stream_epoch", Dump.uuid c.streamEpoch)]

/-- What the digest of a projection covers. -/
structure ProjectionFields where
  schemaId : String := "sentinel-edge-incident-projection/1.0"
  cursor : ProjectionCursor
  generatedAt : DateTime
  rebuildState : String
  projectionLag : Nat
  lastAppliedAuthorityPosition : Int
  authorityWatermark : AuthorityWatermark
  incidents : List Json
  commandIds : List String
  aggregateVersions : Dict String Nat
  causationCommandIds : Dict String (List String)

structure SignedProjection (P : Platform) extends ProjectionFields where
  payloadSha256 : P.Digest
  authenticationTag : P.Digest

/-- A dictionary as a document lists it. -/
def dumpDict {α : Type} (value : α → Json) (d : Dict String α) : Json :=
  .obj ((d.items.insertionSort (fun a b => a.1 ≤ b.1)).map (fun item => (item.1, value item.2)))

def ProjectionFields.payload (P : Platform) (f : ProjectionFields) : Json := .obj [
  ("aggregate_versions", dumpDict (fun (version : Nat) => .int version) f.aggregateVersions),
  ("authority_watermark", f.authorityWatermark.modelDump),
  ("causation_command_ids", dumpDict Dump.texts f.causationCommandIds),
  ("command_ids", Dump.texts f.commandIds),
  ("cursor", f.cursor.modelDump),
  ("generated_at", Dump.time P f.generatedAt),
  ("incidents", .arr f.incidents),
  ("last_applied_authority_position", .int f.lastAppliedAuthorityPosition),
  ("projection_lag", .int f.projectionLag),
  ("rebuild_state", .str f.rebuildState),
  ("schema", .str f.schemaId)]

/-! ## What the engine is read for -/

/-- `current` -/
def current (e : Engine P) : List IncidentRecord :=
  e.current.values.insertionSort (fun a b => a.hazard.value ≤ b.hazard.value)

/-- `command_receipts`; both columns of the order are texts. -/
def commandReceipts (e : Engine P) : List (CommandReceipt P) :=
  e.store.commandReceipts.insertionSort (fun a b => P.isoformat a.acceptedAt < P.isoformat b.acceptedAt ∨
    (P.isoformat a.acceptedAt = P.isoformat b.acceptedAt ∧ a.commandId.str ≤ b.commandId.str))

/-- `_projection_version` -/
def projectionVersion (e : Engine P) : Nat := ((current e).map IncidentRecord.version).foldr max 0

/-- `_command_ids` -/
def commandIds (e : Engine P) : List String := (commandReceipts e).map (fun receipt => receipt.commandId.str)

/-- `receipt.target.removeprefix("incident:")` -/
def receiptTarget (receipt : CommandReceipt P) : String :=
  if "incident:".toList.isPrefixOf receipt.target.toList then
    String.ofList (receipt.target.toList.drop "incident:".length)
  else receipt.target

/-- One turn of the loop over the receipts. -/
def bindReceipt (commands : Dict String (List String)) (receipt : CommandReceipt P) : Dict String (List String) :=
  match commands.get? (receiptTarget receipt) with
  | some ids => commands.insert (receiptTarget receipt) (ids ++ [receipt.commandId.str])
  | none => commands

/-- The versions of `_aggregate_bindings` -/
def aggregateVersions (e : Engine P) : Dict String Nat :=
  Dict.ofPairs ((current e).map (fun r => (r.incidentId.str, r.version)))

/-- The commands of `_aggregate_bindings` -/
def causationCommandIds (e : Engine P) : Dict String (List String) :=
  (commandReceipts e).foldl bindReceipt (Dict.ofPairs ((aggregateVersions e).keys.map (fun key => (key, []))))

/-! ## The service -/

structure ProjectionService where
  secret : String
  streamEpoch : UUID
  rebuildState : String := "ready"
  createdAt : DateTime

namespace ProjectionService

def sign (service : ProjectionService) (cursor : ProjectionCursor) (digest : P.Digest) : P.Digest :=
  P.hmac service.secret (.obj [("cursor", .str cursor.eventId), ("payload_sha256", .str (P.hexdigest digest))])

/-- The cursor and the contents of a snapshot at a watermark. -/
def contents (service : ProjectionService) (e : Engine P) (generatedAt : Option DateTime)
    (principalScope filterScope : String) (watermark : AuthorityWatermark) : ProjectionFields where
  cursor := {
    streamEpoch := service.streamEpoch
    authorityPosition := watermark.highestContiguousPosition
    projectionVersion := projectionVersion e
    scopeSha256 := P.hexdigest (P.sha256 (.obj [("filter", .str filterScope), ("principal", .str principalScope)])) }
  generatedAt := generatedAt.getD ((e.store.authorityEvents.getLast?.map AuthorityEvent.acceptedAt).getD service.createdAt)
  rebuildState := service.rebuildState
  projectionLag := 0
  lastAppliedAuthorityPosition := watermark.highestContiguousPosition
  authorityWatermark := watermark
  incidents := (current e).map (IncidentRecord.modelDump P)
  commandIds := commandIds e
  aggregateVersions := aggregateVersions e
  causationCommandIds := causationCommandIds e

def signed (P : Platform) (service : ProjectionService) (fields : ProjectionFields) : SignedProjection P :=
  { fields with
    payloadSha256 := P.sha256 (fields.payload P)
    authenticationTag := service.sign fields.cursor (P.sha256 (fields.payload P)) }

/-- `snapshot`: the check of the projection has decoded every payload of the journal
    before `authority_journal` does. -/
def snapshot (service : ProjectionService) (e : Engine P) (generatedAt : Option DateTime)
    (principalScope filterScope : String) : Except Error (SignedProjection P) := do
  let conformance ← projectionConformance e
  Checks.refuse (!conformance.valid)
    (.runtimeError ("projection conformance failed: " ++ String.intercalate "," conformance.failures))
  let watermark ← authorityWatermark e
  Checks.refuse (!watermark.valid)
    (.runtimeError ("authority watermark is invalid: " ++ String.intercalate "," watermark.failures))
  nonNegative watermark.highestContiguousPosition
  pure (service.signed P (service.contents e generatedAt principalScope filterScope watermark))

/-- `verify` -/
def verify (service : ProjectionService) (projection : SignedProjection P) : Bool :=
  let digest := P.sha256 (projection.payload P)
  digest = projection.payloadSha256 && service.sign projection.cursor digest = projection.authenticationTag

end ProjectionService

/-! ## Taking a snapshot -/

section Snapshot

variable {e : Engine P}

theorem highestContiguousPosition_nonneg {s : Store P} {log : List Mutation} (rep : Represents s log) :
    0 ≤ (s.authorityEvents.getLast?.map AuthorityEvent.position).getD 0 := by
  rw [rep.last]
  cases log.getLast? with
  | none => exact le_refl 0
  | some m => exact Int.natCast_nonneg log.length

theorem authorityWatermark_valid (inv : Invariant e) : ∃ watermark, authorityWatermark e = .ok watermark ∧
    watermark.valid = true ∧ 0 ≤ watermark.highestContiguousPosition := by
  obtain ⟨log, rep⟩ := inv.well.represented
  have nonneg := highestContiguousPosition_nonneg rep
  refine ⟨{
    epochId := authorityEpoch
    highestContiguousPosition := (e.store.authorityEvents.getLast?.map AuthorityEvent.position).getD 0
    acceptedEventCount := e.store.authorityEvents.length
    valid := true
    failures := [] }, ?_, rfl, nonneg⟩
  unfold authorityWatermark
  rw [conformance_of_sound rep.sound]
  have passes : nonNegative ((e.store.authorityEvents.getLast?.map AuthorityEvent.position).getD 0) = .ok () :=
    Checks.refuse_eq_ok.mpr (decide_eq_false (not_lt.mpr nonneg))
  have named : isBlank authorityEpoch = false := by decide
  show AuthorityWatermark.ofConformance _ = _
  unfold AuthorityWatermark.ofConformance
  rw [passes, named]
  rfl

/-- A snapshot of a consistent engine returns, carries the bindings, and verifies. -/
theorem snapshot_returns (inv : Invariant e) (service : ProjectionService) (generatedAt : Option DateTime)
    (principalScope filterScope : String) :
    ∃ projection, service.snapshot e generatedAt principalScope filterScope = .ok projection ∧
      projection.causationCommandIds = causationCommandIds e ∧ service.verify projection = true := by
  obtain ⟨report, conforms, valid⟩ := inv.projection_valid
  obtain ⟨watermark, marked, good, nonneg⟩ := authorityWatermark_valid inv
  have passes : nonNegative watermark.highestContiguousPosition = .ok () :=
    Checks.refuse_eq_ok.mpr (decide_eq_false (not_lt.mpr nonneg))
  refine ⟨service.signed P (service.contents e generatedAt principalScope filterScope watermark), ?_, rfl, ?_⟩
  · unfold ProjectionService.snapshot
    rw [conforms, Checks.ok_bind, valid, marked]
    show (Checks.refuse (!watermark.valid) _ >>= fun _ => _) = _
    rw [good, passes]
    rfl
  · simp [ProjectionService.verify, ProjectionService.signed]

end Snapshot

/-! ## Bindings -/

theorem get?_bindReceipts (receipts : List (CommandReceipt P)) (commands : Dict String (List String)) (key : String) :
    (receipts.foldl bindReceipt commands).get? key = (commands.get? key).map
      (· ++ (receipts.filter (fun receipt => receiptTarget receipt = key)).map (fun receipt => receipt.commandId.str)) := by
  induction receipts generalizing commands with
  | nil => simp
  | cons receipt receipts ih =>
      rw [List.foldl_cons, ih]
      unfold bindReceipt
      by_cases named : receiptTarget receipt = key
      · subst named
        cases bound : commands.get? (receiptTarget receipt) with
        | none => simp [bound]
        | some ids => simp
      · cases commands.get? (receiptTarget receipt) with
        | none => simp [named]
        | some ids => simp [named, Dict.get?_insert, Ne.symm named]

theorem mem_current {e : Engine P} {r : IncidentRecord} : r ∈ current e ↔ r ∈ e.current.values :=
  (List.perm_insertionSort _ _).mem_iff

theorem mem_commandReceipts {e : Engine P} {receipt : CommandReceipt P} :
    receipt ∈ commandReceipts e ↔ receipt ∈ e.store.commandReceipts :=
  (List.perm_insertionSort _ _).mem_iff

theorem aggregateVersions_current {e : Engine P} {r : IncidentRecord} (here : r ∈ e.current.values) :
    r.incidentId.str ∈ (aggregateVersions e).keys := by
  rw [Dict.mem_keys_iff, aggregateVersions, Dict.get?_ofPairs, Option.isSome_map, List.getLast?_isSome]
  refine List.ne_nil_of_mem (a := (r.incidentId.str, r.version)) ?_
  exact List.mem_filter.mpr ⟨List.mem_map_of_mem (mem_current.mpr here), decide_eq_true rfl⟩

/-- Every key starts without commands. -/
theorem get?_unbound {keys : List String} {key : String} (here : key ∈ keys) :
    (Dict.ofPairs (keys.map (fun key => (key, ([] : List String))))).get? key = some [] := by
  rw [Dict.get?_ofPairs]
  cases last : ((keys.map (fun key => (key, ([] : List String)))).filter (fun item => item.1 = key)).getLast? with
  | none =>
      have member : (key, ([] : List String)) ∈
          (keys.map (fun key => (key, ([] : List String)))).filter (fun item => item.1 = key) :=
        List.mem_filter.mpr ⟨List.mem_map_of_mem here, decide_eq_true rfl⟩
      rw [List.getLast?_eq_none_iff.mp last] at member
      cases member
  | some item =>
      obtain ⟨key', -, rfl⟩ := List.mem_map.mp (List.mem_filter.mp (List.mem_of_getLast? last)).1
      rfl

/-- A current incident is bound to the receipts that read as its id. -/
theorem causationCommandIds_current {e : Engine P} {r : IncidentRecord} (here : r ∈ e.current.values) :
    (causationCommandIds e).get? r.incidentId.str = some (((commandReceipts e).filter
      (fun receipt => receiptTarget receipt = r.incidentId.str)).map (fun receipt => receipt.commandId.str)) := by
  rw [causationCommandIds, get?_bindReceipts, get?_unbound (aggregateVersions_current here)]
  rfl

/-! ## Targets -/

/-- The target of a review of the incident. -/
def reviewTarget (incidentId : UUID) : String := "incident:" ++ incidentId.str

/-- The targets of the status commands on the incident. -/
def statusTargets (incidentId : UUID) : List String :=
  ([.corroborate, .contradict, .control, .resolve, .reopen, .link, .merge] : List IncidentCommandKind).map
    (fun kind => "incident-status:" ++ incidentId.str ++ ":" ++ kind.value)

/-- The receipt of a status command on the incident. -/
def isStatusReceipt (incidentId : UUID) (receipt : CommandReceipt P) : Bool := receipt.target ∈ statusTargets incidentId

/-- The receipt targeted the incident. -/
def targets (incidentId : UUID) (receipt : CommandReceipt P) : Bool :=
  receipt.target = reviewTarget incidentId || isStatusReceipt incidentId receipt

theorem targetKey_mem (command : IncidentStatusCommand) : StatusCommand.targetKey command ∈ statusTargets command.incidentId := by
  refine List.mem_map.mpr ⟨command.command, ?_, rfl⟩
  cases command.command <;> decide

theorem reviewTarget_injective {a b : UUID} (same : reviewTarget a = reviewTarget b) : a = b := by
  have texts := congrArg String.toList same
  rw [reviewTarget, reviewTarget, String.toList_append, String.toList_append] at texts
  exact UUID.str_injective (List.append_cancel_left texts)

/-- A target of a status command does not start as the target of a review does. -/
theorem statusTarget_unlike {incidentId : UUID} {target : String} (status : target ∈ statusTargets incidentId) :
    "incident:".toList.isPrefixOf target.toList = false ∧ ':' ∈ target.toList := by
  obtain ⟨kind, -, rfl⟩ := List.mem_map.mp status
  rw [String.append_assoc, String.append_assoc, String.toList_append]
  exact ⟨rfl, List.mem_append_left _ (by decide)⟩

theorem receiptTarget_review {receipt : CommandReceipt P} {incidentId : UUID}
    (named : receipt.target = reviewTarget incidentId) : receiptTarget receipt = incidentId.str := by
  have starts : "incident:".toList.isPrefixOf receipt.target.toList = true := by
    rw [named, reviewTarget, String.toList_append]
    rfl
  rw [receiptTarget, if_pos starts, named, reviewTarget, String.toList_append, ← String.length_toList, List.drop_left,
    String.ofList_toList]

/-- The receipt of a status command reads as no incident id at all. -/
theorem receiptTarget_status {receipt : CommandReceipt P} {incidentId : UUID}
    (status : isStatusReceipt incidentId receipt = true) (other : UUID) : receiptTarget receipt ≠ other.str := by
  obtain ⟨unlike, colon⟩ := statusTarget_unlike (of_decide_eq_true status)
  rw [receiptTarget, if_neg (Bool.eq_false_iff.mp unlike)]
  intro same
  exact UUID.str_noColon other (same ▸ colon)

theorem reviewTarget_not_status {receipt : CommandReceipt P} {incidentId other : UUID}
    (named : receipt.target = reviewTarget incidentId) : isStatusReceipt other receipt = false := by
  refine Bool.eq_false_iff.mpr fun status => ?_
  exact receiptTarget_status status incidentId (receiptTarget_review named)

/-- The receipts of a run are of reviews and of status commands. -/
theorem receipt_review_or_status {s : Store P} {receipt : CommandReceipt P} (origin : ReceiptOrigin s receipt) :
    ∃ incidentId, receipt.target = reviewTarget incidentId ∨ isStatusReceipt incidentId receipt = true := by
  cases origin with
  | status command key payload named target =>
      exact ⟨command.incidentId, .inr (decide_eq_true (named ▸ targetKey_mem command))⟩
  | review command key payload named => exact ⟨command.incidentId, .inl named⟩

/-- What the projection binds to an incident are the receipts of its reviews. -/
theorem receiptTarget_iff {s : Store P} {receipt : CommandReceipt P} (origin : ReceiptOrigin s receipt) (incidentId : UUID) :
    receiptTarget receipt = incidentId.str ↔ targets incidentId receipt = true ∧ isStatusReceipt incidentId receipt = false := by
  obtain ⟨other, review | status⟩ := receipt_review_or_status origin
  · have apart : isStatusReceipt incidentId receipt = false := reviewTarget_not_status review
    rw [targets, apart, Bool.or_false, decide_eq_true_iff, and_iff_left rfl, receiptTarget_review review, review]
    constructor
    · intro same
      rw [UUID.str_injective (congrArg String.toList same)]
    · intro same
      rw [reviewTarget_injective same]
  · refine iff_of_false (receiptTarget_status status incidentId) ?_
    rintro ⟨targeted, apart⟩
    rw [targets, apart, Bool.or_false, decide_eq_true_iff] at targeted
    rw [reviewTarget_not_status targeted] at status
    cases status

/-! ## Causes -/

/-- The command ids of the receipts that targeted the incident, in receipt order. -/
def causes (e : Engine P) (incidentId : UUID) : List String :=
  ((commandReceipts e).filter (targets incidentId)).map (fun receipt => receipt.commandId.str)

private theorem filter_eq_iff {α : Type} {p q : α → Bool} {xs : List α} (sub : ∀ x ∈ xs, p x = true → q x = true) :
    (xs.filter p).length = (xs.filter q).length ↔ ∀ x ∈ xs, q x = true → p x = true := by
  have within : xs.filter p = (xs.filter q).filter p := by
    rw [List.filter_filter]
    refine List.filter_congr fun x member => ?_
    cases kept : p x with
    | false => rfl
    | true => rw [sub x member kept]; rfl
  rw [within, List.length_filter_eq_length_iff]
  constructor
  · exact fun all x member kept => all x (List.mem_filter.mpr ⟨member, kept⟩)
  · exact fun all x member => all x (List.mem_filter.mp member).1 (List.mem_filter.mp member).2

/-- A current incident of a run is bound to all its causes exactly when no status
    command on it was committed. -/
theorem causation_iff {e : Engine P} (inv : Invariant e) {r : IncidentRecord} (here : r ∈ e.current.values) :
    (causationCommandIds e).get? r.incidentId.str = some (causes e r.incidentId) ↔
      ∀ receipt ∈ e.store.commandReceipts, isStatusReceipt r.incidentId receipt = false := by
  have bound : ∀ receipt ∈ commandReceipts e, receiptTarget receipt = r.incidentId.str ↔
      targets r.incidentId receipt = true ∧ isStatusReceipt r.incidentId receipt = false :=
    fun receipt member => receiptTarget_iff (inv.receipts receipt (mem_commandReceipts.mp member)) r.incidentId
  rw [causationCommandIds_current here, Option.some.injEq, causes]
  constructor
  · intro same receipt member
    have length := congrArg List.length same
    rw [List.length_map, List.length_map, filter_eq_iff fun x member read =>
      ((bound x member).mp (of_decide_eq_true read)).1] at length
    have listed := mem_commandReceipts.mpr member
    cases status : isStatusReceipt r.incidentId receipt with
    | false => rfl
    | true =>
        have read := length receipt listed (by rw [targets, status, Bool.or_true])
        rw [((bound receipt listed).mp (of_decide_eq_true read)).2] at status
        cases status
  · intro none
    refine congrArg _ (List.filter_congr fun receipt listed => ?_)
    rw [Bool.eq_iff_iff, decide_eq_true_iff, bound receipt listed,
      and_iff_left (none receipt (mem_commandReceipts.mp listed))]

/-- Every snapshot of every run is taken and verifies, and it names all causes of
    exactly those current incidents that no status command was committed for. -/
theorem snapshot_names_causes_iff (budget : Int) (authorizer : Security.CommandAuthorizer) (ops : List (Operation P))
    (service : ProjectionService) (generatedAt : Option DateTime) (principalScope filterScope : String) :
    let e := after budget authorizer ops
    ∃ projection, service.snapshot e generatedAt principalScope filterScope = .ok projection ∧
      service.verify projection = true ∧
      ∀ r ∈ e.current.values,
        (projection.causationCommandIds.get? r.incidentId.str = some (causes e r.incidentId) ↔
          ∀ receipt ∈ e.store.commandReceipts, isStatusReceipt r.incidentId receipt = false) := by
  intro e
  have inv : Invariant e := after_invariant budget authorizer ops
  obtain ⟨projection, taken, bindings, verified⟩ := snapshot_returns inv service generatedAt principalScope filterScope
  refine ⟨projection, taken, verified, fun r here => ?_⟩
  rw [bindings]
  exact causation_iff inv here

/-- An alert that an operator marked as a controlled activity has one cause and names none. -/
theorem control_command_unnamed : ∃ projection,
    ProjectionService.snapshot ⟨"secret", UUID.ofNat 7, "ready", 0⟩ (after 3 gaugeAuthorizer controlledAlert) none ""
      "incidents" = .ok projection ∧
    (∃ r ∈ (after 3 gaugeAuthorizer controlledAlert).current.values, r.incidentId = UUID.ofNat 1) ∧
    projection.causationCommandIds.get? (UUID.ofNat 1).str = some [] ∧
    causes (after 3 gaugeAuthorizer controlledAlert) (UUID.ofNat 1) = [(UUID.ofNat 4).str] := by
  have inv : Invariant (after 3 gaugeAuthorizer controlledAlert) := after_invariant 3 gaugeAuthorizer controlledAlert
  obtain ⟨projection, taken, bindings, -⟩ := snapshot_returns inv ⟨"secret", UUID.ofNat 7, "ready", 0⟩ none "" "incidents"
  refine ⟨projection, taken, by decide +kernel, ?_, by decide +kernel⟩
  rw [bindings]
  decide +kernel

end SentinelEdge.Projections
