import SentinelEdge.Evidence.Service
import SentinelEdge.Storage.Artifacts
import SentinelEdge.Storage.Effects
import SentinelEdge.Storage.Lifecycle

/-! # Lifecycle transitions of evidence

The trust service over a journal store and an artifact store. A transition checks
its request against the projection of the item, removes the content where the item
is to be deleted, builds its event, writes it, and re-evaluates the claims of the
incident. Only the two writes are transactions of their own.
-/

namespace SentinelEdge.Evidence

open Foundation Domain Storage

variable {P : Platform}

/-- The service, its stores, and whether it was given the artifact store. -/
structure EvidenceSystem (P : Platform) where
  store : Store P
  artifacts : ContentAddressedArtifactStore P
  attached : Bool

abbrev SystemCall (P : Platform) (α : Type) := Call (EvidenceSystem P) Error α

/-- A call on the journal store. -/
def onStore {α : Type} (x : StoreCall P α) : SystemCall P α := Call.zoom EvidenceSystem.store (fun sys s => { sys with store := s }) x

/-- A call on the artifact store. -/
def onArtifacts {α : Type} (x : ArtifactCall P α) : SystemCall P α :=
  Call.zoom EvidenceSystem.artifacts (fun sys a => { sys with artifacts := a }) x

theorem onStore_of_eq {α : Type} {x : StoreCall P α} {sys : EvidenceSystem P} {r : Except Error α} {s : Store P}
    (h : x sys.store = (r, s)) : onStore x sys = (r, { sys with store := s }) :=
  Call.zoom_of_eq h

theorem onArtifacts_of_eq {α : Type} {x : ArtifactCall P α} {sys : EvidenceSystem P} {r : Except Error α}
    {a : ContentAddressedArtifactStore P} (h : x sys.artifacts = (r, a)) :
    onArtifacts x sys = (r, { sys with artifacts := a }) :=
  Call.zoom_of_eq h

/-- `_LEGAL_TRANSITIONS` -/
def legalTransitions : EvidenceContentState → List EvidenceContentState
  | .available => [.redacted, .expired, .deleted, .missingExternal]
  | .metadataOnly => [.expired, .deleted, .missingExternal]
  | .redacted => [.expired, .deleted, .missingExternal]
  | .expired => [.deleted]
  | .missingExternal => [.deleted]
  | .unavailableAtCapture => [.deleted]
  | .deleted => []

/-- `_ACTION_FOR_STATE` -/
def actionForState : EvidenceContentState → Option EvidenceLifecycleAction
  | .redacted => some .redact
  | .expired => some .expire
  | .deleted => some .delete
  | .missingExternal => some .markExternalMissing
  | .available | .metadataOnly | .unavailableAtCapture => none

/-! ## Claims and their links -/

/-- What the links of an incident count for. -/
structure LinkCounts where
  supporting : Nat
  contradictory : Nat
  invalidated : Nat
  deriving DecidableEq, Repr

/-- One turn of the loop over the links. -/
def LinkCounts.count (counts : LinkCounts) (link : ClaimEvidenceLink) (projection : EvidenceLifecycleProjection) : LinkCounts :=
  if !projection.claimEligible then { counts with invalidated := counts.invalidated + 1 }
  else match link.relation with
    | .supports => { counts with supporting := counts.supporting + 1 }
    | .contradicts => { counts with contradictory := counts.contradictory + 1 }
    | .sameFamily | .derivedFrom => counts

/-- The loop of `claim_reconciliation` and of `trust_snapshot`, with the clock at `now`. -/
def countLinks (s : Store P) (now : DateTime) : List ClaimEvidenceLink → LinkCounts → Except Error LinkCounts
  | [], counts => .ok counts
  | link :: links, counts => match s.lifecycleProjection link.evidenceId now with
      | .error e => .error e
      | .ok projection => countLinks s now links (counts.count link projection)

structure ClaimReconciliation where
  incidentId : UUID
  activeSupportingLinks : Nat
  activeContradictoryLinks : Nat
  invalidatedLinks : Nat
  historicalLinkCount : Nat
  historyRewritten : Bool
  deriving DecidableEq, Repr

def claimReconciliation (s : Store P) (incidentId : UUID) (now : DateTime) : Except Error ClaimReconciliation :=
  match countLinks s now (s.claimLinks incidentId) ⟨0, 0, 0⟩ with
  | .error e => .error e
  | .ok counts => .ok {
      incidentId := incidentId
      activeSupportingLinks := counts.supporting
      activeContradictoryLinks := counts.contradictory
      invalidatedLinks := counts.invalidated
      historicalLinkCount := (s.claimLinks incidentId).length
      historyRewritten := false }

namespace EvidenceTrustService

def createClaim (claim : ClaimNode) : SystemCall P ClaimNode := do
  let current ← Call.read (fun sys => (sys.store.latestByHazard.find? (fun record =>
    record.incidentId = claim.incidentId)).any (fun record => record.hazard = claim.hazard))
  if !current then Call.raise (.valueError "claim must target an existing incident with the same hazard")
  else onStore (recordClaim claim)

def link (link : ClaimEvidenceLink) : SystemCall P ClaimEvidenceLink := onStore (recordClaimLink link)

/-! ## Taking evidence in -/

/-- The artifact half of `ingest`: content that has a file is registered. -/
def registerContent (assigned : EvidenceItem) (now : DateTime) : SystemCall P Unit := do
  let sys ← Call.read id
  if !sys.attached then pure ()
  else match sys.artifacts.files.get? assigned.contentSha256 with
    | none => pure ()
    | some data => do
        let scope ← Call.lift (ArtifactScope.validate
          { sourceId := some assigned.sourceId, incidentId := some assigned.incidentId.str })
        let _ ← onArtifacts (ContentAddressedArtifactStore.register assigned.contentSha256 data.length
          "application/octet-stream" (ArtifactPolicy.incidentEvidence true) scope true now)
        pure ()

/-! ## Transitions -/

/-- The arguments of `transition`. -/
structure TransitionRequest where
  evidenceId : UUID
  toState : EvidenceContentState
  expectedVersion : Int
  actor : String
  reason : String
  now : DateTime
  redactionProfileId : Option String := none
  deriving DecidableEq

/-- What a transition draws: two ids, and the clock where the references are
    checked, where the deletion is recorded and where lifecycles are projected. -/
structure Drawn where
  lifecycleEventId : UUID
  reevaluationId : UUID
  checkedAt : DateTime
  recordedAt : DateTime
  projectedAt : DateTime
  deriving DecidableEq

/-- The checks of `transition` before it does anything. -/
def admitTransition (s : Store P) (request : TransitionRequest) (now : DateTime) :
    Except Error (EvidenceItem × EvidenceLifecycleProjection) := do
  let item ← match s.allEvidence.find? (fun item => item.evidenceId = request.evidenceId) with
    | none => .error (.keyError request.evidenceId.str)
    | some item => .ok item
  let current ← s.lifecycleProjection request.evidenceId now
  if (current.version : Int) ≠ request.expectedVersion then .error (.valueError "evidence lifecycle stale version")
  else if request.toState ∉ legalTransitions current.state then
    .error (.valueError ("illegal evidence lifecycle transition: " ++ current.state.value ++ "->" ++ request.toState.value))
  else if request.toState = .expired && Store.rightsActive item request.now then
    .error (.valueError "evidence rights have not expired")
  else .ok (item, current)

/-- The proof of a deletion where no artifact store is configured. -/
def metadataDeletionProof (P : Platform) (item : EvidenceItem) : String :=
  P.hexdigest (P.sha256 (.obj [
    ("artifact_sha256", .str item.contentSha256),
    ("artifact_store", .str "not_configured"),
    ("profile", .str "sentinel-evidence-delete-v1")]))

/-- The deletion branch: the proof and the reason codes of the event. -/
def removeContent (request : TransitionRequest) (item : EvidenceItem) (drawn : Drawn) :
    SystemCall P (Option String × List String) := do
  let sys ← Call.read id
  if request.toState ≠ .deleted then pure (none, [])
  else if !sys.attached then
    pure (some (metadataDeletionProof P item), ["artifact_store_not_configured_metadata_deletion_only"])
  else do
    let result ← onArtifacts (ContentAddressedArtifactStore.deleteDigest item.contentSha256 request.actor true false
      drawn.checkedAt drawn.recordedAt)
    pure (some result.deletionProofSha256, [if result.existed then "artifact_removed" else "artifact_not_present"])

/-- The event a transition writes. -/
def lifecycleEvent (request : TransitionRequest) (item : EvidenceItem) (current : EvidenceLifecycleProjection)
    (action : EvidenceLifecycleAction) (drawn : Drawn) (deletion : Option String × List String) : EvidenceLifecycleEvent where
  lifecycleEventId := drawn.lifecycleEventId
  evidenceId := request.evidenceId
  incidentId := item.incidentId
  action := action
  fromState := some current.state
  toState := request.toState
  expectedVersion := current.version
  resultingVersion := current.version + 1
  actor := request.actor
  reason := request.reason
  createdAt := request.now
  deletionProofSha256 := deletion.1
  redactionProfileId := request.redactionProfileId
  reasonCodes := deletion.2

/-- The states after which the claims of the incident are reconciled. -/
def needsReevaluation : EvidenceContentState → Bool
  | .expired | .deleted | .missingExternal => true
  | .available | .metadataOnly | .redacted | .unavailableAtCapture => false

/-- The record of one reconciliation. -/
def reevaluationRecord (request : TransitionRequest) (item : EvidenceItem) (action : EvidenceLifecycleAction) (drawn : Drawn)
    (reconciliation : ClaimReconciliation) : EvidenceReevaluationRecord where
  reevaluationId := drawn.reevaluationId
  incidentId := item.incidentId
  evidenceId := request.evidenceId
  triggerAction := action
  status := "completed"
  decision := "claim_links_reconciled_without_incident_state_mutation"
  createdAt := request.now
  activeSupportingLinks := reconciliation.activeSupportingLinks
  activeContradictoryLinks := reconciliation.activeContradictoryLinks
  invalidatedLinks := reconciliation.invalidatedLinks
  incidentStateMutated := false
  reasonCodes := ["component_4_review_required_for_hazard_state_change"]

/-- What follows the lifecycle write. -/
def reevaluate (request : TransitionRequest) (item : EvidenceItem) (action : EvidenceLifecycleAction) (drawn : Drawn) :
    StoreCall P Unit := do
  if !needsReevaluation request.toState then pure ()
  else do
    let s ← Call.read id
    let reconciliation ← Call.lift (claimReconciliation s item.incidentId drawn.projectedAt)
    let _ ← recordEvidenceReevaluation (reevaluationRecord request item action drawn reconciliation)
    pure ()

/-- The two writes of a transition and the projection between them. -/
def record (request : TransitionRequest) (item : EvidenceItem) (drawn : Drawn) (event : EvidenceLifecycleEvent) :
    StoreCall P EvidenceLifecycleProjection := do
  let _ ← recordEvidenceLifecycle event
  let s ← Call.read id
  let projection ← Call.lift (s.lifecycleProjection request.evidenceId drawn.projectedAt)
  reevaluate request item event.action drawn
  pure projection

/-- The event of the request, if it may be built. -/
def buildEvent (P : Platform) (request : TransitionRequest) (item : EvidenceItem) (current : EvidenceLifecycleProjection)
    (drawn : Drawn) (deletion : Option String × List String) : Except Error EvidenceLifecycleEvent :=
  match actionForState request.toState with
  | none => .error (.keyError request.toState.value)
  | some action => (lifecycleEvent request item current action drawn deletion).validate P

def transition (request : TransitionRequest) (drawn : Drawn) : SystemCall P EvidenceLifecycleProjection := do
  let sys ← Call.read id
  let (item, current) ← Call.lift (admitTransition sys.store request drawn.projectedAt)
  let deletion ← removeContent request item drawn
  let event ← Call.lift (buildEvent P request item current drawn deletion)
  onStore (record request item drawn event)

/-- The transition `enforce_rights_expiry` makes for one item. -/
def expiryRequest (item : EvidenceItem) (current : EvidenceLifecycleProjection) (now : DateTime) (actor : String) :
    TransitionRequest where
  evidenceId := item.evidenceId
  toState := .expired
  expectedVersion := current.version
  actor := actor
  reason := "rights_expiry_reached"
  now := now

/-- The loop of `enforce_rights_expiry`; every item draws its own ids. -/
def enforceItems (now : DateTime) (actor : String) (drawn : UUID → Drawn) :
    List EvidenceItem → SystemCall P (List EvidenceLifecycleProjection)
  | [] => pure []
  | item :: items => do
      if Store.rightsActive item now then enforceItems now actor drawn items
      else do
        let sys ← Call.read id
        let current ← Call.lift (sys.store.lifecycleProjection item.evidenceId (drawn item.evidenceId).projectedAt)
        if current.state = .available || current.state = .metadataOnly || current.state = .redacted then do
          let projection ← transition (expiryRequest item current now actor) (drawn item.evidenceId)
          let rest ← enforceItems now actor drawn items
          pure (projection :: rest)
        else enforceItems now actor drawn items

def enforceRightsExpiry (now : DateTime) (actor : String) (drawn : UUID → Drawn) :
    SystemCall P (List EvidenceLifecycleProjection) := do
  let items ← Call.read (fun sys => sys.store.allEvidence)
  enforceItems now actor drawn items

end EvidenceTrustService

/-- `ingest` on both stores; what the consent service answers is a parameter of the call. -/
def EvidenceSystem.ingest (service : EvidenceTrustService) (item : EvidenceItem) (lifecycleEventId : UUID) (registeredAt : DateTime) :
    SystemCall P EvidenceItem := do
  let allowed ← Call.lift (service.processingAllowed item)
  if !allowed then Call.raise (.valueError "future processing blocked by consent withdrawal")
  else do
    let current ← Call.read (fun sys => EvidenceTrustService.targetsIncident sys.store item)
    if !current then Call.raise (.valueError "evidence must target an existing incident with the same hazard")
    else do
      let existing ← Call.read (fun sys => sys.store.evidence item.incidentId)
      let assigned := { item with familyId := some (familyFor P existing item) }
      EvidenceTrustService.registerContent assigned registeredAt
      onStore (recordEvidence assigned lifecycleEventId)

/-! ## Runs -/

/-- The calls of the service, any other call on the artifact store, and any other
    write to the journal store: only the service writes to the tables of evidence. -/
inductive SystemOperation (P : Platform) where
  | ingest (service : EvidenceTrustService) (item : EvidenceItem) (lifecycleEventId : UUID) (registeredAt : DateTime)
  | transition (request : EvidenceTrustService.TransitionRequest) (drawn : EvidenceTrustService.Drawn)
  | enforceRightsExpiry (now : DateTime) (actor : String) (drawn : UUID → EvidenceTrustService.Drawn)
  | createClaim (claim : ClaimNode)
  | link (link : ClaimEvidenceLink)
  | artifacts (call : ArtifactCall P Unit)
  | write (w : { w : Write P // w.isEvidence = false })

namespace EvidenceSystem

/-- The system after the call, whether it returned or raised. -/
def step (sys : EvidenceSystem P) : SystemOperation P → EvidenceSystem P
  | .ingest service item lifecycleEventId registeredAt => (ingest service item lifecycleEventId registeredAt sys).2
  | .transition request drawn => (EvidenceTrustService.transition request drawn sys).2
  | .enforceRightsExpiry now actor drawn => (EvidenceTrustService.enforceRightsExpiry now actor drawn sys).2
  | .createClaim claim => (EvidenceTrustService.createClaim claim sys).2
  | .link link => (EvidenceTrustService.link link sys).2
  | .artifacts call => (onArtifacts call sys).2
  | .write w => { sys with store := w.val.step sys.store }

/-- A new journal store beside an artifact store as it is found. -/
def start (artifacts : ContentAddressedArtifactStore P) (attached : Bool) : EvidenceSystem P where
  store := Store.empty
  artifacts := artifacts
  attached := attached

def run (artifacts : ContentAddressedArtifactStore P) (attached : Bool) (ops : List (SystemOperation P)) :
    EvidenceSystem P :=
  Foundation.run step (start artifacts attached) ops

end EvidenceSystem

/-! ## What a transition does to the journal store -/

section Effects

open EvidenceTrustService

variable {s : Store P} {request : TransitionRequest} {drawn : Drawn} {item : EvidenceItem}
  {current : EvidenceLifecycleProjection} {now : DateTime}

/-- A request that passes names a stored item, its version and a legal next state;
    an expiry also finds the rights expired. -/
structure Admitted (s : Store P) (request : TransitionRequest) (now : DateTime) (item : EvidenceItem)
    (current : EvidenceLifecycleProjection) : Prop where
  found : s.allEvidence.find? (fun item => item.evidenceId = request.evidenceId) = some item
  projected : s.lifecycleProjection request.evidenceId now = .ok current
  version : (current.version : Int) = request.expectedVersion
  legal : request.toState ∈ legalTransitions current.state
  expired : request.toState = .expired → Store.rightsActive item request.now = false

theorem admitTransition_ok : admitTransition s request now = .ok (item, current) ↔ Admitted s request now item current := by
  unfold admitTransition
  constructor
  · intro h
    cases found : s.allEvidence.find? (fun item => item.evidenceId = request.evidenceId) with
    | none =>
        rw [found] at h
        cases h
    | some stored =>
        rw [found] at h
        cases projected : s.lifecycleProjection request.evidenceId now with
        | error e =>
            rw [projected] at h
            cases h
        | ok projection =>
            rw [projected] at h
            simp only [bind, Except.bind] at h
            split at h
            · cases h
            · next version =>
                split at h
                · cases h
                · next legal =>
                    split at h
                    · cases h
                    · next expired =>
                        cases h
                        exact ⟨found, projected, not_not.mp version, not_not.mp legal, by simpa using expired⟩
  · intro admitted
    simp only [admitted.found, admitted.projected, bind, Except.bind, admitted.version, admitted.legal]
    by_cases expired : request.toState = .expired
    · simp [expired, admitted.expired expired]
    · simp [expired]

/-- An event that some request may write. -/
def Warranted (s : Store P) (event : EvidenceLifecycleEvent) : Prop :=
  ∃ request drawn now item current deletion, Admitted s request now item current ∧
    buildEvent P request item current drawn deletion = .ok event

/-- The writes the service makes, and those of everyone else. -/
inductive WarrantedWrite (s : Store P) : Write P → Prop where
  | evidence {item : EvidenceItem} {lifecycleEventId : UUID} : WarrantedWrite s (.recordEvidence item lifecycleEventId)
  | lifecycle {event : EvidenceLifecycleEvent} (warranted : Warranted s event) :
      WarrantedWrite s (.recordEvidenceLifecycle event)
  | other {w : Write P} (other : w.isEvidence = false) : WarrantedWrite s w

/-- One write after the other takes the first store to the second. -/
def Leads (s s' : Store P) : Prop := Relation.ReflTransGen (fun a b => ∃ w, WarrantedWrite a w ∧ b = w.step a) s s'

theorem Leads.refl (s : Store P) : Leads s s := Relation.ReflTransGen.refl

theorem Leads.trans {a b c : Store P} (first : Leads a b) (later : Leads b c) : Leads a c :=
  Relation.ReflTransGen.trans first later

theorem Leads.write {s : Store P} {w : Write P} (warranted : WarrantedWrite s w) : Leads s (w.step s) :=
  Relation.ReflTransGen.single ⟨w, warranted, rfl⟩

/-- What every write keeps is kept all the way. -/
theorem Leads.invariant {I : Store P → Prop} {s s' : Store P} (leads : Leads s s') (init : I s)
    (keeps : ∀ a w, I a → WarrantedWrite a w → I (w.step a)) : I s' := by
  induction leads with
  | refl => exact init
  | tail _ last ih =>
      obtain ⟨w, warranted, rfl⟩ := last
      exact keeps _ w ih warranted

theorem onStore_store {α : Type} (x : StoreCall P α) (sys : EvidenceSystem P) :
    (onStore x sys).2.store = (x sys.store).2 := rfl

theorem discard_step {α : Type} (x : StoreCall P α) (s : Store P) :
    ((do let _ ← x : StoreCall P Unit) s).2 = (x s).2 := by
  rcases h : x s with ⟨r, t⟩
  cases r with
  | error e => rw [Call.bind_of_error h]
  | ok a => rw [Call.bind_of_ok h]; rfl

theorem reevaluate_leads (request : TransitionRequest) (item : EvidenceItem) (action : EvidenceLifecycleAction)
    (drawn : Drawn) (s : Store P) : Leads s (reevaluate request item action drawn s).2 := by
  unfold reevaluate
  split
  · exact Leads.refl s
  · simp only [Call.read_bind, id]
    cases counted : claimReconciliation s item.incidentId drawn.projectedAt with
    | error e =>
        rw [Call.bind_of_error (Call.lift_apply _ _)]
        exact Leads.refl s
    | ok reconciliation =>
        rw [Call.bind_of_ok (Call.lift_apply _ _)]
        exact Leads.write (w := .recordEvidenceReevaluation (reevaluationRecord request item action drawn reconciliation))
          (.other rfl)

theorem record_leads {event : EvidenceLifecycleEvent} (warranted : Warranted s event) (request : TransitionRequest)
    (item : EvidenceItem) (drawn : Drawn) : Leads s (record request item drawn event s).2 := by
  have first : Leads s (recordEvidenceLifecycle event s).2 := by
    have written := Leads.write (WarrantedWrite.lifecycle warranted)
    rwa [Write.step, Write.exec, discard_step] at written
  unfold record
  rcases h : recordEvidenceLifecycle event s with ⟨r, t⟩
  rw [h] at first
  cases r with
  | error e =>
      rw [Call.bind_of_error h]
      exact first
  | ok result =>
      rw [Call.bind_of_ok h]
      simp only [Call.read_bind, id]
      cases projected : t.lifecycleProjection request.evidenceId drawn.projectedAt with
      | error e =>
          rw [Call.bind_of_error (Call.lift_apply _ _)]
          exact first
      | ok projection =>
          rw [Call.bind_of_ok (Call.lift_apply _ _), Call.bind_pure_state]
          exact first.trans (reevaluate_leads request item event.action drawn t)

/-- Removing content is nothing to the journal store. -/
theorem removeContent_store (request : TransitionRequest) (item : EvidenceItem) (drawn : Drawn) (sys : EvidenceSystem P) :
    (removeContent request item drawn sys).2.store = sys.store := by
  simp only [removeContent, Call.read_bind, id]
  split
  · rfl
  · split
    · rfl
    · rw [Call.bind_pure_state]
      rfl

theorem transition_leads (request : TransitionRequest) (drawn : Drawn) (sys : EvidenceSystem P) :
    Leads sys.store (transition request drawn sys).2.store := by
  simp only [transition, Call.read_bind, id]
  rcases checked : admitTransition sys.store request drawn.projectedAt with e | ⟨item, current⟩
  · rw [Call.bind_of_error (Call.lift_apply _ _)]
    exact Leads.refl _
  · rw [Call.bind_of_ok (Call.lift_apply _ _)]
    have untouched := removeContent_store request item drawn sys
    rcases removed : removeContent request item drawn sys with ⟨r, sys₁⟩
    rw [removed] at untouched
    cases r with
    | error e =>
        rw [Call.bind_of_error removed, untouched]
        exact Leads.refl _
    | ok deletion =>
        rw [Call.bind_of_ok removed]
        cases built : buildEvent P request item current drawn deletion with
        | error e =>
            rw [Call.bind_of_error (Call.lift_apply _ _), untouched]
            exact Leads.refl _
        | ok event =>
            rw [Call.bind_of_ok (Call.lift_apply _ _), onStore_store, untouched]
            exact record_leads ⟨request, drawn, drawn.projectedAt, item, current, deletion, admitTransition_ok.mp checked, built⟩
              request item drawn

theorem enforceItems_leads (now : DateTime) (actor : String) (drawn : UUID → Drawn) (items : List EvidenceItem)
    (sys : EvidenceSystem P) : Leads sys.store (enforceItems now actor drawn items sys).2.store := by
  induction items generalizing sys with
  | nil => exact Leads.refl _
  | cons item items ih =>
      unfold enforceItems
      split
      · exact ih sys
      · simp only [Call.read_bind, id]
        cases projected : sys.store.lifecycleProjection item.evidenceId (drawn item.evidenceId).projectedAt with
        | error e =>
            rw [Call.bind_of_error (Call.lift_apply _ _)]
            exact Leads.refl _
        | ok current =>
            rw [Call.bind_of_ok (Call.lift_apply _ _)]
            split
            · have first := transition_leads (expiryRequest item current now actor) (drawn item.evidenceId) sys
              rcases moved : transition (expiryRequest item current now actor) (drawn item.evidenceId) sys with ⟨r, sys₁⟩
              rw [moved] at first
              cases r with
              | error e =>
                  rw [Call.bind_of_error moved]
                  exact first
              | ok projection =>
                  rw [Call.bind_of_ok moved, Call.bind_pure_state]
                  exact first.trans (ih sys₁)
            · exact ih sys

/-- Registering content is nothing to the journal store. -/
theorem registerContent_store (assigned : EvidenceItem) (now : DateTime) (sys : EvidenceSystem P) :
    (registerContent assigned now sys).2.store = sys.store := by
  simp only [registerContent, Call.read_bind, id]
  split
  · rfl
  · cases sys.artifacts.files.get? assigned.contentSha256 with
    | none => rfl
    | some data =>
        dsimp only
        cases ArtifactScope.validate
            { sourceId := some assigned.sourceId, incidentId := some assigned.incidentId.str } with
        | error e => rw [Call.bind_of_error (Call.lift_apply _ _)]
        | ok scope =>
            rw [Call.bind_of_ok (Call.lift_apply _ _), Call.bind_pure_state]
            rfl

/-- On the journal store `ingest` is the call whose artifact catalog answers as
    this one does. -/
theorem ingest_store (service : EvidenceTrustService) (item : EvidenceItem) (lifecycleEventId : UUID)
    (registeredAt : DateTime) (sys : EvidenceSystem P) :
    (EvidenceSystem.ingest service item lifecycleEventId registeredAt sys).2.store =
      (({ service with artifacts := some (fun assigned => (registerContent assigned registeredAt sys).1) } :
        EvidenceTrustService).ingest item lifecycleEventId sys.store).2 := by
  unfold EvidenceSystem.ingest EvidenceTrustService.ingest
  simp only [processingAllowed]
  cases allowed : service.processingAllowed item with
  | error e =>
      simp only [processingAllowed] at allowed
      rw [allowed, Call.bind_of_error (Call.lift_apply _ _), Call.bind_of_error (Call.lift_apply _ _)]
  | ok verdict =>
      simp only [processingAllowed] at allowed
      rw [allowed, Call.bind_of_ok (Call.lift_apply _ _), Call.bind_of_ok (Call.lift_apply _ _)]
      cases verdict with
      | false => rfl
      | true =>
          simp only [Bool.not_true, Bool.false_eq_true, if_false, Call.read_bind]
          cases targetsIncident sys.store item with
          | false => rfl
          | true =>
              simp only [Bool.not_true, Bool.false_eq_true, if_false, Call.read_bind, registerArtifact]
              generalize { item with familyId := some (familyFor P (sys.store.evidence item.incidentId) item) } = assigned
              have untouched := registerContent_store assigned registeredAt sys
              rcases registered : registerContent assigned registeredAt sys with ⟨r, sys₁⟩
              rw [registered] at untouched
              cases r with
              | error e => rw [Call.bind_of_error registered, Call.bind_of_error (Call.lift_apply _ _), untouched]
              | ok _ => rw [Call.bind_of_ok registered, Call.bind_of_ok (Call.lift_apply _ _), onStore_store, untouched]

theorem ingest_leads (service : EvidenceTrustService) (item : EvidenceItem) (lifecycleEventId : UUID) (s : Store P) :
    Leads s (service.ingest item lifecycleEventId s).2 := by
  unfold EvidenceTrustService.ingest
  cases service.processingAllowed item with
  | error e =>
      rw [Call.bind_of_error (Call.lift_apply _ _)]
      exact Leads.refl s
  | ok verdict =>
      rw [Call.bind_of_ok (Call.lift_apply _ _)]
      cases verdict with
      | false => exact Leads.refl s
      | true =>
          simp only [Bool.not_true, Bool.false_eq_true, if_false, Call.read_bind]
          cases targetsIncident s item with
          | false => exact Leads.refl s
          | true =>
              simp only [Bool.not_true, Bool.false_eq_true, if_false, Call.read_bind]
              generalize { item with familyId := some (familyFor P (s.evidence item.incidentId) item) } = assigned
              cases service.registerArtifact assigned with
              | error e =>
                  rw [Call.bind_of_error (Call.lift_apply _ _)]
                  exact Leads.refl s
              | ok _ =>
                  rw [Call.bind_of_ok (Call.lift_apply _ _), ← discard_step]
                  exact Leads.write (w := .recordEvidence assigned lifecycleEventId) .evidence

/-- A lifecycle write is nothing to what the event leaves as it is. -/
theorem record_keeps {γ : Type} {field : Store P → γ} {event : EvidenceLifecycleEvent}
    (reads : ∀ s : Store P, field s.domain = field s)
    (lifecycle : ∀ s : Store P, field (s.withLifecycle event) = field s)
    (reevaluations : ∀ (s : Store P) rows, field { s with evidenceReevaluations := rows } = field s)
    (request : TransitionRequest) (item : EvidenceItem) (drawn : Drawn) :
    Call.Keeps field (record request item drawn event : StoreCall P EvidenceLifecycleProjection) := by
  have first : Call.Keeps field (recordEvidenceLifecycle event : StoreCall P EvidenceLifecycleEvent) := by
    intro s
    rcases call : recordEvidenceLifecycle event s with ⟨r, t⟩
    cases r with
    | error e => rw [Call.atomically_error call]
    | ok result =>
        rcases (recordEvidenceLifecycle_ok call).2 with ⟨rfl, -⟩ | ⟨-, -, domain⟩
        · rfl
        · exact field_of_domain domain field ((reads _).trans (lifecycle s)) reads
  refine Call.Keeps.bind first fun _ => Call.Keeps.bind (Call.Keeps.read _) fun s =>
    Call.Keeps.bind (Call.Keeps.lift _) fun projection => Call.Keeps.bind ?_ fun _ => Call.Keeps.pure _
  unfold reevaluate
  split
  · exact Call.Keeps.pure _
  · refine Call.Keeps.bind (Call.Keeps.read _) fun s => Call.Keeps.bind (Call.Keeps.lift _) fun _ =>
      Call.Keeps.bind (Call.Keeps.atomically (keeps_recordOnce reads reevaluations)) fun _ => Call.Keeps.pure _

/-- The items stay, and so do the logs of the other items. -/
theorem record_keeps_logs {evidenceId : UUID} {event : EvidenceLifecycleEvent} (apart : event.evidenceId ≠ evidenceId)
    (request : TransitionRequest) (item : EvidenceItem) (drawn : Drawn) :
    Call.Keeps (fun s : Store P => s.lifecycleLog evidenceId)
      (record request item drawn event : StoreCall P EvidenceLifecycleProjection) := by
  refine record_keeps (fun _ => rfl) ?_ (fun _ _ => rfl) request item drawn
  intro s
  rw [Store.lifecycleLog_withLifecycle, if_neg apart, List.append_nil]

theorem record_keeps_items (event : EvidenceLifecycleEvent) (request : TransitionRequest) (item : EvidenceItem)
    (drawn : Drawn) :
    Call.Keeps Store.evidenceItems (record request item drawn event : StoreCall P EvidenceLifecycleProjection) :=
  record_keeps (fun _ => rfl) (fun _ => rfl) (fun _ _ => rfl) request item drawn

/-- Every operation leads the journal store on by warranted writes. -/
theorem EvidenceSystem.step_leads (sys : EvidenceSystem P) (op : SystemOperation P) :
    Leads sys.store (sys.step op).store := by
  cases op with
  | ingest service item lifecycleEventId registeredAt =>
      rw [EvidenceSystem.step, ingest_store]
      exact ingest_leads _ item lifecycleEventId sys.store
  | transition request drawn => exact transition_leads request drawn sys
  | enforceRightsExpiry now actor drawn =>
      show Leads sys.store (EvidenceTrustService.enforceRightsExpiry now actor drawn sys).2.store
      unfold EvidenceTrustService.enforceRightsExpiry
      rw [Call.read_bind]
      exact enforceItems_leads now actor drawn _ sys
  | createClaim claim =>
      show Leads sys.store (EvidenceTrustService.createClaim claim sys).2.store
      unfold EvidenceTrustService.createClaim
      rw [Call.read_bind]
      split
      · exact Leads.refl _
      · rw [onStore_store, ← discard_step]
        exact Leads.write (w := .recordClaim claim) (.other rfl)
  | link link =>
      show Leads sys.store (EvidenceTrustService.link link sys).2.store
      unfold EvidenceTrustService.link
      rw [onStore_store, ← discard_step]
      exact Leads.write (w := .recordClaimLink link) (.other rfl)
  | artifacts call => exact Leads.refl _
  | write w => exact Leads.write (.other w.property)

theorem EvidenceSystem.run_leads (artifacts : ContentAddressedArtifactStore P) (attached : Bool)
    (ops : List (SystemOperation P)) : Leads Store.empty (run artifacts attached ops).store :=
  run_invariant (I := fun sys : EvidenceSystem P => Leads Store.empty sys.store)
    (fun sys op leads => leads.trans (sys.step_leads op)) (Leads.refl _) ops

end Effects

end SentinelEdge.Evidence
