import SentinelEdge.Privacy.Runs

/-! # What closing takes and what it keeps

The branches for nodes do not look at the action of the request, and a digest may
stand behind several nodes. So a restriction can take artifacts, and a digest that
is reported as retained can be gone.
-/

namespace SentinelEdge.Privacy

open Foundation Domain Storage Evidence EvidenceTrustService PrivacyDispositionService

variable {P : Platform}

/-- The nodes of the covered items. -/
def covered (d : DispositionStore P) (request : DispositionRequest P) : List (DispositionLineageNode P) :=
  request.evidenceIds.flatMap d.nodes

namespace Walk

variable {walk : Walk P} {sys : EvidenceSystem P} {before : List (Visit P)}

theorem artifactsAfter_nil (a : ContentAddressedArtifactStore P) : walk.artifactsAfter a [] = a := by
  simp [artifactsAfter]

/-- Nothing is gone from the catalog when no visit revokes a reference in it. -/
theorem artifactsAfter_eq {a : ContentAddressedArtifactStore P}
    (spares : ∀ r ∈ a.catalog.artifactReferences, r.referenceId.str ∉ before.filterMap walk.revoked) :
    walk.artifactsAfter a before = a := by
  have same : a.catalog.artifactReferences.filter
      (fun r => r.referenceId.str ∉ before.filterMap walk.revoked) = a.catalog.artifactReferences :=
    List.filter_eq_self.mpr (by simpa using spares)
  rw [artifactsAfter, same]

/-- Earlier visits decide about a later one through the references alone. -/
theorem removes_congr {first second : List (Visit P)}
    (same : walk.artifactsAfter sys.artifacts first = walk.artifactsAfter sys.artifacts second) (v : Visit P) (digest : String) :
    walk.Removes sys first v digest ↔ walk.Removes sys second v digest := by
  cases v with
  | node node => simp only [Removes, same]
  | erasure evidenceId => simp only [Removes, same]

theorem passes_node_congr {first second : List (Visit P)}
    (same : walk.artifactsAfter sys.artifacts first = walk.artifactsAfter sys.artifacts second)
    (node : DispositionLineageNode P) : walk.Passes sys first (.node node) ↔ walk.Passes sys second (.node node) := by
  simp only [Passes, removes_congr same]

end Walk

/-! ## Restricting and correcting -/

/-- No bytes are deleted, no reference is revoked, no lifecycle moves, and the covered
    items are restricted. -/
structure OnlyRestricted (before after : PrivacySystem P) (request : DispositionRequest P) : Prop where
  files : ∀ digest, after.evidence.artifacts.files.get? digest = before.evidence.artifacts.files.get? digest
  references : after.evidence.artifacts.catalog.artifactReferences = before.evidence.artifacts.catalog.artifactReferences
  lifecycles : ∀ evidenceId now,
    after.evidence.store.lifecycleProjection evidenceId now = before.evidence.store.lifecycleProjection evidenceId now
  restricted : ∀ evidenceId ∈ request.evidenceIds, after.disposition.isRestricted evidenceId = true

/-- No node of the scope stands for something closing would take, and one of them
    keeps the request open. -/
structure NothingToTake (sys : PrivacySystem P) (request : DispositionRequest P) (now : DateTime) (draws : CloseDraws) :
    Prop where
  references : ∀ node ∈ covered sys.disposition request,
    ∀ reference, (walkOf sys request now draws).revoked (.node node) = some reference →
      ∀ r ∈ sys.evidence.artifacts.catalog.artifactReferences, r.referenceId.str ≠ reference
  files : ∀ node ∈ covered sys.disposition request,
    ∀ digest, (walkOf sys request now draws).Removes sys.evidence [] (.node node) digest →
      sys.evidence.artifacts.files.get? digest = none
  restricted : ∀ evidenceId ∈ request.evidenceIds, sys.disposition.isRestricted evidenceId = true
  unresolved : ∃ node ∈ covered sys.disposition request,
    ¬ (walkOf sys request now draws).Passes sys.evidence [] (.node node)

/-- Without an erasure the visits are the nodes of the scope. -/
theorem visits_of_no_erasure (d : DispositionStore P) {request : DispositionRequest P} (keeps : request.action ≠ .erase) :
    visits d request = (covered d request).map .node := by
  simp [visits, covered, keeps, List.map_flatMap]

theorem isRestricted_lifted {request : DispositionRequest P} {d : DispositionStore P} {evidenceId : UUID} :
    (liftRestrictions request d).isRestricted evidenceId = true ↔
      evidenceId ∉ request.evidenceIds ∧ d.isRestricted evidenceId = true := by
  unfold DispositionStore.isRestricted liftRestrictions
  rw [Dict.get?_restrict]
  by_cases member : evidenceId ∈ request.evidenceIds
  · simp [member]
  · simp [member]

/-- Restrictions between the walk and the final update. -/
theorem isRestricted_settled {sys : PrivacySystem P} {request : DispositionRequest P} {requestId evidenceId : UUID}
    {results : List DispositionNodeResult} :
    (settled sys request requestId results).isRestricted evidenceId = true ↔
      ((closureOutcome results).1 = .completed → evidenceId ∉ request.evidenceIds) ∧
        sys.disposition.isRestricted evidenceId = true := by
  unfold settled
  by_cases completes : (closureOutcome results).1 = .completed
  · simp only [completes, if_true, isRestricted_lifted, forall_const]
    rfl
  · simp only [completes, if_false, false_implies, true_and]
    rfl

/-- Closing a restriction or a correction leaves bytes, references and lifecycles
    alone and the items restricted exactly when there is nothing to take. -/
theorem restriction_is_not_erasure_iff (P : Platform) (sys : PrivacySystem P) (requestId : UUID)
    (request : DispositionRequest P) (now : DateTime) (draws : CloseDraws)
    (found : sys.disposition.request requestId = .ok request) (action : request.action = .restrict ∨ request.action = .correct) :
    OnlyRestricted sys (close requestId now draws sys).2 request ↔ NothingToTake sys request now draws := by
  have keeps : request.action ≠ .erase := by
    rcases action with restricts | corrects
    · simp [restricts]
    · simp [corrects]
  obtain ⟨results, walked, s, walks, domain, evidence, restrictions, -⟩ :=
    close_leaves now draws found (fun erases => absurd erases keeps)
  have nodes := visits_of_no_erasure sys.disposition keeps
  have reached := walks.reached
  have references : (close requestId now draws sys).2.evidence.artifacts.catalog.artifactReferences =
      ((walkOf sys request now draws).artifactsAfter sys.evidence.artifacts
        (visits sys.disposition request)).catalog.artifactReferences := by
    rw [evidence]
    exact reached.references
  have isRestricted : ∀ evidenceId, (close requestId now draws sys).2.disposition.isRestricted evidenceId = true ↔
      ((closureOutcome results).1 = .completed → evidenceId ∉ request.evidenceIds) ∧
        sys.disposition.isRestricted evidenceId = true := by
    intro evidenceId
    rw [← isRestricted_settled, DispositionStore.isRestricted, restrictions, DispositionStore.isRestricted]
  -- a covered node is visited after some of the others
  have visited : ∀ node ∈ covered sys.disposition request,
      ∃ before after, visits sys.disposition request = before ++ .node node :: after := by
    intro node member
    have visit : (.node node : Visit P) ∈ visits sys.disposition request := nodes ▸ List.mem_map_of_mem member
    exact List.append_of_mem visit
  -- once no reference goes, every visit finds the catalog as it was
  have fixed : (∀ r ∈ sys.evidence.artifacts.catalog.artifactReferences,
        r.referenceId.str ∉ (visits sys.disposition request).filterMap (walkOf sys request now draws).revoked) →
      ∀ before rest, visits sys.disposition request = before ++ rest →
        (walkOf sys request now draws).artifactsAfter sys.evidence.artifacts before =
          (walkOf sys request now draws).artifactsAfter sys.evidence.artifacts [] := by
    intro spares before rest split
    rw [Walk.artifactsAfter_nil]
    apply Walk.artifactsAfter_eq
    intro r member revoked
    apply spares r member
    rw [split, List.filterMap_append]
    exact List.mem_append_left _ revoked
  constructor
  · intro only
    have spares : ∀ r ∈ sys.evidence.artifacts.catalog.artifactReferences,
        r.referenceId.str ∉ (visits sys.disposition request).filterMap (walkOf sys request now draws).revoked := by
      have same := references.symm.trans only.references
      have unfiltered := List.filter_eq_self.mp same
      simpa using unfiltered
    refine ⟨?_, ?_, fun evidenceId member => ((isRestricted evidenceId).mp (only.restricted evidenceId member)).2, ?_⟩
    · rintro node member reference revokes r stored rfl
      obtain ⟨before, after, split⟩ := visited node member
      apply spares r stored
      rw [split]
      exact List.mem_filterMap.mpr ⟨.node node, by simp, revokes⟩
    · intro node member digest removes
      obtain ⟨before, after, split⟩ := visited node member
      have gone : (walkOf sys request now draws).Gone sys.evidence (visits sys.disposition request) digest :=
        ⟨before, .node node, after, split, (Walk.removes_congr (fixed spares before _ split) _ _).mpr removes⟩
      have same := only.files digest
      rw [evidence] at same
      exact same.symm.trans (reached.removed digest gone)
    · obtain ⟨evidenceId, member⟩ := List.exists_mem_of_ne_nil _ (DispositionStore.request_ok found).2.2
      have stays := ((isRestricted evidenceId).mp (only.restricted evidenceId member)).1
      by_contra! passes
      refine stays (walks.completes_iff.mpr ?_) member
      intro before v after split
      have visit : v ∈ (covered sys.disposition request).map Visit.node := by
        rw [← nodes, split]
        simp
      obtain ⟨node, own, rfl⟩ := List.mem_map.mp visit
      exact (Walk.passes_node_congr (fixed spares before _ split) node).mpr (passes node own)
  · intro nothing
    have spares : ∀ r ∈ sys.evidence.artifacts.catalog.artifactReferences,
        r.referenceId.str ∉ (visits sys.disposition request).filterMap (walkOf sys request now draws).revoked := by
      intro r stored revoked
      rw [nodes] at revoked
      obtain ⟨v, member, revokes⟩ := List.mem_filterMap.mp revoked
      obtain ⟨node, own, rfl⟩ := List.mem_map.mp member
      exact nothing.references node own _ revokes r stored rfl
    refine ⟨?_, ?_, ?_, ?_⟩
    · intro digest
      rw [evidence]
      by_cases gone : (walkOf sys request now draws).Gone sys.evidence (visits sys.disposition request) digest
      · obtain ⟨before, v, after, split, removes⟩ := gone
        have visit : v ∈ (covered sys.disposition request).map Visit.node := by
          rw [← nodes, split]
          simp
        obtain ⟨node, own, rfl⟩ := List.mem_map.mp visit
        have absent := nothing.files node own digest ((Walk.removes_congr (fixed spares before _ split) _ _).mp removes)
        exact (reached.removed digest ⟨before, _, after, split, removes⟩).trans absent.symm
      · exact reached.kept digest gone
    · rw [references, Walk.artifactsAfter_eq spares]
    · intro evidenceId clock
      have log : walked.store.lifecycleLog evidenceId = sys.evidence.store.lifecycleLog evidenceId := by
        apply reached.logs
        rw [visits_erased, if_neg keeps]
        exact List.not_mem_nil
      rw [evidence]
      refine Walk.lifecycleProjection_congr ?_ ?_ clock
      · exact (field_of_domain domain Store.evidenceItems rfl).trans reached.items
      · exact (field_of_domain domain (Store.lifecycleLog · evidenceId) rfl).trans log
    · intro evidenceId member
      refine (isRestricted evidenceId).mpr ⟨?_, nothing.restricted evidenceId member⟩
      intro completes
      obtain ⟨node, own, stops⟩ := nothing.unresolved
      obtain ⟨before, after, split⟩ := visited node own
      exact absurd ((Walk.passes_node_congr (fixed spares before _ split) node).mp
        (walks.completes_iff.mp completes before _ after split)) stops

/-- A node of the first report. -/
def ridgeNode (kind : DispositionNodeKind) (targetRef : String) (createdAt : DateTime) : NodeArguments where
  evidenceId := UUID.ofNat 1
  kind := kind
  targetRef := targetRef
  createdAt := createdAt

/-- The footage, as a file in the artifact store. -/
def storedScene : String := "artifact-sha256:" ++ contentDigest Platform.hexadecimal scene

/-- Someone outside who received the footage. -/
def ridgeRecipient : NodeArguments := { ridgeNode .externalRecipient "recipient:archive" 10 with
  externalRecipient := some "county archive" }

/-- A request about the first report, filed at the given time. -/
def ridgeRequest (action : DispositionAction) (createdAt : DateTime) : RequestArguments where
  action := action
  evidenceIds := [UUID.ofNat 1]
  subjectRef := "subject 7"
  subjectBasis := "identity checked"
  actor := "privacy-officer"
  reason := "subject request"
  deadline := 100
  createdAt := createdAt

def ridgeRestriction : DispositionRequest Platform.hexadecimal := newRequest Platform.hexadecimal (ridgeRequest .restrict 20)

def ridgeErasure : DispositionRequest Platform.hexadecimal := newRequest Platform.hexadecimal (ridgeRequest .erase 20)

/-- The clock at thirty throughout. -/
def closeDraws : CloseDraws := ⟨fun _ => 30, fun _ => 30, fun _ => draw 1⟩

/-- The footage is stored, its lineage is registered, then the requests are filed. -/
def ridgeFilings (nodes : List NodeArguments) (requests : List RequestArguments) :
    List (PrivacyOperation Platform.hexadecimal) :=
  .evidence (shelve scene) :: nodes.map .registerNode ++ requests.map .createRequest

def ridgeArchive (nodes : List NodeArguments) (request : RequestArguments) : PrivacySystem Platform.hexadecimal :=
  PrivacySystem.run {} shelf true (ridgeFilings nodes [request])

/-- The restriction whose recipient has not answered. -/
def awaiting : PrivacySystem Platform.hexadecimal := ridgeArchive [ridgeRecipient] (ridgeRequest .restrict 20)

/-- A recipient who has not answered keeps the restriction in place. -/
theorem pending_restriction_only_restricts :
    OnlyRestricted awaiting (close ridgeRestriction.requestId 30 closeDraws awaiting).2 ridgeRestriction := by
  obtain ⟨filed, scope, silent, restricted⟩ :
      awaiting.disposition.request ridgeRestriction.requestId = .ok ridgeRestriction ∧
      covered awaiting.disposition ridgeRestriction = [newNode Platform.hexadecimal ridgeRecipient] ∧
      awaiting.disposition.externalAck (newNode Platform.hexadecimal ridgeRecipient).nodeId = none ∧
      ∀ evidenceId ∈ ridgeRestriction.evidenceIds, awaiting.disposition.isRestricted evidenceId = true := by decide +kernel
  have external : (newNode Platform.hexadecimal ridgeRecipient).kind.isExternal = true := by decide
  refine (restriction_is_not_erasure_iff Platform.hexadecimal awaiting ridgeRestriction.requestId ridgeRestriction 30
    closeDraws filed (.inl rfl)).mpr ⟨?_, ?_, restricted, ?_⟩
  · intro node member reference revokes
    rw [scope, List.mem_singleton] at member
    simp [member, Walk.revoked, external] at revokes
  · intro node member digest removes
    rw [scope, List.mem_singleton] at member
    have notExternal := removes.1.notExternal
    rw [member, external] at notExternal
    cases notExternal
  · refine ⟨newNode Platform.hexadecimal ridgeRecipient, by simp [scope], ?_⟩
    rintro ⟨-, acknowledged, -⟩
    have answered := acknowledged external
    simp only [walkOf, silent] at answered
    cases answered

/-- A restriction whose scope is one artifact: closing it deletes the bytes and lifts
    the restriction. -/
theorem restriction_deletes_the_footage :
    let sys := ridgeArchive [ridgeNode .original storedScene 10] (ridgeRequest .restrict 20)
    let closed := (close ridgeRestriction.requestId 30 closeDraws sys).2
    sys.disposition.request ridgeRestriction.requestId = .ok ridgeRestriction ∧ ridgeRestriction.action = .restrict ∧
      sys.evidence.artifacts.files.get? (contentDigest Platform.hexadecimal scene) = some scene ∧
      closed.evidence.artifacts.files.get? (contentDigest Platform.hexadecimal scene) = none ∧
      sys.disposition.isRestricted (UUID.ofNat 1) = true ∧ closed.disposition.isRestricted (UUID.ofNat 1) = false := by
  decide +kernel

/-! ## Reported retention -/

/-- One visit keeps the digest and reports so, another one deletes it. -/
def KeptAndTaken (sys : PrivacySystem P) (request : DispositionRequest P) (now : DateTime) (draws : CloseDraws)
    (digest : String) : Prop :=
  (∃ before v after, visits sys.disposition request = before ++ v :: after ∧
    (walkOf sys request now draws).Retains sys.evidence before v digest) ∧
  (walkOf sys request now draws).Gone sys.evidence (visits sys.disposition request) digest

theorem node_of_visits {d : DispositionStore P} (request : DispositionRequest P) {node : DispositionLineageNode P}
    (member : .node node ∈ visits d request) : node ∈ d.lineageNodes := by
  obtain ⟨evidenceId, -, visit⟩ := List.mem_flatMap.mp member
  rcases List.mem_append.mp visit with own | erasure
  · obtain ⟨node', listed, same⟩ := List.mem_map.mp own
    cases same
    exact (DispositionStore.mem_nodes.mp listed).1
  · split at erasure <;> simp at erasure

/-- In every state the system reaches: what a report calls retained is still there
    exactly when no digest that was there is kept by one visit and taken by another. -/
theorem reported_retention_is_real_iff (P : Platform) (limits : Limits) (artifacts : ContentAddressedArtifactStore P)
    (attached : Bool) (ops : List (PrivacyOperation P)) (requestId : UUID) (request : DispositionRequest P) (now : DateTime)
    (draws : CloseDraws) (report : DispositionReport P) (sys' : PrivacySystem P)
    (found : (PrivacySystem.run limits artifacts attached ops).disposition.request requestId = .ok request)
    (returned : close requestId now draws (PrivacySystem.run limits artifacts attached ops) = (.ok report, sys')) :
    (∀ result ∈ report.nodeResults, result.status = .retainedException →
      ∀ node ∈ (PrivacySystem.run limits artifacts attached ops).disposition.lineageNodes, node.nodeId = result.nodeId →
      ∀ digest, targetAfter "artifact-sha256:" node.targetRef = some digest →
      ∀ data, (PrivacySystem.run limits artifacts attached ops).evidence.artifacts.files.get? digest = some data →
        sys'.evidence.artifacts.files.get? digest = some data) ↔
    ∀ digest data, (PrivacySystem.run limits artifacts attached ops).evidence.artifacts.files.get? digest = some data →
      ¬ KeptAndTaken (PrivacySystem.run limits artifacts attached ops) request now draws digest := by
  have tidy := (PrivacySystem.run_sound limits artifacts attached ops).tidy
  generalize PrivacySystem.run limits artifacts attached ops = sys at *
  obtain ⟨results, walked, s, walks, -, evidence, -, reports⟩ := close_leaves now draws found
    (fun _ => tidy.items request (DispositionStore.request_ok found).1)
  obtain rfl : report = closureReport request now results := reports report (by rw [returned])
  have files : sys'.evidence.artifacts = walked.artifacts := by
    rw [returned] at evidence
    exact (congrArg EvidenceSystem.artifacts evidence).trans rfl
  rw [files]
  constructor
  · rintro kept digest data present ⟨⟨before, v, after, split, retains⟩, gone⟩
    obtain ⟨reported, own, within⟩ := walks.complete before v after split
    cases v with
    | erasure evidenceId => exact retains
    | node node =>
        have listed : node ∈ sys.disposition.lineageNodes := by
          refine node_of_visits request ?_
          rw [split]
          simp
        cases own with
        | @node _ outcome settles =>
            have status := (settles.retained_iff retains.1).mp retains
            have stays := kept (nodeResult P node now outcome) (within List.mem_cons_self) status node listed rfl digest
              retains.1 data present
            rw [walks.reached.removed digest gone] at stays
            cases stays
  · intro apart result member status node listed same digest target data present
    obtain ⟨before, v, after, reported, split, own, inOwn⟩ := walks.listed result member
    cases own with
    | erased erases => cases inOwn
    | failed stops =>
        rw [List.mem_singleton.mp inOwn] at status
        cases status
    | @node visited outcome settles =>
        rw [List.mem_singleton.mp inOwn] at status same
        have known : visited ∈ sys.disposition.lineageNodes := by
          refine node_of_visits request ?_
          rw [split]
          simp
        obtain rfl : node = visited := List.inj_on_of_nodup_map tidy.nodes listed known same
        have retains := (settles.retained_iff target).mpr status
        rw [walks.reached.kept digest (fun gone => apart digest data present ⟨⟨before, _, after, split, retains⟩, gone⟩)]
        exact present

/-- The footage under an exception that is in force until forty. -/
def heldNode : NodeArguments := { ridgeNode .original storedScene 10 with
  exceptionReason := some "pending claim", exceptionExpiresAt := some 40 }

/-- An erasure in whose scope is only the excepted node. -/
def held : PrivacySystem Platform.hexadecimal := ridgeArchive [heldNode] (ridgeRequest .erase 20)

theorem held_eq : held = PrivacySystem.run {} shelf true (ridgeFilings [heldNode] [ridgeRequest .erase 20]) := rfl

/-- The artifact of an excepted node is kept where nothing else takes it. -/
theorem excepted_footage_is_kept :
    ∃ report sys', close ridgeErasure.requestId 30 closeDraws held = (.ok report, sys') ∧
      ∀ result ∈ report.nodeResults, result.status = .retainedException →
        ∀ node ∈ held.disposition.lineageNodes, node.nodeId = result.nodeId →
        ∀ digest, targetAfter "artifact-sha256:" node.targetRef = some digest →
        ∀ data, held.evidence.artifacts.files.get? digest = some data →
          sys'.evidence.artifacts.files.get? digest = some data := by
  obtain ⟨filed, returns, route, unknown⟩ :
      held.disposition.request ridgeErasure.requestId = .ok ridgeErasure ∧
      (close ridgeErasure.requestId 30 closeDraws held).1.isOk = true ∧
      visits held.disposition ridgeErasure = [.node (newNode Platform.hexadecimal heldNode), .erasure (UUID.ofNat 1)] ∧
      held.evidence.store.allEvidence.find? (fun item => item.evidenceId = UUID.ofNat 1) = none := by decide +kernel
  rcases closed : close ridgeErasure.requestId 30 closeDraws held with ⟨r, sys'⟩
  rw [closed] at returns
  cases r with
  | error e => cases returns
  | ok report =>
      refine ⟨report, sys', rfl, ?_⟩
      have untaken : ∀ digest data, held.evidence.artifacts.files.get? digest = some data →
          ¬ KeptAndTaken held ridgeErasure 30 closeDraws digest := by
        rintro digest data - ⟨-, before, v, after, split, removes⟩
        have visit : v ∈ [Visit.node (newNode Platform.hexadecimal heldNode), .erasure (UUID.ofNat 1)] := by
          rw [← route, split]
          simp
        rcases List.mem_cons.mp visit with rfl | rest
        · have exempt : (newNode Platform.hexadecimal heldNode).exempt 30 = true := by decide
          exact absurd (removes.1.notExempt.symm.trans exempt) (by decide)
        · obtain rfl := List.mem_singleton.mp rest
          obtain ⟨item, stored, -⟩ := removes.1.item
          rw [unknown] at stored
          cases stored
      have whenKept := reported_retention_is_real_iff Platform.hexadecimal {} shelf true
        (ridgeFilings [heldNode] [ridgeRequest .erase 20]) ridgeErasure.requestId ridgeErasure 30 closeDraws report sys'
      rw [← held_eq] at whenKept
      exact (whenKept filed closed).mpr untaken

/-- A thumbnail stands for the same file: it is deleted, and the report says that the
    original is retained. -/
theorem excepted_footage_is_deleted :
    let sys := ridgeArchive [heldNode, ridgeNode .thumbnail storedScene 11] (ridgeRequest .erase 20)
    let closed := close ridgeErasure.requestId 30 closeDraws sys
    (∃ result ∈ (closed.1.toOption.map DispositionReport.nodeResults).getD [], result.status = .retainedException ∧
      result.nodeId = (newNode Platform.hexadecimal heldNode).nodeId) ∧
    newNode Platform.hexadecimal heldNode ∈ sys.disposition.lineageNodes ∧
    targetAfter "artifact-sha256:" (newNode Platform.hexadecimal heldNode).targetRef =
      some (contentDigest Platform.hexadecimal scene) ∧
    sys.evidence.artifacts.files.get? (contentDigest Platform.hexadecimal scene) = some scene ∧
    closed.2.evidence.artifacts.files.get? (contentDigest Platform.hexadecimal scene) = none := by
  decide +kernel

end SentinelEdge.Privacy
