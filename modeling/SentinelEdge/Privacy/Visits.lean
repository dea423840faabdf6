import SentinelEdge.Privacy.Closure

/-! # What closing does to artifacts

Closing is a walk over visits: the nodes of each item, and its erasure where one was
asked for. What a visit does to the artifacts depends on the visits before it only
through the references these revoked, so that it can be told from the state before
the walk.
-/

namespace SentinelEdge.Privacy

open Foundation Domain Storage Evidence EvidenceTrustService PrivacyDispositionService

variable {P : Platform}

inductive Visit (P : Platform) where
  | node (node : DispositionLineageNode P)
  | erasure (evidenceId : UUID)
  deriving DecidableEq

/-- The item a visit erases. -/
def Visit.erased : Visit P → Option UUID
  | .node _ => none
  | .erasure evidenceId => some evidenceId

/-- The visits of a request, in order. -/
def visits (d : DispositionStore P) (request : DispositionRequest P) : List (Visit P) :=
  request.evidenceIds.flatMap (fun evidenceId => (d.nodes evidenceId).map .node ++
    if request.action = .erase then [.erasure evidenceId] else [])

/-- What a walk has at hand: the tables, the request, the clock and the draws. -/
structure Walk (P : Platform) where
  tables : DispositionStore P
  request : DispositionRequest P
  now : DateTime
  draws : CloseDraws

namespace Walk

variable (walk : Walk P)

def visit : Visit P → SystemCall P (List DispositionNodeResult)
  | .node node => do
      let outcome ← settleNode walk.tables walk.request.actor walk.now walk.draws node
      pure [nodeResult P node walk.now outcome]
  | .erasure evidenceId => closeErasure walk.request walk.now walk.draws evidenceId

def visitAll : List (Visit P) → SystemCall P (List DispositionNodeResult)
  | [] => pure []
  | v :: later => do
      let first ← walk.visit v
      let rest ← visitAll later
      pure (first ++ rest)

/-! ## Told from the state before the walk -/

/-- The reference a visit revokes. -/
def revoked : Visit P → Option String
  | .node node => if !node.exempt walk.now && !node.kind.isExternal && node.kind.isGrant then
        targetAfter "artifact-reference:" node.targetRef
      else none
  | .erasure _ => none

/-- The artifacts with the references gone that the visits revoke. -/
def artifactsAfter (a : ContentAddressedArtifactStore P) (before : List (Visit P)) : ContentAddressedArtifactStore P :=
  { a with catalog := { a.catalog with artifactReferences :=
    a.catalog.artifactReferences.filter (fun r => r.referenceId.str ∉ before.filterMap walk.revoked) } }

/-- A node whose artifact closing tries to delete. -/
structure TakesArtifact (node : DispositionLineageNode P) (digest : String) : Prop where
  notExempt : node.exempt walk.now = false
  notExternal : node.kind.isExternal = false
  notGrant : node.kind.isGrant = false
  target : targetAfter "artifact-sha256:" node.targetRef = some digest

/-- An item whose erasure goes as far as deleting its content. -/
structure TakesContent (sys : EvidenceSystem P) (evidenceId : UUID) (digest : String) : Prop where
  attached : sys.attached = true
  item : ∃ item, sys.store.allEvidence.find? (fun item => item.evidenceId = evidenceId) = some item ∧
    item.contentSha256 = digest
  live : ∃ projection, sys.store.lifecycleProjection evidenceId (walk.draws.transition evidenceId).projectedAt = .ok projection ∧
    projection.state ≠ .deleted

/-- The visit deletes the digest: it asks for it, and the catalog lets it. -/
def Removes (sys : EvidenceSystem P) (before : List (Visit P)) : Visit P → String → Prop
  | .node node, digest => walk.TakesArtifact node digest ∧ ∃ policy,
      (walk.artifactsAfter sys.artifacts before).Deletable digest true false (walk.draws.checkedAt node.nodeId) policy
  | .erasure evidenceId, digest => walk.TakesContent sys evidenceId digest ∧ ∃ policy,
      (walk.artifactsAfter sys.artifacts before).Deletable digest true false
        (walk.draws.transition evidenceId).checkedAt policy

/-- The catalog refuses a node its artifact. -/
def Refuses (sys : EvidenceSystem P) (before : List (Visit P)) (node : DispositionLineageNode P) (digest : String) : Prop :=
  P.isSha256 digest = true ∧ ∃ message, (walk.artifactsAfter sys.artifacts before).deletionPolicy digest true false
    (walk.draws.checkedAt node.nodeId) = .error (.permissionError message)

/-- The visit reports the digest as retained: by an exception of the node, or by the
    catalog. -/
def Retains (sys : EvidenceSystem P) (before : List (Visit P)) : Visit P → String → Prop
  | .node node, digest => targetAfter "artifact-sha256:" node.targetRef = some digest ∧
      (node.exempt walk.now = true ∨ (walk.TakesArtifact node digest ∧ walk.Refuses sys before node digest))
  | .erasure _, _ => False

/-- The digest is deleted by one of the visits. -/
def Gone (sys : EvidenceSystem P) (made : List (Visit P)) (digest : String) : Prop :=
  ∃ before v after, made = before ++ v :: after ∧ walk.Removes sys before v digest

/-- The state after some visits, in terms of the state before them. -/
structure Reached (sys : EvidenceSystem P) (made : List (Visit P)) (sys' : EvidenceSystem P) : Prop where
  attached : sys'.attached = sys.attached
  registrations : sys'.artifacts.catalog.registrations = sys.artifacts.catalog.registrations
  references : sys'.artifacts.catalog.artifactReferences =
    (walk.artifactsAfter sys.artifacts made).catalog.artifactReferences
  removed : ∀ digest, walk.Gone sys made digest → sys'.artifacts.files.get? digest = none
  kept : ∀ digest, ¬ walk.Gone sys made digest →
    sys'.artifacts.files.get? digest = sys.artifacts.files.get? digest
  items : sys'.store.evidenceItems = sys.store.evidenceItems
  logs : ∀ evidenceId, evidenceId ∉ made.filterMap Visit.erased →
    sys'.store.lifecycleLog evidenceId = sys.store.lifecycleLog evidenceId

theorem Reached.refl (sys : EvidenceSystem P) : walk.Reached sys [] sys where
  attached := rfl
  registrations := rfl
  references := by simp [artifactsAfter]
  removed := by
    rintro digest ⟨before, v, after, split, -⟩
    simp at split
  kept := fun _ _ => rfl
  items := rfl
  logs := fun _ _ => rfl

variable {walk} {sys sys' : EvidenceSystem P} {made : List (Visit P)}

/-- Deletions are refused by the registrations and the references alone. -/
theorem deletionPolicy_congr {a b : ContentAddressedArtifactStore P}
    (registrations : a.catalog.registrations = b.catalog.registrations)
    (references : a.catalog.artifactReferences = b.catalog.artifactReferences) (digest : String)
    (tombstoneAuthorized force : Bool) (checkedAt : DateTime) :
    a.deletionPolicy digest tombstoneAuthorized force checkedAt = b.deletionPolicy digest tombstoneAuthorized force checkedAt := by
  have policy : a.catalog.effectivePolicy digest = b.catalog.effectivePolicy digest := by
    rw [ArtifactCatalog.effectivePolicy, ArtifactCatalog.effectivePolicy, ArtifactCatalog.records, ArtifactCatalog.records,
      registrations]
  have active : a.catalog.references digest checkedAt = b.catalog.references digest checkedAt := by
    rw [ArtifactCatalog.references, ArtifactCatalog.references, references]
  rw [ContentAddressedArtifactStore.deletionPolicy, ContentAddressedArtifactStore.deletionPolicy, policy, active]

theorem Reached.deletionPolicy (reached : walk.Reached sys made sys') (digest : String) (checkedAt : DateTime) :
    sys'.artifacts.deletionPolicy digest true false checkedAt =
      (walk.artifactsAfter sys.artifacts made).deletionPolicy digest true false checkedAt :=
  deletionPolicy_congr (b := walk.artifactsAfter sys.artifacts made) reached.registrations reached.references digest true
    false checkedAt

/-- A removed digest was intact before the walk. -/
theorem Gone.intact {digest : String} (removed : walk.Gone sys made digest) : sys.artifacts.Intact digest := by
  obtain ⟨before, v, after, -, removes⟩ := removed
  cases v with
  | node node =>
      obtain ⟨-, policy, deletable⟩ := removes
      exact deletable.intact
  | erasure evidenceId =>
      obtain ⟨-, policy, deletable⟩ := removes
      exact deletable.intact

theorem Reached.intact_iff (reached : walk.Reached sys made sys') (digest : String) :
    sys'.artifacts.Intact digest ↔ sys.artifacts.Intact digest := by
  by_cases gone : walk.Gone sys made digest
  · refine ⟨fun _ => gone.intact, ?_⟩
    intro _ data stored
    rw [reached.removed digest gone] at stored
    cases stored
  · unfold ContentAddressedArtifactStore.Intact
    rw [reached.kept digest gone]

/-- A deletion goes through at a visit exactly when it is told to before the walk. -/
theorem Reached.deletable_iff (reached : walk.Reached sys made sys') {digest : String} {checkedAt : DateTime}
    {policy : Option ArtifactPolicy} :
    sys'.artifacts.Deletable digest true false checkedAt policy ↔
      (walk.artifactsAfter sys.artifacts made).Deletable digest true false checkedAt policy := by
  constructor
  · intro deletable
    exact ⟨deletable.wellFormed, reached.deletionPolicy digest checkedAt ▸ deletable.permitted,
      (reached.intact_iff digest).mp deletable.intact⟩
  · intro deletable
    exact ⟨deletable.wellFormed, (reached.deletionPolicy digest checkedAt).trans deletable.permitted,
      (reached.intact_iff digest).mpr deletable.intact⟩

theorem gone_snoc {v : Visit P} {digest : String} :
    walk.Gone sys (made ++ [v]) digest ↔ walk.Gone sys made digest ∨ walk.Removes sys made v digest := by
  constructor
  · rintro ⟨before, w, after, split, removes⟩
    rcases List.eq_nil_or_concat' after with rfl | ⟨front, last, rfl⟩
    · obtain ⟨rfl, same⟩ := List.append_inj' split rfl
      rw [List.cons.inj same |>.1]
      exact .inr removes
    · rw [← List.cons_append, ← List.append_assoc] at split
      obtain ⟨rfl, -⟩ := List.append_inj' split rfl
      exact .inl ⟨before, w, front, rfl, removes⟩
  · rintro (⟨before, w, after, rfl, removes⟩ | removes)
    · exact ⟨before, w, after ++ [v], by simp, removes⟩
    · exact ⟨made, v, [], rfl, removes⟩

/-- One more visit that does to artifacts and logs what it is said to. -/
theorem Reached.snoc (reached : walk.Reached sys made sys') {v : Visit P} {sys'' : EvidenceSystem P}
    (attached : sys''.attached = sys'.attached)
    (registrations : sys''.artifacts.catalog.registrations = sys'.artifacts.catalog.registrations)
    (references : sys''.artifacts.catalog.artifactReferences =
      sys'.artifacts.catalog.artifactReferences.filter (fun r => walk.revoked v ≠ some r.referenceId.str))
    (gone : ∀ digest, walk.Removes sys made v digest → sys''.artifacts.files.get? digest = none)
    (stay : ∀ digest, ¬ walk.Removes sys made v digest →
      sys''.artifacts.files.get? digest = sys'.artifacts.files.get? digest)
    (items : sys''.store.evidenceItems = sys'.store.evidenceItems)
    (logs : ∀ evidenceId, v.erased ≠ some evidenceId →
      sys''.store.lifecycleLog evidenceId = sys'.store.lifecycleLog evidenceId) : walk.Reached sys (made ++ [v]) sys'' where
  attached := attached.trans reached.attached
  registrations := registrations.trans reached.registrations
  references := by
    rw [references, reached.references]
    simp only [artifactsAfter, List.filter_filter, List.filterMap_append, List.mem_append, not_or]
    congr 1
    funext r
    cases revokes : walk.revoked v with
    | none => simp [revokes]
    | some reference => simp [revokes, Bool.and_comm, eq_comm]
  removed := by
    intro digest gone'
    rcases gone_snoc.mp gone' with earlier | here
    · by_cases removes : walk.Removes sys made v digest
      · exact gone digest removes
      · rw [stay digest removes]
        exact reached.removed digest earlier
    · exact gone digest here
  kept := by
    intro digest present
    have apart := not_or.mp (fun either => present (gone_snoc.mpr either))
    rw [stay digest apart.2, reached.kept digest apart.1]
  items := items.trans reached.items
  logs := by
    intro evidenceId unvisited
    rw [List.filterMap_append, List.mem_append, not_or] at unvisited
    rw [logs evidenceId, reached.logs evidenceId unvisited.1]
    intro erased
    exact unvisited.2 (by simp [erased])

/-- The status a node comes to after some visits. -/
inductive Settles (walk : Walk P) (sys : EvidenceSystem P) (made : List (Visit P)) (node : DispositionLineageNode P) :
    DispositionNodeStatus → Prop where
  | exempt (exempt : node.exempt walk.now = true) : Settles walk sys made node .retainedException
  | acknowledged (notExempt : node.exempt walk.now = false) (external : node.kind.isExternal = true)
      (known : (walk.tables.externalAck node.nodeId).isSome = true) : Settles walk sys made node .deleted
  | pending (notExempt : node.exempt walk.now = false) (external : node.kind.isExternal = true)
      (unknown : walk.tables.externalAck node.nodeId = none) : Settles walk sys made node .externalPending
  | revoked (notExempt : node.exempt walk.now = false) (notExternal : node.kind.isExternal = false)
      (grant : node.kind.isGrant = true) : Settles walk sys made node .revoked
  | deleted {digest : String} (takes : walk.TakesArtifact node digest)
      (removes : walk.Removes sys made (.node node) digest) : Settles walk sys made node .deleted
  | refused {digest : String} (takes : walk.TakesArtifact node digest) (refuses : walk.Refuses sys made node digest) :
      Settles walk sys made node .retainedException
  | failed {digest : String} (takes : walk.TakesArtifact node digest)
      (keeps : ¬ walk.Removes sys made (.node node) digest) (permits : ¬ walk.Refuses sys made node digest) :
      Settles walk sys made node .failed
  | logical (notExempt : node.exempt walk.now = false) (notExternal : node.kind.isExternal = false)
      (notGrant : node.kind.isGrant = false) (target : targetAfter "artifact-sha256:" node.targetRef = none) :
      Settles walk sys made node .deleted

/-- Nothing of artifacts and logs is touched. -/
theorem Reached.idle (reached : walk.Reached sys made sys') {v : Visit P} (revokes : walk.revoked v = none)
    (removes : ∀ digest, ¬ walk.Removes sys made v digest) : walk.Reached sys (made ++ [v]) sys' :=
  reached.snoc rfl rfl (by simp [revokes]) (fun digest gone => absurd gone (removes digest)) (fun _ _ => rfl) rfl
    (fun _ _ => rfl)

theorem TakesArtifact.unique {node : DispositionLineageNode P} {digest other : String}
    (takes : walk.TakesArtifact node digest) (also : walk.TakesArtifact node other) : other = digest :=
  Option.some.inj (also.target.symm.trans takes.target)

/-- A well-formed deletion that is not permitted raises what forbids it. -/
theorem deleteDigest_of_forbidden {a : ContentAddressedArtifactStore P} {digest : String} {checkedAt : DateTime} {e : Error}
    (wellFormed : P.isSha256 digest = true) (forbidden : a.deletionPolicy digest true false checkedAt = .error e)
    (actor : String) (recordedAt : DateTime) :
    ContentAddressedArtifactStore.deleteDigest digest actor true false checkedAt recordedAt a = (.error e, a) := by
  simp only [ContentAddressedArtifactStore.deleteDigest, Call.read_bind, id, wellFormed, Bool.not_true, Bool.false_eq_true,
    if_false]
  exact Call.bind_of_error (by rw [Call.lift_apply, forbidden])

/-- A deletion that did not go through had a reason. -/
theorem artifactOutcome_error {a a' : ContentAddressedArtifactStore P} {digest actor : String} {checkedAt recordedAt : DateTime}
    {e : Error} (raised : ContentAddressedArtifactStore.deleteDigest digest actor true false checkedAt recordedAt a =
      (.error e, a')) :
    a' = a ∧ (∀ policy, ¬ a.Deletable digest true false checkedAt policy) ∧
      ((∃ message, e = .permissionError message ∧ P.isSha256 digest = true ∧
        a.deletionPolicy digest true false checkedAt = .error e) ∨
      ((artifactOutcome (.error e)).1 = .failed ∧ ¬ (P.isSha256 digest = true ∧
        ∃ message, a.deletionPolicy digest true false checkedAt = .error (.permissionError message)))) := by
  have other : (∀ message, e ≠ .permissionError message) → ¬ (P.isSha256 digest = true ∧
      ∃ message, a.deletionPolicy digest true false checkedAt = .error (.permissionError message)) := by
    rintro apart ⟨wellFormed, message, forbidden⟩
    rw [deleteDigest_of_forbidden wellFormed forbidden] at raised
    cases raised
    exact apart message rfl
  refine ⟨ContentAddressedArtifactStore.deleteDigest_error raised, ?_, ?_⟩
  · intro policy deletable
    rw [ContentAddressedArtifactStore.deleteDigest_of_deletable deletable] at raised
    cases raised
  · cases e with
    | permissionError message =>
        refine .inl ⟨message, rfl, ?_⟩
        simp only [ContentAddressedArtifactStore.deleteDigest, Call.read_bind, id] at raised
        cases wellFormed : P.isSha256 digest with
        | false =>
            rw [wellFormed] at raised
            cases raised
        | true =>
            refine ⟨rfl, ?_⟩
            simp only [wellFormed, Bool.not_true, Bool.false_eq_true, if_false] at raised
            cases permitted : a.deletionPolicy digest true false checkedAt with
            | error e =>
                rw [Call.bind_of_error (by rw [Call.lift_apply, permitted])] at raised
                rw [Except.error.inj (Prod.mk.inj raised).1]
            | ok policy =>
                rw [Call.bind_of_ok (by rw [Call.lift_apply, permitted])] at raised
                split at raised <;> cases raised
    | _ =>
        refine .inr ⟨rfl, other ?_⟩
        intro message same
        cases same

/-- The store once a digest is deleted. -/
theorem Reached.delete (reached : walk.Reached sys made sys') {v : Visit P} {digest actor : String} {catalogued : Bool}
    {recordedAt : DateTime} {sys'' : EvidenceSystem P} (revokes : walk.revoked v = none)
    (removes : walk.Removes sys made v digest) (only : ∀ other, walk.Removes sys made v other → other = digest)
    (attached : sys''.attached = sys'.attached)
    (artifacts : sys''.artifacts = sys'.artifacts.deleted digest actor true false catalogued recordedAt)
    (items : sys''.store.evidenceItems = sys'.store.evidenceItems)
    (logs : ∀ evidenceId, v.erased ≠ some evidenceId →
      sys''.store.lifecycleLog evidenceId = sys'.store.lifecycleLog evidenceId) : walk.Reached sys (made ++ [v]) sys'' := by
  have catalog : sys''.artifacts.catalog.registrations = sys'.artifacts.catalog.registrations ∧
      sys''.artifacts.catalog.artifactReferences = sys'.artifacts.catalog.artifactReferences := by
    rw [artifacts, ContentAddressedArtifactStore.deleted]
    cases catalogued with
    | false => exact ⟨rfl, rfl⟩
    | true =>
        simp only [if_true, ArtifactCatalog.recordGcEvent]
        split <;> exact ⟨rfl, rfl⟩
  refine reached.snoc attached catalog.1 ?_ ?_ ?_ items logs
  · simp [catalog.2, revokes]
  · intro other gone
    rw [artifacts, ContentAddressedArtifactStore.get?_deleted, if_pos (only other gone)]
  · intro other stays
    rw [artifacts, ContentAddressedArtifactStore.get?_deleted, if_neg]
    rintro rfl
    exact stays removes

/-- One node: it settles, and the walk has made one more visit. -/
theorem Reached.node (reached : walk.Reached sys made sys') (node : DispositionLineageNode P) :
    ∃ outcome sys'', settleNode walk.tables walk.request.actor walk.now walk.draws node sys' = (.ok outcome, sys'') ∧
      walk.Settles sys made node outcome.1 ∧ walk.Reached sys (made ++ [.node node]) sys'' := by
  have untaken : (∀ digest, ¬ walk.TakesArtifact node digest) → ∀ digest, ¬ walk.Removes sys made (.node node) digest :=
    fun none digest removes => none digest removes.1
  unfold settleNode
  cases exempt : node.exempt walk.now with
  | true =>
      refine ⟨_, _, rfl, .exempt exempt, reached.idle (by simp [revoked, exempt]) (untaken ?_)⟩
      intro digest takes
      exact absurd takes.notExempt (by simp [exempt])
  | false =>
      simp only [Bool.false_eq_true, if_false]
      cases external : node.kind.isExternal with
      | true =>
          have idle : walk.Reached sys (made ++ [.node node]) sys' := by
            refine reached.idle (by simp [revoked, external]) (untaken ?_)
            intro digest takes
            exact absurd takes.notExternal (by simp [external])
          simp only [if_true]
          cases known : walk.tables.externalAck node.nodeId with
          | none => exact ⟨_, _, rfl, .pending exempt external known, idle⟩
          | some receipt => exact ⟨_, _, rfl, .acknowledged exempt external (by rw [known]; rfl), idle⟩
      | false =>
          simp only [Bool.false_eq_true, if_false]
          cases grant : node.kind.isGrant with
          | true =>
              have keeps : ∀ digest, ¬ walk.Removes sys made (.node node) digest := by
                refine untaken ?_
                intro digest takes
                exact absurd takes.notGrant (by simp [grant])
              simp only [if_true]
              cases target : targetAfter "artifact-reference:" node.targetRef with
              | none =>
                  exact ⟨_, _, rfl, .revoked exempt external grant,
                    reached.idle (by simp [revoked, target]) keeps⟩
              | some reference =>
                  refine ⟨_, _, rfl, .revoked exempt external grant, reached.snoc rfl rfl ?_ ?_ (fun _ _ => rfl) rfl
                    (fun _ _ => rfl)⟩
                  · simp only [revoked, exempt, external, grant, target, Bool.not_false, Bool.and_self, if_true]
                    simp [Call.modify, ArtifactCatalog.removeReference, eq_comm]
                  · exact fun digest removes => absurd removes (keeps digest)
          | false =>
              have revokes : walk.revoked (.node node) = none := by simp [revoked, grant]
              simp only [Bool.false_eq_true, if_false]
              cases target : targetAfter "artifact-sha256:" node.targetRef with
              | none =>
                  refine ⟨_, _, rfl, .logical exempt external grant target, reached.idle revokes (untaken ?_)⟩
                  intro digest takes
                  exact absurd takes.target (by simp [target])
              | some digest =>
                  have takes : walk.TakesArtifact node digest := ⟨exempt, external, grant, target⟩
                  have only : ∀ other, walk.Removes sys made (.node node) other → other = digest :=
                    fun other removes => takes.unique removes.1
                  dsimp only
                  rcases deletion : ContentAddressedArtifactStore.deleteDigest digest walk.request.actor true false
                    (walk.draws.checkedAt node.nodeId) (walk.draws.recordedAt node.nodeId) sys'.artifacts with ⟨r, a⟩
                  rw [Call.bind_of_ok (by rw [Call.attempt_apply, onArtifacts_of_eq deletion])]
                  cases r with
                  | error e =>
                      obtain ⟨rfl, refused, reason⟩ := artifactOutcome_error deletion
                      have keeps : ¬ walk.Removes sys made (.node node) digest := by
                        rintro ⟨-, policy, deletable⟩
                        exact refused policy (reached.deletable_iff.mpr deletable)
                      have idle : walk.Reached sys (made ++ [.node node]) sys' := by
                        refine reached.idle revokes ?_
                        intro other removes
                        rw [only other removes] at removes
                        exact keeps removes
                      refine ⟨_, _, rfl, ?_, idle⟩
                      rcases reason with ⟨message, rfl, wellFormed, permission⟩ | ⟨failed, permits⟩
                      · exact .refused takes ⟨wellFormed, message, (reached.deletionPolicy _ _).symm.trans permission⟩
                      · rw [failed]
                        refine .failed takes keeps ?_
                        rintro ⟨wellFormed, message, forbidden⟩
                        exact permits ⟨wellFormed, message, (reached.deletionPolicy _ _).trans forbidden⟩
                  | ok receipt =>
                      obtain ⟨policy, deletable, -, rfl⟩ := ContentAddressedArtifactStore.deleteDigest_ok deletion
                      have removes : walk.Removes sys made (.node node) digest :=
                        ⟨takes, policy, reached.deletable_iff.mp deletable⟩
                      exact ⟨_, _, rfl, .deleted takes removes, reached.delete revokes removes only rfl rfl rfl
                        (fun _ _ => rfl)⟩

/-! ## Erasing an item -/

/-- Every state but DELETED may be followed by it. -/
theorem deleted_legal {state : EvidenceContentState} (live : state ≠ .deleted) : .deleted ∈ legalTransitions state := by
  cases state <;> simp [legalTransitions] at live ⊢

theorem TakesContent.unique {evidenceId : UUID} {digest other : String} (takes : walk.TakesContent sys evidenceId digest)
    (also : walk.TakesContent sys evidenceId other) : other = digest := by
  obtain ⟨item, found, rfl⟩ := takes.item
  obtain ⟨item', found', rfl⟩ := also.item
  rw [found] at found'
  rw [Option.some.inj found']

/-- What an admitted erasure does: its content goes where it is deletable, and only
    its own log may have grown. -/
theorem transition_erasure {request : TransitionRequest} {drawn : Drawn} {item : EvidenceItem}
    {current : EvidenceLifecycleProjection} (deletes : request.toState = .deleted)
    (admitted : Admitted sys'.store request drawn.projectedAt item current) :
    let after := (transition request drawn sys').2
    after.attached = sys'.attached ∧
    (∀ evidenceId, request.evidenceId ≠ evidenceId →
      after.store.lifecycleLog evidenceId = sys'.store.lifecycleLog evidenceId) ∧
    after.store.evidenceItems = sys'.store.evidenceItems ∧
    ((after.artifacts = sys'.artifacts ∧ (sys'.attached = true → ∀ policy,
        ¬ sys'.artifacts.Deletable item.contentSha256 true false drawn.checkedAt policy)) ∨
      ∃ policy, sys'.attached = true ∧ sys'.artifacts.Deletable item.contentSha256 true false drawn.checkedAt policy ∧
        after.artifacts = sys'.artifacts.deleted item.contentSha256 request.actor true false policy.isSome drawn.recordedAt) := by
  intro after
  -- the rest of the transition works on the journal store alone
  have beyond : ∀ deletion sys₁, Removed sys' request item drawn deletion sys₁ →
      after.attached = sys₁.attached ∧ after.artifacts = sys₁.artifacts ∧
      (∀ evidenceId, request.evidenceId ≠ evidenceId →
        after.store.lifecycleLog evidenceId = sys₁.store.lifecycleLog evidenceId) ∧
      after.store.evidenceItems = sys₁.store.evidenceItems := by
    intro deletion sys₁ removed
    have whole : after = _ := congrArg Prod.snd (transition_of_removed admitted removed)
    cases built : buildEvent P request item current drawn deletion with
    | error e =>
        rw [Call.bind_of_error (by rw [Call.lift_apply, built])] at whole
        rw [whole]
        exact ⟨rfl, rfl, fun _ _ => rfl, rfl⟩
    | ok event =>
        rw [Call.bind_of_ok (by rw [Call.lift_apply, built])] at whole
        have own : event.evidenceId = request.evidenceId := by
          unfold buildEvent at built
          split at built
          · cases built
          · rw [(validate_ok built).1]
            rfl
        refine ⟨by rw [whole]; rfl, by rw [whole]; rfl, ?_, ?_⟩
        · intro evidenceId apart
          rw [whole, onStore_store]
          exact record_keeps_logs (own ▸ apart) request item drawn sys₁.store
        · rw [whole, onStore_store]
          exact record_keeps_items event request item drawn sys₁.store
  rcases removeContent_cases sys' request item drawn with ⟨e, raised⟩ | ⟨deletion, sys₁, removed⟩
  · have whole : transition request drawn sys' = (.error e, sys') := by
      simp only [transition, Call.read_bind, id]
      rw [Call.bind_of_ok (by rw [Call.lift_apply, admitTransition_ok.mpr admitted]), Call.bind_of_error raised]
    have same : after = sys' := congrArg Prod.snd whole
    rw [same]
    refine ⟨rfl, fun _ _ => rfl, rfl, .inl ⟨rfl, ?_⟩⟩
    intro attached policy deletable
    rw [removeContent_of_removed (.deleted deletes attached deletable)] at raised
    cases raised
  · obtain ⟨attached, artifacts, logs, items⟩ := beyond deletion sys₁ removed
    cases removed with
    | untouched keeps => exact absurd deletes keeps
    | unattached _ unattached =>
        refine ⟨attached, logs, items, .inl ⟨artifacts, ?_⟩⟩
        intro connected
        rw [unattached] at connected
        cases connected
    | @deleted policy _ connected deletable =>
        exact ⟨attached, logs, items, .inr ⟨policy, connected, deletable, artifacts⟩⟩

/-- Items are looked up in the same table. -/
theorem allEvidence_congr {s s' : Store P} (items : s'.evidenceItems = s.evidenceItems) : s'.allEvidence = s.allEvidence := by
  rw [Store.allEvidence, Store.allEvidence, items]

theorem lifecycleProjection_congr {s s' : Store P} (items : s'.evidenceItems = s.evidenceItems) {evidenceId : UUID}
    (log : s'.lifecycleLog evidenceId = s.lifecycleLog evidenceId) (now : DateTime) :
    s'.lifecycleProjection evidenceId now = s.lifecycleProjection evidenceId now := by
  rw [Store.lifecycleProjection, Store.lifecycleProjection, Store.evidenceRow, Store.evidenceRow, items,
    Store.lifecycleEvents, Store.lifecycleEvents, log]

/-- The `try` itself: the state it leaves is one more visit on. -/
theorem Reached.eraseEvidence (reached : walk.Reached sys made sys') {evidenceId : UUID}
    (first : evidenceId ∉ made.filterMap Visit.erased) :
    walk.Reached sys (made ++ [.erasure evidenceId])
      (PrivacyDispositionService.eraseEvidence walk.request walk.now walk.draws evidenceId sys').2 := by
  have projections := lifecycleProjection_congr reached.items (reached.logs evidenceId first)
  have found := allEvidence_congr reached.items
  have idle : (∀ digest, ¬ walk.TakesContent sys evidenceId digest) → walk.Reached sys (made ++ [.erasure evidenceId]) sys' :=
    fun none => reached.idle rfl (fun digest removes => none digest removes.1)
  unfold PrivacyDispositionService.eraseEvidence
  rw [Call.read_bind]
  cases projected : sys'.store.lifecycleProjection evidenceId (walk.draws.transition evidenceId).projectedAt with
  | error e =>
      rw [Call.bind_of_error (by rw [Call.lift_apply]; exact congrArg (·, sys') projected)]
      refine idle ?_
      intro digest takes
      obtain ⟨projection, live, -⟩ := takes.live
      rw [← projections, projected] at live
      cases live
  | ok projection =>
      rw [Call.bind_of_ok (by rw [Call.lift_apply]; exact congrArg (·, sys') projected)]
      by_cases live : projection.state ≠ .deleted
      · rw [if_pos live, Call.bind_pure_state]
        cases item : sys'.store.allEvidence.find? (fun item => item.evidenceId = evidenceId) with
        | none =>
            have untouched : (transition (erasureRequest walk.request evidenceId projection.version walk.now)
                (walk.draws.transition evidenceId) sys').2 = sys' := by
              simp only [transition, Call.read_bind, id]
              rcases checked : admitTransition sys'.store (erasureRequest walk.request evidenceId projection.version walk.now)
                (walk.draws.transition evidenceId).projectedAt with e | ⟨item', current⟩
              · rw [Call.bind_of_error (Call.lift_apply _ _)]
              · have found' := (admitTransition_ok.mp checked).found
                rw [erasureRequest, item] at found'
                cases found'
            rw [untouched]
            refine idle ?_
            intro digest takes
            obtain ⟨item', found', -⟩ := takes.item
            rw [← found, item] at found'
            cases found'
        | some item' =>
            have admitted : Admitted sys'.store (erasureRequest walk.request evidenceId projection.version walk.now)
                (walk.draws.transition evidenceId).projectedAt item' projection := {
              found := item
              projected := projected
              version := rfl
              legal := deleted_legal live
              expired := by
                intro expired
                cases expired }
            obtain ⟨attached, logs, items, outcome⟩ := transition_erasure rfl admitted
            have takes : sys'.attached = true → walk.TakesContent sys evidenceId item'.contentSha256 := by
              intro connected
              exact ⟨reached.attached ▸ connected, ⟨item', found ▸ item, rfl⟩,
                ⟨projection, (projections _).symm.trans projected, live⟩⟩
            have apart : ∀ other, (Visit.erasure evidenceId : Visit P).erased ≠ some other → evidenceId ≠ other :=
              fun other distinct same => distinct (same ▸ rfl)
            rcases outcome with ⟨artifacts, refused⟩ | ⟨policy, connected, deletable, artifacts⟩
            · refine reached.snoc attached (by rw [artifacts]) ?_ ?_ (fun _ _ => by rw [artifacts]) items
                (fun other distinct => logs other (apart other distinct))
              · rw [artifacts]
                simp [revoked]
              · rintro digest ⟨takes', policy, deletable⟩
                have connected : sys'.attached = true := reached.attached.trans takes'.attached
                rw [takes'.unique (takes connected)] at refused
                exact absurd (reached.deletable_iff.mpr deletable) (refused connected policy)
            · exact reached.delete rfl ⟨takes connected, policy, reached.deletable_iff.mp deletable⟩
                (fun other removes => (takes connected).unique removes.1) attached artifacts items
                (fun other distinct => logs other (apart other distinct))
      · rw [if_neg live]
        refine idle ?_
        intro digest takes
        obtain ⟨projection', projected', live'⟩ := takes.live
        rw [← projections, projected, Except.ok.injEq] at projected'
        rw [← projected'] at live'
        exact live live'

/-! ## The whole walk -/

/-- The erasure of an item goes through after the visits before it. -/
def Erases (walk : Walk P) (sys : EvidenceSystem P) (made : List (Visit P)) (evidenceId : UUID) : Prop :=
  ∃ results sys', walk.visitAll made sys = (.ok results, sys') ∧
    (PrivacyDispositionService.eraseEvidence walk.request walk.now walk.draws evidenceId sys').1 = .ok ()

/-- What a visit adds to the results. -/
inductive Reports (walk : Walk P) (sys : EvidenceSystem P) (made : List (Visit P)) :
    Visit P → List DispositionNodeResult → Prop where
  | node {node : DispositionLineageNode P} {outcome : Outcome} (settles : walk.Settles sys made node outcome.1) :
      Reports walk sys made (.node node) [nodeResult P node walk.now outcome]
  | erased {evidenceId : UUID} (erases : walk.Erases sys made evidenceId) : Reports walk sys made (.erasure evidenceId) []
  | failed {evidenceId : UUID} {e : Error} (stops : ¬ walk.Erases sys made evidenceId) :
      Reports walk sys made (.erasure evidenceId) [erasureFailure P walk.request.requestId evidenceId walk.now e]

/-- Nothing is left undone by a visit: no exception is in force, recipients have
    acknowledged, artifacts go, and the item is erased. -/
def Passes (walk : Walk P) (sys : EvidenceSystem P) (before : List (Visit P)) : Visit P → Prop
  | .node node => node.exempt walk.now = false ∧
      (node.kind.isExternal = true → (walk.tables.externalAck node.nodeId).isSome = true) ∧
      ∀ digest, walk.TakesArtifact node digest → walk.Removes sys before (.node node) digest
  | .erasure evidenceId => walk.Erases sys before evidenceId

theorem Settles.passes_iff {node : DispositionLineageNode P} {status : DispositionNodeStatus}
    (settles : walk.Settles sys made node status) : walk.Passes sys made (.node node) ↔ status.isUnresolved = false := by
  cases settles with
  | exempt exempt => simp [Passes, exempt, DispositionNodeStatus.isUnresolved]
  | acknowledged notExempt external known =>
      have untaken : ∀ digest, ¬ walk.TakesArtifact node digest := fun digest takes => by
        simp [takes.notExternal] at external
      simp [Passes, notExempt, known, untaken, DispositionNodeStatus.isUnresolved]
  | pending notExempt external unknown => simp [Passes, external, unknown, DispositionNodeStatus.isUnresolved]
  | revoked notExempt notExternal grant =>
      have untaken : ∀ digest, ¬ walk.TakesArtifact node digest := fun digest takes => by simp [takes.notGrant] at grant
      simp [Passes, notExempt, notExternal, untaken, DispositionNodeStatus.isUnresolved]
  | @deleted digest takes removes =>
      refine iff_of_true ⟨takes.notExempt, ?_, ?_⟩ rfl
      · intro external
        simp [takes.notExternal] at external
      · intro other also
        rw [takes.unique also]
        exact removes
  | refused takes refuses =>
      refine iff_of_false ?_ (by simp [DispositionNodeStatus.isUnresolved])
      rintro ⟨-, -, all⟩
      obtain ⟨-, policy, deletable⟩ := all _ takes
      obtain ⟨-, message, forbidden⟩ := refuses
      rw [deletable.permitted] at forbidden
      cases forbidden
  | failed takes keeps permits =>
      refine iff_of_false ?_ (by simp [DispositionNodeStatus.isUnresolved])
      rintro ⟨-, -, all⟩
      exact keeps (all _ takes)
  | logical notExempt notExternal notGrant target =>
      have untaken : ∀ digest, ¬ walk.TakesArtifact node digest := fun digest takes => by simp [takes.target] at target
      simp [Passes, notExempt, notExternal, untaken, DispositionNodeStatus.isUnresolved]

/-- A node is reported as retained where it is exempt, and where its artifact is
    refused. -/
theorem Settles.retained_iff {node : DispositionLineageNode P} {status : DispositionNodeStatus}
    (settles : walk.Settles sys made node status) {digest : String}
    (target : targetAfter "artifact-sha256:" node.targetRef = some digest) :
    walk.Retains sys made (.node node) digest ↔ status = .retainedException := by
  have same : ∀ {other : String}, walk.TakesArtifact node other → other = digest :=
    fun takes => Option.some.inj (takes.target.symm.trans target)
  cases settles with
  | exempt exempt => exact iff_of_true ⟨target, .inl exempt⟩ rfl
  | refused takes refuses =>
      obtain rfl := same takes
      exact iff_of_true ⟨target, .inr ⟨takes, refuses⟩⟩ rfl
  | acknowledged notExempt external known =>
      refine iff_of_false ?_ (by simp)
      rintro ⟨-, exempt | ⟨takes, -⟩⟩
      · simp [notExempt] at exempt
      · simp [takes.notExternal] at external
  | pending notExempt external unknown =>
      refine iff_of_false ?_ (by simp)
      rintro ⟨-, exempt | ⟨takes, -⟩⟩
      · simp [notExempt] at exempt
      · simp [takes.notExternal] at external
  | revoked notExempt notExternal grant =>
      refine iff_of_false ?_ (by simp)
      rintro ⟨-, exempt | ⟨takes, -⟩⟩
      · simp [notExempt] at exempt
      · simp [takes.notGrant] at grant
  | deleted takes removes =>
      refine iff_of_false ?_ (by simp)
      rintro ⟨-, exempt | ⟨-, refuses⟩⟩
      · simp [takes.notExempt] at exempt
      · obtain ⟨-, policy, deletable⟩ := removes
        obtain ⟨-, message, forbidden⟩ := refuses
        rw [same takes] at deletable
        rw [deletable.permitted] at forbidden
        cases forbidden
  | failed takes keeps permits =>
      refine iff_of_false ?_ (by simp)
      rintro ⟨-, exempt | ⟨-, refuses⟩⟩
      · simp [takes.notExempt] at exempt
      · rw [same takes] at permits
        exact permits refuses
  | logical notExempt notExternal notGrant none =>
      rw [target] at none
      cases none

/-- A visit passes when none of its results keeps the request open. -/
theorem Reports.passes_iff {v : Visit P} {reported : List DispositionNodeResult} (reports : walk.Reports sys made v reported) :
    walk.Passes sys made v ↔ ∀ result ∈ reported, result.status.isUnresolved = false := by
  cases reports with
  | node settles => simpa [nodeResult] using settles.passes_iff
  | erased erases => exact iff_of_true erases (by simp)
  | failed stops => exact iff_of_false stops (by simp [erasureFailure, DispositionNodeStatus.isUnresolved])

theorem Reached.visit (reached : walk.Reached sys made sys') {earlier : List DispositionNodeResult}
    (walked : walk.visitAll made sys = (.ok earlier, sys')) (v : Visit P)
    (first : ∀ evidenceId, v.erased = some evidenceId → evidenceId ∉ made.filterMap Visit.erased) :
    ∃ results sys'', walk.visit v sys' = (.ok results, sys'') ∧ walk.Reports sys made v results ∧
      walk.Reached sys (made ++ [v]) sys'' := by
  cases v with
  | node node =>
      obtain ⟨outcome, sys'', settled, settles, after⟩ := reached.node node
      exact ⟨_, sys'', Call.bind_of_ok settled, .node settles, after⟩
  | erasure evidenceId =>
      have after := reached.eraseEvidence (first evidenceId rfl)
      rcases erased : PrivacyDispositionService.eraseEvidence walk.request walk.now walk.draws evidenceId sys' with ⟨r, sys''⟩
      rw [erased] at after
      have attempted : Call.attempt (PrivacyDispositionService.eraseEvidence walk.request walk.now walk.draws evidenceId) sys' =
          (.ok r, sys'') := by rw [Call.attempt_apply, erased]
      cases r with
      | error e =>
          refine ⟨_, sys'', Call.bind_of_ok attempted, .failed ?_, after⟩
          rintro ⟨results, mid, walked', returns⟩
          rw [walked] at walked'
          rw [← (Prod.mk.inj walked').2, erased] at returns
          cases returns
      | ok _ =>
          exact ⟨_, sys'', Call.bind_of_ok attempted, .erased ⟨earlier, sys', walked, by rw [erased]⟩, after⟩

theorem visitAll_append (first later : List (Visit P)) :
    walk.visitAll (first ++ later) = (do
      let results ← walk.visitAll first
      let rest ← walk.visitAll later
      pure (results ++ rest) : SystemCall P (List DispositionNodeResult)) := by
  induction first with
  | nil => simp [visitAll]
  | cons v first ih => simp only [List.cons_append, visitAll, ih, bind_assoc, pure_bind, List.append_assoc]

/-- The walk returns; its results are those of the visits, and where it ends can be
    told from where it started. -/
theorem Reached.visitAll (reached : walk.Reached sys made sys') {earlier : List DispositionNodeResult}
    (walked : walk.visitAll made sys = (.ok earlier, sys')) (todo : List (Visit P))
    (distinct : ((made ++ todo).filterMap Visit.erased).Nodup) :
    ∃ results sys'', walk.visitAll todo sys' = (.ok results, sys'') ∧ walk.Reached sys (made ++ todo) sys'' ∧
      (∀ result ∈ results, ∃ before v after reported, todo = before ++ v :: after ∧
        walk.Reports sys (made ++ before) v reported ∧ result ∈ reported) ∧
      ∀ before v after, todo = before ++ v :: after →
        ∃ reported, walk.Reports sys (made ++ before) v reported ∧ reported ⊆ results := by
  induction todo generalizing made sys' earlier with
  | nil => exact ⟨[], sys', rfl, by simpa using reached, by simp, by simp⟩
  | cons v todo ih =>
      have first : ∀ evidenceId, v.erased = some evidenceId → evidenceId ∉ made.filterMap Visit.erased := by
        intro evidenceId erased member
        rw [List.filterMap_append, List.nodup_append, List.filterMap_cons_some erased] at distinct
        exact distinct.2.2 evidenceId member evidenceId List.mem_cons_self rfl
      obtain ⟨reported, sys₁, visited, reports, after⟩ := reached.visit walked v first
      have further : walk.visitAll (made ++ [v]) sys = (.ok (earlier ++ (reported ++ [])), sys₁) := by
        rw [visitAll_append, Call.bind_of_ok walked, Walk.visitAll, bind_assoc, Call.bind_of_ok visited]
        rfl
      obtain ⟨rest, sys'', visitedRest, ended, listed, complete⟩ := ih after further (by simpa using distinct)
      refine ⟨reported ++ rest, sys'', ?_, by simpa using ended, ?_, ?_⟩
      · rw [Walk.visitAll, Call.bind_of_ok visited, Call.bind_of_ok visitedRest]
        rfl
      · intro result member
        rcases List.mem_append.mp member with here | later
        · exact ⟨[], v, todo, reported, rfl, by simpa using reports, here⟩
        · obtain ⟨before, w, behind, own, rfl, reportsOwn, inOwn⟩ := listed result later
          exact ⟨v :: before, w, behind, own, rfl, by simpa using reportsOwn, inOwn⟩
      · intro before w behind split
        cases before with
        | nil =>
            obtain ⟨rfl, rfl⟩ := List.cons.inj split
            exact ⟨reported, by simpa using reports, List.subset_append_left _ _⟩
        | cons u before =>
            obtain ⟨rfl, rfl⟩ := List.cons.inj split
            obtain ⟨own, reportsOwn, within⟩ := complete before w behind rfl
            exact ⟨own, by simpa using reportsOwn, fun _ listed => List.subset_append_right _ _ (within listed)⟩

theorem visitAll_nodes (nodes : List (DispositionLineageNode P)) :
    walk.visitAll (nodes.map .node) = closeNodes walk.tables walk.request.actor walk.now walk.draws nodes := by
  induction nodes with
  | nil => rfl
  | cons node nodes ih => simp [visitAll, visit, closeNodes, ih]

/-- Closing the items is walking their visits. -/
theorem closeItems_eq (evidenceIds : List UUID) :
    closeItems walk.tables walk.request walk.now walk.draws evidenceIds =
      walk.visitAll (evidenceIds.flatMap (fun evidenceId => (walk.tables.nodes evidenceId).map .node ++
        if walk.request.action = .erase then [.erasure evidenceId] else [])) := by
  induction evidenceIds with
  | nil => rfl
  | cons evidenceId evidenceIds ih =>
      rw [List.flatMap_cons, visitAll_append, visitAll_append, visitAll_nodes, closeItems, ih]
      by_cases erases : walk.request.action = .erase
      · simp only [erases, if_true, visitAll, visit, bind_assoc, pure_bind, List.append_assoc, List.append_nil]
      · simp only [erases, if_false, visitAll, bind_assoc, pure_bind, List.append_assoc, List.append_nil, List.nil_append]

end Walk

/-! ## Closing -/

/-- The walk that closing a request makes. -/
def walkOf (sys : PrivacySystem P) (request : DispositionRequest P) (now : DateTime) (draws : CloseDraws) : Walk P :=
  ⟨sys.disposition, request, now, draws⟩

/-- The tables between the walk and the final update. -/
def settled (sys : PrivacySystem P) (request : DispositionRequest P) (requestId : UUID)
    (results : List DispositionNodeResult) : DispositionStore P :=
  let inProgress := sys.disposition.updateRequest requestId { request with status := .inProgress }
  if (closureOutcome results).1 = .completed then liftRestrictions request inProgress else inProgress

theorem fileReport_eq (request : DispositionRequest P) (requestId : UUID) (now : DateTime) (report : DispositionReport P)
    (sys : PrivacySystem P) :
    fileReport request requestId now report sys =
      match recorded sys.evidence.store requestId now report.modelDump with
      | (.ok _, s) => (.ok report, {
          evidence := { sys.evidence with store := s }
          disposition := sys.disposition.updateRequest requestId
            { request with status := report.status, terminalOutcome := some report.terminalOutcome }
          observed := sys.observed ++ if report.status = .completed then [.completed requestId] else [] })
      | (.error e, s) => (.error e, { sys with evidence := { sys.evidence with store := s } }) := by
  rcases call : recorded sys.evidence.store requestId now report.modelDump with ⟨r, s⟩
  unfold fileReport
  cases r with
  | error e =>
      apply Call.bind_of_error
      simp only [transaction, execute, Call.modify_bind, authority_eq, call]
      rfl
  | ok position =>
      have recordedOk : transaction (do
          execute (fun d => d.updateRequest requestId
            { request with status := report.status, terminalOutcome := some report.terminalOutcome })
          authority requestId now report.modelDump) sys = (.ok (), {
            evidence := { sys.evidence with store := s }
            disposition := sys.disposition.updateRequest requestId
              { request with status := report.status, terminalOutcome := some report.terminalOutcome }
            observed := sys.observed }) := by
        simp only [transaction, execute, Call.modify_bind, authority_eq, call]
        rfl
      rw [Call.bind_of_ok recordedOk]
      by_cases completes : report.status = .completed
      · simp only [completes, if_true, observe, Call.modify_bind]
        rfl
      · simp only [completes, if_false, List.append_nil]
        rfl

/-- Closing a known request: the walk, the restrictions lifted where it completed, and
    the final update with its entry in the authority journal, or without both. -/
theorem close_eq {sys : PrivacySystem P} {requestId : UUID} {request : DispositionRequest P} {now : DateTime}
    {draws : CloseDraws} {results : List DispositionNodeResult} {walked : EvidenceSystem P}
    (found : sys.disposition.request requestId = .ok request)
    (visited : (walkOf sys request now draws).visitAll (visits sys.disposition request) sys.evidence = (.ok results, walked)) :
    close requestId now draws sys = fileReport request requestId now (closureReport request now results)
      { sys with evidence := walked, disposition := settled sys request requestId results } := by
  have items : closeItems sys.disposition request now draws request.evidenceIds sys.evidence = (.ok results, walked) := by
    have walks := @Walk.closeItems_eq _ (walkOf sys request now draws) request.evidenceIds
    exact (congrArg (fun call => call sys.evidence) walks).trans visited
  simp only [close, Call.read_bind, id]
  rw [Call.bind_of_ok (by rw [Call.lift_apply, found])]
  simp only [execute, Call.modify_bind]
  have walkedFrom : onEvidence (closeItems sys.disposition request now draws request.evidenceIds)
      { sys with disposition := sys.disposition.updateRequest requestId { request with status := .inProgress } } =
      (.ok results, { sys with
        disposition := sys.disposition.updateRequest requestId { request with status := .inProgress }
        evidence := walked }) := onEvidence_of_eq items
  rw [Call.bind_of_ok walkedFrom]
  simp only [Call.modify_bind]
  rfl

/-- A request comes to be completed when nothing keeps it open. -/
theorem closureOutcome_completed {results : List DispositionNodeResult} :
    (closureOutcome results).1 = .completed ↔ ∀ result ∈ results, result.status.isUnresolved = false := by
  have none : ∀ status, countStatus status results = 0 ↔ ∀ result ∈ results, result.status ≠ status := by
    intro status
    simp [countStatus, List.countP_eq_zero]
  unfold closureOutcome
  constructor
  · intro completes result member
    by_cases failed : countStatus .failed results = 0
    · by_cases pending : countStatus .externalPending results = 0
      · by_cases retained : countStatus .retainedException results = 0
        · have apart := (none _).mp failed result member
          have apart' := (none _).mp pending result member
          have apart'' := (none _).mp retained result member
          cases status : result.status <;> simp_all [DispositionNodeStatus.isUnresolved]
        · simp [failed, pending, retained] at completes
      · simp [failed, pending] at completes
    · simp [failed] at completes
  · intro resolved
    have zero : ∀ status : DispositionNodeStatus, status.isUnresolved = true → countStatus status results = 0 := by
      intro status unresolved
      refine (none status).mpr ?_
      rintro result member rfl
      rw [resolved result member] at unresolved
      cases unresolved
    simp [zero .failed rfl, zero .externalPending rfl, zero .retainedException rfl]

/-- The walk of a request from the state before it: where it ends, and what it
    reports. -/
structure Walked (walk : Walk P) (sys : EvidenceSystem P) (todo : List (Visit P)) (results : List DispositionNodeResult)
    (sys' : EvidenceSystem P) : Prop where
  visited : walk.visitAll todo sys = (.ok results, sys')
  reached : walk.Reached sys todo sys'
  listed : ∀ result ∈ results, ∃ before v after reported, todo = before ++ v :: after ∧
    walk.Reports sys before v reported ∧ result ∈ reported
  complete : ∀ before v after, todo = before ++ v :: after →
    ∃ reported, walk.Reports sys before v reported ∧ reported ⊆ results

theorem visits_erased (d : DispositionStore P) (request : DispositionRequest P) :
    (visits d request).filterMap Visit.erased = if request.action = .erase then request.evidenceIds else [] := by
  have nodes : ∀ evidenceId, ((d.nodes evidenceId).map Visit.node).filterMap Visit.erased = [] := by
    intro evidenceId
    simp [List.filterMap_map, Visit.erased]
  unfold visits
  induction request.evidenceIds with
  | nil => simp
  | cons evidenceId evidenceIds ih =>
      rw [List.flatMap_cons, List.filterMap_append, ih, List.filterMap_append, nodes]
      by_cases erases : request.action = .erase
      · simp [erases, Visit.erased]
      · simp [erases]

theorem walked_of_request (sys : PrivacySystem P) (request : DispositionRequest P) (now : DateTime) (draws : CloseDraws)
    (distinct : request.action = .erase → request.evidenceIds.Nodup) :
    ∃ results walked, Walked (walkOf sys request now draws) sys.evidence (visits sys.disposition request) results walked := by
  have once : ((visits sys.disposition request).filterMap Visit.erased).Nodup := by
    rw [visits_erased]
    split
    · exact distinct ‹_›
    · exact List.nodup_nil
  obtain ⟨results, walked, visited, reached, listed, complete⟩ :=
    (Walk.Reached.refl (walkOf sys request now draws) sys.evidence).visitAll (rfl : _ = (Except.ok [], _))
      (visits sys.disposition request) once
  exact ⟨results, walked, visited, reached, listed, complete⟩

/-- Closing completes when every visit passes. -/
theorem Walked.completes_iff {walk : Walk P} {sys sys' : EvidenceSystem P} {todo : List (Visit P)}
    {results : List DispositionNodeResult} (walked : Walked walk sys todo results sys') :
    (closureOutcome results).1 = .completed ↔
      ∀ before v after, todo = before ++ v :: after → walk.Passes sys before v := by
  rw [closureOutcome_completed]
  constructor
  · intro resolved before v after split
    obtain ⟨reported, reports, within⟩ := walked.complete before v after split
    exact reports.passes_iff.mpr (fun result member => resolved result (within member))
  · intro passes result member
    obtain ⟨before, v, after, reported, split, reports, own⟩ := walked.listed result member
    exact reports.passes_iff.mp (passes before v after split) result own

/-- What closing a known request leaves behind, whether or not its report could be
    recorded. -/
theorem close_leaves {sys : PrivacySystem P} {requestId : UUID} {request : DispositionRequest P} (now : DateTime)
    (draws : CloseDraws) (found : sys.disposition.request requestId = .ok request)
    (distinct : request.action = .erase → request.evidenceIds.Nodup) :
    ∃ results walked s, Walked (walkOf sys request now draws) sys.evidence (visits sys.disposition request) results walked ∧
      s.domain = walked.store.domain ∧
      (close requestId now draws sys).2.evidence = { walked with store := s } ∧
      (close requestId now draws sys).2.disposition.restrictions = (settled sys request requestId results).restrictions ∧
      ∀ report, (close requestId now draws sys).1 = .ok report → report = closureReport request now results := by
  obtain ⟨results, walked, walks⟩ := walked_of_request sys request now draws distinct
  rw [close_eq found walks.visited, fileReport_eq]
  have domain := recorded_domain walked.store requestId now (closureReport request now results).modelDump
  dsimp only
  rcases answered : recorded walked.store requestId now (closureReport request now results).modelDump with ⟨r, s⟩
  rw [answered] at domain
  refine ⟨results, walked, s, walks, domain, ?_⟩
  cases r with
  | error e =>
      refine ⟨rfl, rfl, ?_⟩
      intro report returned
      cases returned
  | ok position =>
      refine ⟨rfl, rfl, ?_⟩
      intro report returned
      exact (Except.ok.inj returned).symm

end SentinelEdge.Privacy
