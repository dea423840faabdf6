import SentinelEdge.Privacy.Reconciliation
import SentinelEdge.Privacy.Visits

/-! # Runs of the privacy system

An operation does one of four things to the governance of evidence: it registers a
node, files a request, closes one, or leaves requests and restrictions alone.
-/

namespace SentinelEdge.Privacy

open Foundation Domain Storage Evidence EvidenceTrustService PrivacyDispositionService

variable {P : Platform}

/-- The calls of the disposition service, and any call on evidence. -/
inductive PrivacyOperation (P : Platform) where
  | registerNode (arguments : NodeArguments)
  | createRequest (arguments : RequestArguments)
  | acknowledge (nodeId : UUID) (actor receipt : String) (createdAt : DateTime)
  | reconcile (requestId : UUID) (sender : DispositionLineageNode P → SenderAnswer) (actor : String) (now : DateTime)
  | close (requestId : UUID) (now : DateTime) (draws : CloseDraws)
  | evidence (op : SystemOperation P)

namespace PrivacySystem

/-- The system after the call, whether it returned or raised. -/
def step (limits : Limits) (sys : PrivacySystem P) : PrivacyOperation P → PrivacySystem P
  | .registerNode arguments => (registerNode arguments sys).2
  | .createRequest arguments => (createRequest arguments sys).2
  | .acknowledge nodeId actor receipt createdAt => (acknowledgeExternalRecipient nodeId actor receipt createdAt sys).2
  | .reconcile requestId sender actor now => (reconcileExternalRecipients limits requestId sender actor now sys).2
  | .close requestId now draws => (PrivacyDispositionService.close requestId now draws sys).2
  | .evidence op => { sys with evidence := sys.evidence.step op }

/-- New tables beside an artifact store as it is found. -/
def start (artifacts : ContentAddressedArtifactStore P) (attached : Bool) : PrivacySystem P where
  evidence := EvidenceSystem.start artifacts attached

def run (limits : Limits) (artifacts : ContentAddressedArtifactStore P) (attached : Bool) (ops : List (PrivacyOperation P)) :
    PrivacySystem P :=
  Foundation.run (step limits) (start artifacts attached) ops

end PrivacySystem

/-! ## The authority journal takes every entry -/

/-- The journal store represents some journal, so that the recorder never raises. -/
def Journalled (s : Store P) : Prop := ∃ journal, Represents s journal

theorem Journalled.leads {s s' : Store P} (journalled : Journalled s) (leads : Leads s s') : Journalled s' := by
  refine leads.invariant journalled ?_
  rintro a w ⟨journal, rep⟩ -
  obtain ⟨more, rep'⟩ := rep.step w
  exact ⟨_, rep'⟩

theorem Journalled.recorded {s : Store P} (journalled : Journalled s) (entityId : UUID) (createdAt : DateTime)
    (payload : Json) : ∃ position t, recorded s entityId createdAt payload = (.ok position, t) ∧ Journalled t := by
  obtain ⟨journal, rep⟩ := journalled
  obtain ⟨position, t, answered, more, rep'⟩ := recorded_ok rep entityId createdAt payload
  exact ⟨position, t, answered, _, rep'⟩

/-- The system's own journal store. -/
def PrivacySystem.Journalled (sys : PrivacySystem P) : Prop := Privacy.Journalled sys.evidence.store

/-- A journalled system records, and only the journal store changes. -/
theorem authority_of_journalled {sys : PrivacySystem P} (journalled : sys.Journalled) (entityId : UUID)
    (createdAt : DateTime) (payload : Json) :
    ∃ s, authority entityId createdAt payload sys =
      (.ok (), { sys with evidence := { sys.evidence with store := s } }) ∧ Privacy.Journalled s := by
  obtain ⟨position, s, answered, after⟩ := Journalled.recorded journalled entityId createdAt payload
  refine ⟨s, ?_, after⟩
  rw [authority_eq, answered]
  rfl

/-- What every call keeps: the journal store represents some journal, and nothing that
    was observed is forgotten. -/
structure PrivacySystem.Since (observed : List (Observation P)) (sys : PrivacySystem P) : Prop where
  journalled : sys.Journalled
  remembered : observed <+: sys.observed

section Since

open Call

variable {observed : List (Observation P)}

theorem authority_since (entityId : UUID) (createdAt : DateTime) (payload : Json) :
    Preserves (PrivacySystem.Since observed) (authority entityId createdAt payload : PrivacyCall P Unit) := by
  rintro sys ⟨journalled, remembered⟩
  obtain ⟨s, written, after⟩ := authority_of_journalled journalled entityId createdAt payload
  rw [written]
  exact ⟨after, remembered⟩

theorem transaction_since {α : Type} {x : PrivacyCall P α} (body : Preserves (PrivacySystem.Since observed) x) :
    Preserves (PrivacySystem.Since observed) (transaction x) := by
  intro sys since
  have after := body sys since
  rcases ran : x sys with ⟨r, t⟩
  rw [ran] at after
  cases r with
  | error e =>
      simp only [transaction, ran]
      exact ⟨after.journalled, after.remembered⟩
  | ok a =>
      simp only [transaction, ran]
      exact after

theorem execute_since (f : DispositionStore P → DispositionStore P) :
    Preserves (PrivacySystem.Since observed) (execute f) := fun _ since => ⟨since.journalled, since.remembered⟩

theorem observe_since (observation : Observation P) : Preserves (PrivacySystem.Since observed) (observe observation) :=
  fun _ since => ⟨since.journalled, since.remembered.trans (List.prefix_append _ _)⟩

theorem onEvidence_since {α : Type} {x : SystemCall P α} (body : Preserves (fun e => Privacy.Journalled e.store) x) :
    Preserves (PrivacySystem.Since observed) (onEvidence x) :=
  Preserves.zoom body (fun _ since => since.journalled) (fun _ _ since journalled => ⟨journalled, since.remembered⟩)

theorem acknowledge_since (nodeId : UUID) (actor receipt : String) (createdAt : DateTime) :
    Preserves (PrivacySystem.Since observed)
      (acknowledgeExternalRecipient nodeId actor receipt createdAt : PrivacyCall P (ExternalReceipt P)) := by
  refine Preserves.bind (Preserves.read _) (fun sys => ?_)
  cases sys.disposition.lineageNodes.find? (fun n => n.nodeId = nodeId) with
  | none => exact Preserves.raise _
  | some node =>
      dsimp only
      split
      · exact Preserves.raise _
      · refine Preserves.bind (transaction_since ?_)
          (fun _ => Preserves.bind (observe_since _) (fun _ => Preserves.pure _))
        exact Preserves.bind (execute_since _) (fun _ => authority_since _ _ _)

theorem recordAttempt_since (attempt : ExternalRecipientReconciliationAttempt P) :
    Preserves (PrivacySystem.Since observed) (recordAttempt attempt) := by
  refine Preserves.bind (transaction_since ?_)
    (fun _ => Preserves.bind (observe_since _) (fun _ => Preserves.pure _))
  exact Preserves.bind (execute_since _) (fun _ => authority_since _ _ _)

theorem contact_since (limits : Limits) (sender : DispositionLineageNode P → SenderAnswer)
    (node : DispositionLineageNode P) (attempt : ExternalRecipientReconciliationAttempt P) :
    Preserves (PrivacySystem.Since observed) (contact limits sender node attempt) := by
  refine Preserves.bind (observe_since _) (fun _ => ?_)
  dsimp only
  split
  · exact Preserves.bind (acknowledge_since _ _ _ _) (fun _ => recordAttempt_since _)
  · split
    · exact recordAttempt_since _
    · exact Preserves.bind (Preserves.lift _) (fun _ => recordAttempt_since _)

theorem reconcileNode_since (limits : Limits) (request : DispositionRequest P) (requestId : UUID)
    (sender : DispositionLineageNode P → SenderAnswer) (actor : String) (now : DateTime) (node : DispositionLineageNode P) :
    Preserves (PrivacySystem.Since observed) (reconcileNode limits request requestId sender actor now node) := by
  unfold reconcileNode
  split
  · exact Preserves.raise _
  · refine Preserves.bind (Preserves.read _) (fun sys => ?_)
    dsimp only
    split
    · exact Preserves.pure _
    · exact Preserves.pure _
    · exact Preserves.pure _
    · exact recordAttempt_since _
    · exact contact_since _ _ _ _

theorem reconcileNodes_since (limits : Limits) (request : DispositionRequest P) (requestId : UUID)
    (sender : DispositionLineageNode P → SenderAnswer) (actor : String) (now : DateTime)
    (nodes : List (DispositionLineageNode P)) :
    Preserves (PrivacySystem.Since observed) (reconcileNodes limits request requestId sender actor now nodes) := by
  induction nodes with
  | nil => exact Preserves.pure _
  | cons node nodes ih =>
      exact Preserves.bind (reconcileNode_since _ _ _ _ _ _ _)
        (fun _ => Preserves.bind ih (fun _ => Preserves.pure _))

theorem settleNode_journalled (d : DispositionStore P) (actor : String) (now : DateTime) (draws : CloseDraws)
    (node : DispositionLineageNode P) :
    Preserves (fun e => Privacy.Journalled e.store) (settleNode d actor now draws node) := by
  have onArtifactsKeeps : ∀ {α : Type} (x : ArtifactCall P α),
      Preserves (fun e : EvidenceSystem P => Privacy.Journalled e.store) (onArtifacts x) :=
    fun _ _ journalled => journalled
  unfold settleNode
  repeat' split
  · exact Preserves.pure _
  · exact Preserves.pure _
  · exact Preserves.pure _
  · exact Preserves.bind (onArtifactsKeeps _) (fun _ => Preserves.pure _)
  · exact Preserves.pure _
  · exact Preserves.bind (Preserves.attempt (onArtifactsKeeps _)) (fun _ => Preserves.pure _)
  · exact Preserves.pure _

theorem closeNodes_journalled (d : DispositionStore P) (actor : String) (now : DateTime) (draws : CloseDraws)
    (nodes : List (DispositionLineageNode P)) :
    Preserves (fun e => Privacy.Journalled e.store) (closeNodes d actor now draws nodes) := by
  induction nodes with
  | nil => exact Preserves.pure _
  | cons node nodes ih =>
      exact Preserves.bind (settleNode_journalled _ _ _ _ _) (fun _ => Preserves.bind ih (fun _ => Preserves.pure _))

theorem closeErasure_journalled (request : DispositionRequest P) (now : DateTime) (draws : CloseDraws) (evidenceId : UUID) :
    Preserves (fun e => Privacy.Journalled e.store) (closeErasure request now draws evidenceId) := by
  have erasing : Preserves (fun e => Privacy.Journalled e.store) (eraseEvidence request now draws evidenceId) := by
    refine Preserves.bind (Preserves.read _) (fun sys => Preserves.bind (Preserves.lift _) (fun projection => ?_))
    split
    · exact Preserves.bind (fun e journalled => journalled.leads (transition_leads _ _ e)) (fun _ => Preserves.pure _)
    · exact Preserves.pure _
  refine Preserves.bind (Preserves.attempt erasing) (fun erased => ?_)
  cases erased with
  | ok _ => exact Preserves.pure _
  | error e => exact Preserves.pure _

theorem closeItems_journalled (d : DispositionStore P) (request : DispositionRequest P) (now : DateTime)
    (draws : CloseDraws) (evidenceIds : List UUID) :
    Preserves (fun e => Privacy.Journalled e.store) (closeItems d request now draws evidenceIds) := by
  induction evidenceIds with
  | nil => exact Preserves.pure _
  | cons evidenceId evidenceIds ih =>
      have rest : ∀ before : List DispositionNodeResult, Preserves (fun e => Privacy.Journalled e.store) (do
          let rest ← closeItems d request now draws evidenceIds
          pure (before ++ rest)) := fun _ => Preserves.bind ih (fun _ => Preserves.pure _)
      refine Preserves.bind (closeNodes_journalled _ _ _ _ _) (fun _ => ?_)
      dsimp only
      split
      · exact Preserves.bind (closeErasure_journalled _ _ _ _) (fun _ => rest _)
      · exact rest _

theorem close_since (requestId : UUID) (now : DateTime) (draws : CloseDraws) :
    Preserves (PrivacySystem.Since observed)
      (PrivacyDispositionService.close requestId now draws : PrivacyCall P (DispositionReport P)) := by
  refine Preserves.bind (Preserves.read _) (fun sys => Preserves.bind (Preserves.lift _) (fun request =>
    Preserves.bind (execute_since _) (fun _ => Preserves.bind
      (onEvidence_since (closeItems_journalled _ _ _ _ _)) (fun results =>
        Preserves.bind (execute_since _) (fun _ => ?_)))))
  refine Preserves.bind (transaction_since (Preserves.bind (execute_since _)
    (fun _ => authority_since _ _ _))) (fun _ => ?_)
  dsimp only
  split
  · exact Preserves.bind (observe_since _) (fun _ => Preserves.pure _)
  · exact Preserves.pure _

theorem createRequest_since (arguments : RequestArguments) :
    Preserves (PrivacySystem.Since observed) (createRequest arguments : PrivacyCall P (DispositionRequest P)) := by
  refine Preserves.bind (Preserves.lift _) (fun request => Preserves.bind (Preserves.read _) (fun sys => ?_))
  split
  · exact Preserves.lift _
  · exact transaction_since (Preserves.bind (execute_since _)
      (fun _ => Preserves.bind (authority_since _ _ _) (fun _ => Preserves.pure _)))

theorem registerNode_since (arguments : NodeArguments) :
    Preserves (PrivacySystem.Since observed) (registerNode arguments : PrivacyCall P (DispositionLineageNode P)) := by
  refine Preserves.bind (Preserves.lift _) (fun node => Preserves.bind (Preserves.read _) (fun sys => ?_))
  split
  · split
    · exact Preserves.raise _
    · exact Preserves.pure _
  · exact Preserves.bind (execute_since _) (fun _ => Preserves.pure _)

theorem reconcile_since (limits : Limits) (requestId : UUID) (sender : DispositionLineageNode P → SenderAnswer)
    (actor : String) (now : DateTime) :
    Preserves (PrivacySystem.Since observed) (reconcileExternalRecipients limits requestId sender actor now) := by
  unfold reconcileExternalRecipients
  repeat' split
  · exact Preserves.raise _
  · exact Preserves.raise _
  · exact Preserves.bind (Preserves.read _) (fun sys => Preserves.bind (Preserves.lift _) (fun request =>
      Preserves.bind (reconcileNodes_since _ _ _ _ _ _ _) (fun attempts =>
        Preserves.bind (authority_since _ _ _) (fun _ => Preserves.pure _))))

end Since

/-- Every operation keeps what was observed, and the journal. -/
theorem PrivacySystem.step_since (limits : Limits) {sys : PrivacySystem P} (journalled : sys.Journalled)
    (op : PrivacyOperation P) : Since sys.observed (sys.step limits op) := by
  have since : Since sys.observed sys := ⟨journalled, List.prefix_refl _⟩
  cases op with
  | registerNode arguments => exact registerNode_since arguments sys since
  | createRequest arguments => exact createRequest_since arguments sys since
  | acknowledge nodeId actor receipt createdAt => exact acknowledge_since nodeId actor receipt createdAt sys since
  | reconcile requestId sender actor now => exact reconcile_since limits requestId sender actor now sys since
  | close requestId now draws => exact close_since requestId now draws sys since
  | evidence op => exact ⟨Journalled.leads journalled (sys.evidence.step_leads op), List.prefix_refl _⟩

/-! ## Nodes, requests and restrictions -/

/-- What decides about restrictions: the nodes, the requests, the rows of restrictions
    and the requests that were completed. -/
structure Ledger (P : Platform) where
  nodes : List (DispositionLineageNode P)
  requests : List (DispositionRequest P)
  restrictions : Dict UUID Restriction
  completed : List UUID

def Observation.completedId : Observation P → Option UUID
  | .completed requestId => some requestId
  | _ => none

def PrivacySystem.ledger (sys : PrivacySystem P) : Ledger P where
  nodes := sys.disposition.lineageNodes
  requests := sys.disposition.requests
  restrictions := sys.disposition.restrictions
  completed := sys.observed.filterMap Observation.completedId

section Ledgers

open Call

theorem authority_keeps (entityId : UUID) (createdAt : DateTime) (payload : Json) :
    Keeps PrivacySystem.ledger (authority entityId createdAt payload : PrivacyCall P Unit) := by
  intro sys
  rw [authority_eq]
  rfl

theorem transaction_keeps {α : Type} {x : PrivacyCall P α} (body : Keeps PrivacySystem.ledger x) :
    Keeps PrivacySystem.ledger (transaction x) := by
  intro sys
  have kept := body sys
  rcases ran : x sys with ⟨r, t⟩
  rw [ran] at kept
  cases r with
  | ok a =>
      simp only [transaction, ran]
      exact kept
  | error e =>
      simp only [transaction, ran]
      have completed := congrArg Ledger.completed kept
      simp only [PrivacySystem.ledger] at completed ⊢
      rw [completed]

theorem observe_keeps {observation : Observation P} (none : observation.completedId = none) :
    Keeps PrivacySystem.ledger (observe observation) := by
  refine Keeps.modify (fun sys => ?_)
  simp [PrivacySystem.ledger, none]

theorem acknowledge_keeps (nodeId : UUID) (actor receipt : String) (createdAt : DateTime) :
    Keeps PrivacySystem.ledger
      (acknowledgeExternalRecipient nodeId actor receipt createdAt : PrivacyCall P (ExternalReceipt P)) := by
  have inserts : ∀ row, Keeps PrivacySystem.ledger (execute (fun d : DispositionStore P => d.insertReceipt row)) := by
    intro row
    refine Keeps.modify (fun sys => ?_)
    dsimp only [DispositionStore.insertReceipt]
    split <;> rfl
  refine Keeps.bind (Keeps.read _) (fun sys => ?_)
  split
  · exact Keeps.raise _
  · split
    · exact Keeps.raise _
    · exact Keeps.bind (transaction_keeps (Keeps.bind (inserts _) (fun _ => authority_keeps _ _ _)))
        (fun _ => Keeps.bind (observe_keeps rfl) (fun _ => Keeps.pure _))

theorem recordAttempt_keeps (attempt : ExternalRecipientReconciliationAttempt P) :
    Keeps PrivacySystem.ledger (recordAttempt attempt) := by
  have inserts : Keeps PrivacySystem.ledger (execute (fun d : DispositionStore P => d.insertAttempt attempt)) := by
    refine Keeps.modify (fun sys => ?_)
    dsimp only [DispositionStore.insertAttempt]
    split <;> rfl
  exact Keeps.bind (transaction_keeps (Keeps.bind inserts (fun _ => authority_keeps _ _ _)))
    (fun _ => Keeps.bind (observe_keeps rfl) (fun _ => Keeps.pure _))

theorem reconcileNode_keeps (limits : Limits) (request : DispositionRequest P) (requestId : UUID)
    (sender : DispositionLineageNode P → SenderAnswer) (actor : String) (now : DateTime) (node : DispositionLineageNode P) :
    Keeps PrivacySystem.ledger (reconcileNode limits request requestId sender actor now node) := by
  have contacts : ∀ attempt, Keeps PrivacySystem.ledger (contact limits sender node attempt) := by
    intro attempt
    refine Keeps.bind (observe_keeps rfl) (fun _ => ?_)
    dsimp only
    split
    · exact Keeps.bind (acknowledge_keeps _ _ _ _) (fun _ => recordAttempt_keeps _)
    · split
      · exact recordAttempt_keeps _
      · exact Keeps.bind (Keeps.lift _) (fun _ => recordAttempt_keeps _)
  unfold reconcileNode
  split
  · exact Keeps.raise _
  · refine Keeps.bind (Keeps.read _) (fun sys => ?_)
    dsimp only
    split
    · exact Keeps.pure _
    · exact Keeps.pure _
    · exact Keeps.pure _
    · exact recordAttempt_keeps _
    · exact contacts _

theorem reconcile_keeps (limits : Limits) (requestId : UUID) (sender : DispositionLineageNode P → SenderAnswer)
    (actor : String) (now : DateTime) :
    Keeps PrivacySystem.ledger (reconcileExternalRecipients limits requestId sender actor now) := by
  have loop : ∀ request nodes, Keeps PrivacySystem.ledger (reconcileNodes limits request requestId sender actor now nodes) := by
    intro request nodes
    induction nodes with
    | nil => exact Keeps.pure _
    | cons node nodes ih =>
        exact Keeps.bind (reconcileNode_keeps _ _ _ _ _ _ _) (fun _ => Keeps.bind ih (fun _ => Keeps.pure _))
  unfold reconcileExternalRecipients
  repeat' split
  · exact Keeps.raise _
  · exact Keeps.raise _
  · exact Keeps.bind (Keeps.read _) (fun sys => Keeps.bind (Keeps.lift _) (fun request =>
      Keeps.bind (loop _ _) (fun attempts => Keeps.bind (authority_keeps _ _ _) (fun _ => Keeps.pure _))))

end Ledgers

theorem registerNode_ledger (arguments : NodeArguments) (sys : PrivacySystem P) :
    (registerNode arguments sys).2.ledger = sys.ledger ∨
      ∃ node, (∀ known ∈ sys.ledger.nodes, known.nodeId ≠ node.nodeId) ∧
        (registerNode arguments sys).2.ledger = { sys.ledger with nodes := sys.ledger.nodes ++ [node] } := by
  unfold registerNode
  rcases (newNode P arguments).validate with e | node
  · rw [Call.bind_of_error (Call.lift_apply _ _)]
    exact .inl rfl
  · rw [Call.bind_of_ok (Call.lift_apply _ _), Call.read_bind]
    cases known : (id sys).disposition.lineageNodes.find? (fun n => n.nodeId = node.nodeId) with
    | some existing =>
        dsimp only
        split <;> exact .inl rfl
    | none =>
        refine .inr ⟨node, ?_, rfl⟩
        intro other member same
        exact absurd (decide_eq_true same) (List.find?_eq_none.mp known other member)

/-- The restrictions once a request is filed. -/
theorem createRequest_ledger (arguments : RequestArguments) (sys : PrivacySystem P) :
    (createRequest arguments sys).2.ledger = sys.ledger ∨
      ((∀ known ∈ sys.ledger.requests, known.requestId ≠ (newRequest P arguments).requestId) ∧
        (createRequest arguments sys).2.ledger = { sys.ledger with
          requests := sys.ledger.requests ++ [newRequest P arguments]
          restrictions := (insertRequest (newRequest P arguments) sys.disposition).restrictions }) := by
  unfold createRequest
  rcases valid : (newRequest P arguments).validate with e | request
  · rw [Call.bind_of_error (Call.lift_apply _ _)]
    exact .inl rfl
  · rw [Call.bind_of_ok (Call.lift_apply _ _), Call.read_bind]
    obtain rfl : newRequest P arguments = request := by
      unfold DispositionRequest.validate at valid
      repeat' split at valid
      all_goals simp_all
    cases known : (id sys).disposition.requests.find? (fun r => r.requestId = (newRequest P arguments).requestId) with
    | some existing => exact .inl rfl
    | none =>
        dsimp only
        simp only [transaction, execute, Call.modify_bind]
        rcases written : authority (newRequest P arguments).requestId (newRequest P arguments).createdAt
          (newRequest P arguments).modelDump { sys with
            disposition := insertRequest (newRequest P arguments) sys.disposition } with ⟨r, t⟩
        have kept := authority_keeps (newRequest P arguments).requestId (newRequest P arguments).createdAt
          (newRequest P arguments).modelDump { sys with
            disposition := insertRequest (newRequest P arguments) sys.disposition }
        rw [written] at kept
        cases r with
        | error e =>
            rw [Call.bind_of_error written]
            left
            have completed := congrArg Ledger.completed kept
            simp only [PrivacySystem.ledger] at completed ⊢
            rw [completed]
        | ok u =>
            rw [Call.bind_of_ok written]
            refine .inr ⟨?_, kept⟩
            intro other member same
            exact absurd (decide_eq_true same) (List.find?_eq_none.mp known other member)

/-- The ledger once a request is closed: its rows carry the new status, and where it
    was completed the restrictions of its items are gone. -/
theorem close_ledger {sys : PrivacySystem P} {requestId : UUID} {request : DispositionRequest P} {now : DateTime}
    {draws : CloseDraws} {results : List DispositionNodeResult} {walked : EvidenceSystem P}
    (journalled : Journalled walked.store) (found : sys.disposition.request requestId = .ok request)
    (visited : (walkOf sys request now draws).visitAll (visits sys.disposition request) sys.evidence = (.ok results, walked)) :
    (close requestId now draws sys).2.ledger = {
      nodes := sys.ledger.nodes
      requests := (((settled sys request requestId results).updateRequest requestId { request with
        status := (closureOutcome results).1, terminalOutcome := some (closureOutcome results).2 })).requests
      restrictions := (settled sys request requestId results).restrictions
      completed := sys.ledger.completed ++ if (closureOutcome results).1 = .completed then [requestId] else [] } := by
  obtain ⟨position, s, answered, -⟩ := journalled.recorded requestId now (closureReport request now results).modelDump
  have nodes : (settled sys request requestId results).lineageNodes = sys.disposition.lineageNodes := by
    unfold settled
    dsimp only
    split <;> rfl
  rw [close_eq found visited, fileReport_eq, answered]
  simp only [PrivacySystem.ledger, DispositionStore.updateRequest, nodes, closureReport, List.filterMap_append]
  congr 1
  split <;> rename_i completes <;> simp [completes, Observation.completedId]

theorem close_unknown {sys : PrivacySystem P} {requestId : UUID} {e : Error} (unknown : sys.disposition.request requestId = .error e)
    (now : DateTime) (draws : CloseDraws) : close requestId now draws sys = (.error e, sys) := by
  simp only [close, Call.read_bind, id]
  exact Call.bind_of_error (by rw [Call.lift_apply, unknown])

/-! ## What every run keeps -/

/-- Nodes and requests have ids of their own, and a request names an item once. -/
structure Ledger.Tidy (ledger : Ledger P) : Prop where
  nodes : (ledger.nodes.map DispositionLineageNode.nodeId).Nodup
  requests : (ledger.requests.map DispositionRequest.requestId).Nodup
  items : ∀ request ∈ ledger.requests, request.evidenceIds.Nodup

/-- What holds in every state the system reaches. -/
structure PrivacySystem.Sound (sys : PrivacySystem P) : Prop where
  journalled : sys.Journalled
  tidy : sys.ledger.Tidy

theorem Walked.journalled {sys : PrivacySystem P} {request : DispositionRequest P} {now : DateTime} {draws : CloseDraws}
    {results : List DispositionNodeResult} {walked : EvidenceSystem P} (journalled : sys.Journalled)
    (walks : Walked (walkOf sys request now draws) sys.evidence (visits sys.disposition request) results walked) :
    Journalled walked.store := by
  have after := closeItems_journalled sys.disposition request now draws request.evidenceIds sys.evidence journalled
  have items := @Walk.closeItems_eq _ (walkOf sys request now draws) request.evidenceIds
  rw [show closeItems sys.disposition request now draws request.evidenceIds sys.evidence = (.ok results, walked) from
    (congrArg (fun call => call sys.evidence) items).trans walks.visited] at after
  exact after

theorem newRequest_distinct (arguments : RequestArguments) : (newRequest P arguments).evidenceIds.Nodup :=
  (List.perm_insertionSort _ _).nodup_iff.mpr (List.nodup_dedup _)

theorem PrivacySystem.Sound.close_requests {sys : PrivacySystem P} (sound : sys.Sound) {requestId : UUID}
    {request : DispositionRequest P} (found : sys.disposition.request requestId = .ok request) (now : DateTime)
    (draws : CloseDraws) :
    ∃ results walked, Walked (walkOf sys request now draws) sys.evidence (visits sys.disposition request) results walked ∧
      (close requestId now draws sys).2.ledger = {
        nodes := sys.ledger.nodes
        requests := (((settled sys request requestId results).updateRequest requestId { request with
          status := (closureOutcome results).1, terminalOutcome := some (closureOutcome results).2 })).requests
        restrictions := (settled sys request requestId results).restrictions
        completed := sys.ledger.completed ++ if (closureOutcome results).1 = .completed then [requestId] else [] } := by
  obtain ⟨results, walked, walks⟩ := walked_of_request sys request now draws
    (fun _ => sound.tidy.items request (DispositionStore.request_ok found).1)
  exact ⟨results, walked, walks, close_ledger (walks.journalled sound.journalled) found walks.visited⟩

/-- The rows once a request is closed: its own carry the new status. -/
theorem closed_requests (sys : PrivacySystem P) {requestId : UUID} {request : DispositionRequest P}
    (own : request.requestId = requestId) (results : List DispositionNodeResult) (updated : DispositionRequest P) :
    ((settled sys request requestId results).updateRequest requestId updated).requests =
      sys.disposition.requests.map (fun r => if r.requestId = requestId then updated else r) := by
  have inProgress : (settled sys request requestId results).requests =
      (sys.disposition.updateRequest requestId { request with status := .inProgress }).requests := by
    unfold settled
    dsimp only
    split <;> rfl
  rw [DispositionStore.updateRequest, inProgress, DispositionStore.updateRequest]
  simp only [List.map_map]
  apply List.map_congr_left
  intro r _
  by_cases mine : r.requestId = requestId
  · simp [mine, own]
  · simp [mine]

/-- A row of the table then is another one's, or the updated one. -/
theorem mem_closed {sys : PrivacySystem P} {requestId : UUID} {updated row : DispositionRequest P}
    (member : row ∈ sys.disposition.requests.map (fun r => if r.requestId = requestId then updated else r)) :
    (row ∈ sys.disposition.requests ∧ row.requestId ≠ requestId) ∨ row = updated := by
  obtain ⟨before, known, rfl⟩ := List.mem_map.mp member
  by_cases mine : before.requestId = requestId
  · simp [mine]
  · left
    simpa [mine] using known

theorem nodup_snoc {α κ : Type} {key : α → κ} {rows : List α} {row : α} (distinct : (rows.map key).Nodup)
    (fresh : ∀ known ∈ rows, key known ≠ key row) : ((rows ++ [row]).map key).Nodup := by
  rw [List.map_append, List.nodup_append]
  refine ⟨distinct, List.nodup_singleton _, ?_⟩
  rintro k member k' single rfl
  obtain ⟨other, stored, same⟩ := List.mem_map.mp member
  exact fresh other stored (same.trans (List.mem_singleton.mp single))

theorem Ledger.Tidy.of_eq {l l' : Ledger P} (same : l' = l) (tidy : l.Tidy) : l'.Tidy := same ▸ tidy

theorem PrivacySystem.Sound.step {sys : PrivacySystem P} (sound : sys.Sound) (limits : Limits) (op : PrivacyOperation P) :
    (sys.step limits op).Sound := by
  refine ⟨(PrivacySystem.step_since limits sound.journalled op).journalled, ?_⟩
  cases op with
  | registerNode arguments =>
      rcases registerNode_ledger arguments sys with same | ⟨node, fresh, added⟩
      · exact .of_eq same sound.tidy
      · refine Ledger.Tidy.of_eq added ⟨?_, sound.tidy.requests, sound.tidy.items⟩
        exact nodup_snoc sound.tidy.nodes fresh
  | createRequest arguments =>
      rcases createRequest_ledger arguments sys with same | ⟨fresh, filed⟩
      · exact .of_eq same sound.tidy
      · refine Ledger.Tidy.of_eq filed ⟨sound.tidy.nodes, nodup_snoc sound.tidy.requests fresh, ?_⟩
        intro request member
        rcases List.mem_append.mp member with old | new
        · exact sound.tidy.items request old
        · rw [List.mem_singleton.mp new]
          exact newRequest_distinct arguments
  | acknowledge nodeId actor receipt createdAt => exact .of_eq (acknowledge_keeps nodeId actor receipt createdAt sys) sound.tidy
  | reconcile requestId sender actor now => exact .of_eq (reconcile_keeps limits requestId sender actor now sys) sound.tidy
  | close requestId now draws =>
      cases found : sys.disposition.request requestId with
      | error e =>
          rw [PrivacySystem.step, close_unknown found]
          exact sound.tidy
      | ok request =>
          obtain ⟨results, walked, -, after⟩ := sound.close_requests found now draws
          obtain ⟨stored, own, -⟩ := DispositionStore.request_ok found
          rw [closed_requests sys own] at after
          refine Ledger.Tidy.of_eq after ⟨sound.tidy.nodes, ?_, ?_⟩
          · have ids : (sys.disposition.requests.map (fun r => if r.requestId = requestId then { request with
                status := (closureOutcome results).1, terminalOutcome := some (closureOutcome results).2 } else r)).map
                  DispositionRequest.requestId = sys.disposition.requests.map DispositionRequest.requestId := by
              rw [List.map_map]
              apply List.map_congr_left
              intro r _
              by_cases mine : r.requestId = requestId
              · simp [mine, own]
              · simp [mine]
            dsimp only
            rw [ids]
            exact sound.tidy.requests
          intro row member
          rcases mem_closed member with ⟨other, -⟩ | rfl
          · exact sound.tidy.items row other
          · exact sound.tidy.items request stored
  | evidence op => exact sound.tidy

theorem PrivacySystem.start_sound (artifacts : ContentAddressedArtifactStore P) (attached : Bool) :
    (start artifacts attached).Sound where
  journalled := ⟨[], represents_empty⟩
  tidy := ⟨List.nodup_nil, List.nodup_nil, by simp [PrivacySystem.ledger, start]⟩

theorem PrivacySystem.run_sound (limits : Limits) (artifacts : ContentAddressedArtifactStore P) (attached : Bool)
    (ops : List (PrivacyOperation P)) : (run limits artifacts attached ops).Sound :=
  run_invariant (I := PrivacySystem.Sound) (fun _ op sound => sound.step limits op) (start_sound artifacts attached) ops

end SentinelEdge.Privacy
