import SentinelEdge.Foundation.Checks
import SentinelEdge.Privacy.Contacts
import SentinelEdge.Privacy.Retention

/-! # Acknowledgements

A receipt is kept only for a node with a recipient: the table refuses a row without
one, and the call that was to store it returns nevertheless. What is kept stays, so
that closing finds it whenever the request is closed.
-/

namespace SentinelEdge.Privacy

open Foundation Domain Storage Evidence EvidenceTrustService PrivacyDispositionService Call

variable {P : Platform}

/-- What closing reads of an external node: the nodes and the receipts. -/
def PrivacySystem.books (sys : PrivacySystem P) : List (DispositionLineageNode P) × List (ExternalReceipt P) :=
  (sys.disposition.lineageNodes, sys.disposition.receipts)

/-! ## Calls that leave the books alone -/

theorem authority_books (entityId : UUID) (createdAt : DateTime) (payload : Json) :
    Keeps PrivacySystem.books (authority entityId createdAt payload : PrivacyCall P Unit) := by
  intro sys
  rw [authority_eq]
  rfl

theorem transaction_books {α : Type} {x : PrivacyCall P α} (body : Keeps PrivacySystem.books x) :
    Keeps PrivacySystem.books (transaction x) := by
  intro sys
  have kept := body sys
  rcases ran : x sys with ⟨r, t⟩
  rw [ran] at kept
  cases r with
  | ok a =>
      simp only [transaction, ran]
      exact kept
  | error e => simp only [transaction, ran, PrivacySystem.books]

theorem execute_books {f : DispositionStore P → DispositionStore P}
    (same : ∀ d, (f d).lineageNodes = d.lineageNodes ∧ (f d).receipts = d.receipts) :
    Keeps PrivacySystem.books (execute f) :=
  Keeps.modify (fun sys => by simp [PrivacySystem.books, same sys.disposition])

theorem updateRequest_books (requestId : UUID) (updated : DispositionRequest P) :
    Keeps PrivacySystem.books (execute (fun d => d.updateRequest requestId updated)) :=
  execute_books (fun _ => ⟨rfl, rfl⟩)

theorem close_books (requestId : UUID) (now : DateTime) (draws : CloseDraws) :
    Keeps PrivacySystem.books (PrivacyDispositionService.close requestId now draws : PrivacyCall P (DispositionReport P)) := by
  refine Keeps.bind (Keeps.read _) (fun sys => Keeps.bind (Keeps.lift _) (fun request =>
    Keeps.bind (updateRequest_books _ _) (fun _ => Keeps.bind (fun _ => rfl) (fun results =>
      Keeps.bind (execute_books ?_) (fun _ => ?_)))))
  · intro d
    split <;> exact ⟨rfl, rfl⟩
  · refine Keeps.bind (transaction_books (Keeps.bind (updateRequest_books _ _) (fun _ => authority_books _ _ _)))
      (fun _ => ?_)
    dsimp only
    split
    · exact Keeps.bind (fun _ => rfl) (fun _ => Keeps.pure _)
    · exact Keeps.pure _

theorem createRequest_books (arguments : RequestArguments) :
    Keeps PrivacySystem.books (createRequest arguments : PrivacyCall P (DispositionRequest P)) := by
  refine Keeps.bind (Keeps.lift _) (fun request => Keeps.bind (Keeps.read _) (fun sys => ?_))
  split
  · exact Keeps.lift _
  · exact transaction_books (Keeps.bind (execute_books (fun _ => ⟨rfl, rfl⟩))
      (fun _ => Keeps.bind (authority_books _ _ _) (fun _ => Keeps.pure _)))

theorem recordAttempt_books (attempt : ExternalRecipientReconciliationAttempt P) :
    Keeps PrivacySystem.books (recordAttempt attempt) := by
  refine Keeps.bind (transaction_books (Keeps.bind (execute_books ?_) (fun _ => authority_books _ _ _)))
    (fun _ => Keeps.bind (fun _ => rfl) (fun _ => Keeps.pure _))
  intro d
  unfold DispositionStore.insertAttempt
  split <;> exact ⟨rfl, rfl⟩

/-! ## Receipts are kept, and are about the nodes they name -/

/-- The known nodes and receipts are there, and every receipt is that of a node with a
    recipient. -/
structure Kept (nodes : List (DispositionLineageNode P)) (receipts : List (ExternalReceipt P)) (sys : PrivacySystem P) : Prop where
  journalled : sys.Journalled
  nodes : nodes ⊆ sys.disposition.lineageNodes
  receipts : receipts ⊆ sys.disposition.receipts
  genuine : ∀ row ∈ sys.disposition.receipts, ∃ node ∈ sys.disposition.lineageNodes, node.nodeId = row.nodeId ∧
    node.externalRecipientDigest.isSome = true

section Kept

variable {nodes : List (DispositionLineageNode P)} {receipts : List (ExternalReceipt P)} {sys sys' : PrivacySystem P}

theorem Kept.of_books (kept : Kept nodes receipts sys) (journalled : sys'.Journalled) (same : sys'.books = sys.books) :
    Kept nodes receipts sys' := by
  have sameNodes : sys'.disposition.lineageNodes = sys.disposition.lineageNodes := congrArg Prod.fst same
  have sameReceipts : sys'.disposition.receipts = sys.disposition.receipts := congrArg Prod.snd same
  refine ⟨journalled, ?_, ?_, ?_⟩
  · rw [sameNodes]
    exact kept.nodes
  · rw [sameReceipts]
    exact kept.receipts
  · rw [sameNodes, sameReceipts]
    exact kept.genuine

/-- A call that keeps the journal and the books. -/
theorem kept_of_books {α : Type} {x : PrivacyCall P α} (since : ∀ observed, Preserves (PrivacySystem.Since observed) x)
    (books : Keeps PrivacySystem.books x) : Preserves (Kept nodes receipts) x := by
  intro sys kept
  exact kept.of_books (since [] sys ⟨kept.journalled, List.nil_prefix⟩).journalled (books sys)

theorem acknowledge_kept (nodeId : UUID) (actor receipt : String) (createdAt : DateTime) :
    Preserves (Kept nodes receipts)
      (acknowledgeExternalRecipient nodeId actor receipt createdAt : PrivacyCall P (ExternalReceipt P)) := by
  intro sys kept
  cases found : sys.disposition.lineageNodes.find? (fun n => n.nodeId = nodeId) with
  | none =>
      simp only [acknowledgeExternalRecipient, read_bind, id, found]
      exact kept
  | some node =>
      cases external : node.kind.isExternal with
      | false =>
          simp only [acknowledgeExternalRecipient, read_bind, id, found, external]
          exact kept
      | true =>
          obtain ⟨s, returned, journalled⟩ :=
            acknowledgeExternalRecipient_eq kept.journalled found external actor receipt createdAt
          rw [returned]
          have stored := List.mem_of_find?_eq_some found
          unfold DispositionStore.insertReceipt
          split
          · exact ⟨journalled, kept.nodes, kept.receipts, kept.genuine⟩
          · next admitted =>
              have recipient : node.externalRecipientDigest.isSome = true := by
                simp only [Bool.or_eq_true, not_or, newReceipt, Bool.not_eq_true, Option.isNone_eq_false_iff] at admitted
                exact admitted.1
              refine ⟨journalled, kept.nodes, fun row known => List.mem_append_left _ (kept.receipts known), ?_⟩
              intro row member
              cases List.mem_append.mp member with
              | inl old => exact kept.genuine row old
              | inr new =>
                  rw [List.mem_singleton.mp new]
                  exact ⟨node, stored, rfl, recipient⟩

theorem observe_kept (observation : Observation P) : Preserves (Kept nodes receipts) (observe observation) :=
  kept_of_books (fun _ => observe_since observation) (fun _ => rfl)

theorem recordAttempt_kept (attempt : ExternalRecipientReconciliationAttempt P) :
    Preserves (Kept nodes receipts) (recordAttempt attempt) :=
  kept_of_books (fun _ => recordAttempt_since attempt) (recordAttempt_books attempt)

theorem reconcileNode_kept (limits : Limits) (request : DispositionRequest P) (requestId : UUID)
    (sender : DispositionLineageNode P → SenderAnswer) (actor : String) (now : DateTime) (node : DispositionLineageNode P) :
    Preserves (Kept nodes receipts) (reconcileNode limits request requestId sender actor now node) := by
  unfold reconcileNode
  split
  · exact Preserves.raise _
  · refine Preserves.bind (Preserves.read _) (fun sys => ?_)
    dsimp only
    split
    · exact Preserves.pure _
    · exact Preserves.pure _
    · exact Preserves.pure _
    · exact recordAttempt_kept _
    · refine Preserves.bind (observe_kept _) (fun _ => ?_)
      dsimp only
      split
      · exact Preserves.bind (acknowledge_kept _ _ _ _) (fun _ => recordAttempt_kept _)
      · split
        · exact recordAttempt_kept _
        · exact Preserves.bind (Preserves.lift _) (fun _ => recordAttempt_kept _)

theorem reconcile_kept (limits : Limits) (requestId : UUID) (sender : DispositionLineageNode P → SenderAnswer)
    (actor : String) (now : DateTime) :
    Preserves (Kept nodes receipts) (reconcileExternalRecipients limits requestId sender actor now) := by
  have loop (request : DispositionRequest P) (external : List (DispositionLineageNode P)) :
      Preserves (Kept nodes receipts) (reconcileNodes limits request requestId sender actor now external) := by
    induction external with
    | nil => exact Preserves.pure _
    | cons node external ih =>
        exact Preserves.bind (reconcileNode_kept _ _ _ _ _ _ _) (fun _ => Preserves.bind ih (fun _ => Preserves.pure _))
  unfold reconcileExternalRecipients
  split
  · exact Preserves.raise _
  · split
    · exact Preserves.raise _
    · exact Preserves.bind (Preserves.read _) (fun sys => Preserves.bind (Preserves.lift _) (fun request =>
        Preserves.bind (loop _ _) (fun attempts => Preserves.bind
          (kept_of_books (fun _ => authority_since _ _ _) (authority_books _ _ _)) (fun _ => Preserves.pure _))))

theorem registerNode_kept (arguments : NodeArguments) :
    Preserves (Kept nodes receipts) (registerNode arguments : PrivacyCall P (DispositionLineageNode P)) := by
  refine Preserves.bind (Preserves.lift _) (fun node => Preserves.bind (Preserves.read _) (fun sys => ?_))
  split
  · split
    · exact Preserves.raise _
    · exact Preserves.pure _
  · refine Preserves.bind (Preserves.modify ?_) (fun _ => Preserves.pure _)
    intro sys kept
    refine ⟨kept.journalled, fun n known => List.mem_append_left _ (kept.nodes known), kept.receipts, ?_⟩
    intro row member
    obtain ⟨owner, stored, named⟩ := kept.genuine row member
    exact ⟨owner, List.mem_append_left _ stored, named⟩

theorem Kept.step (limits : Limits) (kept : Kept nodes receipts sys) (op : PrivacyOperation P) :
    Kept nodes receipts (sys.step limits op) := by
  cases op with
  | registerNode arguments => exact registerNode_kept arguments sys kept
  | createRequest arguments =>
      exact kept_of_books (fun _ => createRequest_since arguments) (createRequest_books arguments) sys kept
  | acknowledge nodeId actor receipt createdAt => exact acknowledge_kept nodeId actor receipt createdAt sys kept
  | reconcile requestId sender actor now => exact reconcile_kept limits requestId sender actor now sys kept
  | close requestId now draws =>
      exact kept_of_books (fun _ => close_since requestId now draws) (close_books requestId now draws) sys kept
  | evidence op => exact kept.of_books (PrivacySystem.step_since limits kept.journalled (.evidence op)).journalled rfl

/-- What is there at some point of a run is there at every later one. -/
theorem Kept.run (limits : Limits) (kept : Kept nodes receipts sys) (ops : List (PrivacyOperation P)) :
    Kept nodes receipts (Foundation.run (PrivacySystem.step limits) sys ops) :=
  run_invariant (I := Kept nodes receipts) (fun _ op kept => kept.step limits op) kept ops

end Kept

theorem start_kept (artifacts : ContentAddressedArtifactStore P) (attached : Bool) :
    Kept [] [] (PrivacySystem.start artifacts attached) where
  journalled := ⟨[], represents_empty⟩
  nodes := List.nil_subset _
  receipts := List.nil_subset _
  genuine := by simp [PrivacySystem.start]

theorem Kept.knows {receipts : List (ExternalReceipt P)} {sys : PrivacySystem P} (kept : Kept [] receipts sys)
    {node : DispositionLineageNode P} (registered : node ∈ sys.disposition.lineageNodes) : Kept [node] receipts sys :=
  { kept with nodes := List.cons_subset.mpr ⟨registered, List.nil_subset _⟩ }

/-- A node with a receipt has a recipient. -/
theorem Kept.recipient {nodes : List (DispositionLineageNode P)} {receipts : List (ExternalReceipt P)} {sys : PrivacySystem P}
    (kept : Kept nodes receipts sys) (sound : sys.Sound) {node : DispositionLineageNode P}
    (registered : node ∈ sys.disposition.lineageNodes) {row : ExternalReceipt P} (stored : row ∈ sys.disposition.receipts)
    (about : row.nodeId = node.nodeId) : node.externalRecipientDigest.isSome = true := by
  obtain ⟨owner, known, named, recipient⟩ := kept.genuine row stored
  obtain rfl : owner = node := List.inj_on_of_nodup_map sound.tidy.nodes known registered (named.trans about)
  exact recipient

/-- An acknowledgement that returned leaves a receipt of a node with a recipient, unless
    its id was that of another node's. -/
theorem acknowledge_stores {sys : PrivacySystem P} (sound : sys.Sound) {node : DispositionLineageNode P}
    (registered : node ∈ sys.disposition.lineageNodes) (external : node.kind.isExternal = true)
    (named : node.externalRecipientDigest.isSome = true) {actor receipt : String} {createdAt : DateTime}
    {row : ExternalReceipt P} (returned : (acknowledgeExternalRecipient node.nodeId actor receipt createdAt sys).1 = .ok row)
    (apart : ∀ stored ∈ sys.disposition.receipts, stored.receiptId = row.receiptId → stored.nodeId = node.nodeId) :
    ∃ stored ∈ (acknowledgeExternalRecipient node.nodeId actor receipt createdAt sys).2.disposition.receipts,
      stored.nodeId = node.nodeId := by
  have known : sys.disposition.lineageNodes.find? (fun n => n.nodeId = node.nodeId) = some node := by
    cases search : sys.disposition.lineageNodes.find? (fun n => n.nodeId = node.nodeId) with
    | none =>
        have absent := List.find?_eq_none.mp search node registered
        simp at absent
    | some other =>
        have same : other.nodeId = node.nodeId := by simpa using List.find?_some search
        rw [List.inj_on_of_nodup_map sound.tidy.nodes (List.mem_of_find?_eq_some search) registered same]
  obtain ⟨s, made, -⟩ := acknowledgeExternalRecipient_eq sound.journalled known external actor receipt createdAt
  rw [made] at returned ⊢
  obtain rfl : newReceipt node actor receipt createdAt = row := Except.ok.inj returned
  dsimp only
  unfold DispositionStore.insertReceipt
  split
  · next refused =>
      have recipient : (newReceipt node actor receipt createdAt).recipientDigest.isNone = false := by
        simpa [newReceipt] using named
      rw [recipient, Bool.false_or, List.any_eq_true] at refused
      obtain ⟨stored, member, same⟩ := refused
      exact ⟨stored, member, apart stored member (by simpa using same)⟩
  · exact ⟨_, List.mem_append_right _ List.mem_cons_self, rfl⟩

/-! ## What closing reports -/

/-- An external node that is not exempt is deleted if a receipt of it is kept, and
    pending otherwise. -/
theorem settles_external {walk : Walk P} {sys : EvidenceSystem P} {made : List (Visit P)} {node : DispositionLineageNode P}
    {status : DispositionNodeStatus} (settles : walk.Settles sys made node status) (external : node.kind.isExternal = true)
    (unexempt : node.exempt walk.now = false) :
    (status = .deleted ∧ (walk.tables.externalAck node.nodeId).isSome = true) ∨
      (status = .externalPending ∧ walk.tables.externalAck node.nodeId = none) := by
  cases settles with
  | acknowledged notExempt isExternal known => exact Or.inl ⟨rfl, known⟩
  | pending notExempt isExternal unknown => exact Or.inr ⟨rfl, unknown⟩
  | exempt exempt => exact absurd (unexempt.symm.trans exempt) (by simp)
  | revoked notExempt notExternal grant => exact absurd (notExternal.symm.trans external) (by simp)
  | deleted takes removes => exact absurd (takes.notExternal.symm.trans external) (by simp)
  | refused takes refuses => exact absurd (takes.notExternal.symm.trans external) (by simp)
  | failed takes keeps permits => exact absurd (takes.notExternal.symm.trans external) (by simp)
  | logical notExempt notExternal notGrant target => exact absurd (notExternal.symm.trans external) (by simp)

/-- The node is reported as deleted, and nowhere as pending. -/
def ReportedDeleted (report : DispositionReport P) (nodeId : UUID) : Prop :=
  (∃ result ∈ report.nodeResults, result.nodeId = nodeId ∧ result.status = .deleted) ∧
  ∀ result ∈ report.nodeResults, result.nodeId = nodeId → result.status ≠ .externalPending

theorem close_reports_external {sys : PrivacySystem P} (sound : sys.Sound) {requestId : UUID} {request : DispositionRequest P}
    (found : sys.disposition.request requestId = .ok request) {node : DispositionLineageNode P}
    (registered : node ∈ sys.disposition.lineageNodes) (external : node.kind.isExternal = true)
    (covered : node.evidenceId ∈ request.evidenceIds) {now : DateTime} (unexempt : node.exempt now = false)
    {draws : CloseDraws} {report : DispositionReport P} (returned : (close requestId now draws sys).1 = .ok report) :
    ReportedDeleted report node.nodeId ↔ (sys.disposition.externalAck node.nodeId).isSome = true := by
  obtain ⟨results, walked, s, walks, -, -, -, reported⟩ := close_leaves now draws found
    (fun _ => sound.tidy.items request (DispositionStore.request_ok found).1)
  have listed : report.nodeResults = results := by rw [reported report returned, closureReport]
  have visited : Visit.node node ∈ visits sys.disposition request := by
    refine List.mem_flatMap.mpr ⟨node.evidenceId, covered, List.mem_append_left _ (List.mem_map_of_mem ?_)⟩
    exact DispositionStore.mem_nodes.mpr ⟨registered, rfl⟩
  obtain ⟨earlier, rest, split⟩ := List.append_of_mem visited
  obtain ⟨own, reports, within⟩ := walks.complete earlier (.node node) rest split
  rw [ReportedDeleted, listed]
  constructor
  · rintro ⟨-, notPending⟩
    cases reports with
    | @node _ outcome settles =>
        cases settles_external settles external unexempt with
        | inl deleted => exact deleted.2
        | inr pending => exact absurd pending.1 (notPending _ (within List.mem_cons_self) rfl)
  · intro known
    constructor
    · cases reports with
      | @node _ outcome settles =>
          cases settles_external settles external unexempt with
          | inl deleted => exact ⟨_, within List.mem_cons_self, rfl, deleted.1⟩
          | inr pending =>
              have unknown : sys.disposition.externalAck node.nodeId = none := pending.2
              simp [unknown] at known
    · intro result member same pending
      obtain ⟨before, v, after, reported, parts, reportsOwn, inOwn⟩ := walks.listed result member
      cases reportsOwn with
      | erased erases => cases inOwn
      | failed stops =>
          rw [List.mem_singleton.mp inOwn] at pending
          cases pending
      | @node other outcome settles =>
          rw [List.mem_singleton.mp inOwn] at same pending
          have stored : other ∈ sys.disposition.lineageNodes := by
            refine node_of_visits request ?_
            rw [parts]
            simp
          obtain rfl : other = node := List.inj_on_of_nodup_map sound.tidy.nodes stored registered same
          cases settles_external settles external unexempt with
          | inl deleted => exact absurd (pending.symm.trans deleted.1) (by simp)
          | inr pending =>
              have unknown : sys.disposition.externalAck other.nodeId = none := pending.2
              simp [unknown] at known

/-! ## Every later closing -/

/-- In every run: once the acknowledgement of an external node has returned, a later
    closing reports the node as deleted exactly if the node was registered with a
    recipient. -/
theorem acknowledgement_is_kept_iff (P : Platform) (limits : Limits) (artifacts : ContentAddressedArtifactStore P)
    (attached : Bool) (before after : List (PrivacyOperation P)) (node : DispositionLineageNode P) (actor receipt : String)
    (createdAt : DateTime) (row : ExternalReceipt P) (requestId : UUID) (request : DispositionRequest P) (now : DateTime)
    (draws : CloseDraws) (report : DispositionReport P)
    (registered : node ∈ (PrivacySystem.run limits artifacts attached before).disposition.lineageNodes)
    (external : node.kind.isExternal = true)
    (acknowledged : (acknowledgeExternalRecipient node.nodeId actor receipt createdAt
      (PrivacySystem.run limits artifacts attached before)).1 = .ok row)
    (apart : ∀ stored ∈ (PrivacySystem.run limits artifacts attached before).disposition.receipts,
      stored.receiptId = row.receiptId → stored.nodeId = node.nodeId)
    (found : (PrivacySystem.run limits artifacts attached
      (before ++ .acknowledge node.nodeId actor receipt createdAt :: after)).disposition.request requestId = .ok request)
    (covered : node.evidenceId ∈ request.evidenceIds) (unexempt : node.exempt now = false)
    (closed : (close requestId now draws (PrivacySystem.run limits artifacts attached
      (before ++ .acknowledge node.nodeId actor receipt createdAt :: after))).1 = .ok report) :
    ReportedDeleted report node.nodeId ↔ node.externalRecipientDigest.isSome = true := by
  have sound := PrivacySystem.run_sound limits artifacts attached before
  have laterSound := PrivacySystem.run_sound limits artifacts attached
    (before ++ .acknowledge node.nodeId actor receipt createdAt :: after)
  have kept := ((start_kept artifacts attached).run limits before).knows registered
  have later : PrivacySystem.run limits artifacts attached (before ++ .acknowledge node.nodeId actor receipt createdAt :: after) =
      Foundation.run (PrivacySystem.step limits) ((PrivacySystem.run limits artifacts attached before).step limits
        (.acknowledge node.nodeId actor receipt createdAt)) after := run_append _ _ _ _
  rw [later] at found closed laterSound
  change Kept [node] [] (PrivacySystem.run limits artifacts attached before) at kept
  generalize PrivacySystem.run limits artifacts attached before = sys at *
  have keptLater := (kept.step limits (.acknowledge node.nodeId actor receipt createdAt)).run limits after
  rw [close_reports_external laterSound found (keptLater.nodes List.mem_cons_self) external covered unexempt closed]
  constructor
  · intro answered
    by_contra nameless
    rw [DispositionStore.externalAck_none.mpr] at answered
    · cases answered
    · intro stored member same
      exact nameless (keptLater.recipient laterSound (keptLater.nodes List.mem_cons_self) member same)
  · intro named
    obtain ⟨stored, member, own⟩ := acknowledge_stores sound (kept.nodes List.mem_cons_self) external named acknowledged apart
    have holds : Kept [node] [stored] (sys.step limits (.acknowledge node.nodeId actor receipt createdAt)) :=
      { kept.step limits (.acknowledge node.nodeId actor receipt createdAt) with
        receipts := List.cons_subset.mpr ⟨member, List.nil_subset _⟩ }
    have there := (holds.run limits after).receipts List.mem_cons_self
    cases ack : DispositionStore.externalAck _ node.nodeId with
    | some digest => rfl
    | none => exact absurd own (DispositionStore.externalAck_none.mp ack stored there)

/-- The recipient answers between filing and closing. -/
def answering (node : NodeArguments) : List (PrivacyOperation Platform.hexadecimal) :=
  ridgeFilings [node] [ridgeRequest .restrict 20] ++
    [.acknowledge (newNode Platform.hexadecimal node).nodeId "officer" "deleted on our side" 25]

theorem answer_of_the_recipient_is_kept :
    ∃ report, (close ridgeRestriction.requestId 30 closeDraws
        (PrivacySystem.run {} shelf true (answering ridgeRecipient))).1 = .ok report ∧
      (ReportedDeleted report (newNode Platform.hexadecimal ridgeRecipient).nodeId ↔
        (newNode Platform.hexadecimal ridgeRecipient).externalRecipientDigest.isSome = true) := by
  obtain ⟨registered, acknowledges, unanswered, filed, closes, covered, unexempt⟩ :
      newNode Platform.hexadecimal ridgeRecipient ∈ (PrivacySystem.run {} shelf true
        (ridgeFilings [ridgeRecipient] [ridgeRequest .restrict 20])).disposition.lineageNodes ∧
      ((acknowledgeExternalRecipient (newNode Platform.hexadecimal ridgeRecipient).nodeId "officer" "deleted on our side" 25
        (PrivacySystem.run {} shelf true (ridgeFilings [ridgeRecipient] [ridgeRequest .restrict 20]))).1 :
          Except Error _).isOk = true ∧
      (PrivacySystem.run {} shelf true (ridgeFilings [ridgeRecipient] [ridgeRequest .restrict 20])).disposition.receipts = [] ∧
      (PrivacySystem.run {} shelf true (answering ridgeRecipient)).disposition.request ridgeRestriction.requestId =
        .ok ridgeRestriction ∧
      (close ridgeRestriction.requestId 30 closeDraws
        (PrivacySystem.run {} shelf true (answering ridgeRecipient))).1.isOk = true ∧
      (newNode Platform.hexadecimal ridgeRecipient).evidenceId ∈ ridgeRestriction.evidenceIds ∧
      (newNode Platform.hexadecimal ridgeRecipient).exempt 30 = false := by decide +kernel
  obtain ⟨row, acknowledged⟩ := Checks.ok_of_isOk acknowledges
  obtain ⟨report, closed⟩ := Checks.ok_of_isOk closes
  refine ⟨report, closed, ?_⟩
  apply acknowledgement_is_kept_iff Platform.hexadecimal {} shelf true (ridgeFilings [ridgeRecipient] [ridgeRequest .restrict 20])
    [] (newNode Platform.hexadecimal ridgeRecipient) "officer" "deleted on our side" 25 row ridgeRestriction.requestId
    ridgeRestriction 30 closeDraws report _ (by decide) acknowledged _ filed covered unexempt closed
  · exact registered
  · rw [unanswered]
    intro stored member
    cases member

/-- A mirror registered without a recipient: its acknowledgement returns, and closing
    reports it as pending all the same. -/
theorem answer_of_the_mirror_is_lost :
    let mirror := ridgeNode .replica "replica:mirror" 10
    let node := newNode Platform.hexadecimal mirror
    let sys := PrivacySystem.run {} shelf true (ridgeFilings [mirror] [ridgeRequest .restrict 20])
    node ∈ sys.disposition.lineageNodes ∧ node.kind.isExternal = true ∧ node.exempt 30 = false ∧
      (acknowledgeExternalRecipient node.nodeId "officer" "deleted on our side" 25 sys).1.isOk = true ∧
      ∃ result ∈ ((close ridgeRestriction.requestId 30 closeDraws
          (PrivacySystem.run {} shelf true (answering mirror))).1.toOption.map DispositionReport.nodeResults).getD [],
        result.nodeId = node.nodeId ∧ result.status = .externalPending := by
  decide +kernel

end SentinelEdge.Privacy
