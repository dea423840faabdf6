import SentinelEdge.Privacy.Recipients
import SentinelEdge.Privacy.Retention

/-! # Reconciliations over whole runs

A reconciliation takes the nodes of a request one by one, and a turn leaves the other
nodes alone. So what each turn keeps to holds in every state of a run.
-/

namespace SentinelEdge.Privacy

open Foundation Domain Storage Evidence EvidenceTrustService PrivacyDispositionService

variable {P : Platform} {limits : Limits} {sys sys' : PrivacySystem P} {seen : List (Observation P)}

/-! ## The loop over the nodes -/

/-- A turn leaves the attempts and receipts of other nodes alone. -/
theorem Turn.Leaves.frame {turn : Turn P} (leaves : turn.Leaves limits sys sys') {nodeId : UUID}
    (apart : nodeId ≠ turn.node.nodeId) :
    (∀ requestId, sys'.disposition.history requestId nodeId = sys.disposition.history requestId nodeId) ∧
      sys'.disposition.externalAck nodeId = sys.disposition.externalAck nodeId := by
  have attempts : ∀ {t : DispositionStore P} {b : ExternalRecipientReconciliationAttempt P}, b.nodeId = turn.node.nodeId →
      (∀ requestId, (t.insertAttempt b).history requestId nodeId = t.history requestId nodeId) ∧
        (t.insertAttempt b).externalAck nodeId = t.externalAck nodeId := by
    intro t b own
    have other : b.nodeId ≠ nodeId := fun same => apart (same.symm.trans own)
    unfold DispositionStore.insertAttempt
    split
    · exact ⟨fun _ => rfl, rfl⟩
    · refine ⟨?_, rfl⟩
      intro requestId
      simp [DispositionStore.history, other]
  cases leaves with
  | idle disposition observed => exact ⟨fun _ => by rw [disposition], by rw [disposition]⟩
  | overflowed overflows disposition observed => exact ⟨fun _ => by rw [disposition], by rw [disposition]⟩
  | expired step makes state final disposition observed =>
      rw [disposition]
      exact attempts makes.nodeId
  | refused step addressed makes outcome disposition observed =>
      rw [disposition]
      exact attempts makes.nodeId
  | @accepted b row step addressed makes state final own recipient disposition observed =>
      rw [disposition]
      have other : row.nodeId ≠ nodeId := fun same => apart (same.symm.trans own)
      have receipts : (∀ requestId, (sys.disposition.insertReceipt row).history requestId nodeId =
          sys.disposition.history requestId nodeId) ∧
          (sys.disposition.insertReceipt row).externalAck nodeId = sys.disposition.externalAck nodeId := by
        unfold DispositionStore.insertReceipt
        split
        · exact ⟨fun _ => rfl, rfl⟩
        · refine ⟨fun _ => rfl, ?_⟩
          unfold DispositionStore.externalAck
          rw [List.filter_append, List.filter_cons_of_neg (by simpa using other), List.filter_nil, List.append_nil]
      obtain ⟨history, answer⟩ := attempts (t := sys.disposition.insertReceipt row) makes.nodeId
      exact ⟨fun requestId => (history requestId).trans (receipts.1 requestId), answer.trans receipts.2⟩

/-- So a later turn overflows only if it did before. -/
theorem Turn.Overflows.earlier {turn later : Turn P} (leaves : turn.Leaves limits sys sys')
    (apart : later.node.nodeId ≠ turn.node.nodeId) (d : Disciplined limits sys) (d' : Disciplined limits sys')
    (legible : Legible P seen) (within : ∀ o ∈ sys.observed, o ∈ seen) (within' : ∀ o ∈ sys'.observed, o ∈ seen)
    (overflows : later.Overflows limits sys'.disposition) : later.Overflows limits sys.disposition := by
  obtain ⟨history, answer⟩ := leaves.frame apart
  have previous : sys'.disposition.previous later.requestId later.node.nodeId =
      sys.disposition.previous later.requestId later.node.nodeId := by
    rw [d'.previous_eq legible within', d.previous_eq legible within, history]
  have next : later.next sys'.disposition = later.next sys.disposition := by
    rw [Turn.next, Turn.next, DispositionStore.next, DispositionStore.next, previous, answer]
  exact ⟨overflows.addressed, next ▸ overflows.due, overflows.refused, previous ▸ overflows.retries, overflows.late⟩

theorem Disciplined.reconcileNodes {request : DispositionRequest P} {requestId : UUID}
    (sender : DispositionLineageNode P → SenderAnswer) (actor : String) (now : DateTime)
    (nodes : List (DispositionLineageNode P)) (legible : Legible P seen) (positive : 0 < limits.delay)
    (allowed : 0 < limits.maximum) (d : Disciplined limits sys) (sound : sys.Sound)
    (requested : request ∈ sys.disposition.requests ∧ request.requestId = requestId)
    (listed : ∀ node ∈ nodes, node ∈ sys.disposition.lineageNodes ∧ node.kind.isExternal = true)
    (distinct : (nodes.map DispositionLineageNode.nodeId).Nodup)
    (inRange : ∀ node ∈ nodes, ¬ Turn.Overflows ⟨request, requestId, node, sender, now⟩ limits sys.disposition)
    (within : ∀ o ∈ (PrivacyDispositionService.reconcileNodes limits request requestId sender actor now nodes sys).2.observed,
      o ∈ seen) :
    Disciplined limits (PrivacyDispositionService.reconcileNodes limits request requestId sender actor now nodes sys).2 := by
  induction nodes generalizing sys with
  | nil => exact d
  | cons node nodes ih =>
      obtain ⟨own, others⟩ := List.nodup_cons.mp distinct
      have found : sys.disposition.lineageNodes.find? (fun n => n.nodeId = node.nodeId) = some node := by
        obtain ⟨other, known⟩ := Option.isSome_iff_exists.mp (List.find?_isSome.mpr
          ⟨node, (listed node List.mem_cons_self).1, by simp⟩ :
          (sys.disposition.lineageNodes.find? (fun n => n.nodeId = node.nodeId)).isSome = true)
        obtain rfl : other = node := List.inj_on_of_nodup_map sound.tidy.nodes (List.mem_of_find?_eq_some known)
          (listed node List.mem_cons_self).1 (by simpa using List.find?_some known)
        exact known
      have leaves := @reconcileNode_leaves _ limits _ sound.journalled ⟨request, requestId, node, sender, now⟩ found
        (listed node List.mem_cons_self).2 actor
      have kept := reconcileNode_keeps limits request requestId sender actor now node sys
      have since := reconcileNode_since limits request requestId sender actor now node sys
        ⟨sound.journalled, List.prefix_refl _⟩
      unfold PrivacyDispositionService.reconcileNodes at within ⊢
      rcases turned : reconcileNode limits request requestId sender actor now node sys with ⟨r, sys₁⟩
      rw [turned] at leaves kept since
      have turnKeeps : (∀ o ∈ sys₁.observed, o ∈ seen) → Disciplined limits sys₁ := fun within₁ =>
        d.turn sound legible within₁ positive allowed _ requested (listed node List.mem_cons_self).1 leaves
          (inRange node List.mem_cons_self)
      cases r with
      | error e =>
          rw [Call.bind_of_error turned] at within ⊢
          exact turnKeeps within
      | ok attempt =>
          rw [Call.bind_of_ok turned, Call.bind_pure_state] at within ⊢
          have sound₁ : sys₁.Sound := ⟨since.journalled, .of_eq kept sound.tidy⟩
          have later := reconcileNodes_since (P := P) limits request requestId sender actor now nodes sys₁
            ⟨sound₁.journalled, List.prefix_refl _⟩
          have within₁ : ∀ o ∈ sys₁.observed, o ∈ seen := fun o member => within o (later.remembered.subset member)
          have d₁ := turnKeeps within₁
          have rows : sys₁.disposition.requests = sys.disposition.requests := congrArg Ledger.requests kept
          have lineage : sys₁.disposition.lineageNodes = sys.disposition.lineageNodes := congrArg Ledger.nodes kept
          refine ih d₁ sound₁ (rows ▸ requested) ?_ others ?_ within
          · rw [lineage]
            exact fun other member => listed other (List.mem_cons_of_mem _ member)
          · intro other member overflows
            refine inRange other (List.mem_cons_of_mem _ member) (overflows.earlier leaves ?_ d d₁ legible
              (fun o old => within₁ o (since.remembered.subset old)) within₁)
            intro same
            exact own (same ▸ List.mem_map_of_mem member)

theorem mem_externalNodes {d : DispositionStore P} {request : DispositionRequest P} {node : DispositionLineageNode P}
    (member : node ∈ externalNodes d request) : node ∈ d.lineageNodes ∧ node.kind.isExternal = true := by
  unfold externalNodes at member
  rw [List.mem_insertionSort, List.mem_filter, List.mem_flatMap] at member
  obtain ⟨⟨evidenceId, -, listed⟩, external⟩ := member
  exact ⟨(DispositionStore.mem_nodes.mp listed).1, external⟩

theorem nodup_externalNodes {d : DispositionStore P} (distinct : (d.lineageNodes.map DispositionLineageNode.nodeId).Nodup)
    (request : DispositionRequest P) : ((externalNodes d request).map DispositionLineageNode.nodeId).Nodup := by
  have once : (externalNodes d request).Nodup := by
    refine (List.perm_insertionSort _ _).nodup_iff.mpr (List.Nodup.filter _ (List.nodup_flatMap.mpr ⟨?_, ?_⟩))
    · intro evidenceId _
      exact (List.perm_insertionSort _ _).nodup_iff.mpr (List.Nodup.filter _ distinct.of_map)
    · refine (List.nodup_dedup request.evidenceIds).imp ?_
      intro first second apart node inFirst inSecond
      exact apart ((DispositionStore.mem_nodes.mp inFirst).2.symm.trans (DispositionStore.mem_nodes.mp inSecond).2)
  refine List.Nodup.map_on ?_ once
  intro a first b second same
  exact List.inj_on_of_nodup_map distinct (mem_externalNodes first).1 (mem_externalNodes second).1 same

/-! ## Runs -/

/-- No reconciliation loses an attempt to a date past the last one. -/
def KeepsInRange (limits : Limits) (sys : PrivacySystem P) : PrivacyOperation P → Prop
  | .reconcile requestId sender _ now => ∀ request, sys.disposition.request requestId = .ok request →
      ∀ node ∈ externalNodes sys.disposition request,
        ¬ Turn.Overflows ⟨request, requestId, node, sender, now⟩ limits sys.disposition
  | _ => True

/-- What `registerNode`, `createRequest` and `close` do not touch. -/
def PrivacySystem.traffic (sys : PrivacySystem P) :
    List (ExternalRecipientReconciliationAttempt P) × List (ExternalReceipt P) × List (Observation P) :=
  (sys.disposition.attempts, sys.disposition.receipts, sys.observed)

theorem registerNode_traffic (arguments : NodeArguments) :
    Call.Keeps PrivacySystem.traffic (registerNode arguments : PrivacyCall P (DispositionLineageNode P)) := by
  refine Call.Keeps.bind (Call.Keeps.lift _) (fun node => Call.Keeps.bind (Call.Keeps.read _) (fun sys => ?_))
  split
  · split
    · exact Call.Keeps.raise _
    · exact Call.Keeps.pure _
  · exact Call.Keeps.bind (Call.Keeps.modify (fun _ => rfl)) (fun _ => Call.Keeps.pure _)

theorem createRequest_traffic (arguments : RequestArguments) :
    Call.Keeps PrivacySystem.traffic (createRequest arguments : PrivacyCall P (DispositionRequest P)) := by
  refine Call.Keeps.bind (Call.Keeps.lift _) (fun request => Call.Keeps.bind (Call.Keeps.read _) (fun sys => ?_))
  split
  · exact Call.Keeps.lift _
  · intro t
    have body : Call.Keeps PrivacySystem.traffic (do
        execute (insertRequest request)
        authority request.requestId request.createdAt request.modelDump
        pure request : PrivacyCall P (DispositionRequest P)) := by
      refine Call.Keeps.bind (Call.Keeps.modify (fun _ => rfl)) (fun _ => Call.Keeps.bind ?_ (fun _ => Call.Keeps.pure _))
      intro u
      rw [authority_eq]
      rfl
    have kept := body t
    rcases ran : (do
        execute (insertRequest request)
        authority request.requestId request.createdAt request.modelDump
        pure request : PrivacyCall P (DispositionRequest P)) t with ⟨r, u⟩
    rw [ran] at kept
    unfold transaction
    rw [ran]
    cases r with
    | ok request => exact kept
    | error e =>
        have observed : u.observed = t.observed := congrArg (fun traffic => traffic.2.2) kept
        simp only [PrivacySystem.traffic, observed]

theorem Disciplined.of_traffic (d : Disciplined limits sys) (same : sys'.traffic = sys.traffic)
    (nodes : ∀ node ∈ sys.disposition.lineageNodes, node ∈ sys'.disposition.lineageNodes)
    (requests : ∀ request ∈ sys.disposition.requests, request ∈ sys'.disposition.requests) : Disciplined limits sys' := by
  have attempts : sys'.disposition.attempts = sys.disposition.attempts := congrArg (fun traffic => traffic.1) same
  have receipts : sys'.disposition.receipts = sys.disposition.receipts := congrArg (fun traffic => traffic.2.1) same
  have observed : sys'.observed = sys.observed := congrArg (fun traffic => traffic.2.2) same
  refine d.extended [] attempts nodes (fun request listed => ⟨request, requests request listed, rfl, rfl⟩) ?_
    (by simp [observed]) (by simp) ?_ (by simp)
  · rw [receipts]
    exact fun _ stored => stored
  · rw [receipts]
    exact fun _ stored => .inl stored

theorem Disciplined.reconcile (d : Disciplined limits sys) (sound : sys.Sound) (legible : Legible P seen) {requestId : UUID}
    {sender : DispositionLineageNode P → SenderAnswer} {actor : String} {now : DateTime}
    (inRange : KeepsInRange limits sys (.reconcile requestId sender actor now))
    (within : ∀ o ∈ (reconcileExternalRecipients limits requestId sender actor now sys).2.observed, o ∈ seen) :
    Disciplined limits (reconcileExternalRecipients limits requestId sender actor now sys).2 := by
  unfold reconcileExternalRecipients at within ⊢
  by_cases invalid : (limits.maxAttempts ≤ 0 || limits.retryDelaySeconds ≤ 0) = true
  · rw [if_pos invalid]
    exact d
  · rw [if_neg invalid] at within ⊢
    simp only [Bool.or_eq_true, decide_eq_true_eq, not_or, not_le] at invalid
    by_cases blank : isBlank actor = true
    · rw [if_pos blank]
      exact d
    · rw [if_neg blank] at within ⊢
      rw [Call.read_bind] at within ⊢
      cases found : sys.disposition.request requestId with
      | error e =>
          rw [Call.bind_of_error (by rw [Call.lift_apply]; exact congrArg (·, sys) found)]
          exact d
      | ok request =>
          rw [Call.bind_of_ok (by rw [Call.lift_apply]; exact congrArg (·, sys) found)] at within ⊢
          obtain ⟨stored, own, -⟩ := DispositionStore.request_ok found
          have positive : 0 < limits.delay := by
            unfold PrivacyDispositionService.Limits.delay
            omega
          have allowed : 0 < limits.maximum := by
            unfold PrivacyDispositionService.Limits.maximum
            omega
          have loop := d.reconcileNodes sender actor now (externalNodes sys.disposition request) legible positive allowed sound ⟨stored, own⟩
            (fun node member => mem_externalNodes member) (nodup_externalNodes sound.tidy.nodes request)
            (inRange request found)
          dsimp only [id] at within ⊢
          rcases looped : PrivacyDispositionService.reconcileNodes limits request requestId sender actor now
            (externalNodes sys.disposition request) sys with ⟨r, sys₁⟩
          rw [looped] at loop
          cases r with
          | error e =>
              rw [Call.bind_of_error looped] at within ⊢
              exact loop within
          | ok attempts =>
              rw [Call.bind_of_ok looped, Call.bind_pure_state, authority_eq] at within ⊢
              exact (loop within).of_eq rfl rfl

theorem Disciplined.acknowledge (d : Disciplined limits sys) (sound : sys.Sound) (legible : Legible P seen) {nodeId : UUID}
    {actor receipt : String} {createdAt : DateTime}
    (within : ∀ o ∈ (acknowledgeExternalRecipient nodeId actor receipt createdAt sys).2.observed, o ∈ seen) :
    Disciplined limits (acknowledgeExternalRecipient nodeId actor receipt createdAt sys).2 := by
  cases found : sys.disposition.lineageNodes.find? (fun n => n.nodeId = nodeId) with
  | none =>
      unfold acknowledgeExternalRecipient
      simp only [Call.read_bind, id, found]
      exact d
  | some node =>
      cases external : node.kind.isExternal with
      | false =>
          unfold acknowledgeExternalRecipient
          simp only [Call.read_bind, id, found, external, Bool.not_false, if_true]
          exact d
      | true =>
          obtain ⟨s, acknowledged, -⟩ := acknowledgeExternalRecipient_eq sound.journalled found external actor receipt createdAt
          rw [acknowledged] at within ⊢
          have same : node.nodeId = nodeId := by simpa using List.find?_some found
          have own : (newReceipt node actor receipt createdAt).nodeId = node.nodeId := rfl
          generalize row_eq : newReceipt node actor receipt createdAt = row at *
          have recipient : row.recipientDigest = node.externalRecipientDigest := by rw [← row_eq]; rfl
          have inserted : (sys.disposition.insertReceipt row).attempts = sys.disposition.attempts ∧
              (sys.disposition.insertReceipt row).lineageNodes = sys.disposition.lineageNodes ∧
              (sys.disposition.insertReceipt row).requests = sys.disposition.requests ∧
              ((sys.disposition.insertReceipt row).receipts = sys.disposition.receipts ∧
                (row.recipientDigest = none ∨ ∃ stored ∈ sys.disposition.receipts, stored.receiptId = row.receiptId) ∨
              (sys.disposition.insertReceipt row).receipts = sys.disposition.receipts ++ [row]) := by
            unfold DispositionStore.insertReceipt
            split
            · refine ⟨rfl, rfl, rfl, .inl ⟨rfl, ?_⟩⟩
              rename_i ignored
              rcases Bool.or_eq_true _ _ |>.mp ignored with nobody | taken
              · exact .inl (Option.isNone_iff_eq_none.mp nobody)
              · obtain ⟨stored, listed, id⟩ := List.any_eq_true.mp taken
                exact .inr ⟨stored, listed, by simpa using id⟩
            · exact ⟨rfl, rfl, rfl, .inr rfl⟩
          obtain ⟨attempts, nodes, requests, receipts⟩ := inserted
          refine d.extended [.acknowledged row] attempts ?_ ?_ ?_ rfl (by simp [Observation.attempt]) ?_ ?_
          · exact fun node listed => nodes ▸ listed
          · exact fun request listed => ⟨request, requests ▸ listed, rfl, rfl⟩
          · intro stored listed
            rcases receipts with ⟨unchanged, -⟩ | added
            · exact unchanged ▸ listed
            · exact added ▸ List.mem_append_left _ listed
          · intro stored listed
            rcases receipts with ⟨unchanged, -⟩ | added
            · exact .inl (unchanged ▸ listed)
            · rcases List.mem_append.mp (added ▸ listed) with old | new
              · exact .inl old
              · exact .inr (List.mem_singleton.mp new ▸ List.mem_singleton_self _)
          · intro other single
            obtain rfl : other = row := by simpa using single
            rcases receipts with ⟨unchanged, nobody | ⟨stored, listed, id⟩⟩ | added
            · exact .inr ⟨node, nodes ▸ List.mem_of_find?_eq_some found, own.symm, recipient.symm.trans nobody⟩
            · left
              have known := d.receipts stored listed
              obtain rfl := legible.receipts stored other (within _ (List.mem_append_left _ known)) (within _ (by simp)) id
              exact ⟨stored, unchanged ▸ listed, rfl⟩
            · exact .inl ⟨other, added ▸ List.mem_append_right _ (List.mem_singleton_self _), rfl⟩

theorem Disciplined.close (d : Disciplined limits sys) (sound : sys.Sound) (requestId : UUID) (now : DateTime)
    (draws : CloseDraws) : Disciplined limits (PrivacyDispositionService.close requestId now draws sys).2 := by
  cases found : sys.disposition.request requestId with
  | error e =>
      rw [close_unknown found]
      exact d
  | ok request =>
      obtain ⟨stored, own, -⟩ := DispositionStore.request_ok found
      obtain ⟨results, walked, walks⟩ := walked_of_request sys request now draws
        (fun _ => sound.tidy.items request stored)
      obtain ⟨position, s, answered, -⟩ := (walks.journalled sound.journalled).recorded requestId now
        (closureReport request now results).modelDump
      rw [close_eq found walks.visited, fileReport_eq, answered]
      have tables : (settled sys request requestId results).attempts = sys.disposition.attempts ∧
          (settled sys request requestId results).receipts = sys.disposition.receipts ∧
          (settled sys request requestId results).lineageNodes = sys.disposition.lineageNodes := by
        unfold settled
        dsimp only
        split <;> exact ⟨rfl, rfl, rfl⟩
      refine d.extended _ tables.1 ?_ ?_ ?_ rfl ?_ ?_ ?_
      · exact fun node listed => tables.2.2.symm ▸ listed
      · intro row listed
        dsimp only
        rw [closed_requests sys own]
        by_cases mine : row.requestId = requestId
        · obtain rfl : row = request := List.inj_on_of_nodup_map sound.tidy.requests listed stored (mine.trans own.symm)
          exact ⟨_, List.mem_map.mpr ⟨row, listed, if_pos mine⟩, rfl, rfl⟩
        · exact ⟨row, List.mem_map.mpr ⟨row, listed, if_neg mine⟩, rfl, rfl⟩
      · exact fun row kept => tables.2.1.symm ▸ kept
      · intro o member
        split at member
        · rw [List.mem_singleton.mp member]
          exact ⟨rfl, by simp⟩
        · cases member
      · exact fun row kept => .inl (tables.2.1 ▸ kept)
      · intro row member
        split at member
        · simp at member
        · cases member

theorem Disciplined.step (d : Disciplined limits sys) (sound : sys.Sound) (legible : Legible P seen)
    {op : PrivacyOperation P} (inRange : KeepsInRange limits sys op)
    (within : ∀ o ∈ (sys.step limits op).observed, o ∈ seen) : Disciplined limits (sys.step limits op) := by
  cases op with
  | registerNode arguments =>
      refine d.of_traffic (registerNode_traffic arguments sys) ?_ ?_
      · rcases registerNode_ledger arguments sys with same | ⟨node, -, added⟩
        · have nodes : (sys.step limits (.registerNode arguments)).disposition.lineageNodes =
              sys.disposition.lineageNodes := congrArg Ledger.nodes same
          rw [nodes]
          exact fun other listed => listed
        · have nodes : (sys.step limits (.registerNode arguments)).disposition.lineageNodes =
              sys.disposition.lineageNodes ++ [node] := congrArg Ledger.nodes added
          rw [nodes]
          exact fun other listed => List.mem_append_left _ listed
      · have requests : (sys.step limits (.registerNode arguments)).disposition.requests = sys.disposition.requests := by
          rcases registerNode_ledger arguments sys with same | ⟨node, -, added⟩
          · exact congrArg Ledger.requests same
          · exact congrArg Ledger.requests added
        rw [requests]
        exact fun request listed => listed
  | createRequest arguments =>
      refine d.of_traffic (createRequest_traffic arguments sys) ?_ ?_
      · have nodes : (sys.step limits (.createRequest arguments)).disposition.lineageNodes =
            sys.disposition.lineageNodes := by
          rcases createRequest_ledger arguments sys with same | ⟨-, filed⟩
          · exact congrArg Ledger.nodes same
          · exact congrArg Ledger.nodes filed
        rw [nodes]
        exact fun node listed => listed
      · rcases createRequest_ledger arguments sys with same | ⟨-, filed⟩
        · have requests : (sys.step limits (.createRequest arguments)).disposition.requests = sys.disposition.requests :=
            congrArg Ledger.requests same
          rw [requests]
          exact fun request listed => listed
        · have requests : (sys.step limits (.createRequest arguments)).disposition.requests =
              sys.disposition.requests ++ [newRequest P arguments] := congrArg Ledger.requests filed
          rw [requests]
          exact fun request listed => List.mem_append_left _ listed
  | acknowledge nodeId actor receipt createdAt => exact d.acknowledge sound legible within
  | reconcile requestId sender actor now => exact d.reconcile sound legible inRange within
  | close requestId now draws => exact d.close sound requestId now draws
  | evidence op => exact d.of_eq rfl rfl

theorem disciplined_start (artifacts : ContentAddressedArtifactStore P) (attached : Bool) :
    Disciplined limits (PrivacySystem.start artifacts attached) where
  stored := rfl
  courses := fun _ _ => Course.nil
  bounded := fun _ _ => Nat.zero_le _
  noted := by simp [PrivacySystem.start]
  timely := by simp [PrivacySystem.start]
  acknowledged := by simp [PrivacySystem.start]
  contacts := fun _ _ => rfl
  receipts := by simp [PrivacySystem.start]
  answered := by simp [PrivacySystem.start]
  ordered := List.Pairwise.nil

theorem run_disciplined (artifacts : ContentAddressedArtifactStore P) (attached : Bool) {ops : List (PrivacyOperation P)}
    (inRange : Meets (PrivacySystem.step limits) (KeepsInRange limits) (PrivacySystem.start artifacts attached) ops)
    (legible : Legible P (PrivacySystem.run limits artifacts attached ops).observed) :
    Disciplined limits (PrivacySystem.run limits artifacts attached ops) := by
  have whole := Meets.invariant (I := fun sys => sys.Sound ∧
      ((∀ o ∈ sys.observed, o ∈ (PrivacySystem.run limits artifacts attached ops).observed) → Disciplined limits sys))
    (fun sys op inRange holds => ⟨holds.1.step limits op, fun within =>
      (holds.2 (fun o member => within o ((PrivacySystem.step_since limits holds.1.journalled op).remembered.subset member))).step
        holds.1 legible inRange within⟩)
    ⟨PrivacySystem.start_sound artifacts attached, fun _ => disciplined_start artifacts attached⟩ inRange
  exact whole.2 (fun o member => member)

/-- An attempt after which no other one follows. -/
def isTerminal (state : RecipientReconciliationState) : Bool :=
  state = .acknowledged || state = .exhausted || state = .deadlineExpired

/-- Contact with the recipient of a node for a request: how often, when, and what is
    stored about it. -/
structure BoundedContact (limits : Limits) (sys : PrivacySystem P) (requestId nodeId : UUID) : Prop where
  bounded : (sys.contactTimes requestId nodeId).length ≤ limits.maxAttempts.toNat
  unacknowledged : ∀ before contactedAt after, sys.observed = before ++ .contacted requestId nodeId contactedAt :: after →
    ∀ receipt, .acknowledged receipt ∈ before → receipt.nodeId ≠ nodeId
  timely : ∀ contactedAt ∈ sys.contactTimes requestId nodeId, ∃ request ∈ sys.disposition.requests,
    request.requestId = requestId ∧ contactedAt < request.deadline
  spaced : ∀ before contactedAt after, sys.observed = before ++ .contacted requestId nodeId contactedAt :: after →
    ∀ attempt, .attempted attempt ∈ before → attempt.requestId = requestId → attempt.nodeId = nodeId →
      ∀ due, attempt.nextRetryAt = some due → due ≤ contactedAt
  numbered : (sys.disposition.previous requestId nodeId).map ExternalRecipientReconciliationAttempt.attemptNo =
    List.range' 1 (sys.disposition.previous requestId nodeId).length
  terminal : ∀ attempt ∈ (sys.disposition.previous requestId nodeId).dropLast, isTerminal attempt.state = false

/-- A receipt that was given. -/
def Observation.receipt : Observation P → Option (ExternalReceipt P)
  | .acknowledged receipt => some receipt
  | _ => none

/-- Legibility, checked on the attempts and receipts of a list. -/
theorem legible_of_lists
    (attempts : ∀ a ∈ seen.filterMap Observation.attempt, ∀ b ∈ seen.filterMap Observation.attempt,
      (a.attemptId = b.attemptId → a = b) ∧ (a.createdAt < b.createdAt → P.isoformat a.createdAt < P.isoformat b.createdAt))
    (receipts : ∀ a ∈ seen.filterMap Observation.receipt, ∀ b ∈ seen.filterMap Observation.receipt,
      a.receiptId = b.receiptId → a = b) : Legible P seen := by
  have attempted : ∀ a, .attempted a ∈ seen → a ∈ seen.filterMap Observation.attempt :=
    fun a member => List.mem_filterMap.mpr ⟨_, member, rfl⟩
  have acknowledged : ∀ a, .acknowledged a ∈ seen → a ∈ seen.filterMap Observation.receipt :=
    fun a member => List.mem_filterMap.mpr ⟨_, member, rfl⟩
  exact ⟨fun a b first second => (attempts a (attempted a first) b (attempted b second)).1,
    fun a b first second => receipts a (acknowledged a first) b (acknowledged b second),
    fun a b first second => (attempts a (attempted a first) b (attempted b second)).2⟩

/-- An erasure of the first report, due in nine seconds. -/
def outreachRequest : RequestArguments := { ridgeRequest .erase 20 with deadline := 9000000 }

/-- The recipient is asked at the given times, and refuses. -/
def outreach (times : List DateTime) : List (PrivacyOperation Platform.hexadecimal) :=
  ridgeFilings [ridgeRecipient] [outreachRequest] ++ times.map (fun now =>
    .reconcile (newRequest Platform.hexadecimal outreachRequest).requestId (fun _ => .ok (false, "refused")) "worker" now)

end SentinelEdge.Privacy
