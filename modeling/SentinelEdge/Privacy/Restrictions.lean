import SentinelEdge.Privacy.Retention

/-! # Restrictions while requests are open

There is one row of restriction for an item, and a request that is completed deletes
it, whoever else had asked for it. So an open request is safe only from requests
that cover other items.
-/

namespace SentinelEdge.Privacy

open Foundation Domain Storage Evidence EvidenceTrustService PrivacyDispositionService

variable {P : Platform} {sys : PrivacySystem P}

/-- A request that has not been completed. -/
def IsOpen (sys : PrivacySystem P) (request : DispositionRequest P) : Prop :=
  request ∈ sys.disposition.requests ∧ request.requestId ∉ sys.ledger.completed

/-- Every item that an open request covers is restricted. -/
def OpenRestricted (sys : PrivacySystem P) : Prop :=
  ∀ request, IsOpen sys request → ∀ evidenceId ∈ request.evidenceIds, sys.disposition.isRestricted evidenceId = true

/-- Nothing keeps the request from being completed now. -/
def Completes (sys : PrivacySystem P) (request : DispositionRequest P) (now : DateTime) (draws : CloseDraws) : Prop :=
  ∀ before v after, visits sys.disposition request = before ++ v :: after →
    (walkOf sys request now draws).Passes sys.evidence before v

/-- A closing that completes its request shares no item with another open one. -/
def SparesOpenRequests (sys : PrivacySystem P) : PrivacyOperation P → Prop
  | .close requestId now draws => ∀ request, sys.disposition.request requestId = .ok request → Completes sys request now draws →
      ∀ other, IsOpen sys other → other.requestId ≠ requestId → ∀ evidenceId ∈ request.evidenceIds,
        evidenceId ∉ other.evidenceIds
  | _ => True

/-- The same, read off the ledger. -/
theorem openRestricted_iff : OpenRestricted sys ↔ ∀ request ∈ sys.ledger.requests, request.requestId ∉ sys.ledger.completed →
    ∀ evidenceId ∈ request.evidenceIds, (sys.ledger.restrictions.get? evidenceId).isSome = true := by
  constructor
  · intro restricted request member unfinished
    exact restricted request ⟨member, unfinished⟩
  · intro restricted request unfinished
    exact restricted request unfinished.1 unfinished.2

theorem OpenRestricted.of_ledger {sys' : PrivacySystem P} (same : sys'.ledger = sys.ledger) (restricted : OpenRestricted sys) :
    OpenRestricted sys' := by
  rw [openRestricted_iff] at restricted ⊢
  rw [same]
  exact restricted

/-- A new request restricts its items and frees none. -/
theorem isSome_insertRequest (request : DispositionRequest P) (d : DispositionStore P) (evidenceId : UUID) :
    ((insertRequest request d).restrictions.get? evidenceId).isSome = true ↔
      evidenceId ∈ request.evidenceIds ∨ (d.restrictions.get? evidenceId).isSome = true := by
  have rows : ∀ (evidenceIds : List UUID) (rows : Dict UUID Restriction),
      ((evidenceIds.foldl (fun rows e => rows.insert e ⟨request.requestId, request.action, request.createdAt⟩) rows).get?
        evidenceId).isSome = true ↔ evidenceId ∈ evidenceIds ∨ (rows.get? evidenceId).isSome = true := by
    intro evidenceIds
    induction evidenceIds with
    | nil => simp
    | cons first rest ih =>
        intro rows
        rw [List.foldl_cons, ih, Dict.get?_insert, List.mem_cons]
        by_cases same : evidenceId = first
        · simp [same]
        · simp [same]
  exact rows request.evidenceIds d.restrictions

/-- Closing keeps the items of open requests restricted exactly when it spares them. -/
theorem close_keeps_restrictions_iff (sound : sys.Sound) (restricted : OpenRestricted sys) (requestId : UUID) (now : DateTime)
    (draws : CloseDraws) :
    OpenRestricted (close requestId now draws sys).2 ↔ SparesOpenRequests sys (.close requestId now draws) := by
  cases found : sys.disposition.request requestId with
  | error e =>
      rw [close_unknown found]
      refine iff_of_true restricted ?_
      intro request other
      rw [found] at other
      cases other
  | ok request =>
      obtain ⟨results, walked, walks, after⟩ := sound.close_requests found now draws
      obtain ⟨stored, own, -⟩ := DispositionStore.request_ok found
      have completes : (closureOutcome results).1 = .completed ↔ Completes sys request now draws := walks.completes_iff
      have stays : ∀ evidenceId, ((settled sys request requestId results).restrictions.get? evidenceId).isSome = true ↔
          ((closureOutcome results).1 = .completed → evidenceId ∉ request.evidenceIds) ∧
            sys.disposition.isRestricted evidenceId = true := fun _ => isRestricted_settled
      rw [closed_requests sys own] at after
      rw [openRestricted_iff, after]
      dsimp only
      constructor
      · intro kept request' found' goes other unfinished apart evidenceId covers shared
        rw [found, Except.ok.injEq] at found'
        rw [← found'] at goes covers
        have listed : other ∈ sys.disposition.requests.map (fun r => if r.requestId = requestId then { request with
            status := (closureOutcome results).1, terminalOutcome := some (closureOutcome results).2 } else r) :=
          List.mem_map.mpr ⟨other, unfinished.1, if_neg apart⟩
        have unlisted : other.requestId ∉ sys.ledger.completed ++
            if (closureOutcome results).1 = .completed then [requestId] else [] := by
          rw [List.mem_append, not_or]
          refine ⟨unfinished.2, ?_⟩
          split <;> simp [apart]
        exact ((stays evidenceId).mp (kept other listed unlisted evidenceId shared)).1 (completes.mpr goes) covers
      · intro spares row member unfinished evidenceId covers
        rw [List.mem_append, not_or] at unfinished
        rw [stays]
        rcases mem_closed member with ⟨listed, apart⟩ | rfl
        · refine ⟨?_, restricted row ⟨listed, unfinished.1⟩ evidenceId covers⟩
          intro goes shared
          exact spares request found (completes.mp goes) row ⟨listed, unfinished.1⟩ apart evidenceId shared covers
        · refine ⟨?_, restricted request ⟨stored, unfinished.1⟩ evidenceId covers⟩
          intro goes
          refine absurd ?_ unfinished.2
          simp [goes, own]

theorem OpenRestricted.step (sound : sys.Sound) (restricted : OpenRestricted sys) (limits : Limits) {op : PrivacyOperation P}
    (spares : SparesOpenRequests sys op) : OpenRestricted (sys.step limits op) := by
  cases op with
  | registerNode arguments =>
      rcases registerNode_ledger arguments sys with same | ⟨node, -, added⟩
      · exact restricted.of_ledger same
      · rw [openRestricted_iff] at restricted ⊢
        rw [PrivacySystem.step, added]
        exact restricted
  | createRequest arguments =>
      rcases createRequest_ledger arguments sys with same | ⟨-, filed⟩
      · exact restricted.of_ledger same
      · rw [openRestricted_iff] at restricted ⊢
        rw [PrivacySystem.step, filed]
        dsimp only
        intro request member unfinished evidenceId covers
        rw [isSome_insertRequest]
        rcases List.mem_append.mp member with old | new
        · exact .inr (restricted request old unfinished evidenceId covers)
        · rw [List.mem_singleton.mp new] at covers
          exact .inl covers
  | acknowledge nodeId actor receipt createdAt => exact restricted.of_ledger (acknowledge_keeps nodeId actor receipt createdAt sys)
  | reconcile requestId sender actor now => exact restricted.of_ledger (reconcile_keeps limits requestId sender actor now sys)
  | close requestId now draws => exact (close_keeps_restrictions_iff sound restricted requestId now draws).mpr spares
  | evidence op => exact restricted.of_ledger rfl

/-- In every state of a run whose closings spare open requests, the items of open
    requests are restricted. -/
theorem open_requests_stay_restricted (P : Platform) (limits : Limits) (artifacts : ContentAddressedArtifactStore P)
    (attached : Bool) (ops : List (PrivacyOperation P))
    (spares : Meets (PrivacySystem.step limits) SparesOpenRequests (PrivacySystem.start artifacts attached) ops) (n : Nat) :
    OpenRestricted (PrivacySystem.run limits artifacts attached (ops.take n)) := by
  have initially : OpenRestricted (PrivacySystem.start artifacts attached) := by
    rintro request ⟨member, -⟩
    cases member
  exact (Meets.invariant (I := fun sys => sys.Sound ∧ OpenRestricted sys)
    (fun sys op spares holds => ⟨holds.1.step limits op, holds.2.step holds.1 limits spares⟩)
    ⟨PrivacySystem.start_sound artifacts attached, initially⟩ (spares.take n)).2

/-- A restriction and an erasure of the first report. -/
def overlapping (nodes : List NodeArguments) : List (PrivacyOperation Platform.hexadecimal) :=
  ridgeFilings nodes [ridgeRequest .restrict 20, ridgeRequest .erase 21]

/-- Both requests wait for the recipient: closing the first completes neither. -/
theorem pending_closing_keeps_both_restricted :
    let closing := overlapping [ridgeRecipient] ++ [.close ridgeRestriction.requestId 30 closeDraws]
    (∀ n, OpenRestricted (PrivacySystem.run {} shelf true (closing.take n))) ∧
      (PrivacySystem.run {} shelf true closing).ledger.completed = [] := by
  obtain ⟨filed, route, silent, uncompleted⟩ :
      (PrivacySystem.run {} shelf true (overlapping [ridgeRecipient])).disposition.request ridgeRestriction.requestId =
        .ok ridgeRestriction ∧
      visits (PrivacySystem.run {} shelf true (overlapping [ridgeRecipient])).disposition ridgeRestriction =
        [.node (newNode Platform.hexadecimal ridgeRecipient)] ∧
      (PrivacySystem.run {} shelf true (overlapping [ridgeRecipient])).disposition.externalAck
        (newNode Platform.hexadecimal ridgeRecipient).nodeId = none ∧
      (PrivacySystem.run {} shelf true
        (overlapping [ridgeRecipient] ++ [.close ridgeRestriction.requestId 30 closeDraws])).ledger.completed = [] := by
    decide +kernel
  refine ⟨?_, uncompleted⟩
  intro n
  apply open_requests_stay_restricted Platform.hexadecimal {} shelf true
  apply Meets.append.mpr
  refine ⟨⟨trivial, trivial, trivial, trivial, trivial⟩, ?_, trivial⟩
  intro request found goes
  have external : (newNode Platform.hexadecimal ridgeRecipient).kind.isExternal = true := by decide
  have same := found.symm.trans filed
  rw [Except.ok.injEq] at same
  rw [same] at goes
  have answered := (goes [] _ [] route).2.1 external
  simp only [walkOf] at answered
  have none := answered.symm.trans (congrArg Option.isSome silent)
  cases none

/-- Closing the restriction frees the report that the erasure still covers. -/
theorem completed_restriction_frees_the_erasure :
    let sys := PrivacySystem.run {} shelf true (overlapping [] ++ [.close ridgeRestriction.requestId 30 closeDraws])
    ∃ request ∈ sys.disposition.requests, request.action = .erase ∧ request.requestId ∉ sys.ledger.completed ∧
      ∃ evidenceId ∈ request.evidenceIds, sys.disposition.isRestricted evidenceId = false := by
  decide +kernel

end SentinelEdge.Privacy
