import SentinelEdge.Foundation.Retries
import SentinelEdge.Privacy.Runs

/-! # One turn of a reconciliation

What the turn of a node can do to the tables and to what is observed: nothing, note
that the deadline has passed, or contact the recipient and record how that went.
-/

namespace SentinelEdge.Privacy

open Foundation Domain Storage Evidence EvidenceTrustService PrivacyDispositionService

variable {P : Platform}

namespace DispositionStore

/-- The stored attempts of a node for a request, as a reconciliation reads them. -/
def previous (d : DispositionStore P) (requestId nodeId : UUID) : List (ExternalRecipientReconciliationAttempt P) :=
  (d.externalReconciliationAttempts requestId).filter (fun a => a.nodeId = nodeId)

/-- What is next for a node of a request. -/
def next (d : DispositionStore P) (request : DispositionRequest P) (requestId nodeId : UUID) (now : DateTime) : NextStep P :=
  nextStep request.deadline now (d.externalAck nodeId).isSome (d.previous requestId nodeId).getLast?

/-- The latest of some receipts is missing only where there are none. -/
theorem latestReceipt_none (rows : List (ExternalReceipt P)) (best : Option (ExternalReceipt P)) :
    rows.foldl (fun best r => match best with
      | some b => if P.isoformat b.createdAt < P.isoformat r.createdAt then some r else some b
      | none => some r) best = none ↔ best = none ∧ rows = [] := by
  induction rows generalizing best with
  | nil => simp
  | cons row rows ih =>
      rw [List.foldl_cons, ih]
      cases best with
      | none => simp
      | some b =>
          dsimp only
          split <;> simp

/-- The recipient of a node has not answered, in the receipts that are stored. -/
theorem externalAck_none {d : DispositionStore P} {nodeId : UUID} :
    d.externalAck nodeId = none ↔ ∀ row ∈ d.receipts, row.nodeId ≠ nodeId := by
  rw [externalAck, Option.map_eq_none_iff]
  refine (latestReceipt_none _ none).trans ?_
  simp [List.filter_eq_nil_iff]

end DispositionStore

section Steps

variable {deadline now : DateTime} {acknowledged : Bool} {last : Option (ExternalRecipientReconciliationAttempt P)}

theorem nextStep_contact (step : nextStep deadline now acknowledged last = .contact) :
    acknowledged = false ∧ now < deadline ∧ ∀ attempt, last = some attempt →
      isSettled attempt.state = false ∧ ∀ due, attempt.nextRetryAt = some due → due ≤ now := by
  unfold nextStep at step
  cases acknowledged with
  | true => cases step
  | false =>
      simp only [Bool.false_eq_true, if_false] at step
      cases last with
      | none =>
          simp only at step
          split at step
          · cases step
          · exact ⟨rfl, not_le.mp ‹_›, by simp⟩
      | some attempt =>
          simp only at step
          by_cases settled : isSettled attempt.state = true
          · simp [settled] at step
          · by_cases late : now ≥ deadline
            · simp [settled, late] at step
            · by_cases waits : attempt.nextRetryAt.any (fun due => due > now) = true
              · simp [settled, late, waits] at step
              · refine ⟨rfl, not_le.mp late, ?_⟩
                rintro _ ⟨rfl⟩
                refine ⟨by simpa using settled, ?_⟩
                intro due scheduled
                rw [scheduled] at waits
                simpa using waits

theorem nextStep_deadlineExpired (step : nextStep deadline now acknowledged last = .deadlineExpired) :
    acknowledged = false ∧ deadline ≤ now ∧ ∀ attempt, last = some attempt → isSettled attempt.state = false := by
  unfold nextStep at step
  cases acknowledged with
  | true => cases step
  | false =>
      simp only [Bool.false_eq_true, if_false] at step
      cases last with
      | none =>
          simp only at step
          split at step
          · exact ⟨rfl, ‹_›, by simp⟩
          · cases step
      | some attempt =>
          simp only at step
          by_cases settled : isSettled attempt.state = true
          · simp [settled] at step
          · by_cases late : now ≥ deadline
            · refine ⟨rfl, late, ?_⟩
              rintro _ ⟨rfl⟩
              simpa using settled
            · simp only [settled, late, Bool.false_eq_true, if_false] at step
              split at step <;> cases step

end Steps

/-! ## The calls a turn makes -/

theorem recordAttempt_eq {sys : PrivacySystem P} (journalled : sys.Journalled)
    (attempt : ExternalRecipientReconciliationAttempt P) :
    ∃ s, recordAttempt attempt sys = (.ok attempt, {
      evidence := { sys.evidence with store := s }
      disposition := sys.disposition.insertAttempt attempt
      observed := sys.observed ++ [.attempted attempt] }) := by
  obtain ⟨s, written, -⟩ := authority_of_journalled
    (show PrivacySystem.Journalled { sys with disposition := sys.disposition.insertAttempt attempt } from journalled) attempt.attemptId attempt.createdAt
    attempt.modelDump
  have committed : transaction (do
      execute (fun d => d.insertAttempt attempt)
      authority attempt.attemptId attempt.createdAt attempt.modelDump) sys = (.ok (), {
        evidence := { sys.evidence with store := s }
        disposition := sys.disposition.insertAttempt attempt
        observed := sys.observed }) := by
    simp only [transaction, execute, Call.modify_bind, written]
  refine ⟨s, ?_⟩
  unfold recordAttempt
  rw [Call.bind_of_ok committed, observe, Call.modify_bind]
  rfl

theorem acknowledgeExternalRecipient_eq {sys : PrivacySystem P} (journalled : sys.Journalled) {nodeId : UUID}
    {node : DispositionLineageNode P} (found : sys.disposition.lineageNodes.find? (fun n => n.nodeId = nodeId) = some node)
    (external : node.kind.isExternal = true) (actor receipt : String) (createdAt : DateTime) :
    ∃ s, acknowledgeExternalRecipient nodeId actor receipt createdAt sys = (.ok (newReceipt node actor receipt createdAt), {
      evidence := { sys.evidence with store := s }
      disposition := sys.disposition.insertReceipt (newReceipt node actor receipt createdAt)
      observed := sys.observed ++ [.acknowledged (newReceipt node actor receipt createdAt)] }) ∧ Journalled s := by
  obtain ⟨s, written, after⟩ := authority_of_journalled
    (show PrivacySystem.Journalled
      { sys with disposition := sys.disposition.insertReceipt (newReceipt node actor receipt createdAt) } from journalled)
    (newReceipt node actor receipt createdAt).receiptId createdAt (newReceipt node actor receipt createdAt).payload
  have committed : transaction (do
      execute (fun d => d.insertReceipt (newReceipt node actor receipt createdAt))
      authority (newReceipt node actor receipt createdAt).receiptId createdAt
        (newReceipt node actor receipt createdAt).payload) sys = (.ok (), {
          evidence := { sys.evidence with store := s }
          disposition := sys.disposition.insertReceipt (newReceipt node actor receipt createdAt)
          observed := sys.observed }) := by
    simp only [transaction, execute, Call.modify_bind, written]
  refine ⟨s, ?_, after⟩
  unfold acknowledgeExternalRecipient
  simp only [Call.read_bind, id, found, external, Bool.not_true, Bool.false_eq_true, if_false]
  rw [Call.bind_of_ok committed, observe, Call.modify_bind]
  rfl

/-! ## The turn -/

/-- A turn is about a node of a request, at an instant. -/
structure Turn (P : Platform) where
  request : DispositionRequest P
  requestId : UUID
  node : DispositionLineageNode P
  sender : DispositionLineageNode P → SenderAnswer
  now : DateTime

namespace Turn

variable (turn : Turn P)

def next (d : DispositionStore P) : NextStep P := d.next turn.request turn.requestId turn.node.nodeId turn.now

/-- The turn would record a retry past the last date, after it has contacted the
    recipient. -/
structure Overflows (limits : Limits) (d : DispositionStore P) : Prop where
  addressed : turn.node.externalRecipientDigest.isSome = true
  due : turn.next d = .contact
  refused : (ask turn.sender turn.node).1 = false
  retries : (((d.previous turn.requestId turn.node.nodeId).length + 1 : Nat) : Int) < limits.maxAttempts
  late : turn.now + limits.retryDelaySeconds * 1000000 > DateTime.max

/-- The attempt of the turn. -/
structure Makes (d : DispositionStore P) (attempt : ExternalRecipientReconciliationAttempt P) : Prop where
  requestId : attempt.requestId = turn.requestId
  nodeId : attempt.nodeId = turn.node.nodeId
  createdAt : attempt.createdAt = turn.now
  attemptNo : attempt.attemptNo = (d.previous turn.requestId turn.node.nodeId).length + 1

/-- What a refused contact is recorded as. -/
inductive Refused (limits : Limits) (attempt : ExternalRecipientReconciliationAttempt P) : Prop where
  | exhausted (state : attempt.state = .exhausted) (final : attempt.nextRetryAt = none)
  | retry (state : attempt.state = .retryScheduled)
      (again : attempt.nextRetryAt = some (attempt.createdAt + limits.retryDelaySeconds * 1000000))
      (retries : (attempt.attemptNo : Int) < limits.maxAttempts)

/-- Everything a turn can do. -/
inductive Leaves (limits : Limits) (sys sys' : PrivacySystem P) : Prop where
  | idle (disposition : sys'.disposition = sys.disposition) (observed : sys'.observed = sys.observed)
  | expired {attempt : ExternalRecipientReconciliationAttempt P} (step : turn.next sys.disposition = .deadlineExpired)
      (makes : turn.Makes sys.disposition attempt) (state : attempt.state = .deadlineExpired)
      (final : attempt.nextRetryAt = none) (disposition : sys'.disposition = sys.disposition.insertAttempt attempt)
      (observed : sys'.observed = sys.observed ++ [.attempted attempt])
  | refused {attempt : ExternalRecipientReconciliationAttempt P} (step : turn.next sys.disposition = .contact)
      (addressed : turn.node.externalRecipientDigest.isSome = true) (makes : turn.Makes sys.disposition attempt)
      (outcome : Refused limits attempt)
      (disposition : sys'.disposition = sys.disposition.insertAttempt attempt)
      (observed : sys'.observed =
        sys.observed ++ [.contacted turn.requestId turn.node.nodeId turn.now, .attempted attempt])
  | accepted {attempt : ExternalRecipientReconciliationAttempt P} {row : ExternalReceipt P}
      (step : turn.next sys.disposition = .contact) (addressed : turn.node.externalRecipientDigest.isSome = true)
      (makes : turn.Makes sys.disposition attempt) (state : attempt.state = .acknowledged) (final : attempt.nextRetryAt = none) (nodeId : row.nodeId = turn.node.nodeId)
      (recipient : row.recipientDigest.isSome = true)
      (disposition : sys'.disposition = (sys.disposition.insertReceipt row).insertAttempt attempt)
      (observed : sys'.observed = sys.observed ++
        [.contacted turn.requestId turn.node.nodeId turn.now, .acknowledged row, .attempted attempt])
  | overflowed (overflows : turn.Overflows limits sys.disposition) (disposition : sys'.disposition = sys.disposition)
      (observed : sys'.observed = sys.observed ++ [.contacted turn.requestId turn.node.nodeId turn.now])

end Turn

theorem addSeconds_cases (t : DateTime) (seconds : Int) :
    addSeconds t seconds = .ok (t + seconds * 1000000) ∨
      (addSeconds t seconds = .error .overflowError ∧ t + seconds * 1000000 > DateTime.max) := by
  unfold addSeconds
  split
  · exact .inr ⟨rfl, ‹_›⟩
  · exact .inl rfl

/-- Sealing an attempt leaves what the turn makes of it. -/
theorem Turn.Makes.seal {turn : Turn P} {d : DispositionStore P} {attempt answered : ExternalRecipientReconciliationAttempt P}
    (makes : turn.Makes d attempt) (requestId : answered.requestId = attempt.requestId)
    (nodeId : answered.nodeId = attempt.nodeId) (createdAt : answered.createdAt = attempt.createdAt)
    (attemptNo : answered.attemptNo = attempt.attemptNo) : turn.Makes d answered.sealed where
  requestId := requestId.trans makes.requestId
  nodeId := nodeId.trans makes.nodeId
  createdAt := createdAt.trans makes.createdAt
  attemptNo := attemptNo.trans makes.attemptNo

/-- A contact that is due: it is answered, refused or, past the last date, lost. -/
theorem contact_leaves {limits : Limits} {sys : PrivacySystem P} (journalled : sys.Journalled) (turn : Turn P)
    (found : sys.disposition.lineageNodes.find? (fun n => n.nodeId = turn.node.nodeId) = some turn.node)
    (external : turn.node.kind.isExternal = true) (addressed : turn.node.externalRecipientDigest.isSome = true)
    (step : turn.next sys.disposition = .contact) {attempt : ExternalRecipientReconciliationAttempt P}
    (makes : turn.Makes sys.disposition attempt) (blank : attempt.nextRetryAt = none) :
    turn.Leaves limits sys (contact limits turn.sender turn.node attempt sys).2 := by
  have contacted : (.contacted attempt.requestId attempt.nodeId attempt.createdAt : Observation P) =
      .contacted turn.requestId turn.node.nodeId turn.now := by
    rw [makes.requestId, makes.nodeId, makes.createdAt]
  unfold contact
  rw [contacted, observe, Call.modify_bind]
  dsimp only
  have contacted : PrivacySystem.Journalled
      { sys with observed := sys.observed ++ [.contacted turn.requestId turn.node.nodeId turn.now] } := journalled
  cases success : (ask turn.sender turn.node).1 with
  | true =>
      simp only [if_true]
      obtain ⟨s, acknowledged, after⟩ := acknowledgeExternalRecipient_eq contacted found external attempt.actor
        (if (ask turn.sender turn.node).2 = "" then "recipient_acknowledged" else (ask turn.sender turn.node).2)
        attempt.createdAt
      rw [Call.bind_of_ok acknowledged]
      obtain ⟨s', written⟩ := recordAttempt_eq (show PrivacySystem.Journalled {
        evidence := { sys.evidence with store := s }
        disposition := sys.disposition.insertReceipt (newReceipt turn.node attempt.actor
          (if (ask turn.sender turn.node).2 = "" then "recipient_acknowledged" else (ask turn.sender turn.node).2)
          attempt.createdAt)
        observed := sys.observed ++ [.contacted turn.requestId turn.node.nodeId turn.now] ++
          [.acknowledged (newReceipt turn.node attempt.actor
            (if (ask turn.sender turn.node).2 = "" then "recipient_acknowledged" else (ask turn.sender turn.node).2)
            attempt.createdAt)] } from after) _
      rw [written]
      refine .accepted step addressed ?_ ?_ ?_ ?_ ?_ rfl (List.append_assoc _ _ _ |>.trans (List.append_assoc _ _ _))
      · exact makes.seal rfl rfl rfl rfl
      · rfl
      · exact blank
      · rfl
      · exact addressed
  | false =>
      simp only [Bool.false_eq_true, if_false]
      by_cases last : (attempt.attemptNo : Int) ≥ limits.maxAttempts
      · simp only [last, if_true]
        obtain ⟨s, written⟩ := recordAttempt_eq contacted _
        rw [written]
        refine .refused step addressed ?_ ?_ rfl (List.append_assoc _ _ _)
        · exact makes.seal rfl rfl rfl rfl
        · exact .exhausted rfl blank
      · simp only [last, if_false]
        rcases addSeconds_cases attempt.createdAt limits.retryDelaySeconds with inRange | ⟨overflows, late⟩
        · rw [Call.bind_of_ok (by rw [Call.lift_apply, inRange])]
          obtain ⟨s, written⟩ := recordAttempt_eq contacted _
          rw [written]
          refine .refused step addressed ?_ ?_ rfl (List.append_assoc _ _ _)
          · exact makes.seal rfl rfl rfl rfl
          · exact .retry rfl rfl (not_le.mp last)
        · rw [Call.bind_of_error (by rw [Call.lift_apply, overflows])]
          rw [makes.createdAt] at late
          rw [makes.attemptNo] at last
          exact .overflowed ⟨addressed, step, success, not_le.mp last, late⟩ rfl rfl

/-- The turn of a node in the loop. -/
theorem reconcileNode_leaves {limits : Limits} {sys : PrivacySystem P} (journalled : sys.Journalled) (turn : Turn P)
    (found : sys.disposition.lineageNodes.find? (fun n => n.nodeId = turn.node.nodeId) = some turn.node)
    (external : turn.node.kind.isExternal = true) (actor : String) :
    turn.Leaves limits sys
      (reconcileNode limits turn.request turn.requestId turn.sender actor turn.now turn.node sys).2 := by
  unfold reconcileNode
  cases addressed : turn.node.externalRecipientDigest with
  | none => exact .idle rfl rfl
  | some recipientDigest =>
      dsimp only
      rw [Call.read_bind]
      dsimp only [id]
      have steps : nextStep turn.request.deadline turn.now (sys.disposition.externalAck turn.node.nodeId).isSome
          ((sys.disposition.externalReconciliationAttempts turn.requestId).filter
            (fun a => a.nodeId = turn.node.nodeId)).getLast? = turn.next sys.disposition := rfl
      have makes : ∀ state, turn.Makes sys.disposition (newAttempt turn.requestId turn.node recipientDigest actor turn.now
          ((sys.disposition.previous turn.requestId turn.node.nodeId).length + 1) state) :=
        fun _ => ⟨rfl, rfl, rfl, rfl⟩
      cases step : turn.next sys.disposition with
      | alreadyAcknowledged =>
          simp only [steps, step]
          exact .idle rfl rfl
      | settled last =>
          simp only [steps, step]
          exact .idle rfl rfl
      | notDue last =>
          simp only [steps, step]
          exact .idle rfl rfl
      | deadlineExpired =>
          simp only [steps, step]
          obtain ⟨s, written⟩ := recordAttempt_eq journalled (newAttempt turn.requestId turn.node recipientDigest actor turn.now
            ((sys.disposition.previous turn.requestId turn.node.nodeId).length + 1) .deadlineExpired).sealed
          rw [show (sys.disposition.externalReconciliationAttempts turn.requestId).filter
            (fun a => a.nodeId = turn.node.nodeId) = sys.disposition.previous turn.requestId turn.node.nodeId from rfl, written]
          exact .expired step ((makes .deadlineExpired).seal rfl rfl rfl rfl) rfl rfl rfl rfl
      | contact =>
          simp only [steps, step]
          exact contact_leaves journalled turn found external (by rw [addressed]; rfl) step (makes .retryScheduled) rfl

end SentinelEdge.Privacy
