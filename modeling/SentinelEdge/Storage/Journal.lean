import SentinelEdge.Storage.Authority

/-! # Runs of the journal store

`Write` lists the write operations of `IncidentJournalStore`. Each one that
returns has either found its work done or has appended to the authority log, so
the log survives every run, whatever its operations raise.
-/

namespace SentinelEdge.Storage

open Foundation Domain

variable {P : Platform}

/-! ## A represented journal is sound -/

private theorem conforming_eventsFrom (front log : List Mutation) :
    Conforming (subtypesFrom 1 (front ++ log) : List (AuthoritySubtype P)) ((front.length : Int) + 1)
      (if front.length = 0 then none else some front.length) (eventsFrom (1 + front.length) log) := by
  induction log generalizing front with
  | nil => trivial
  | cons m log ih =>
      have head : (eventsFrom (1 + front.length) (m :: log) : List (AuthorityEvent P)) =
          m.event (1 + front.length) :: eventsFrom (1 + front.length + 1) log := rfl
      have here : (front ++ m :: log)[front.length]? = some m := by simp
      have mirrored := subtypeAt_subtypesFrom (P := P) (k := 1) here
      have rest := ih (front ++ [m])
      rw [List.append_assoc, List.singleton_append, List.length_append, List.length_singleton,
        ← Nat.add_assoc, if_neg (by omega)] at rest
      rw [head]
      refine ⟨⟨m.payload, P.loads_dumps m.payload, rfl, ?_, ?_, rfl, mirrored⟩, ?_⟩
      · simp [Mutation.event, Int.add_comm]
      · by_cases first : front.length = 0
        · simp [Mutation.event, first]
        · have later : ¬ 1 + front.length ≤ 1 := by omega
          have before : ((1 + front.length : Nat) : Int) - 1 = front.length := by omega
          simp only [Mutation.event, first, later, if_false, before]
      · rw [show (m.event (1 + front.length) : AuthorityEvent P).position = (front.length : Int) + 1 by
          simp [Mutation.event, Int.add_comm]]
        exact rest

theorem Represents.sound {s : Store P} {log : List Mutation} (rep : Represents s log) : Sound s where
  events := by
    have walk := conforming_eventsFrom (P := P) [] log
    simpa [rep.events, rep.subtypes] using walk
  owned := by
    intro sub member
    rw [rep.subtypes] at member
    obtain ⟨i, m, here, rfl⟩ := mem_subtypesFrom.mp member
    exact ⟨m.event (1 + i), rep.events ▸ mem_eventsFrom.mpr ⟨i, m, here, rfl⟩, rfl⟩

/-! ## One write -/

/-- The log has grown to what the store represents now. -/
def Extended (log : List Mutation) (s : Store P) : Prop := ∃ more, more ≠ [] ∧ Represents s (log ++ more)

theorem Represents.extended {s : Store P} {log : List Mutation} {m : Mutation} (rep : Represents s (log ++ [m])) :
    Extended log s :=
  ⟨[m], List.cons_ne_nil _ _, rep⟩

theorem Extended.trans {s : Store P} {log : List Mutation} {m : Mutation} (later : Extended (log ++ [m]) s) :
    Extended log s := by
  obtain ⟨more, -, rep⟩ := later
  exact ⟨m :: more, List.cons_ne_nil _ _, by simpa using rep⟩

/-- Nothing but the authority tables matters to the log. -/
theorem Represents.frame {s s' : Store P} {log : List Mutation} (rep : Represents s log)
    (sequence : s'.authoritySequence = s.authoritySequence) (events : s'.authorityEvents = s.authorityEvents)
    (subtypes : s'.authorityEventSubtypes = s.authorityEventSubtypes) : Represents s' log :=
  ⟨sequence.trans rep.sequence, events.trans rep.events, subtypes.trans rep.subtypes⟩

/-- A table whose rows are not part of the authority journal. -/
def Table.Domain {ρ : Type} (table : Table (Store P) ρ) : Prop :=
  ∀ ⦃s : Store P⦄ ⦃log : List Mutation⦄, Represents s log → ∀ rows, Represents (table.setRows s rows) log

theorem Represents.insert {ρ : Type} {table : Table (Store P) ρ} (domain : Table.Domain table) {s s' : Store P}
    {log : List Mutation} (rep : Represents s log) {violation : Error} {row : ρ} {u : Unit}
    (inserted : table.insert violation row s = (.ok u, s')) : Represents s' log := by
  rw [(Table.insert_ok inserted).2]
  exact domain rep _

/-- A call that returns has changed nothing or has appended to the log. -/
def Journalling {α : Type} (x : StoreCall P α) : Prop :=
  ∀ ⦃s : Store P⦄ ⦃log : List Mutation⦄, Represents s log → ∀ ⦃a : α⦄ ⦃s' : Store P⦄, x s = (.ok a, s') →
    s' = s ∨ Extended log s'

theorem appendIncidentBody_journalling (incident : IncidentRecord) (notification : Option NotificationIntent) :
    Journalling (appendIncidentBody incident notification : StoreCall P Bool) := by
  intro s log rep a s' h
  right
  unfold appendIncidentBody at h
  rw [appendAuthority_bind rep] at h
  obtain ⟨_, s₁, inserted, rest⟩ := Call.bind_ok.mp h
  have rep₁ := (rep.journalled _).insert (fun _ _ r _ => r.frame rfl rfl rfl) inserted
  cases notification with
  | none =>
      cases rest
      exact rep₁.extended
  | some item =>
      simp only [insertIntent, insertNotification, Call.read_bind] at rest
      split at rest
      · cases rest
        exact rep₁.extended
      · rw [appendAuthority_bind rep₁] at rest
        obtain ⟨_, s₂, inserted', done⟩ := Call.bind_ok.mp rest
        cases done
        have rep₂ := (rep₁.journalled _).insert (fun _ _ r _ => r.frame rfl rfl rfl) inserted'
        exact rep₂.extended.trans

theorem recordDeliveryBody_journalling (notificationId : UUID) (delivered : Bool) (receiptId error : Option String)
    (acceptedAt : DateTime) :
    Journalling (recordDeliveryBody notificationId delivered receiptId error acceptedAt :
      StoreCall P NotificationIntent) := by
  intro s log rep a s' h
  simp only [recordDeliveryBody, Call.read_bind] at h
  cases found : s.notification notificationId with
  | none =>
      simp only [found] at h
      cases h
  | some current =>
      simp only [found] at h
      split at h
      · cases h
        exact .inl rfl
      · right
        rw [appendAuthority_bind rep, Call.modify_bind] at h
        cases h
        exact Represents.extended ((rep.journalled _).frame rfl rfl rfl)

theorem recordReviewBody_journalling (action : ReviewAction) :
    Journalling (recordReviewBody action : StoreCall P IncidentReviewState) := by
  intro s log rep a s' h
  right
  simp only [recordReviewBody, Call.read_bind] at h
  rw [appendAuthority_bind rep] at h
  obtain ⟨_, s₁, inserted, rest⟩ := Call.bind_ok.mp h
  have rep₁ := (rep.journalled _).insert (fun _ _ r _ => r.frame rfl rfl rfl) inserted
  rw [Call.modify_bind] at rest
  cases rest
  exact Represents.extended (rep₁.frame rfl rfl rfl)

theorem recordCommandReceiptBody_journalling (receipt : CommandReceipt P) :
    Journalling (recordCommandReceiptBody receipt) := by
  intro s log rep a s' h
  simp only [recordCommandReceiptBody, Call.read_bind] at h
  cases found : s.commandReceipt receipt.scopedIdempotencyKey with
  | some existing =>
      simp only [found] at h
      split at h
      · cases h
      · cases h
        exact .inl rfl
  | none =>
      right
      simp only [found] at h
      rw [appendAuthority_bind rep] at h
      obtain ⟨_, s₁, inserted, done⟩ := Call.bind_ok.mp h
      cases done
      exact ((rep.journalled _).insert (fun _ _ r _ => r.frame rfl rfl rfl) inserted).extended

theorem recordOnce_journalling {α : Type} {table : Table (Store P) (Stored P α)} (domain : Table.Domain table)
    (name : String) (key : Stored P α → Bool) (conflict : String) (kind : AuthorityMutationKind) (entityId : String)
    (createdAt : DateTime) (payload : Json) (record : α) :
    Journalling (recordOnce table name key conflict kind entityId createdAt payload record) := by
  intro s log rep a s' h
  simp only [recordOnce, Call.read_bind] at h
  cases found : (table.rows s).find? key with
  | some row =>
      simp only [found] at h
      split at h
      · cases h
      · cases h
        exact .inl rfl
  | none =>
      right
      simp only [found] at h
      rw [appendAuthority_bind rep] at h
      obtain ⟨_, s₁, inserted, done⟩ := Call.bind_ok.mp h
      cases done
      exact ((rep.journalled _).insert domain inserted).extended

theorem recordClaimLinkBody_journalling (link : ClaimEvidenceLink) :
    Journalling (recordClaimLinkBody link : StoreCall P ClaimEvidenceLink) := by
  intro s log rep a s' h
  simp only [recordClaimLinkBody, Call.read_bind] at h
  split at h
  · cases h
  · exact recordOnce_journalling (fun _ _ r _ => r.frame rfl rfl rfl) _ _ _ _ _ _ _ _ rep h

theorem recordEvidenceLifecycleLocked_journalling (event : EvidenceLifecycleEvent) :
    Journalling (recordEvidenceLifecycleLocked event : StoreCall P EvidenceLifecycleEvent) := by
  intro s log rep a s' h
  simp only [recordEvidenceLifecycleLocked, Call.read_bind] at h
  cases found : s.evidenceLifecycleEvents.find? (fun row =>
      row.record.lifecycleEventId = event.lifecycleEventId) with
  | some row =>
      simp only [found] at h
      split at h
      · cases h
      · cases h
        exact .inl rfl
  | none =>
      simp only [found, Call.read_bind] at h
      split at h
      · cases h
      · right
        rw [appendAuthority_bind rep] at h
        obtain ⟨_, s₁, inserted, done⟩ := Call.bind_ok.mp h
        cases done
        exact ((rep.journalled _).insert (fun _ _ r _ => r.frame rfl rfl rfl) inserted).extended

theorem recordEvidenceLifecycleBody_journalling (event : EvidenceLifecycleEvent) :
    Journalling (recordEvidenceLifecycleBody event : StoreCall P EvidenceLifecycleEvent) := by
  intro s log rep a s' h
  simp only [recordEvidenceLifecycleBody, Call.read_bind] at h
  cases found : s.evidenceItems.find? (fun row => row.record.evidenceId = event.evidenceId) with
  | none =>
      simp only [found] at h
      cases h
  | some row =>
      simp only [found] at h
      split at h
      · cases h
      · exact recordEvidenceLifecycleLocked_journalling event rep h

theorem recordEvidenceBody_journalling (item : EvidenceItem) (lifecycleEventId : UUID) :
    Journalling (recordEvidenceBody item lifecycleEventId : StoreCall P EvidenceItem) := by
  intro s log rep a s' h
  simp only [recordEvidenceBody, Call.read_bind] at h
  cases found : s.evidenceItems.find? (fun row => row.record.evidenceId = item.evidenceId) with
  | some row =>
      simp only [found] at h
      split at h
      · cases h
      · cases h
        exact .inl rfl
  | none =>
      right
      simp only [found] at h
      rw [appendAuthority_bind rep] at h
      obtain ⟨_, s₁, inserted, rest⟩ := Call.bind_ok.mp h
      have rep₁ := (rep.journalled _).insert (fun _ _ r _ => r.frame rfl rfl rfl) inserted
      -- the registration runs in the same transaction and may find itself recorded
      obtain ⟨_, s₂, registered, done⟩ := Call.bind_ok.mp rest
      cases done
      rcases recordEvidenceLifecycleLocked_journalling _ rep₁ registered with rfl | more
      · exact rep₁.extended
      · exact more.trans

/-- A transaction of a journalling body journals. -/
theorem Journalling.atomically {α : Type} {x : StoreCall P α} (body : Journalling x) :
    Journalling (Call.atomically x) := by
  intro s log rep a s' h
  exact body rep (Call.atomically_ok.mp h)

/-! ## All writes -/

inductive Write (P : Platform) where
  | appendIncidentWithNotification (incident : IncidentRecord) (notification : Option NotificationIntent)
  | recordDelivery (notificationId : UUID) (delivered : Bool) (receiptId error : Option String) (acceptedAt : DateTime)
  | recordReview (action : ReviewAction)
  | recordCommandReceipt (receipt : CommandReceipt P)
  | recordEvidence (item : EvidenceItem) (lifecycleEventId : UUID)
  | recordEvidenceLifecycle (event : EvidenceLifecycleEvent)
  | recordMediaParserReport (report : MediaParserReport)
  | recordEvidenceReevaluation (record : EvidenceReevaluationRecord)
  | recordClaim (claim : ClaimNode)
  | recordClaimLink (link : ClaimEvidenceLink)
  | recordIncidentRelation (relation : IncidentRelation)
  | recordIdentityDecision (candidate : IncidentCandidate) (decision : IncidentIdentityDecision)
  | recordAuthorityMutation (kind : String ⊕ AuthorityMutationKind) (entityId : String) (acceptedAt : DateTime)
      (payload : Json)

namespace Write

/-- The call, with its result value dropped. -/
def exec : Write P → StoreCall P Unit
  | appendIncidentWithNotification incident notification => do
      let _ ← Storage.appendIncidentWithNotification incident notification
  | recordDelivery notificationId delivered receiptId error acceptedAt => do
      let _ ← Storage.recordDelivery notificationId delivered receiptId error acceptedAt
  | recordReview action => do let _ ← Storage.recordReview action
  | recordCommandReceipt receipt => do let _ ← Storage.recordCommandReceipt receipt
  | recordEvidence item lifecycleEventId => do let _ ← Storage.recordEvidence item lifecycleEventId
  | recordEvidenceLifecycle event => do let _ ← Storage.recordEvidenceLifecycle event
  | recordMediaParserReport report => do let _ ← Storage.recordMediaParserReport report
  | recordEvidenceReevaluation record => do let _ ← Storage.recordEvidenceReevaluation record
  | recordClaim claim => do let _ ← Storage.recordClaim claim
  | recordClaimLink link => do let _ ← Storage.recordClaimLink link
  | recordIncidentRelation relation => do let _ ← Storage.recordIncidentRelation relation
  | recordIdentityDecision candidate decision => do let _ ← Storage.recordIdentityDecision candidate decision
  | recordAuthorityMutation kind entityId acceptedAt payload => do
      let _ ← Storage.recordAuthorityMutation kind entityId acceptedAt payload

/-- The store after the write, whether it returned or raised. -/
def step (s : Store P) (w : Write P) : Store P := (w.exec s).2

/-- The store already holds what the write would record: an intent delivered
    earlier, or a row under the same key with the same payload digest. -/
def isReplay (s : Store P) : Write P → Bool
  | appendIncidentWithNotification _ _ | recordReview _ | recordAuthorityMutation _ _ _ _ => false
  | recordDelivery notificationId _ _ _ _ => (s.notification notificationId).any (fun n => n.status = .delivered)
  | recordCommandReceipt receipt =>
      (s.commandReceipt receipt.scopedIdempotencyKey).any (fun r => r.payloadSha256 = receipt.payloadSha256)
  | recordEvidence item _ => item.familyId.isSome &&
      (s.evidenceItems.find? (fun row => row.record.evidenceId = item.evidenceId)).any
        (fun row => row.payloadSha256 = P.sha256 (item.modelDump P))
  | recordEvidenceLifecycle event =>
      (s.evidenceItems.find? (fun row => row.record.evidenceId = event.evidenceId)).any
        (fun row => row.record.incidentId = event.incidentId) &&
      (s.evidenceLifecycleEvents.find? (fun row => row.record.lifecycleEventId = event.lifecycleEventId)).any
        (fun row => row.payloadSha256 = P.sha256 (event.modelDump P))
  | recordMediaParserReport report =>
      (s.mediaParserRuns.find? (fun row => row.record.parseId = report.parseId)).any
        (fun row => row.payloadSha256 = P.sha256 (report.modelDump P))
  | recordEvidenceReevaluation record =>
      (s.evidenceReevaluations.find? (fun row => row.record.reevaluationId = record.reevaluationId)).any
        (fun row => row.payloadSha256 = P.sha256 (record.modelDump P))
  | recordClaim claim =>
      (s.claimNodes.find? (fun row => row.record.claimId = claim.claimId)).any
        (fun row => row.payloadSha256 = P.sha256 (claim.modelDump P))
  | recordClaimLink link =>
      s.claimNodes.any (fun row => row.record.claimId = link.claimId) &&
      s.evidenceItems.any (fun row => row.record.evidenceId = link.evidenceId) &&
      (s.claimEvidenceLinks.find? (fun row => row.record.claimId = link.claimId &&
        row.record.evidenceId = link.evidenceId && row.record.relation = link.relation)).any
        (fun row => row.payloadSha256 = P.sha256 (link.modelDump P))
  | recordIncidentRelation relation =>
      (s.incidentRelations.find? (fun row => row.record.sourceIncidentId = relation.sourceIncidentId &&
        row.record.targetIncidentId = relation.targetIncidentId && row.record.relation = relation.relation)).any
        (fun row => row.payloadSha256 = P.sha256 (relation.modelDump P))
  | recordIdentityDecision candidate decision =>
      (s.incidentIdentityDecisions.find? (fun row => row.record.candidateId = candidate.candidateId)).any
        (fun row => row.payloadSha256 = P.sha256 (decision.modelDump P))

def isIdentityDecision : Write P → Bool
  | recordIdentityDecision _ _ => true
  | _ => false

end Write

private theorem discard_ok {α : Type} {x : StoreCall P α} {s s' : Store P} {u : Unit}
    (h : (do let _ ← x : StoreCall P Unit) s = (.ok u, s')) : ∃ a, x s = (.ok a, s') := by
  obtain ⟨a, t, first, rest⟩ := Call.bind_ok.mp h
  cases rest
  exact ⟨a, first⟩

private theorem discard_of_ok {α : Type} {x : StoreCall P α} {s s' : Store P} {a : α} (h : x s = (.ok a, s')) :
    (do let _ ← x : StoreCall P Unit) s = (.ok (), s') :=
  Call.bind_of_ok h

theorem Journalling.discard {α : Type} {x : StoreCall P α} (body : Journalling x) :
    Journalling (do let _ ← x : StoreCall P Unit) := by
  intro s log rep u s' h
  obtain ⟨a, returned⟩ := discard_ok h
  exact body rep returned

theorem recordAuthorityMutation_journalling (kind : String ⊕ AuthorityMutationKind) (entityId : String)
    (acceptedAt : DateTime) (payload : Json) :
    Journalling (recordAuthorityMutation kind entityId acceptedAt payload : StoreCall P Int) := by
  have append (resolved : AuthorityMutationKind) :
      Journalling (appendAuthority resolved entityId acceptedAt payload : StoreCall P Int) := by
    intro s log rep a s' h
    rw [appendAuthority_of_represents rep] at h
    cases h
    exact .inr (rep.journalled _).extended
  cases kind with
  | inr resolved => exact (append resolved).atomically
  | inl value =>
      simp only [recordAuthorityMutation]
      cases AuthorityMutationKind.ofValue value with
      | none =>
          intro s log rep a s' h
          cases h
      | some resolved => exact (append resolved).atomically

theorem recordEvidence_journalling (item : EvidenceItem) (lifecycleEventId : UUID) :
    Journalling (recordEvidence item lifecycleEventId : StoreCall P EvidenceItem) := by
  unfold recordEvidence
  split
  · intro s log rep a s' h
    cases h
  · exact (recordEvidenceBody_journalling item lifecycleEventId).atomically

/-- Every write but `record_identity_decision` changes nothing or journals. -/
theorem Write.exec_journalling (w : Write P) (journalled : w.isIdentityDecision = false) : Journalling w.exec := by
  cases w with
  | appendIncidentWithNotification incident notification =>
      exact (appendIncidentBody_journalling incident notification).atomically.discard
  | recordDelivery notificationId delivered receiptId error acceptedAt =>
      exact (recordDeliveryBody_journalling notificationId delivered receiptId error acceptedAt).atomically.discard
  | recordReview action => exact (recordReviewBody_journalling action).atomically.discard
  | recordCommandReceipt receipt => exact (recordCommandReceiptBody_journalling receipt).atomically.discard
  | recordEvidence item lifecycleEventId => exact (recordEvidence_journalling item lifecycleEventId).discard
  | recordEvidenceLifecycle event => exact (recordEvidenceLifecycleBody_journalling event).atomically.discard
  | recordMediaParserReport _ | recordEvidenceReevaluation _ | recordClaim _ | recordIncidentRelation _ =>
      exact (recordOnce_journalling (fun _ _ r _ => r.frame rfl rfl rfl) _ _ _ _ _ _ _ _).atomically.discard
  | recordClaimLink link => exact (recordClaimLinkBody_journalling link).atomically.discard
  | recordIdentityDecision candidate decision => cases journalled
  | recordAuthorityMutation kind entityId acceptedAt payload =>
      exact (recordAuthorityMutation_journalling kind entityId acceptedAt payload).discard

theorem recordIdentityDecision_represents {s s' : Store P} {log : List Mutation} (rep : Represents s log)
    {candidate : IncidentCandidate} {decision d : IncidentIdentityDecision}
    (h : recordIdentityDecision candidate decision s = (.ok d, s')) : Represents s' log := by
  have body := Call.atomically_ok.mp h
  simp only [recordIdentityDecisionBody, Call.read_bind] at body
  cases found : s.incidentIdentityDecisions.find? (fun row => row.record.candidateId = candidate.candidateId) with
  | some row =>
      simp only [found] at body
      split at body
      · cases body
      · cases body
        exact rep
  | none =>
      simp only [found] at body
      obtain ⟨_, s₁, first, rest⟩ := Call.bind_ok.mp body
      obtain ⟨_, s₂, second, done⟩ := Call.bind_ok.mp rest
      cases done
      have rep₁ := rep.insert (fun _ _ r _ => r.frame rfl rfl rfl) first
      exact rep₁.insert (fun _ _ r _ => r.frame rfl rfl rfl) second

/-! ## Raising and replaying -/

/-- A call that raises has changed nothing. -/
def RollsBack {α : Type} (x : StoreCall P α) : Prop := ∀ ⦃s s' : Store P⦄ ⦃e : Error⦄, x s = (.error e, s') → s' = s

theorem atomically_rollsBack {α : Type} (x : StoreCall P α) : RollsBack (Call.atomically x) :=
  fun _ _ _ h => Call.atomically_error h

theorem RollsBack.discard {α : Type} {x : StoreCall P α} (body : RollsBack x) :
    RollsBack (do let _ ← x : StoreCall P Unit) := by
  intro s s' e h
  rcases returned : x s with ⟨r, t⟩
  cases r with
  | ok a =>
      rw [discard_of_ok returned] at h
      cases h
  | error e' =>
      rw [Call.bind_of_error returned] at h
      cases h
      exact body returned

theorem Write.exec_rollsBack (w : Write P) : RollsBack w.exec := by
  cases w with
  | recordEvidence item lifecycleEventId =>
      apply RollsBack.discard
      unfold Storage.recordEvidence
      split
      · intro s s' e h
        cases h
        rfl
      · exact atomically_rollsBack _
  | recordAuthorityMutation kind entityId acceptedAt payload =>
      apply RollsBack.discard
      unfold Storage.recordAuthorityMutation
      split
      · exact atomically_rollsBack _
      · split
        · intro s s' e h
          cases h
          rfl
        · exact atomically_rollsBack _
  | _ => exact (atomically_rollsBack _).discard

private theorem recordOnce_replay {α : Type} (table : Table (Store P) (Stored P α)) {name : String}
    {key : Stored P α → Bool} {conflict : String} {kind : AuthorityMutationKind} {entityId : String}
    {createdAt : DateTime} {payload : Json} {record : α} {s : Store P}
    (replay : ((table.rows s).find? key).any (fun row => row.payloadSha256 = P.sha256 payload)) :
    ∃ a, recordOnce table name key conflict kind entityId createdAt payload record s = (.ok a, s) := by
  obtain ⟨row, found, same⟩ := (Option.any_eq_true _ _).mp replay
  refine ⟨row.record, ?_⟩
  simp only [recordOnce, Call.read_bind, found]
  simp [of_decide_eq_true same]

private theorem recordEvidenceLifecycleLocked_replay {event : EvidenceLifecycleEvent} {s : Store P}
    (replay : (s.evidenceLifecycleEvents.find? (fun row => row.record.lifecycleEventId = event.lifecycleEventId)).any
      (fun row => row.payloadSha256 = P.sha256 (event.modelDump P))) :
    ∃ a, recordEvidenceLifecycleLocked event s = (.ok a, s) := by
  obtain ⟨row, found, same⟩ := (Option.any_eq_true _ _).mp replay
  refine ⟨row.record, ?_⟩
  simp only [recordEvidenceLifecycleLocked, Call.read_bind, found]
  simp [of_decide_eq_true same]

/-- A write that finds itself recorded returns and changes nothing. -/
theorem Write.exec_replay {w : Write P} {s : Store P} (replay : w.isReplay s = true) : w.exec s = (.ok (), s) := by
  cases w with
  | appendIncidentWithNotification _ _ | recordReview _ | recordAuthorityMutation _ _ _ _ => cases replay
  | recordDelivery notificationId delivered receiptId error acceptedAt =>
      obtain ⟨current, found, done⟩ := (Option.any_eq_true _ _).mp replay
      refine discard_of_ok (a := current) (Call.atomically_of_ok ?_)
      simp only [recordDeliveryBody, Call.read_bind, found]
      simp [of_decide_eq_true done]
  | recordCommandReceipt receipt =>
      obtain ⟨existing, found, same⟩ := (Option.any_eq_true _ _).mp replay
      refine discard_of_ok (a := existing) (Call.atomically_of_ok ?_)
      simp only [recordCommandReceiptBody, Call.read_bind, found]
      simp [of_decide_eq_true same]
  | recordEvidence item lifecycleEventId =>
      obtain ⟨assigned, stored⟩ := Bool.and_eq_true_iff.mp replay
      obtain ⟨row, found, same⟩ := (Option.any_eq_true _ _).mp stored
      apply discard_of_ok (a := row.record)
      rw [Storage.recordEvidence, if_neg (by simp [Option.isSome_iff_ne_none.mp assigned])]
      apply Call.atomically_of_ok
      simp only [recordEvidenceBody, Call.read_bind, found]
      simp [of_decide_eq_true same]
  | recordEvidenceLifecycle event =>
      obtain ⟨target, recorded⟩ := Bool.and_eq_true_iff.mp replay
      obtain ⟨row, found, owner⟩ := (Option.any_eq_true _ _).mp target
      obtain ⟨a, returned⟩ := recordEvidenceLifecycleLocked_replay recorded
      refine discard_of_ok (a := a) (Call.atomically_of_ok ?_)
      simp only [recordEvidenceLifecycleBody, Call.read_bind, found]
      simpa [of_decide_eq_true owner] using returned
  | recordMediaParserReport report =>
      obtain ⟨a, returned⟩ := recordOnce_replay Tables.mediaParserRuns replay
      exact discard_of_ok (Call.atomically_of_ok returned)
  | recordEvidenceReevaluation record =>
      obtain ⟨a, returned⟩ := recordOnce_replay Tables.evidenceReevaluations replay
      exact discard_of_ok (Call.atomically_of_ok returned)
  | recordClaim claim =>
      obtain ⟨a, returned⟩ := recordOnce_replay Tables.claimNodes replay
      exact discard_of_ok (Call.atomically_of_ok returned)
  | recordIncidentRelation relation =>
      obtain ⟨a, returned⟩ := recordOnce_replay Tables.incidentRelations replay
      exact discard_of_ok (Call.atomically_of_ok returned)
  | recordClaimLink link =>
      obtain ⟨ends, stored⟩ := Bool.and_eq_true_iff.mp replay
      obtain ⟨claim, evidence⟩ := Bool.and_eq_true_iff.mp ends
      obtain ⟨a, returned⟩ := recordOnce_replay Tables.claimEvidenceLinks stored
      refine discard_of_ok (a := a) (Call.atomically_of_ok ?_)
      simp only [recordClaimLinkBody, Call.read_bind, claim, evidence]
      exact returned
  | recordIdentityDecision candidate decision =>
      obtain ⟨row, found, same⟩ := (Option.any_eq_true _ _).mp replay
      refine discard_of_ok (a := row.record) (Call.atomically_of_ok ?_)
      simp only [recordIdentityDecisionBody, Call.read_bind, found]
      simp [of_decide_eq_true same]

/-! ## Whole runs -/

/-- The store as a set of domain tables, with the authority journal left out. -/
def Store.domain (s : Store P) : Store P :=
  { s with authoritySequence := 0, authorityEvents := [], authorityEventSubtypes := [] }

/-- Positions are `1, …, n`, ordinals repeat them, each event points at the one
    before it, and its only subtype row repeats its columns. -/
structure Gapless (s : Store P) : Prop where
  positions : s.authorityEvents.map AuthorityEvent.position = (List.range' 1 s.authorityEvents.length).map Int.ofNat
  ordinals : ∀ row ∈ s.authorityEvents, row.epochOrdinal = some row.position
  predecessors : ∀ (i : Nat) (row : AuthorityEvent P), s.authorityEvents[i]? = some row →
    row.predecessorPosition = if i = 0 then none else s.authorityEvents[i - 1]?.map AuthorityEvent.position
  mirrored : ∀ row ∈ s.authorityEvents, ∃ sub,
    s.authorityEventSubtypes.filter (fun other => other.authorityPosition = row.position) = [sub] ∧
      sub.kind = row.kind ∧ sub.subtypeId = row.entityId ∧ some sub.payloadSha256 = row.payloadSha256 ∧
        sub.payloadJson = row.payloadJson

private theorem filter_subtypesFrom {k i : Nat} {log : List Mutation} {m : Mutation} (here : log[i]? = some m) :
    (subtypesFrom k log : List (AuthoritySubtype P)).filter
      (fun other => other.authorityPosition = ((k + i : Nat) : Int)) = [m.subtype (k + i)] := by
  induction log generalizing k i with
  | nil => simp at here
  | cons head rest ih =>
      cases i with
      | zero =>
          obtain rfl : head = m := by simpa using here
          have none_later : (subtypesFrom (k + 1) rest : List (AuthoritySubtype P)).filter
              (fun other => other.authorityPosition = (k : Int)) = [] := by
            rw [List.filter_eq_nil_iff]
            intro sub member
            obtain ⟨j, m', -, rfl⟩ := mem_subtypesFrom.mp member
            simp [Mutation.subtype, Mutation.event, AuthorityEvent.subtype]
            omega
          simp only [subtypesFrom, List.zipIdx_cons, List.map_cons] at none_later ⊢
          rw [List.filter_cons_of_pos (by simp [Mutation.subtype, Mutation.event, AuthorityEvent.subtype])]
          simpa using none_later
      | succ i =>
          have later := ih (k := k + 1) (i := i) (by simpa using here)
          rw [show k + (i + 1) = k + 1 + i by omega, ← later]
          simp only [subtypesFrom, List.zipIdx_cons, List.map_cons]
          rw [List.filter_cons_of_neg]
          intro same
          have same : (k : Int) = (k + 1 + i : Nat) := of_decide_eq_true same
          omega

private theorem positions_eventsFrom (k : Nat) (log : List Mutation) :
    (eventsFrom k log : List (AuthorityEvent P)).map AuthorityEvent.position =
      (List.range' k log.length).map Int.ofNat := by
  induction log generalizing k with
  | nil => rfl
  | cons m log ih =>
      have rest := ih (k + 1)
      simp only [eventsFrom, List.zipIdx_cons, List.map_cons, List.length_cons, List.range'_succ] at rest ⊢
      rw [rest]
      rfl

private theorem getElem?_eventsFrom (k i : Nat) (log : List Mutation) :
    (eventsFrom k log : List (AuthorityEvent P))[i]? = log[i]?.map (fun m => m.event (k + i)) := by
  simp [eventsFrom, List.getElem?_zipIdx, Function.comp_def]

theorem Represents.gapless {s : Store P} {log : List Mutation} (rep : Represents s log) : Gapless s where
  positions := by
    rw [rep.events, length_eventsFrom, positions_eventsFrom]
  ordinals := by
    intro row member
    rw [rep.events] at member
    obtain ⟨i, m, here, rfl⟩ := mem_eventsFrom.mp member
    rfl
  predecessors := by
    intro i row here
    rw [rep.events, getElem?_eventsFrom] at here
    obtain ⟨m, inside, rfl⟩ := Option.map_eq_some_iff.mp here
    rw [rep.events, getElem?_eventsFrom]
    cases i with
    | zero => rfl
    | succ i =>
        have earlier : i < log.length := by
          have := (List.getElem?_eq_some_iff.mp inside).1
          omega
        have later : ¬ 1 + (i + 1) ≤ 1 := by omega
        have before : ((1 + (i + 1) : Nat) : Int) - 1 = (1 + i : Nat) := by omega
        simp only [Mutation.event, later, if_false, before, Nat.add_sub_cancel, List.getElem?_eq_getElem earlier,
          Option.map_some, Nat.succ_ne_zero]
  mirrored := by
    intro row member
    rw [rep.events] at member
    obtain ⟨i, m, here, rfl⟩ := mem_eventsFrom.mp member
    rw [rep.subtypes]
    exact ⟨m.subtype (1 + i), filter_subtypesFrom here, rfl, rfl, rfl, rfl⟩

/-- One write takes a represented store to one with the same log or a longer
    one; the log is unchanged when the write raises. -/
theorem Represents.step {s : Store P} {log : List Mutation} (rep : Represents s log) (w : Write P) :
    ∃ more, Represents (w.step s) (log ++ more) := by
  rcases returned : w.exec s with ⟨r, s'⟩
  have after : w.step s = s' := by rw [Write.step, returned]
  rw [after]
  cases r with
  | error e =>
      rw [w.exec_rollsBack returned]
      exact ⟨[], by simpa using rep⟩
  | ok u =>
      cases decision : w.isIdentityDecision with
      | false =>
          rcases w.exec_journalling decision rep returned with rfl | ⟨more, -, rep'⟩
          · exact ⟨[], by simpa using rep⟩
          · exact ⟨more, rep'⟩
      | true =>
          cases w with
          | recordIdentityDecision candidate decision =>
              obtain ⟨d, inner⟩ := discard_ok returned
              exact ⟨[], by simpa using recordIdentityDecision_represents rep inner⟩
          | _ => cases decision

theorem represents_run (ops : List (Write P)) : ∃ log, Represents (run Write.step (Store.empty : Store P) ops) log := by
  refine run_invariant (I := fun s => ∃ log, Represents s log) ?_ ⟨[], represents_empty⟩ ops
  rintro s w ⟨log, rep⟩
  obtain ⟨more, rep'⟩ := rep.step w
  exact ⟨log ++ more, rep'⟩

theorem Represents.events_prefix {s s' : Store P} {log more : List Mutation} (rep : Represents s log)
    (rep' : Represents s' (log ++ more)) : s.authorityEvents <+: s'.authorityEvents := by
  rw [rep.events, rep'.events, eventsFrom_append]
  exact List.prefix_append _ _

/-- The conformance check passes, with every event counted. -/
theorem Represents.conforms {s : Store P} {log : List Mutation} (rep : Represents s log) :
    authorityConformance s = .ok {
      valid := true
      epochId := authorityEpoch
      eventCount := s.authorityEvents.length
      highestContiguousPosition := s.authorityEvents.length
      failures := [] } := by
  rw [conformance_of_sound rep.sound, rep.last, rep.length_events]
  rcases List.eq_nil_or_concat' log with rfl | ⟨front, m, rfl⟩
  · rfl
  · simp [Mutation.event]

end SentinelEdge.Storage
