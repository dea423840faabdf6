import SentinelEdge.Foundation.Versions
import SentinelEdge.Storage.Journal
import SentinelEdge.Storage.Reopen

/-! # Evidence lifecycle in the journal store

The queries of `IncidentJournalStore` over evidence, lifecycle events, claims and
links, and what the two lifecycle writes leave behind. Every lifecycle event the
store takes continues the latest one of its item.
-/

namespace SentinelEdge.Storage

open Foundation Domain

variable {P : Platform}

namespace Store

/-- `evidence()`: every item, in the order of the texts of both columns. -/
def allEvidence (s : Store P) : List EvidenceItem :=
  (s.evidenceItems.map Stored.record).insertionSort
    (fun a b => P.isoformat a.receivedAt < P.isoformat b.receivedAt ∨
      (P.isoformat a.receivedAt = P.isoformat b.receivedAt ∧ a.evidenceId.str ≤ b.evidenceId.str))

/-- The lifecycle events of one item, in rowid order. -/
def lifecycleLog (s : Store P) (evidenceId : UUID) : List EvidenceLifecycleEvent :=
  (s.evidenceLifecycleEvents.map Stored.record).filter (fun e => e.evidenceId = evidenceId)

/-- `evidence_lifecycle_events(evidence_id=...)` -/
def lifecycleEvents (s : Store P) (evidenceId : UUID) : List EvidenceLifecycleEvent :=
  byVersion EvidenceLifecycleEvent.resultingVersion (s.lifecycleLog evidenceId)

/-- `SELECT ... FROM evidence_items WHERE evidence_id=?` -/
def evidenceRow (s : Store P) (evidenceId : UUID) : Option (Stored P EvidenceItem) :=
  s.evidenceItems.find? (fun row => row.record.evidenceId = evidenceId)

/-- `item.rights_expires_at is None or item.rights_expires_at > now` -/
def rightsActive (item : EvidenceItem) (now : DateTime) : Bool := item.rightsExpiresAt.all (fun expiry => expiry > now)

/-- The projection of an item from its last event. -/
def projectionOf (item : EvidenceItem) (last : EvidenceLifecycleEvent) (now : DateTime) : EvidenceLifecycleProjection where
  evidenceId := item.evidenceId
  incidentId := item.incidentId
  state := last.toState
  version := last.resultingVersion
  readable := last.toState = .available && rightsActive item now
  claimEligible := (last.toState = .available || last.toState = .metadataOnly || last.toState = .redacted) &&
    rightsActive item now
  rightsActive := rightsActive item now
  deletionProven := last.toState = .deleted && last.deletionProofSha256.any (fun proof => proof ≠ "")
  lastEventId := some last.lifecycleEventId
  updatedAt := some last.createdAt
  reasonCodes := last.reasonCodes

/-- `evidence_lifecycle_projection` with the clock at `now`. -/
def lifecycleProjection (s : Store P) (evidenceId : UUID) (now : DateTime) : Except Error EvidenceLifecycleProjection :=
  match s.evidenceRow evidenceId with
  | none => .error (.keyError evidenceId.str)
  | some row => match (s.lifecycleEvents evidenceId).getLast? with
      | none => .error (.runtimeError "evidence lifecycle is missing")
      | some last => .ok (projectionOf row.record last now)

/-- `claims(incident_id)` -/
def claims (s : Store P) (incidentId : UUID) : List ClaimNode :=
  ((s.claimNodes.map Stored.record).filter (fun c => c.incidentId = incidentId)).insertionSort
    (fun a b => P.isoformat a.createdAt < P.isoformat b.createdAt ∨
      (P.isoformat a.createdAt = P.isoformat b.createdAt ∧ a.claimId.str ≤ b.claimId.str))

/-- `claim_links(incident_id)`: the links whose claim is one of the incident. -/
def claimLinks (s : Store P) (incidentId : UUID) : List ClaimEvidenceLink :=
  ((s.claimEvidenceLinks.map Stored.record).filter (fun l => s.claimNodes.any (fun c =>
      c.record.claimId = l.claimId && c.record.incidentId = incidentId))).insertionSort
    (fun a b => P.isoformat a.createdAt < P.isoformat b.createdAt ∨
      (P.isoformat a.createdAt = P.isoformat b.createdAt ∧ a.linkId.str ≤ b.linkId.str))

theorem latestLifecycle_eq (s : Store P) (evidenceId : UUID) :
    s.latestLifecycle evidenceId = latest EvidenceLifecycleEvent.resultingVersion (s.lifecycleLog evidenceId) := by
  unfold latestLifecycle latest lifecycleLog
  congr 1
  funext best e
  cases best <;> rfl

theorem mem_allEvidence {s : Store P} {item : EvidenceItem} :
    item ∈ s.allEvidence ↔ item ∈ s.evidenceItems.map Stored.record := by
  simp [allEvidence, List.mem_insertionSort]

theorem mem_lifecycleLog {s : Store P} {evidenceId : UUID} {event : EvidenceLifecycleEvent} :
    event ∈ s.lifecycleLog evidenceId ↔
      (∃ row ∈ s.evidenceLifecycleEvents, row.record = event) ∧ event.evidenceId = evidenceId := by
  simp [lifecycleLog]

/-- The event is inserted with its digest. -/
def withLifecycle (s : Store P) (event : EvidenceLifecycleEvent) : Store P :=
  { s with evidenceLifecycleEvents := s.evidenceLifecycleEvents ++ [⟨event, P.sha256 (event.modelDump P)⟩] }

/-- The item is inserted with its digest. -/
def withEvidence (s : Store P) (item : EvidenceItem) : Store P :=
  { s with evidenceItems := s.evidenceItems ++ [⟨item, P.sha256 (item.modelDump P)⟩] }

theorem lifecycleLog_withLifecycle (s : Store P) (event : EvidenceLifecycleEvent) (evidenceId : UUID) :
    (s.withLifecycle event).lifecycleLog evidenceId =
      s.lifecycleLog evidenceId ++ if event.evidenceId = evidenceId then [event] else [] := by
  simp only [lifecycleLog, withLifecycle, List.map_append, List.filter_append]
  by_cases own : event.evidenceId = evidenceId <;> simp [own]

end Store

/-- The event takes up the version and the state of the latest event of its item. -/
structure Continues (s : Store P) (event : EvidenceLifecycleEvent) : Prop where
  version : event.expectedVersion =
    ((s.latestLifecycle event.evidenceId).map EvidenceLifecycleEvent.resultingVersion).getD 0
  state : event.fromState = (s.latestLifecycle event.evidenceId).map EvidenceLifecycleEvent.toState

/-- A row has the id of the event and the digest of its payload. -/
def IsRecorded (s : Store P) (event : EvidenceLifecycleEvent) : Prop :=
  ∃ row ∈ s.evidenceLifecycleEvents, row.record.lifecycleEventId = event.lifecycleEventId ∧
    row.payloadSha256 = P.sha256 (event.modelDump P)

/-- The id of the event is new. -/
def IsNew (s : Store P) (event : EvidenceLifecycleEvent) : Prop :=
  ∀ row ∈ s.evidenceLifecycleEvents, row.record.lifecycleEventId ≠ event.lifecycleEventId

theorem domain_of_append {s s' : Store P} {kind : AuthorityMutationKind} {entityId : String} {acceptedAt : DateTime}
    {payload : Json} {position : Int} (h : appendAuthority kind entityId acceptedAt payload s = (.ok position, s')) :
    s'.domain = s.domain := by
  obtain ⟨-, rfl, -⟩ := appendAuthority_ok h
  rfl

/-- A lifecycle write that returns found its event recorded or inserts it. -/
theorem recordEvidenceLifecycleLocked_ok {s s' : Store P} {event result : EvidenceLifecycleEvent}
    (h : recordEvidenceLifecycleLocked event s = (.ok result, s')) :
    (s' = s ∧ IsRecorded s event) ∨
      (IsNew s event ∧ Continues s event ∧ s'.domain = (s.withLifecycle event).domain) := by
  simp only [recordEvidenceLifecycleLocked, Call.read_bind] at h
  cases known : s.evidenceLifecycleEvents.find? (fun row => row.record.lifecycleEventId = event.lifecycleEventId) with
  | some row =>
      left
      rw [known] at h
      simp only at h
      split at h
      · cases h
      · next same =>
          cases h
          exact ⟨rfl, row, List.mem_of_find?_eq_some known, by simpa using List.find?_some known, not_not.mp same⟩
  | none =>
      right
      rw [known] at h
      simp only [Call.read_bind] at h
      split at h
      · cases h
      · next continues =>
          push Not at continues
          obtain ⟨_, s₁, appended, rest⟩ := Call.bind_ok.mp h
          obtain ⟨_, s₂, inserted, done⟩ := Call.bind_ok.mp rest
          obtain ⟨-, rfl⟩ := Table.insert_ok inserted
          cases done
          refine ⟨?_, ⟨continues.1, continues.2⟩, ?_⟩
          · intro row member
            simpa using List.find?_eq_none.mp known row member
          · obtain ⟨-, rfl, -⟩ := appendAuthority_ok appended
            rfl

/-- `record_evidence_lifecycle` in a represented store: an event of a stored item
    under a new id is taken where it continues the log of its item. -/
theorem recordEvidenceLifecycle_of_continues {s : Store P} {log : List Mutation} (rep : Represents s log)
    {event : EvidenceLifecycleEvent} {row : Stored P EvidenceItem} (target : s.evidenceRow event.evidenceId = some row)
    (incident : row.record.incidentId = event.incidentId) (new : IsNew s event) (continues : Continues s event)
    (above : ∀ old ∈ s.lifecycleLog event.evidenceId, old.resultingVersion ≠ event.resultingVersion) :
    ∃ s', recordEvidenceLifecycle event s = (.ok event, s') ∧ s'.domain = (s.withLifecycle event).domain := by
  have absent : s.evidenceLifecycleEvents.find? (fun row => row.record.lifecycleEventId = event.lifecycleEventId) = none := by
    rw [List.find?_eq_none]
    intro old member
    simpa using new old member
  have free : s.evidenceLifecycleEvents.any ((Tables.evidenceLifecycleEvents (P := P)).clash
      ⟨event, P.sha256 (event.modelDump P)⟩) = false := by
    rw [List.any_eq_false]
    intro old member
    have apart := new old member
    simp only [Tables.evidenceLifecycleEvents, Bool.or_eq_true, Bool.and_eq_true, decide_eq_true_eq, not_or, not_and]
    refine ⟨fun same => apart same.symm, ?_⟩
    intro own same
    exact above old.record (Store.mem_lifecycleLog.mpr ⟨⟨old, member, rfl⟩, own.symm⟩) same.symm
  have found : s.evidenceItems.find? (fun row => row.record.evidenceId = event.evidenceId) = some row := target
  refine ⟨(s.journalled ⟨.evidenceLifecycle, event.lifecycleEventId.str, event.createdAt, event.modelDump P⟩).withLifecycle
    event, Call.atomically_of_ok ?_, rfl⟩
  simp only [recordEvidenceLifecycleBody, Call.read_bind, found, incident, ne_eq, not_true_eq_false, if_false]
  simp only [recordEvidenceLifecycleLocked, Call.read_bind, absent, ← continues.version, ← continues.state, ne_eq,
    not_true_eq_false, or_self, if_false]
  rw [appendAuthority_bind rep]
  exact Call.bind_of_ok (Table.insert_of_fresh free)

theorem recordEvidenceLifecycle_ok {s s' : Store P} {event result : EvidenceLifecycleEvent}
    (h : recordEvidenceLifecycle event s = (.ok result, s')) :
    (∃ row, s.evidenceRow event.evidenceId = some row ∧ row.record.incidentId = event.incidentId) ∧
      ((s' = s ∧ IsRecorded s event) ∨
        (IsNew s event ∧ Continues s event ∧ s'.domain = (s.withLifecycle event).domain)) := by
  have body := Call.atomically_ok.mp h
  simp only [recordEvidenceLifecycleBody, Call.read_bind] at body
  cases target : s.evidenceItems.find? (fun row => row.record.evidenceId = event.evidenceId) with
  | none =>
      rw [target] at body
      cases body
  | some row =>
      rw [target] at body
      simp only at body
      split at body
      · cases body
      · next incident => exact ⟨⟨row, target, not_not.mp incident⟩, recordEvidenceLifecycleLocked_ok body⟩

/-- `record_evidence` that returns found the item stored, or inserts it; its
    registration goes with it unless a row passes for it. -/
theorem recordEvidence_ok {s s' : Store P} {item result : EvidenceItem} {lifecycleEventId : UUID}
    (h : recordEvidence item lifecycleEventId s = (.ok result, s')) :
    s' = s ∨ (s.evidenceRow item.evidenceId = none ∧ item.familyId.isSome = true ∧
      ((IsRecorded s (registration item lifecycleEventId) ∧ s'.domain = (s.withEvidence item).domain) ∨
        (IsNew s (registration item lifecycleEventId) ∧ Continues s (registration item lifecycleEventId) ∧
          s'.domain = ((s.withEvidence item).withLifecycle (registration item lifecycleEventId)).domain))) := by
  unfold recordEvidence at h
  split at h
  · cases h
  · next named =>
      have body := Call.atomically_ok.mp h
      simp only [recordEvidenceBody, Call.read_bind] at body
      cases known : s.evidenceItems.find? (fun row => row.record.evidenceId = item.evidenceId) with
      | some row =>
          left
          rw [known] at body
          simp only at body
          split at body
          · cases body
          · cases body
            rfl
      | none =>
          right
          rw [known] at body
          obtain ⟨_, s₁, appended, rest⟩ := Call.bind_ok.mp body
          obtain ⟨_, s₂, inserted, rest⟩ := Call.bind_ok.mp rest
          obtain ⟨_, s₃, registered, done⟩ := Call.bind_ok.mp rest
          obtain ⟨-, rfl⟩ := Table.insert_ok inserted
          obtain ⟨-, rfl, -⟩ := appendAuthority_ok appended
          cases done
          refine ⟨known, by simpa [Option.isSome_iff_ne_none] using named, ?_⟩
          rcases recordEvidenceLifecycleLocked_ok registered with ⟨rfl, recorded⟩ | ⟨new, continues, domain⟩
          · exact .inl ⟨recorded, rfl⟩
          · exact .inr ⟨new, ⟨continues.version, continues.state⟩, domain⟩

/-- A table that the authority journal has no part in. -/
structure Apart {ρ : Type} (table : Table (Store P) ρ) : Prop where
  reads : ∀ s : Store P, table.rows s.domain = table.rows s
  writes : ∀ (s : Store P) rows, (table.setRows s rows).domain = table.setRows s.domain rows

/-- A write under a key that returns found a row with the same digest, or inserts one. -/
theorem recordOnce_ok {α : Type} {table : Table (Store P) (Stored P α)} {name : String} {key : Stored P α → Bool}
    {conflict : String} {kind : AuthorityMutationKind} {entityId : String} {createdAt : DateTime} {payload : Json}
    {record result : α} {s s' : Store P} (apart : Apart table)
    (h : recordOnce table name key conflict kind entityId createdAt payload record s = (.ok result, s')) :
    (s' = s ∧ ∃ row ∈ table.rows s, key row = true ∧ row.payloadSha256 = P.sha256 payload) ∨
      ((∀ row ∈ table.rows s, key row = false) ∧
        s'.domain = (table.setRows s (table.rows s ++ [⟨record, P.sha256 payload⟩])).domain) := by
  simp only [recordOnce, Call.read_bind] at h
  cases known : (table.rows s).find? key with
  | some row =>
      rw [known] at h
      simp only at h
      split at h
      · cases h
      · next same =>
          cases h
          exact .inl ⟨rfl, row, List.mem_of_find?_eq_some known, List.find?_some known, not_not.mp same⟩
  | none =>
      rw [known] at h
      obtain ⟨_, s₁, appended, rest⟩ := Call.bind_ok.mp h
      obtain ⟨_, s₂, inserted, done⟩ := Call.bind_ok.mp rest
      obtain ⟨-, rfl⟩ := Table.insert_ok inserted
      have same := domain_of_append appended
      cases done
      refine .inr ⟨?_, ?_⟩
      · intro row member
        simpa using List.find?_eq_none.mp known row member
      · rw [apart.writes, apart.writes, ← apart.reads s₁, same, apart.reads]

/-! ## What the other writes leave alone -/

/-- The writes to the two tables of evidence. -/
def Write.isEvidence : Write P → Bool
  | .recordEvidence _ _ | .recordEvidenceLifecycle _ => true
  | _ => false

def Write.isClaimLink : Write P → Bool
  | .recordClaimLink _ => true
  | _ => false

section Frames

variable {γ : Type} {field : Store P → γ}

theorem keeps_insert {ρ : Type} {table : Table (Store P) ρ} {violation : Error} {row : ρ}
    (same : ∀ s rows, field (table.setRows s rows) = field s) : Call.Keeps field (table.insert violation row) := by
  intro s
  unfold Table.insert
  split
  · rfl
  · exact same s _

theorem keeps_appendAuthority (reads : ∀ s : Store P, field s.domain = field s) (kind : AuthorityMutationKind)
    (entityId : String) (acceptedAt : DateTime) (payload : Json) :
    Call.Keeps field (appendAuthority kind entityId acceptedAt payload : StoreCall P Int) := by
  have journalOnly : ∀ s t : Store P, t.domain = s.domain → field t = field s := by
    intro s t domain
    rw [← reads t, domain, reads s]
  refine Call.Keeps.bind (Call.Keeps.read _) fun _ => Call.Keeps.bind (Call.Keeps.read _) fun _ =>
    Call.Keeps.bind (Call.Keeps.bind ?_ fun _ => Call.Keeps.modify ?_) fun _ => Call.Keeps.bind ?_ fun _ =>
      Call.Keeps.pure _
  · exact keeps_insert (fun s rows => journalOnly s _ rfl)
  · exact fun s => journalOnly s _ rfl
  · exact keeps_insert (fun s rows => journalOnly s _ rfl)

theorem keeps_recordOnce {α : Type} {table : Table (Store P) (Stored P α)} {name : String} {key : Stored P α → Bool}
    {conflict : String} {kind : AuthorityMutationKind} {entityId : String} {createdAt : DateTime} {payload : Json}
    {record : α} (reads : ∀ s : Store P, field s.domain = field s)
    (same : ∀ s rows, field (table.setRows s rows) = field s) :
    Call.Keeps field (recordOnce table name key conflict kind entityId createdAt payload record) := by
  refine Call.Keeps.bind (Call.Keeps.read _) fun existing => ?_
  cases existing with
  | some row =>
      dsimp only
      split
      · exact Call.Keeps.raise _
      · exact Call.Keeps.pure _
  | none =>
      exact Call.Keeps.bind (keeps_appendAuthority reads _ _ _ _) fun _ =>
        Call.Keeps.bind (keeps_insert same) fun _ => Call.Keeps.pure _

end Frames

/-- The tables evidence is read from. -/
def Store.evidenceTables (s : Store P) :
    List (Stored P EvidenceItem) × List (Stored P EvidenceLifecycleEvent) × List (Stored P ClaimEvidenceLink) :=
  (s.evidenceItems, s.evidenceLifecycleEvents, s.claimEvidenceLinks)

theorem Write.exec_keeps_evidenceTables (w : Write P) (evidence : w.isEvidence = false) (claimLink : w.isClaimLink = false) :
    Call.Keeps Store.evidenceTables w.exec := by
  have reads : ∀ s : Store P, s.domain.evidenceTables = s.evidenceTables := fun _ => rfl
  cases w with
  | recordEvidence _ _ => cases evidence
  | recordEvidenceLifecycle _ => cases evidence
  | recordClaimLink _ => cases claimLink
  | appendIncidentWithNotification incident notification =>
      refine Call.Keeps.bind (Call.Keeps.atomically ?_) fun _ => Call.Keeps.pure _
      refine Call.Keeps.bind (keeps_appendAuthority reads _ _ _ _) fun _ =>
        Call.Keeps.bind (keeps_insert fun _ _ => rfl) fun _ => ?_
      cases notification with
      | none => exact Call.Keeps.pure _
      | some item =>
          refine Call.Keeps.bind (Call.Keeps.read _) fun present => ?_
          cases present with
          | true => exact Call.Keeps.pure _
          | false =>
              exact Call.Keeps.bind (keeps_appendAuthority reads _ _ _ _) fun _ =>
                Call.Keeps.bind (keeps_insert fun _ _ => rfl) fun _ => Call.Keeps.pure _
  | recordDelivery notificationId delivered receiptId error acceptedAt =>
      refine Call.Keeps.bind (Call.Keeps.atomically ?_) fun _ => Call.Keeps.pure _
      refine Call.Keeps.bind (Call.Keeps.read _) fun row => ?_
      cases row with
      | none => exact Call.Keeps.raise _
      | some current =>
          dsimp only
          split
          · exact Call.Keeps.pure _
          · exact Call.Keeps.bind (keeps_appendAuthority reads _ _ _ _) fun _ =>
              Call.Keeps.bind (Call.Keeps.modify fun _ => rfl) fun _ => Call.Keeps.pure _
  | recordReview action =>
      refine Call.Keeps.bind (Call.Keeps.atomically ?_) fun _ => Call.Keeps.pure _
      exact Call.Keeps.bind (Call.Keeps.read _) fun _ => Call.Keeps.bind (keeps_appendAuthority reads _ _ _ _) fun _ =>
        Call.Keeps.bind (keeps_insert fun _ _ => rfl) fun _ =>
          Call.Keeps.bind (Call.Keeps.modify fun _ => rfl) fun _ => Call.Keeps.pure _
  | recordCommandReceipt receipt =>
      refine Call.Keeps.bind (Call.Keeps.atomically ?_) fun _ => Call.Keeps.pure _
      refine Call.Keeps.bind (Call.Keeps.read _) fun row => ?_
      cases row with
      | some existing =>
          dsimp only
          split
          · exact Call.Keeps.raise _
          · exact Call.Keeps.pure _
      | none =>
          exact Call.Keeps.bind (keeps_appendAuthority reads _ _ _ _) fun _ =>
            Call.Keeps.bind (keeps_insert fun _ _ => rfl) fun _ => Call.Keeps.pure _
  | recordMediaParserReport report =>
      exact Call.Keeps.bind (Call.Keeps.atomically (keeps_recordOnce reads fun _ _ => rfl)) fun _ => Call.Keeps.pure _
  | recordEvidenceReevaluation record =>
      exact Call.Keeps.bind (Call.Keeps.atomically (keeps_recordOnce reads fun _ _ => rfl)) fun _ => Call.Keeps.pure _
  | recordClaim claim =>
      exact Call.Keeps.bind (Call.Keeps.atomically (keeps_recordOnce reads fun _ _ => rfl)) fun _ => Call.Keeps.pure _
  | recordIncidentRelation relation =>
      exact Call.Keeps.bind (Call.Keeps.atomically (keeps_recordOnce reads fun _ _ => rfl)) fun _ => Call.Keeps.pure _
  | recordIdentityDecision candidate decision =>
      refine Call.Keeps.bind (Call.Keeps.atomically ?_) fun _ => Call.Keeps.pure _
      refine Call.Keeps.bind (Call.Keeps.read _) fun existing => ?_
      cases existing with
      | some row =>
          dsimp only
          split
          · exact Call.Keeps.raise _
          · exact Call.Keeps.pure _
      | none =>
          exact Call.Keeps.bind (keeps_insert fun _ _ => rfl) fun _ =>
            Call.Keeps.bind (keeps_insert fun _ _ => rfl) fun _ => Call.Keeps.pure _
  | recordAuthorityMutation kind entityId acceptedAt payload =>
      refine Call.Keeps.bind ?_ fun _ => Call.Keeps.pure _
      unfold Storage.recordAuthorityMutation
      split
      · exact Call.Keeps.atomically (keeps_appendAuthority reads _ _ _ _)
      · split
        · exact Call.Keeps.raise _
        · exact Call.Keeps.atomically (keeps_appendAuthority reads _ _ _ _)

/-- `record_claim_link` that returns found the link stored, or inserts it between
    a claim and an item that both exist. -/
theorem recordClaimLink_ok {s s' : Store P} {link result : ClaimEvidenceLink}
    (h : recordClaimLink link s = (.ok result, s')) :
    s' = s ∨ ((∃ row ∈ s.evidenceItems, row.record.evidenceId = link.evidenceId) ∧
      s'.domain = Store.domain { s with claimEvidenceLinks :=
        s.claimEvidenceLinks ++ [⟨link, P.sha256 (link.modelDump P)⟩] }) := by
  have body := Call.atomically_ok.mp h
  simp only [recordClaimLinkBody, Call.read_bind] at body
  split at body
  · cases body
  · next present =>
      simp only [Bool.or_eq_true, Bool.not_eq_true', not_or, Bool.not_eq_false] at present
      obtain ⟨row, member, same⟩ := List.any_eq_true.mp present.2
      rcases recordOnce_ok ⟨fun _ => rfl, fun _ _ => rfl⟩ body with ⟨rfl, -⟩ | ⟨-, domain⟩
      · exact .inl rfl
      · exact .inr ⟨⟨row, member, of_decide_eq_true same⟩, domain⟩

end SentinelEdge.Storage
