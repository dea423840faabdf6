import Mathlib.Data.List.Chain
import SentinelEdge.Evidence.Families
import SentinelEdge.Evidence.Transitions

/-! # Lifecycle histories are legal

Legality of a log is split between the service, which checks the table, the rights
and the proof, and the store, which checks that the event continues the latest one.
`Lawful` is what both together keep in every run.
-/

namespace SentinelEdge.Evidence

open Foundation Domain Storage EvidenceTrustService

variable {P : Platform} {s s' : Store P} {item : EvidenceItem} {log : List EvidenceLifecycleEvent}
  {event last : EvidenceLifecycleEvent}

/-- One event may follow the other. -/
structure Follows (before after : EvidenceLifecycleEvent) : Prop where
  state : after.fromState = some before.toState
  legal : after.toState ∈ legalTransitions before.toState
  version : after.expectedVersion = before.resultingVersion

/-- A registration, then legal steps numbered without a gap; nothing follows a
    deletion, deletions are proven, and rights had expired where the item did. -/
structure LegalLog (P : Platform) (item : EvidenceItem) (log : List EvidenceLifecycleEvent) : Prop where
  registered : ∃ first rest, log = first :: rest ∧ first.action = .register ∧ first.fromState = none ∧
    first.resultingVersion = 1 ∧ ∀ later ∈ rest, later.action ≠ .register
  numbered : Numbered EvidenceLifecycleEvent.resultingVersion log
  chained : log.IsChain Follows
  final : ∀ event ∈ log.dropLast, event.toState ≠ .deleted
  proven : ∀ event ∈ log, event.toState = .deleted →
    ∃ proof, event.deletionProofSha256 = some proof ∧ P.isSha256 proof = true
  expired : ∀ event ∈ log, event.toState = .expired →
    ∃ expiry, item.rightsExpiresAt = some expiry ∧ expiry ≤ event.createdAt

theorem LegalLog.ne_nil (legal : LegalLog P item log) : log ≠ [] := by
  obtain ⟨first, rest, rfl, -⟩ := legal.registered
  exact List.cons_ne_nil _ _

/-- The last event of a legal log is the one the store calls the latest. -/
theorem LegalLog.last_event (legal : LegalLog P item log) :
    ∃ last, log.getLast? = some last ∧ latest EvidenceLifecycleEvent.resultingVersion log = some last ∧
      last.resultingVersion = log.length := by
  obtain ⟨last, found⟩ := Option.isSome_iff_exists.mp (List.getLast?_isSome.mpr legal.ne_nil)
  exact ⟨last, found, by rw [legal.numbered.latest_eq, found], legal.numbered.version_last found⟩

theorem legalLog_registration (item : EvidenceItem) (lifecycleEventId : UUID) :
    LegalLog P item [registration item lifecycleEventId] where
  registered := ⟨registration item lifecycleEventId, [], rfl, rfl, rfl, rfl, by simp⟩
  numbered := rfl
  chained := .singleton _
  final := by simp
  proven := by
    intro event member deleted
    rw [List.mem_singleton.mp member] at deleted
    cases state : item.retentionState <;> simp [registration, state] at deleted
  expired := by
    intro event member expired
    rw [List.mem_singleton.mp member] at expired
    cases state : item.retentionState <;> simp [registration, state] at expired

/-- What the next event of an item has to satisfy. -/
structure MayFollow (P : Platform) (item : EvidenceItem) (last event : EvidenceLifecycleEvent) : Prop where
  follows : Follows last event
  version : event.resultingVersion = event.expectedVersion + 1
  action : event.action ≠ .register
  proven : event.toState = .deleted → ∃ proof, event.deletionProofSha256 = some proof ∧ P.isSha256 proof = true
  expired : event.toState = .expired → ∃ expiry, item.rightsExpiresAt = some expiry ∧ expiry ≤ event.createdAt

theorem LegalLog.snoc (legal : LegalLog P item log) (found : log.getLast? = some last)
    (next : MayFollow P item last event) : LegalLog P item (log ++ [event]) where
  registered := by
    obtain ⟨first, rest, rfl, action, state, version, later⟩ := legal.registered
    refine ⟨first, rest ++ [event], rfl, action, state, version, ?_⟩
    intro other member
    rcases List.mem_append.mp member with old | new
    · exact later other old
    · rw [List.mem_singleton.mp new]
      exact next.action
  numbered := by
    apply legal.numbered.snoc
    rw [next.version, next.follows.version, legal.numbered.version_last found]
  chained := by
    refine List.IsChain.append legal.chained (.singleton _) ?_
    intro before atEnd after atStart
    rw [found, Option.mem_some_iff] at atEnd
    rw [List.head?_cons, Option.mem_some_iff] at atStart
    rw [← atEnd, ← atStart]
    exact next.follows
  final := by
    rw [List.dropLast_concat]
    intro before member deleted
    rw [← List.dropLast_append_getLast? last found] at member
    rcases List.mem_append.mp member with old | new
    · exact legal.final before old deleted
    · have legalNext := next.follows.legal
      rw [← List.mem_singleton.mp new, deleted] at legalNext
      cases legalNext
  proven := by
    intro other member deleted
    rcases List.mem_append.mp member with old | new
    · exact legal.proven other old deleted
    · rw [List.mem_singleton.mp new] at deleted ⊢
      exact next.proven deleted
  expired := by
    intro other member expired
    rcases List.mem_append.mp member with old | new
    · exact legal.expired other old expired
    · rw [List.mem_singleton.mp new] at expired ⊢
      exact next.expired expired

/-! ## What a warranted event brings -/

theorem validate_ok {built : EvidenceLifecycleEvent} (h : event.validate P = .ok built) :
    built = event ∧ isBlank event.actor = false ∧ isBlank event.reason = false ∧
      event.resultingVersion = event.expectedVersion + 1 ∧
      (event.action = .delete → ∃ proof, event.deletionProofSha256 = some proof ∧ P.isSha256 proof = true) := by
  unfold EvidenceLifecycleEvent.validate at h
  split at h
  · cases h
  · next named =>
      split at h
      · cases h
      · next version =>
          split at h
          · cases h
          · next present =>
              split at h
              · cases h
              · next formed =>
                  cases h
                  simp only [Bool.or_eq_true, not_or, Bool.not_eq_true] at named
                  refine ⟨rfl, named.1, named.2, not_not.mp version, ?_⟩
                  intro delete
                  cases proof : event.deletionProofSha256 with
                  | none => simp [delete, proof] at present
                  | some text => exact ⟨text, rfl, by simpa [proof] using formed⟩

/-- The rows of the tables of evidence belong together. -/
structure Lawful (s : Store P) : Prop where
  represented : ∃ journal, Represents s journal
  kept : Kept s
  owned : ∀ row ∈ s.evidenceLifecycleEvents, ∃ target ∈ s.evidenceItems,
    target.record.evidenceId = row.record.evidenceId ∧ target.record.incidentId = row.record.incidentId
  digested : ∀ row ∈ s.evidenceLifecycleEvents, row.payloadSha256 = P.sha256 (row.record.modelDump P)
  legal : ∀ row ∈ s.evidenceItems, LegalLog P row.record (s.lifecycleLog row.record.evidenceId)
  linked : ∀ row ∈ s.claimEvidenceLinks, ∃ target ∈ s.evidenceItems, target.record.evidenceId = row.record.evidenceId

theorem lawful_empty : Lawful (Store.empty : Store P) where
  represented := ⟨[], represents_empty⟩
  kept := {
    unique := by intro a member; cases member
    assigned := by intro row member; cases member }
  owned := by intro row member; cases member
  digested := by intro row member; cases member
  legal := by intro row member; cases member
  linked := by intro row member; cases member

/-- Looking an item up by its id finds its only row. -/
theorem Lawful.evidenceRow (lawful : Lawful s) {row : Stored P EvidenceItem} (member : row ∈ s.evidenceItems) :
    s.evidenceRow row.record.evidenceId = some row := by
  cases found : s.evidenceRow row.record.evidenceId with
  | none =>
      have absent := List.find?_eq_none.mp found row member
      simp at absent
  | some other =>
      have same : other.record.evidenceId = row.record.evidenceId := by simpa using List.find?_some found
      rw [lawful.kept.unique other (List.mem_of_find?_eq_some found) row member same]

theorem evidenceRow_some {evidenceId : UUID} {row : Stored P EvidenceItem} (found : s.evidenceRow evidenceId = some row) :
    row ∈ s.evidenceItems ∧ row.record.evidenceId = evidenceId :=
  ⟨List.mem_of_find?_eq_some found, by simpa using List.find?_some found⟩

/-- The last event of a stored item, and the projection from it. -/
theorem Lawful.lastEvent (lawful : Lawful s) {row : Stored P EvidenceItem} (member : row ∈ s.evidenceItems) :
    ∃ last, (s.lifecycleLog row.record.evidenceId).getLast? = some last ∧
      s.latestLifecycle row.record.evidenceId = some last ∧
      ∀ now, s.lifecycleProjection row.record.evidenceId now = .ok (Store.projectionOf row.record last now) := by
  have legal := lawful.legal row member
  obtain ⟨last, found, latestEq, -⟩ := legal.last_event
  refine ⟨last, found, by rw [Store.latestLifecycle_eq, latestEq], ?_⟩
  intro now
  simp only [Store.lifecycleProjection, lawful.evidenceRow member, Store.lifecycleEvents, legal.numbered.byVersion_eq,
    found]

/-- The item that `_item` finds. -/
theorem item_found {evidenceId : UUID}
    (found : s.allEvidence.find? (fun item => item.evidenceId = evidenceId) = some item) :
    ∃ row ∈ s.evidenceItems, row.record = item ∧ item.evidenceId = evidenceId := by
  obtain ⟨row, member, rfl⟩ := List.mem_map.mp (Store.mem_allEvidence.mp (List.mem_of_find?_eq_some found))
  exact ⟨row, member, rfl, by simpa using List.find?_some found⟩

/-- A warranted event may follow the last one of its item. -/
theorem Lawful.mayFollow (lawful : Lawful s) (warranted : Warranted s event) :
    ∃ row ∈ s.evidenceItems, row.record.evidenceId = event.evidenceId ∧ row.record.incidentId = event.incidentId ∧
      ∃ last, (s.lifecycleLog event.evidenceId).getLast? = some last ∧ MayFollow P row.record last event := by
  obtain ⟨request, drawn, now, item, current, deletion, admitted, built⟩ := warranted
  obtain ⟨row, member, rfl, own⟩ := item_found admitted.found
  obtain ⟨last, found, -, projected⟩ := lawful.lastEvent member
  have current_eq : current = Store.projectionOf row.record last now := by
    have projectedNow := admitted.projected
    rw [← own, projected now] at projectedNow
    exact (Except.ok.inj projectedNow).symm
  unfold buildEvent at built
  cases action : actionForState request.toState with
  | none =>
      rw [action] at built
      cases built
  | some act =>
      rw [action] at built
      obtain ⟨rfl, -, -, version, proof⟩ := validate_ok built
      refine ⟨row, member, own, rfl, last, ?_, ⟨?_, ?_, ?_⟩, version, ?_, ?_, ?_⟩
      · rw [← found, own]
        rfl
      · simp [lifecycleEvent, current_eq, Store.projectionOf]
      · simpa [lifecycleEvent, current_eq, Store.projectionOf] using admitted.legal
      · simp [lifecycleEvent, current_eq, Store.projectionOf]
      · intro register
        cases state : request.toState <;> simp [actionForState, state, lifecycleEvent] at action register <;>
          simp [← action] at register
      · intro deleted
        have state : request.toState = .deleted := deleted
        rw [state] at action
        exact proof (Option.some.inj action).symm
      · intro expired
        have notActive := admitted.expired expired
        cases expiry : row.record.rightsExpiresAt with
        | none => simp [Store.rightsActive, expiry] at notActive
        | some instant =>
            have reached : instant ≤ request.now := by simpa [Store.rightsActive, expiry] using notActive
            exact ⟨instant, rfl, reached⟩

/-! ## The writes keep it -/

/-- Only the tables of evidence matter, beside the authority journal. -/
theorem Lawful.frame (lawful : Lawful s) (represented : ∃ journal, Represents s' journal)
    (tables : s'.evidenceTables = s.evidenceTables) : Lawful s' := by
  obtain ⟨items, rest⟩ := Prod.mk.inj tables
  obtain ⟨events, links⟩ := Prod.mk.inj rest
  have log : ∀ evidenceId, s'.lifecycleLog evidenceId = s.lifecycleLog evidenceId := by
    intro evidenceId
    rw [Store.lifecycleLog, Store.lifecycleLog, events]
  exact {
    represented := represented
    kept := ⟨by rw [items]; exact lawful.kept.unique, by rw [items]; exact lawful.kept.assigned⟩
    owned := by rw [items, events]; exact lawful.owned
    digested := by rw [events]; exact lawful.digested
    legal := by
      rw [items]
      intro row member
      rw [log]
      exact lawful.legal row member
    linked := by rw [items, links]; exact lawful.linked }

theorem Lawful.of_domain {t : Store P} (lawful : Lawful t) (represented : ∃ journal, Represents s' journal)
    (domain : s'.domain = t.domain) : Lawful s' :=
  lawful.frame represented (field_of_domain domain Store.evidenceTables rfl)

/-- A lifecycle event of an item extends its log and no other. -/
theorem Lawful.withLifecycle (lawful : Lawful s) (warranted : Warranted s event) : Lawful (s.withLifecycle event) := by
  obtain ⟨target, targeted, own, incident, last, found, next⟩ := lawful.mayFollow warranted
  obtain ⟨journal, rep⟩ := lawful.represented
  exact {
    represented := ⟨journal, rep.frame rfl rfl rfl⟩
    kept := { unique := lawful.kept.unique, assigned := lawful.kept.assigned }
    owned := by
      intro row member
      rcases List.mem_append.mp member with old | new
      · exact lawful.owned row old
      · rw [List.mem_singleton.mp new]
        exact ⟨target, targeted, own, incident⟩
    digested := by
      intro row member
      rcases List.mem_append.mp member with old | new
      · exact lawful.digested row old
      · rw [List.mem_singleton.mp new]
    legal := by
      intro row member
      rw [Store.lifecycleLog_withLifecycle]
      by_cases same : event.evidenceId = row.record.evidenceId
      · rw [if_pos same]
        obtain rfl := lawful.kept.unique target targeted row member (own.trans same)
        rw [own] at same
        have legal := lawful.legal target targeted
        rw [own] at legal ⊢
        exact legal.snoc found next
      · rw [if_neg same, List.append_nil]
        exact lawful.legal row member
    linked := lawful.linked }

/-- The log of an id that no item has is empty. -/
theorem Lawful.log_of_unstored (lawful : Lawful s) {evidenceId : UUID} (unstored : s.evidenceRow evidenceId = none) :
    s.lifecycleLog evidenceId = [] := by
  rw [List.eq_nil_iff_forall_not_mem]
  intro event member
  obtain ⟨⟨row, stored, rfl⟩, own⟩ := Store.mem_lifecycleLog.mp member
  obtain ⟨target, targeted, same, -⟩ := lawful.owned row stored
  have absent := List.find?_eq_none.mp unstored target targeted
  simp [same, own] at absent

/-- A new item comes with its registration. -/
theorem Lawful.withEvidence (lawful : Lawful s) (unstored : s.evidenceRow item.evidenceId = none)
    (named : item.familyId.isSome = true) (lifecycleEventId : UUID) :
    Lawful ((s.withEvidence item).withLifecycle (registration item lifecycleEventId)) := by
  obtain ⟨journal, rep⟩ := lawful.represented
  have apart : ∀ row ∈ s.evidenceItems, row.record.evidenceId ≠ item.evidenceId := by
    intro row member
    simpa using List.find?_eq_none.mp unstored row member
  have log : ∀ evidenceId, ((s.withEvidence item).withLifecycle (registration item lifecycleEventId)).lifecycleLog evidenceId =
      s.lifecycleLog evidenceId ++ if item.evidenceId = evidenceId then [registration item lifecycleEventId] else [] :=
    fun evidenceId => Store.lifecycleLog_withLifecycle (s.withEvidence item) _ evidenceId
  have still : ∀ {evidenceId : UUID}, (∃ target ∈ s.evidenceItems, target.record.evidenceId = evidenceId) →
      ∃ target ∈ (s.withEvidence item).evidenceItems, target.record.evidenceId = evidenceId := by
    rintro evidenceId ⟨target, targeted, same⟩
    exact ⟨target, List.mem_append_left _ targeted, same⟩
  exact {
    represented := ⟨journal, rep.frame rfl rfl rfl⟩
    kept := {
      unique := by
        intro a memberA b memberB same
        rcases List.mem_append.mp memberA with oldA | newA <;> rcases List.mem_append.mp memberB with oldB | newB
        · exact lawful.kept.unique a oldA b oldB same
        · rw [List.mem_singleton.mp newB] at same
          exact absurd same (apart a oldA)
        · rw [List.mem_singleton.mp newA] at same
          exact absurd same.symm (apart b oldB)
        · rw [List.mem_singleton.mp newA, List.mem_singleton.mp newB]
      assigned := by
        intro row member
        rcases List.mem_append.mp member with old | new
        · exact lawful.kept.assigned row old
        · rw [List.mem_singleton.mp new]
          exact named }
    owned := by
      intro row member
      rcases List.mem_append.mp member with old | new
      · obtain ⟨target, targeted, same⟩ := lawful.owned row old
        exact ⟨target, List.mem_append_left _ targeted, same⟩
      · rw [List.mem_singleton.mp new]
        exact ⟨_, List.mem_append_right _ (List.mem_singleton_self _), rfl, rfl⟩
    digested := by
      intro row member
      rcases List.mem_append.mp member with old | new
      · exact lawful.digested row old
      · rw [List.mem_singleton.mp new]
    legal := by
      intro row member
      rw [log]
      rcases List.mem_append.mp member with old | new
      · rw [if_neg (Ne.symm (apart row old)), List.append_nil]
        exact lawful.legal row old
      · rw [List.mem_singleton.mp new, if_pos rfl, lawful.log_of_unstored unstored]
        exact legalLog_registration item lifecycleEventId
    linked := fun row member => still (lawful.linked row member) }

/-- The evidence id is read off the payload. -/
theorem evidenceId_of_modelDump {a b : EvidenceLifecycleEvent} (same : a.modelDump P = b.modelDump P) :
    a.evidenceId = b.evidenceId := by
  apply UUID.str_injective
  have fields := Json.obj.inj same
  simp only [List.cons.injEq, Prod.mk.injEq, Dump.uuid, Json.str.injEq, true_and] at fields
  rw [fields.2.2.2.2.1]

/-- No row passes for the registration of an item that is not stored: it would
    belong to a stored item of the same id. -/
theorem Lawful.unregistered (collisionFree : Function.Injective P.sha256) (lawful : Lawful s)
    (unstored : s.evidenceRow item.evidenceId = none) {lifecycleEventId : UUID} {row : Stored P EvidenceLifecycleEvent}
    (stored : row ∈ s.evidenceLifecycleEvents) :
    row.payloadSha256 ≠ P.sha256 ((registration item lifecycleEventId).modelDump P) := by
  intro digest
  rw [lawful.digested row stored] at digest
  have own : row.record.evidenceId = item.evidenceId := evidenceId_of_modelDump (collisionFree digest)
  have member : row.record ∈ s.lifecycleLog item.evidenceId := Store.mem_lifecycleLog.mpr ⟨⟨row, stored, rfl⟩, own⟩
  rw [lawful.log_of_unstored unstored] at member
  cases member

theorem Lawful.recordEvidence (collisionFree : Function.Injective P.sha256) (lawful : Lawful s) (item : EvidenceItem)
    (lifecycleEventId : UUID) : Lawful ((Write.recordEvidence item lifecycleEventId).step s) := by
  obtain ⟨journal, rep⟩ := lawful.represented
  have represented : ∃ journal, Represents ((Write.recordEvidence item lifecycleEventId).step s) journal :=
    (rep.step _).imp' _ (fun _ rep' => rep')
  rw [Write.step, Write.exec, discard_step] at represented ⊢
  rcases call : Storage.recordEvidence item lifecycleEventId s with ⟨r, s'⟩
  rw [call] at represented
  cases r with
  | error e =>
      rw [(Write.recordEvidence item lifecycleEventId).exec_rollsBack (Call.bind_of_error call)]
      exact lawful
  | ok result =>
      rcases recordEvidence_ok call with rfl | ⟨unstored, named, ⟨⟨row, stored, -, digest⟩, -⟩ | ⟨-, -, domain⟩⟩
      · exact lawful
      · exact absurd digest (lawful.unregistered collisionFree unstored stored)
      · exact (lawful.withEvidence unstored named lifecycleEventId).of_domain represented domain

theorem Lawful.recordEvidenceLifecycle (lawful : Lawful s) (warranted : Warranted s event) :
    Lawful ((Write.recordEvidenceLifecycle event).step s) := by
  obtain ⟨journal, rep⟩ := lawful.represented
  have represented : ∃ journal, Represents ((Write.recordEvidenceLifecycle event).step s) journal :=
    (rep.step _).imp' _ (fun _ rep' => rep')
  rw [Write.step, Write.exec, discard_step] at represented ⊢
  rcases call : Storage.recordEvidenceLifecycle event s with ⟨r, s'⟩
  rw [call] at represented
  cases r with
  | error e =>
      rw [(Write.recordEvidenceLifecycle event).exec_rollsBack (Call.bind_of_error call)]
      exact lawful
  | ok result =>
      rcases (recordEvidenceLifecycle_ok call).2 with ⟨rfl, -⟩ | ⟨-, -, domain⟩
      · exact lawful
      · exact (lawful.withLifecycle warranted).of_domain represented domain

theorem Lawful.recordClaimLink (lawful : Lawful s) (link : ClaimEvidenceLink) :
    Lawful ((Write.recordClaimLink link).step s) := by
  obtain ⟨journal, rep⟩ := lawful.represented
  have represented : ∃ journal, Represents ((Write.recordClaimLink link).step s) journal :=
    (rep.step _).imp' _ (fun _ rep' => rep')
  rw [Write.step, Write.exec, discard_step] at represented ⊢
  rcases call : Storage.recordClaimLink link s with ⟨r, s'⟩
  rw [call] at represented
  cases r with
  | error e =>
      rw [(Write.recordClaimLink link).exec_rollsBack (Call.bind_of_error call)]
      exact lawful
  | ok result =>
      rcases recordClaimLink_ok call with rfl | ⟨target, domain⟩
      · exact lawful
      · refine Lawful.of_domain (t := { s with claimEvidenceLinks :=
          s.claimEvidenceLinks ++ [⟨link, P.sha256 (link.modelDump P)⟩] }) ?_ represented domain
        exact {
          represented := ⟨journal, rep.frame rfl rfl rfl⟩
          kept := { unique := lawful.kept.unique, assigned := lawful.kept.assigned }
          owned := lawful.owned
          digested := lawful.digested
          legal := lawful.legal
          linked := by
            intro row member
            rcases List.mem_append.mp member with old | new
            · exact lawful.linked row old
            · rw [List.mem_singleton.mp new]
              exact target }

/-- What one write does to the tables of items and lifecycle events. -/
inductive Grows (s s' : Store P) : Prop where
  | same (items : s'.evidenceItems = s.evidenceItems)
      (events : s'.evidenceLifecycleEvents = s.evidenceLifecycleEvents) : Grows s s'
  | event {event : EvidenceLifecycleEvent} (warranted : Warranted s event) (new : IsNew s event)
      (items : s'.evidenceItems = s.evidenceItems)
      (events : s'.evidenceLifecycleEvents = (s.withLifecycle event).evidenceLifecycleEvents) : Grows s s'
  | item {item : EvidenceItem} {lifecycleEventId : UUID} (new : IsNew s (registration item lifecycleEventId))
      (items : s'.evidenceItems = (s.withEvidence item).evidenceItems)
      (events : s'.evidenceLifecycleEvents =
        (s.withLifecycle (registration item lifecycleEventId)).evidenceLifecycleEvents) : Grows s s'

theorem Lawful.grows (collisionFree : Function.Injective P.sha256) (lawful : Lawful s) {w : Write P}
    (warranted : WarrantedWrite s w) : Grows s (w.step s) := by
  cases warranted with
  | @evidence item lifecycleEventId =>
      rw [Write.step, Write.exec, discard_step]
      rcases call : Storage.recordEvidence item lifecycleEventId s with ⟨r, s'⟩
      cases r with
      | error e =>
          rw [(Write.recordEvidence item lifecycleEventId).exec_rollsBack (Call.bind_of_error call)]
          exact .same rfl rfl
      | ok result =>
          rcases recordEvidence_ok call with rfl | ⟨unstored, -, ⟨⟨row, stored, -, digest⟩, -⟩ | ⟨new, -, domain⟩⟩
          · exact .same rfl rfl
          · exact absurd digest (lawful.unregistered collisionFree unstored stored)
          · exact .item new (field_of_domain domain Store.evidenceItems rfl)
              (field_of_domain domain Store.evidenceLifecycleEvents rfl)
  | @lifecycle event warranted =>
      rw [Write.step, Write.exec, discard_step]
      rcases call : Storage.recordEvidenceLifecycle event s with ⟨r, s'⟩
      cases r with
      | error e =>
          rw [(Write.recordEvidenceLifecycle event).exec_rollsBack (Call.bind_of_error call)]
          exact .same rfl rfl
      | ok result =>
          rcases (recordEvidenceLifecycle_ok call).2 with ⟨rfl, -⟩ | ⟨new, -, domain⟩
          · exact .same rfl rfl
          · exact .event warranted new (field_of_domain domain Store.evidenceItems rfl)
              (field_of_domain domain Store.evidenceLifecycleEvents rfl)
  | other other =>
      cases claimLink : w.isClaimLink with
      | true =>
          cases w with
          | recordClaimLink link =>
              rw [Write.step, Write.exec, discard_step]
              rcases call : Storage.recordClaimLink link s with ⟨r, s'⟩
              cases r with
              | error e =>
                  rw [(Write.recordClaimLink link).exec_rollsBack (Call.bind_of_error call)]
                  exact .same rfl rfl
              | ok result =>
                  rcases recordClaimLink_ok call with rfl | ⟨-, domain⟩
                  · exact .same rfl rfl
                  · exact .same (field_of_domain domain Store.evidenceItems rfl)
                      (field_of_domain domain Store.evidenceLifecycleEvents rfl)
          | _ => cases claimLink
      | false =>
          obtain ⟨items, rest⟩ := Prod.mk.inj (w.exec_keeps_evidenceTables other claimLink s)
          exact .same items (Prod.mk.inj rest).1

/-- One step: every warranted write keeps the tables lawful. -/
theorem Lawful.step (collisionFree : Function.Injective P.sha256) (lawful : Lawful s) {w : Write P}
    (warranted : WarrantedWrite s w) : Lawful (w.step s) := by
  cases warranted with
  | evidence => exact lawful.recordEvidence collisionFree _ _
  | lifecycle warranted => exact lawful.recordEvidenceLifecycle warranted
  | other other =>
      cases claimLink : w.isClaimLink with
      | true =>
          cases w with
          | recordClaimLink link => exact lawful.recordClaimLink link
          | _ => cases claimLink
      | false =>
          obtain ⟨journal, rep⟩ := lawful.represented
          exact lawful.frame ((rep.step w).imp' _ (fun _ rep' => rep')) (w.exec_keeps_evidenceTables other claimLink s)

theorem Leads.lawful (collisionFree : Function.Injective P.sha256) (leads : Leads s s') (lawful : Lawful s) : Lawful s' :=
  leads.invariant lawful (fun _ _ lawful warranted => lawful.step collisionFree warranted)

theorem run_lawful (collisionFree : Function.Injective P.sha256) (artifacts : ContentAddressedArtifactStore P)
    (attached : Bool) (ops : List (SystemOperation P)) : Lawful (EvidenceSystem.run artifacts attached ops).store :=
  (EvidenceSystem.run_leads artifacts attached ops).lawful collisionFree lawful_empty

/-- After any sequence of calls every stored item has a legal lifecycle log, which
    the store lists in the order of its versions. -/
theorem evidence_lifecycle_history_legal (P : Platform) (collisionFree : Function.Injective P.sha256)
    (artifacts : ContentAddressedArtifactStore P) (attached : Bool) (ops : List (SystemOperation P)) :
    let s := (EvidenceSystem.run artifacts attached ops).store
    ∀ item ∈ s.allEvidence, LegalLog P item (s.lifecycleLog item.evidenceId) ∧
      s.lifecycleEvents item.evidenceId = s.lifecycleLog item.evidenceId := by
  intro s item member
  have lawful : Lawful s := run_lawful collisionFree artifacts attached ops
  obtain ⟨row, stored, rfl⟩ := List.mem_map.mp (Store.mem_allEvidence.mp member)
  have legal := lawful.legal row stored
  exact ⟨legal, legal.numbered.byVersion_eq⟩

/-- An artifact store on an empty directory. -/
def shelf : ContentAddressedArtifactStore Platform.hexadecimal := ContentAddressedArtifactStore.create 1000000 1000

/-- The incident of the ridge fire is journalled. -/
def openRidgeFire : SystemOperation Platform.hexadecimal := .write ⟨.appendIncidentWithNotification ridgeFire none, rfl⟩

/-- The ids of the `n`-th draw, with the clock at ten. -/
def draw (n : Nat) : Drawn := ⟨UUID.ofNat (1000 + n), UUID.ofNat (2000 + n), 10, 10, 10⟩

/-- An officer deletes an item. -/
def deletion (evidenceId : Nat) (version : Int) : TransitionRequest where
  evidenceId := UUID.ofNat evidenceId
  toState := .deleted
  expectedVersion := version
  actor := "privacy-officer"
  reason := "subject request"
  now := 10

/-- A report is taken in and deleted; the deletion is asked for again. -/
def ridgeHistory : List (SystemOperation Platform.hexadecimal) :=
  [openRidgeFire, .ingest {} (report 1 'a' "post-1") (UUID.ofNat 101) 1, .transition (deletion 1 1) (draw 1),
    .transition (deletion 1 1) (draw 2)]

theorem ridge_history_legal :
    ((EvidenceSystem.run shelf true ridgeHistory).store.lifecycleLog (UUID.ofNat 1)).map EvidenceLifecycleEvent.toState =
      [.metadataOnly, .deleted] ∧
    ∀ item ∈ (EvidenceSystem.run shelf true ridgeHistory).store.allEvidence,
      LegalLog Platform.hexadecimal item ((EvidenceSystem.run shelf true ridgeHistory).store.lifecycleLog item.evidenceId) := by
  refine ⟨by decide +kernel, ?_⟩
  intro item member
  exact (evidence_lifecycle_history_legal Platform.hexadecimal (fun _ _ same => same) shelf true ridgeHistory item member).1

end SentinelEdge.Evidence
