import SentinelEdge.Evidence.Trust

/-! # Re-evaluating claims

A claim may be linked to any stored item, whatever incident the item was reported
for. When an item is lost, one record is written, for the incident of the item;
the links of that incident are listed through its claims. Claims of another
incident that rest on the item are passed over.
-/

namespace SentinelEdge.Evidence

open Foundation Domain Storage EvidenceTrustService

variable {P : Platform} {s s' : Store P} {now : DateTime} {request : TransitionRequest} {drawn : Drawn} {item : EvidenceItem}
  {event : EvidenceLifecycleEvent} {projection : EvidenceLifecycleProjection}

/-- The links that lead to nothing that may back a claim now. -/
def invalidated (s : Store P) (now : DateTime) (incidentId : UUID) : Nat :=
  (s.claimLinks incidentId).countP (fun link => !isEligible s now link.evidenceId)

/-- The records of re-evaluations between two stores. -/
def reevaluations (s s' : Store P) : List EvidenceReevaluationRecord :=
  (s'.evidenceReevaluations.drop s.evidenceReevaluations.length).map Stored.record

/-- A claim of the incident rests on the item. -/
def RestsOn (s : Store P) (incidentId evidenceId : UUID) : Prop := ∃ link ∈ s.claimLinks incidentId, link.evidenceId = evidenceId

/-- Every incident with a claim on the item is re-evaluated, and its invalidated
    links are all counted. -/
def Reevaluated (s s' : Store P) (evidenceId : UUID) (now : DateTime) : Prop :=
  ∀ incidentId, RestsOn s incidentId evidenceId → ∃ record ∈ reevaluations s s',
    record.incidentId = incidentId ∧ record.evidenceId = evidenceId ∧ record.invalidatedLinks = invalidated s' now incidentId

/-- Only claims of its own incident rest on the item. -/
def LinkedAtHome (s : Store P) (evidenceId : UUID) : Prop :=
  ∀ item, s.allEvidence.find? (fun item => item.evidenceId = evidenceId) = some item →
    ∀ incidentId, RestsOn s incidentId evidenceId → incidentId = item.incidentId

/-- The loop over the links counts those that lead nowhere. -/
theorem countLinks_invalidated {links : List ClaimEvidenceLink} {counts result : LinkCounts}
    (counted : countLinks s now links counts = .ok result) :
    result.invalidated = counts.invalidated + links.countP (fun link => !isEligible s now link.evidenceId) := by
  induction links generalizing counts with
  | nil =>
      cases counted
      rfl
  | cons link links ih =>
      unfold countLinks at counted
      cases projected : s.lifecycleProjection link.evidenceId now with
      | error e =>
          rw [projected] at counted
          cases counted
      | ok projection =>
          rw [projected] at counted
          have eligible : isEligible s now link.evidenceId = projection.claimEligible := by
            rw [isEligible, projected]
          rw [ih counted, List.countP_cons, eligible]
          cases decision : projection.claimEligible with
          | false =>
              simp [LinkCounts.count, decision]
              omega
          | true => cases relation : link.relation <;> simp [LinkCounts.count, decision, relation]

theorem claimReconciliation_invalidated {incidentId : UUID} {reconciliation : ClaimReconciliation}
    (reconciled : claimReconciliation s incidentId now = .ok reconciliation) :
    reconciliation.invalidatedLinks = invalidated s now incidentId := by
  unfold claimReconciliation at reconciled
  cases counted : countLinks s now (s.claimLinks incidentId) ⟨0, 0, 0⟩ with
  | error e =>
      rw [counted] at reconciled
      cases reconciled
  | ok counts =>
      rw [counted] at reconciled
      cases reconciled
      simpa [invalidated] using countLinks_invalidated counted

/-- Re-evaluating adds one record, for the incident of the item. -/
theorem reevaluate_ok {action : EvidenceLifecycleAction} (loses : needsReevaluation request.toState = true)
    (fresh : ∀ row ∈ s.evidenceReevaluations, row.record.reevaluationId ≠ drawn.reevaluationId)
    (returned : reevaluate request item action drawn s = (.ok (), s')) :
    ∃ row : Stored P EvidenceReevaluationRecord,
      s'.domain = { s with evidenceReevaluations := s.evidenceReevaluations ++ [row] }.domain ∧
      row.record.incidentId = item.incidentId ∧ row.record.evidenceId = request.evidenceId ∧
      row.record.invalidatedLinks = invalidated s drawn.projectedAt item.incidentId := by
  simp only [reevaluate, loses, Bool.not_true, Bool.false_eq_true, if_false, Call.read_bind, id] at returned
  obtain ⟨reconciliation, _, reconciled, rest⟩ := Call.bind_ok.mp returned
  rw [Call.lift_apply, Prod.mk.injEq] at reconciled
  obtain ⟨reconciled, rfl⟩ := reconciled
  obtain ⟨_, t, recorded, done⟩ := Call.bind_ok.mp rest
  cases done
  have apart : Apart (Tables.evidenceReevaluations (P := P)) := ⟨fun _ => rfl, fun _ _ => rfl⟩
  rcases recordOnce_ok apart (Call.atomically_ok.mp recorded) with ⟨-, row, stored, same, -⟩ | ⟨-, domain⟩
  · exact absurd (of_decide_eq_true same) (fresh row stored)
  · exact ⟨_, domain, rfl, rfl, claimReconciliation_invalidated reconciled⟩

/-- Between the lifecycle write and the end of the transition no link is gained or
    lost, and none changes what it leads to. -/
theorem record_reevaluates (loses : needsReevaluation request.toState = true) (fresh : Fresh s drawn)
    (returned : record request item drawn event s = (.ok projection, s')) :
    ∃ written : EvidenceReevaluationRecord, reevaluations s s' = [written] ∧ written.incidentId = item.incidentId ∧
      written.evidenceId = request.evidenceId ∧
      written.invalidatedLinks = invalidated s' drawn.projectedAt item.incidentId := by
  obtain ⟨_, s₁, moved, rest⟩ := Call.bind_ok.mp returned
  simp only [Call.read_bind, id] at rest
  obtain ⟨_, _, projected, rest⟩ := Call.bind_ok.mp rest
  rw [Call.lift_apply, Prod.mk.injEq] at projected
  obtain ⟨-, rfl⟩ := projected
  obtain ⟨_, _, reconciled, done⟩ := Call.bind_ok.mp rest
  cases done
  have before : s₁.evidenceReevaluations = s.evidenceReevaluations := by
    rcases (recordEvidenceLifecycle_ok moved).2 with ⟨rfl, -⟩ | ⟨-, -, domain⟩
    · rfl
    · exact field_of_domain domain Store.evidenceReevaluations rfl
  obtain ⟨row, domain, incident, evidence, counted⟩ := reevaluate_ok loses (before ▸ fresh.reevaluation) reconciled
  have after : s'.evidenceReevaluations = s.evidenceReevaluations ++ [row] :=
    field_of_domain domain Store.evidenceReevaluations (congrArg (· ++ [row]) before)
  have count : invalidated s' drawn.projectedAt item.incidentId = invalidated s₁ drawn.projectedAt item.incidentId :=
    field_of_domain domain (invalidated · drawn.projectedAt item.incidentId) rfl
  refine ⟨row.record, ?_, incident, evidence, counted.trans count.symm⟩
  simp [reevaluations, after]

/-- Losing an item re-evaluates every incident with a claim on it if and only if
    those are claims of the item's own incident. -/
theorem losing_evidence_reevaluates_iff (P : Platform) (sys sys' : EvidenceSystem P) (request : TransitionRequest)
    (drawn : Drawn) (projection : EvidenceLifecycleProjection) (loses : needsReevaluation request.toState = true)
    (fresh : Fresh sys.store drawn) (returned : transition request drawn sys = (.ok projection, sys')) :
    Reevaluated sys.store sys'.store request.evidenceId drawn.projectedAt ↔ LinkedAtHome sys.store request.evidenceId := by
  obtain ⟨item, current, deletion, sys₁, event, admitted, removed, -, recorded⟩ := transition_ok returned
  have untouched : sys₁.store = sys.store := by
    rw [← removeContent_store request item drawn sys, removeContent_of_removed removed]
  rcases call : record request item drawn event sys.store with ⟨r, s'⟩
  rw [onStore_of_eq (untouched ▸ call), Prod.mk.injEq] at recorded
  obtain ⟨rfl, rfl⟩ := recorded
  obtain ⟨written, only, incident, evidence, counted⟩ := record_reevaluates loses fresh call
  constructor
  · intro reevaluated other found incidentId rests
    rw [admitted.found, Option.some.injEq] at found
    obtain ⟨record, member, own, -⟩ := reevaluated incidentId rests
    rw [only, List.mem_singleton] at member
    rw [← own, member, incident, found]
  · intro home incidentId rests
    have own := home item admitted.found incidentId rests
    refine ⟨written, by simp [only], incident.trans own.symm, evidence, ?_⟩
    rw [own]
    exact counted

/-- A slope below the burnt ridge. -/
def slope : IncidentRecord := { ridgeFire with incidentId := UUID.ofNat 2, hazard := .landslide }

/-- A claim that the slope was laid bare. -/
def slopeClaim : ClaimNode :=
  { smokeClaim 33 with
    incidentId := UUID.ofNat 2
    hazard := .landslide
    statement := "The fire left the slope bare" }

/-- A report of the fire, with a claim about the fire and one about the slope. -/
def reportedFire (links : List ClaimEvidenceLink) : EvidenceSystem Platform.hexadecimal :=
  EvidenceSystem.run shelf false ([openRidgeFire, .write ⟨.appendIncidentWithNotification slope none, rfl⟩,
    .ingest {} (report 1 'a' "post-1") (UUID.ofNat 101) 1, .createClaim (smokeClaim 31), .createClaim slopeClaim] ++
    links.map .link)

/-- The claim about the fire loses its report. -/
theorem own_incident_is_reevaluated :
    RestsOn (reportedFire [support 41 31 1]).store (UUID.ofNat 1) (UUID.ofNat 1) ∧
    Reevaluated (reportedFire [support 41 31 1]).store
      (transition (deletion 1 1) (draw 1) (reportedFire [support 41 31 1])).2.store (UUID.ofNat 1) 10 := by
  have links : (reportedFire [support 41 31 1]).store.claimLinks (UUID.ofNat 1) = [support 41 31 1] := by decide +kernel
  refine ⟨⟨support 41 31 1, by simp [links], rfl⟩, ?_⟩
  have returns : (transition (deletion 1 1) (draw 1) (reportedFire [support 41 31 1])).1.isOk = true := by decide +kernel
  rcases call : transition (deletion 1 1) (draw 1) (reportedFire [support 41 31 1]) with ⟨r, sys'⟩
  rw [call] at returns
  cases r with
  | error e => cases returns
  | ok projection =>
      have fresh : Fresh (reportedFire [support 41 31 1]).store (draw 1) := ⟨by decide +kernel, by decide +kernel⟩
      refine (losing_evidence_reevaluates_iff Platform.hexadecimal _ sys' _ _ projection rfl fresh call).mpr ?_
      have homes : ∀ item ∈ (reportedFire [support 41 31 1]).store.allEvidence, item.incidentId = UUID.ofNat 1 := by
        decide +kernel
      have claims : ∀ row ∈ (reportedFire [support 41 31 1]).store.claimNodes, row.record.claimId = UUID.ofNat 31 →
          row.record.incidentId = UUID.ofNat 1 := by decide +kernel
      have claimed : ∀ row ∈ (reportedFire [support 41 31 1]).store.claimEvidenceLinks,
          row.record.claimId = UUID.ofNat 31 := by decide +kernel
      intro item found incidentId rests
      obtain ⟨link, member, -⟩ := rests
      simp only [Store.claimLinks, List.mem_insertionSort, List.mem_filter, List.mem_map, List.any_eq_true,
        Bool.and_eq_true, decide_eq_true_eq] at member
      obtain ⟨⟨row, stored, rfl⟩, claim, known, same, own⟩ := member
      rw [homes item (List.mem_of_find?_eq_some found), ← own]
      exact claims claim known (same.trans (claimed row stored))

/-- The claim about the slope loses its report, and nobody looks at it again. -/
theorem other_incident_is_passed_over :
    (transition (deletion 1 1) (draw 1) (reportedFire [support 41 31 1, support 42 33 1])).1.isOk = true ∧
    ¬ Reevaluated (reportedFire [support 41 31 1, support 42 33 1]).store
      (transition (deletion 1 1) (draw 1) (reportedFire [support 41 31 1, support 42 33 1])).2.store (UUID.ofNat 1) 10 := by
  refine ⟨by decide +kernel, ?_⟩
  intro reevaluated
  have links : (reportedFire [support 41 31 1, support 42 33 1]).store.claimLinks (UUID.ofNat 2) = [support 42 33 1] := by
    decide +kernel
  have passed : ∀ record ∈ reevaluations (reportedFire [support 41 31 1, support 42 33 1]).store
      (transition (deletion 1 1) (draw 1) (reportedFire [support 41 31 1, support 42 33 1])).2.store,
      record.incidentId = UUID.ofNat 1 := by decide +kernel
  obtain ⟨record, member, own, -⟩ := reevaluated (UUID.ofNat 2) ⟨support 42 33 1, by simp [links], rfl⟩
  rw [passed record member] at own
  exact absurd own (by decide)

end SentinelEdge.Evidence
