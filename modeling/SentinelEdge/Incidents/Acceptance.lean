import SentinelEdge.Foundation.Lockstep
import SentinelEdge.Incidents.Engine

/-! # Acceptance times

The time an analysis is accepted reaches the journal in three places:
`last_observed_at`, the authority event and the notification. None of them is
read when the next analysis is applied, so two engines that differ in nothing
else go on side by side whatever times they are given.
-/

namespace SentinelEdge.Incidents

open Foundation Domain Storage

variable {P : Platform}

/-- A version without the time it was accepted. -/
def untimed (r : IncidentRecord) : IncidentRecord := { r with lastObservedAt := 0 }

theorem untimed_eq {r r' : IncidentRecord} (same : untimed r = untimed r') :
    r' = { r with lastObservedAt := r'.lastObservedAt } := by
  cases r
  cases r'
  simp only [untimed, IncidentRecord.mk.injEq] at same ⊢
  simp [same]

/-- The keys of an authority event. -/
def place (event : AuthorityEvent P) : Int × String × Option Int := (event.position, event.epochId, event.epochOrdinal)

/-- Two stores with the same keys and, but for acceptance times, the same incident
    rows. -/
structure SameOutline (s t : Store P) : Prop where
  sequence : s.authoritySequence = t.authoritySequence
  places : s.authorityEvents.map place = t.authorityEvents.map place
  subtypes : s.authorityEventSubtypes.map AuthoritySubtype.authorityPosition =
    t.authorityEventSubtypes.map AuthoritySubtype.authorityPosition
  incidents : s.incidentEvents.map (fun row => (row.authorityPosition, untimed row.incident)) =
    t.incidentEvents.map (fun row => (row.authorityPosition, untimed row.incident))
  intents : s.notificationIntents.map (fun n => (n.notificationId, n.idempotencyKey)) =
    t.notificationIntents.map (fun n => (n.notificationId, n.idempotencyKey))

variable {s t : Store P}

theorem SameOutline.last (same : SameOutline s t) :
    s.authorityEvents.getLast?.map place = t.authorityEvents.getLast?.map place := by
  rw [← List.getLast?_map, ← List.getLast?_map, same.places]

theorem map_position (event : Option (AuthorityEvent P)) :
    event.map AuthorityEvent.position = (event.map place).map Prod.fst := by
  cases event with
  | none => rfl
  | some event => rfl

theorem nextOrdinal_eq_of_place {a b : Option (AuthorityEvent P)} (same : a.map place = b.map place) :
    nextOrdinal a = nextOrdinal b := by
  cases a with
  | none =>
      cases b with
      | none => rfl
      | some b => cases same
  | some a =>
      cases b with
      | none => cases same
      | some b =>
          simp only [Option.map_some, Option.some.injEq, place, Prod.mk.injEq] at same
          simp [nextOrdinal, same]

theorem SameOutline.nextPosition (same : SameOutline s t) : s.nextPosition = t.nextPosition := by
  simp only [Store.nextPosition, same.sequence, map_position, same.last]

theorem insertAuthorityEvent_lockstep {row row' : AuthorityEvent P} (same : place row = place row') :
    Call.Lockstep SameOutline (fun _ _ => True) (insertAuthorityEvent row) (insertAuthorityEvent row') := by
  have keys := same
  simp only [place, Prod.mk.injEq] at keys
  refine .bind (Q := fun _ _ => True) ?_ (fun _ _ _ => .modify ?_)
  · refine .insert place place (fun k => decide (row.position = k.1) ||
      (decide (row.epochId = k.2.1) && row.epochOrdinal.isSome && decide (row.epochOrdinal = k.2.2)))
      (fun _ => rfl) ?_ (fun _ _ outline => outline.places) ?_
    · intro old
      simp [Tables.authorityEvents, place, keys]
    · intro s t outline
      exact ⟨outline.sequence, by simp [Tables.authorityEvents, outline.places, same], outline.subtypes,
        outline.incidents, outline.intents⟩
  · intro s t outline
    exact ⟨keys.1, outline.places, outline.subtypes, outline.incidents, outline.intents⟩

theorem appendAuthority_lockstep (kind : AuthorityMutationKind) (entityId : String) (acceptedAt acceptedAt' : DateTime)
    (payload payload' : Json) :
    Call.Lockstep (SameOutline (P := P)) (fun position position' => position = position')
      (appendAuthority kind entityId acceptedAt payload) (appendAuthority kind entityId acceptedAt' payload') := by
  refine .bind (Q := fun previous previous' => previous.map place = previous'.map place)
    (.read (fun s t outline => outline.last)) (fun previous previous' here => ?_)
  refine .bind (Q := fun position position' => position = position')
    (.read (fun s t outline => outline.nextPosition)) (fun position position' next => ?_)
  subst next
  refine .bind (insertAuthorityEvent_lockstep ?_) (fun _ _ _ => ?_)
  · simp [place, nextOrdinal_eq_of_place here]
  refine .bind (Q := fun _ _ => True) ?_ (fun _ _ _ => .pure rfl)
  refine .insert AuthoritySubtype.authorityPosition AuthoritySubtype.authorityPosition
    (fun k => decide (position = k)) (fun _ => rfl) (fun _ => rfl) (fun _ _ outline => outline.subtypes) ?_
  intro s t outline
  exact ⟨outline.sequence, outline.places, by simp [Tables.authorityEventSubtypes, outline.subtypes],
    outline.incidents, outline.intents⟩

/-- The keys of a notification. -/
def intentKey (n : NotificationIntent) : UUID × String := (n.notificationId, n.idempotencyKey)

theorem SameOutline.present (same : SameOutline s t) (key : String) :
    s.notificationIntents.any (fun n => n.idempotencyKey = key) =
      t.notificationIntents.any (fun n => n.idempotencyKey = key) := by
  have keys := congrArg (fun rows => rows.any (fun k => decide (k.2 = key))) same.intents
  simpa only [List.any_map, Function.comp_def] using keys

theorem insertNotification_lockstep {item item' : NotificationIntent} (same : intentKey item = intentKey item') :
    Call.Lockstep (SameOutline (P := P)) (fun _ _ => True) (insertNotification item) (insertNotification item') := by
  have keys := same
  simp only [intentKey, Prod.mk.injEq] at keys
  refine .bind (Q := fun present present' => present = present') (.read ?_) (fun present present' here => ?_)
  · intro s t outline
    simp only [keys.2, outline.present]
  subst here
  cases present with
  | true => exact .pure trivial
  | false =>
      simp only [Bool.false_eq_true, if_false, keys.1]
      refine .bind (appendAuthority_lockstep _ _ _ _ _ _) (fun _ _ _ => ?_)
      refine .bind (Q := fun _ _ => True) ?_ (fun _ _ _ => .pure trivial)
      refine .insert intentKey intentKey (fun k => decide (item'.notificationId = k.1) ||
        decide (item'.idempotencyKey = k.2)) ?_ (fun _ => rfl) (fun _ _ outline => outline.intents) ?_
      · intro old
        simp only [Tables.notificationIntents, intentKey, keys]
        rfl
      · intro s t outline
        exact ⟨outline.sequence, outline.places, outline.subtypes, outline.incidents,
          by simp [Tables.notificationIntents, outline.intents, keys]⟩

theorem insertIntent_lockstep {item item' : Option NotificationIntent} (same : item.map intentKey = item'.map intentKey) :
    Call.Lockstep (SameOutline (P := P)) (fun _ _ => True) (insertIntent item) (insertIntent item') := by
  cases item with
  | none =>
      cases item' with
      | none => exact .pure trivial
      | some item' => cases same
  | some item =>
      cases item' with
      | none => cases same
      | some item' => exact insertNotification_lockstep (Option.some.inj same)

theorem appendIncident_lockstep {record record' : IncidentRecord} {item item' : Option NotificationIntent}
    (same : untimed record = untimed record') (keys : item.map intentKey = item'.map intentKey) :
    Call.Lockstep (SameOutline (P := P)) (fun _ _ => True) (appendIncidentWithNotification record item)
      (appendIncidentWithNotification record' item') := by
  obtain ⟨acceptedAt, rfl⟩ : ∃ acceptedAt, record' = { record with lastObservedAt := acceptedAt } := ⟨_, untimed_eq same⟩
  refine .atomically ?_
  refine .bind (appendAuthority_lockstep _ _ _ _ _ _) (fun position position' here => ?_)
  subst here
  refine .bind (Q := fun _ _ => True) ?_ (fun _ _ _ => insertIntent_lockstep keys)
  refine .insert (fun row => (row.authorityPosition, untimed row.incident))
    (fun row => (row.authorityPosition, untimed row.incident))
    (fun k => decide (some position = k.1) ||
      (decide (record.incidentId = k.2.incidentId) && decide (record.version = k.2.version)))
    (fun _ => ?_) (fun _ => ?_) (fun _ _ outline => outline.incidents) ?_
  · simp only [Tables.incidentEvents, untimed, Option.isSome_some, Bool.true_and]
    rfl
  · simp only [Tables.incidentEvents, untimed, Option.isSome_some, Bool.true_and]
    rfl
  · intro s t outline
    exact ⟨outline.sequence, outline.places, outline.subtypes,
      by simp [Tables.incidentEvents, outline.incidents, same], outline.intents⟩

/-! ## The engine -/

/-- Two engines that differ in acceptance times, and in what follows from them for
    notifications. -/
structure Similar (e e' : Engine P) : Prop where
  store : SameOutline e.store e'.store
  current : ∀ hazard, (e.current.get? hazard).map untimed = (e'.current.get? hazard).map untimed

theorem journalIncident_lockstep (hazard : HazardKind) {record record' : IncidentRecord}
    {item item' : Option NotificationIntent} (same : untimed record = untimed record')
    (keys : item.map intentKey = item'.map intentKey) :
    Call.Lockstep (Similar (P := P)) (fun _ _ => True) (journalIncident hazard record item)
      (journalIncident hazard record' item') := by
  refine .bind (Q := fun _ _ => True) (.zoom (appendIncident_lockstep same keys) ?_ ?_) (fun _ _ _ => .modify ?_)
  · exact fun e e' similar => similar.store
  · exact fun e e' u v similar after => ⟨after, similar.current⟩
  · intro e e' similar
    refine ⟨similar.store, fun other => ?_⟩
    simp only [Dict.get?_insert]
    split
    · simp [same]
    · exact similar.current other

/-- The keys of a notification do not depend on when the version was accepted. -/
theorem notificationFor_key (store store' : Store P) (budget budget' : Int) (record : IncidentRecord)
    (previousState : IncidentState) (acceptedAt acceptedAt' : DateTime) :
    (notificationFor store budget record previousState acceptedAt).map intentKey =
      (notificationFor store' budget' { record with lastObservedAt := acceptedAt' } previousState acceptedAt').map intentKey := by
  unfold notificationFor
  split
  · rfl
  · rfl

theorem applyInOrder_lockstep {current current' : Option IncidentRecord} (same : current.map untimed = current'.map untimed)
    (analysis : AnalysisResult) (acceptedAt acceptedAt' : DateTime) :
    Call.Lockstep (Similar (P := P)) (fun _ _ => True) (applyInOrder current analysis acceptedAt)
      (applyInOrder current' analysis acceptedAt') := by
  have states : assess current analysis = assess current' analysis ∧ previousState current = previousState current' ∧
      nextRecord P current' analysis acceptedAt' =
        { nextRecord P current analysis acceptedAt with lastObservedAt := acceptedAt' } := by
    cases current with
    | none =>
        cases current' with
        | none => exact ⟨rfl, rfl, rfl⟩
        | some r' => cases same
    | some r =>
        cases current' with
        | none => cases same
        | some r' =>
            rw [untimed_eq (Option.some.inj same)]
            exact ⟨rfl, rfl, rfl⟩
  obtain ⟨assessed, previous, record⟩ := states
  simp only [applyInOrder, ← assessed, ← previous, record]
  split
  · exact .raise _ _
  · refine .bind (Q := fun item item' => item.map intentKey = item'.map intentKey) (.read ?_) (fun item item' keys => ?_)
    · exact fun e e' _ => notificationFor_key ..
    · exact .bind (journalIncident_lockstep _ rfl keys) (fun _ _ _ => .pure trivial)

theorem applyLate_lockstep {current current' : IncidentRecord} (same : untimed current = untimed current')
    (analysis : AnalysisResult) (acceptedAt acceptedAt' : DateTime) :
    Call.Lockstep (Similar (P := P)) (fun _ _ => True) (applyLate current analysis acceptedAt)
      (applyLate current' analysis acceptedAt') := by
  rw [untimed_eq same]
  unfold applyLate
  split
  · exact .pure trivial
  · exact .bind (journalIncident_lockstep _ rfl rfl) (fun _ _ _ => .pure trivial)

/-- Applied to two similar engines, an analysis is journalled by both or refused by
    both, whenever each of them accepts it. -/
theorem applyAnalysis_lockstep (analysis : AnalysisResult) (acceptedAt acceptedAt' : DateTime) :
    Call.Lockstep (Similar (P := P)) (fun _ _ => True) (applyAnalysis analysis acceptedAt)
      (applyAnalysis analysis acceptedAt') := by
  refine .bind (Q := fun current current' => current.map untimed = current'.map untimed) (.read ?_)
    (fun current current' same => ?_)
  · exact fun e e' similar => similar.current analysis.hazard
  cases current with
  | none =>
      cases current' with
      | none => exact applyInOrder_lockstep rfl _ _ _
      | some r' => cases same
  | some r =>
      cases current' with
      | none => cases same
      | some r' =>
          have late := applyLate_lockstep (P := P) (Option.some.inj same) analysis acceptedAt acceptedAt'
          have inOrder := applyInOrder_lockstep (P := P) same analysis acceptedAt acceptedAt'
          rw [untimed_eq (Option.some.inj same)] at late inOrder ⊢
          by_cases known : analysis.analysisId ∈ r.analysisIds
          · simp only [known, if_true]
            exact .pure trivial
          · cases older : isLate r analysis with
            | true =>
                have older' : isLate { r with lastObservedAt := r'.lastObservedAt } analysis = true := older
                simpa only [known, older, older', if_false, if_true] using late
            | false =>
                have older' : isLate { r with lastObservedAt := r'.lastObservedAt } analysis = false := older
                simpa only [known, older, older', if_false, Bool.false_eq_true] using inOrder

end SentinelEdge.Incidents
