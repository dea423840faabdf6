import Mathlib.Logic.Function.Basic
import SentinelEdge.Incidents.Engine
import SentinelEdge.Storage.SpoolHistory

/-! # Incident authority outages

`DeterministicScenarioEngine` hands each analysis to the incident engine, or
spools it while the incident authority is away; recovery switches the authority
on and drains the spool into the engine. Beside the program's state stands a
ledger: the number of the call that accepted each analysis, and what was pending
whenever the engine was called.
-/

namespace SentinelEdge.Scenario

open Foundation Domain Storage Incidents

variable {P : Platform} {C : SpoolCodec} {bounds : SpoolBounds}

/-- A call of `apply_analysis`: the number of the call that accepted its analysis,
    and the numbers of those that accepted what was pending at that moment. -/
structure Application where
  analysisId : UUID
  ticket : Nat
  waiting : List Nat
  deriving DecidableEq, Repr

structure ScenarioEngine (P : Platform) (C : SpoolCodec) where
  incidentAuthorityAvailable : Bool
  criticalSpool : Spool C
  incidents : Engine P
  /-- The number of `apply_or_spool` calls so far. -/
  calls : Nat
  /-- The call that accepted a pending analysis. -/
  ticketOf : UUID → Nat
  applications : List Application

abbrev ScenarioCall (P : Platform) (C : SpoolCodec) (α : Type) := Call (ScenarioEngine P C) Error α

/-- An engine that opens a spool file; what an earlier process left in it was
    accepted in the order of its rows. -/
def ScenarioEngine.start (criticalSpool : Spool C) (incidents : Engine P) : ScenarioEngine P C where
  incidentAuthorityAvailable := true
  criticalSpool := criticalSpool
  incidents := incidents
  calls := criticalSpool.pendingIds.length
  ticketOf id := criticalSpool.pendingIds.idxOf id
  applications := []

/-- The acceptance numbers of the pending analyses, in the order of the rows. -/
def ScenarioEngine.waiting (s : ScenarioEngine P C) : List Nat := s.criticalSpool.pendingIds.map s.ticketOf

def onSpool {α : Type} (x : Spool.SpoolCall C α) : ScenarioCall P C α :=
  Call.zoom ScenarioEngine.criticalSpool (fun s spool => { s with criticalSpool := spool }) x

def onIncidents {α : Type} (x : EngineCall P α) : ScenarioCall P C α :=
  Call.zoom ScenarioEngine.incidents (fun s incidents => { s with incidents := incidents }) x

/-- `self.incidents.apply_analysis(…)`, entered in the ledger. -/
def handOver (analysis : AnalysisResult) (acceptedAt : DateTime) (ticket : Nat) : ScenarioCall P C IncidentRecord := do
  Call.modify (fun s => { s with applications := s.applications ++ [⟨analysis.analysisId, ticket, s.waiting⟩] })
  onIncidents (applyAnalysis analysis acceptedAt)

/-- `set_incident_authority_available` -/
def setIncidentAuthorityAvailable (available : Bool) : ScenarioCall P C Unit :=
  Call.modify (fun s => { s with incidentAuthorityAvailable := available })

/-- `apply_or_spool` -/
def applyOrSpool (bounds : SpoolBounds) (analysis : AnalysisResult) (acceptedAt : Option DateTime) :
    ScenarioCall P C (Option IncidentRecord) := do
  let ticket ← Call.read ScenarioEngine.calls
  Call.modify (fun s => { s with calls := s.calls + 1 })
  let available ← Call.read ScenarioEngine.incidentAuthorityAvailable
  if available then do
    let record ← handOver analysis (acceptedAt.getD analysis.producedAt) ticket
    pure (some record)
  else do
    let stored ← onSpool (Spool.enqueue bounds analysis (acceptedAt.getD analysis.producedAt))
    if stored then
      Call.modify (fun s => { s with ticketOf := Function.update s.ticketOf analysis.analysisId ticket })
    pure none

/-- The loop of `drain` with `apply_analysis` as its handler: the handler sees
    the queue with the row it is called for still in it. -/
def drainRows (now : DateTime) : List (PendingAnalysis C) → ScenarioCall P C (List UUID)
  | [] => pure []
  | row :: rows => match C.modelValidateJson row.payloadJson with
      | none => Call.raise (.validationError "AnalysisResult")
      | some analysis =>
          if row.expiresAt ≤ now then do
            onSpool (Call.atomically
              (Spool.insertEvent analysis.analysisId .expired now (some "maximum_age_exceeded") row.payloadBytes))
            pure []
          else do
            let ticket ← Call.read (fun s => s.ticketOf analysis.analysisId)
            let outcome ← Call.attempt (handOver analysis analysis.producedAt ticket)
            match outcome with
            | .error exception => do
                onSpool (Call.atomically
                  (Spool.insertEvent analysis.analysisId .deliveryFailed now (some exception.typeName) row.payloadBytes))
                pure []
            | .ok _ => do
                onSpool (Spool.removeDelivered analysis.analysisId now row.payloadBytes)
                let later ← drainRows now rows
                pure (analysis.analysisId :: later)

/-- `recover_incident_authority` -/
def recoverIncidentAuthority (now : DateTime) : ScenarioCall P C (List UUID) := do
  Call.modify (fun s => { s with incidentAuthorityAvailable := true })
  let rows ← Call.read (fun s => s.criticalSpool.pendingAnalysis)
  drainRows now rows

inductive Operation where
  | setIncidentAuthorityAvailable (available : Bool)
  | applyOrSpool (analysis : AnalysisResult) (acceptedAt : Option DateTime)
  | recoverIncidentAuthority (now : DateTime)

/-- The scenario after a call, whether it returned or raised. -/
def ScenarioEngine.step (bounds : SpoolBounds) (s : ScenarioEngine P C) : Operation → ScenarioEngine P C
  | .setIncidentAuthorityAvailable available => (setIncidentAuthorityAvailable available s).2
  | .applyOrSpool analysis acceptedAt => (applyOrSpool bounds analysis acceptedAt s).2
  | .recoverIncidentAuthority now => (recoverIncidentAuthority now s).2

/-- An engine over a new journal. -/
def freshEngine : Engine Platform.transparent := Engine.init Store.empty 8 { secret := "development" }

/-! ## What one call leaves behind -/

/-- The scenario after a call of `apply_analysis`. -/
def ScenarioEngine.handed (s : ScenarioEngine P C) (analysis : AnalysisResult) (acceptedAt : DateTime) (ticket : Nat) :
    ScenarioEngine P C :=
  { s with
    incidents := (applyAnalysis analysis acceptedAt s.incidents).2
    applications := s.applications ++ [⟨analysis.analysisId, ticket, s.waiting⟩] }

theorem handOver_apply (analysis : AnalysisResult) (acceptedAt : DateTime) (ticket : Nat) (s : ScenarioEngine P C) :
    handOver analysis acceptedAt ticket s =
      ((applyAnalysis analysis acceptedAt s.incidents).1, s.handed analysis acceptedAt ticket) := by
  simp only [handOver, Call.modify_bind]
  rfl

theorem onSpool_of_eq {α : Type} {x : Spool.SpoolCall C α} {s : ScenarioEngine P C} {r : Except Error α} {spool : Spool C}
    (h : x s.criticalSpool = (r, spool)) : onSpool x s = (r, { s with criticalSpool := spool }) :=
  Call.zoom_of_eq h

theorem step_available {s : ScenarioEngine P C} (available : s.incidentAuthorityAvailable = true)
    (analysis : AnalysisResult) (acceptedAt : Option DateTime) :
    s.step bounds (.applyOrSpool analysis acceptedAt) =
      ({ s with calls := s.calls + 1 } : ScenarioEngine P C).handed analysis (acceptedAt.getD analysis.producedAt) s.calls := by
  simp only [ScenarioEngine.step, applyOrSpool, Call.read_bind, Call.modify_bind, available, if_true]
  rw [Call.bind_pure_state, handOver_apply]

/-- A call during an outage finds the analysis in the queue, or finds the queue
    full, or puts the analysis last and remembers the call. -/
theorem step_away (bounds : SpoolBounds) {s : ScenarioEngine P C} (away : s.incidentAuthorityAvailable = false) (analysis : AnalysisResult)
    (acceptedAt : Option DateTime) :
    ((s.criticalSpool.find analysis.analysisId).isSome ∧
      s.step bounds (.applyOrSpool analysis acceptedAt) = { s with calls := s.calls + 1 }) ∨
    (∃ events, Spool.Exhausts bounds s.criticalSpool analysis ∧ s.step bounds (.applyOrSpool analysis acceptedAt) =
      { s with calls := s.calls + 1, criticalSpool := { s.criticalSpool with spoolEvents := events } }) ∨
    (∃ events, s.criticalSpool.find analysis.analysisId = none ∧
      s.criticalSpool.isFull bounds (C.encodedLength (C.modelDumpJson analysis)) = false ∧
      s.step bounds (.applyOrSpool analysis acceptedAt) =
        { s with
          calls := s.calls + 1
          criticalSpool := ⟨s.criticalSpool.pendingAnalysis ++
            [Spool.pendingRow bounds analysis (acceptedAt.getD analysis.producedAt)], events⟩
          ticketOf := Function.update s.ticketOf analysis.analysisId s.calls }) := by
  simp only [ScenarioEngine.step, applyOrSpool, Call.read_bind, Call.modify_bind]
  rw [if_neg (by simp [away])]
  have stores := fun (r : Except Error Bool) (spool : Spool C)
    (h : Spool.enqueue bounds analysis (acceptedAt.getD analysis.producedAt) s.criticalSpool = (r, spool)) =>
    onSpool_of_eq (s := { s with calls := s.calls + 1 }) h
  cases known : s.criticalSpool.find analysis.analysisId with
  | some old =>
      left
      refine ⟨rfl, ?_⟩
      have same := @Spool.enqueue_known _ bounds _ _ (acceptedAt.getD analysis.producedAt) _ known
      split at same
      · rw [Call.bind_of_error (stores _ _ same)]
      · rw [Call.bind_of_ok (stores _ _ same)]
        rfl
  | none =>
      right
      cases full : s.criticalSpool.isFull bounds (C.encodedLength (C.modelDumpJson analysis)) with
      | true =>
          left
          refine ⟨s.criticalSpool.spoolEvents ++
            [Spool.eventFor C analysis .rejected (acceptedAt.getD analysis.producedAt) (some "spool_exhausted"),
              Spool.eventFor C analysis .enqueued (acceptedAt.getD analysis.producedAt) none], ⟨known, full⟩, ?_⟩
          rw [Call.bind_of_error (stores _ _ (Spool.enqueue_exhausted known full))]
      | false =>
          right
          refine ⟨s.criticalSpool.spoolEvents ++
            [Spool.eventFor C analysis .enqueued (acceptedAt.getD analysis.producedAt) none], rfl, rfl, ?_⟩
          rw [Call.bind_of_ok (stores _ _ (Spool.enqueue_accepted known full))]
          rfl

/-- One turn of the loop of `drain` stops at an expired row, or at a row whose
    handler raises, or removes the row and goes on. -/
theorem drainRows_cons {s : ScenarioEngine P C} {row : PendingAnalysis C} {rows : List (PendingAnalysis C)}
    {analysis : AnalysisResult} {enqueuedAt : DateTime} (now : DateTime)
    (queued : s.criticalSpool.pendingAnalysis = row :: rows) (unique : s.criticalSpool.pendingIds.Nodup)
    (shape : row = Spool.pendingRow bounds analysis enqueuedAt) :
    (∃ events, (drainRows now (row :: rows) s).2 = { s with criticalSpool := ⟨row :: rows, events⟩ }) ∨
    (∃ events, (drainRows now (row :: rows) s).2 =
      { s.handed analysis analysis.producedAt (s.ticketOf row.analysisId) with
        criticalSpool := ⟨row :: rows, events⟩ }) ∨
    ∃ events, (drainRows now (row :: rows) s).2 = (drainRows now rows
      { s.handed analysis analysis.producedAt (s.ticketOf row.analysisId) with criticalSpool := ⟨rows, events⟩ }).2 := by
  have decoded : C.modelValidateJson row.payloadJson = some analysis := by
    rw [shape]
    exact C.validate_dump analysis
  have id : analysis.analysisId = row.analysisId := by rw [shape]; rfl
  simp only [drainRows, decoded, id]
  by_cases expired : row.expiresAt ≤ now
  · left
    refine ⟨s.criticalSpool.spoolEvents ++
      [⟨row.analysisId, .expired, now, some "maximum_age_exceeded", row.payloadBytes⟩], ?_⟩
    rw [if_pos expired, Call.bind_of_ok (onSpool_of_eq (Call.atomically_of_ok (Spool.insertEvent_apply ..))), queued]
    rfl
  · right
    rw [if_neg expired, Call.read_bind]
    cases outcome : (applyAnalysis analysis analysis.producedAt s.incidents).1 with
    | error exception =>
        left
        refine ⟨s.criticalSpool.spoolEvents ++
          [⟨row.analysisId, .deliveryFailed, now, some exception.typeName, row.payloadBytes⟩], ?_⟩
        rw [Call.bind_of_ok (by rw [Call.attempt_apply, handOver_apply, outcome])]
        simp only
        rw [Call.bind_of_ok (onSpool_of_eq (Call.atomically_of_ok (Spool.insertEvent_apply ..)))]
        simp only [ScenarioEngine.handed, queued]
        rfl
    | ok record =>
        right
        refine ⟨s.criticalSpool.spoolEvents ++ [Spool.deliveredEvent now row], ?_⟩
        have removed := Spool.removeDelivered_apply now queued unique
        rw [Call.bind_of_ok (by rw [Call.attempt_apply, handOver_apply, outcome])]
        simp only
        rw [Call.bind_of_ok (onSpool_of_eq (s := s.handed analysis analysis.producedAt (s.ticketOf row.analysisId)) removed),
          Call.bind_pure_state]

end SentinelEdge.Scenario
