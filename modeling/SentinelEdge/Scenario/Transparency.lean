import SentinelEdge.Incidents.Acceptance
import SentinelEdge.Scenario.Outage

/-! # Whether an outage leaves a trace in the journal

While the authority is away the journal stands still and the queue holds what the
direct run has already applied. A recovery that empties the queue catches up: it
applies the same analyses in the same order, only with other acceptance times.
-/

namespace SentinelEdge.Scenario

open Foundation Domain Storage Incidents

variable {P : Platform} {C : SpoolCodec} {bounds : SpoolBounds}

/-- What a version of an incident says, apart from the time it was accepted. -/
def substance (r : IncidentRecord) : Nat × IncidentState × ℚ × CoverageState × List UUID × Option DateTime :=
  (r.version, r.state, r.confidence, r.coverage, r.analysisIds, r.eventTimeWatermark)

/-- The journalled versions of a hazard, in order. -/
def ScenarioEngine.versions (s : ScenarioEngine P C) (hazard : HazardKind) :
    List (Nat × IncidentState × ℚ × CoverageState × List UUID × Option DateTime) :=
  (s.incidents.store.journal.filter (fun r => r.hazard = hazard)).map substance

def Operation.analysisId : Operation → Option UUID
  | .applyOrSpool analysis _ => some analysis.analysisId
  | _ => none

/-- The same analyses, in the same order, without any outage. -/
def withoutOutages (ops : List Operation) : List Operation := ops.filter (fun op => op.analysisId.isSome)

/-- Outages begin with the authority switched off, and end with a recovery that
    leaves the queue empty. -/
def Recovers (bounds : SpoolBounds) (s : ScenarioEngine P C) (op : Operation) : Prop :=
  match op with
  | .applyOrSpool _ _ => True
  | .setIncidentAuthorityAvailable available => available = false
  | .recoverIncidentAuthority _ => (s.step bounds op).criticalSpool.pendingAnalysis = []

instance (bounds : SpoolBounds) (s : ScenarioEngine P C) (op : Operation) : Decidable (Recovers bounds s op) :=
  match op with
  | .applyOrSpool _ _ => isTrue trivial
  | .setIncidentAuthorityAvailable available => inferInstanceAs (Decidable (available = false))
  | .recoverIncidentAuthority now =>
      inferInstanceAs (Decidable ((s.step bounds (.recoverIncidentAuthority now)).criticalSpool.pendingAnalysis = []))

/-- No analysis is refused because the queue is full. -/
def Accepts (bounds : SpoolBounds) (s : ScenarioEngine P C) : Operation → Prop
  | .applyOrSpool analysis _ => s.incidentAuthorityAvailable = true ∨ ¬ Spool.Exhausts bounds s.criticalSpool analysis
  | _ => True

instance (bounds : SpoolBounds) (spool : Spool C) (analysis : AnalysisResult) :
    Decidable (Spool.Exhausts bounds spool analysis) := inferInstanceAs (Decidable (_ ∧ _))

instance (bounds : SpoolBounds) (s : ScenarioEngine P C) (op : Operation) : Decidable (Accepts bounds s op) :=
  match op with
  | .applyOrSpool analysis _ => inferInstanceAs
      (Decidable (s.incidentAuthorityAvailable = true ∨ ¬ Spool.Exhausts bounds s.criticalSpool analysis))
  | .setIncidentAuthorityAvailable _ => isTrue trivial
  | .recoverIncidentAuthority _ => isTrue trivial

/-- The engine after applying analyses when they were produced. -/
def applyAll (e : Engine P) (analyses : List AnalysisResult) : Engine P :=
  analyses.foldl (fun e analysis => (applyAnalysis analysis analysis.producedAt e).2) e

variable {s d : ScenarioEngine P C}

/-- A drain that empties the queue has applied all of it. -/
theorem drainRows_emptied (now : DateTime) {rows : List (PendingAnalysis C)} {analyses : List AnalysisResult}
    (valid : Spool.Valid bounds s.criticalSpool) (queued : s.criticalSpool.pendingAnalysis = rows)
    (decoded : rows.mapM (fun row => C.modelValidateJson row.payloadJson) = some analyses)
    (emptied : (drainRows now rows s).2.criticalSpool.pendingAnalysis = []) :
    (drainRows now rows s).2.incidents = applyAll s.incidents analyses ∧
      (drainRows now rows s).2.incidentAuthorityAvailable = s.incidentAuthorityAvailable := by
  induction rows generalizing s analyses with
  | nil =>
      cases Option.some.inj decoded
      exact ⟨rfl, rfl⟩
  | cons row rows ih =>
      obtain ⟨analysis, enqueuedAt, shape⟩ := valid.rows row (by simp [queued])
      have first : C.modelValidateJson row.payloadJson = some analysis := by
        rw [shape]
        exact C.validate_dump analysis
      simp only [List.mapM_cons, first, Option.bind_eq_bind, Option.bind_some, Option.bind_eq_some_iff] at decoded
      obtain ⟨later, rest, all⟩ := decoded
      cases Option.some.inj all
      obtain ⟨events, stops⟩ | ⟨events, stops⟩ | ⟨events, goes⟩ := drainRows_cons now queued valid.unique shape
      · simp [stops] at emptied
      · simp [stops] at emptied
      · rw [goes] at emptied ⊢
        exact ih (s := { s.handed analysis analysis.producedAt (s.ticketOf row.analysisId) with
          criticalSpool := ⟨rows, events⟩ }) (valid.dropped (by simp [queued]) events) rfl rest emptied

/-- The run with outages is the direct run, with what is queued still to come. -/
structure Behind (bounds : SpoolBounds) (s d : ScenarioEngine P C) : Prop where
  valid : Spool.Valid bounds s.criticalSpool
  direct : d.incidentAuthorityAvailable = true
  settled : s.incidentAuthorityAvailable = true → s.criticalSpool.pendingAnalysis = []
  caughtUp : ∃ analyses, s.criticalSpool.pending = some analyses ∧ Similar (applyAll s.incidents analyses) d.incidents

theorem Behind.similar (behind : Behind bounds s d) (empty : s.criticalSpool.pendingAnalysis = []) :
    Similar s.incidents d.incidents := by
  obtain ⟨analyses, queued, similar⟩ := behind.caughtUp
  simp only [Spool.pending, empty, List.mapM_nil] at queued
  cases Option.some.inj queued
  exact similar

/-- The direct run applies an analysis; the other run applies it too or queues it. -/
theorem Behind.apply (behind : Behind bounds s d) {analysis : AnalysisResult} {acceptedAt : Option DateTime}
    (fresh : analysis.analysisId ∉ s.criticalSpool.pendingIds) (accepts : Accepts bounds s (.applyOrSpool analysis acceptedAt)) :
    Behind bounds (s.step bounds (.applyOrSpool analysis acceptedAt)) (d.step bounds (.applyOrSpool analysis acceptedAt)) := by
  rw [step_available behind.direct]
  cases available : s.incidentAuthorityAvailable with
  | true =>
      have empty := behind.settled available
      rw [step_available available]
      have next := (applyAnalysis_lockstep analysis (acceptedAt.getD analysis.producedAt)
        (acceptedAt.getD analysis.producedAt) _ _ (behind.similar empty)).1
      exact ⟨behind.valid, behind.direct, fun _ => empty, [], by simp [Spool.pending, ScenarioEngine.handed, empty], next⟩
  | false =>
      obtain ⟨analyses, queued, similar⟩ := behind.caughtUp
      obtain ⟨known, _⟩ | ⟨_, exhausts, _⟩ | ⟨events, absent, room, after⟩ :=
        step_away bounds available analysis acceptedAt
      · obtain ⟨row, found⟩ := Option.isSome_iff_exists.mp known
        have here := List.mem_map_of_mem (f := PendingAnalysis.analysisId) (List.mem_of_find?_eq_some found)
        have same : row.analysisId = analysis.analysisId := by simpa using List.find?_some found
        exact absurd (same ▸ here) fresh
      · cases accepts with
        | inl on => exact absurd on (by simp [available])
        | inr room => exact absurd exhausts room
      · rw [after]
        have next := (applyAnalysis_lockstep analysis analysis.producedAt (acceptedAt.getD analysis.producedAt) _ _ similar).1
        refine ⟨behind.valid.accept absent room _, behind.direct, fun on => absurd on (by simp [available]),
          analyses ++ [analysis], Spool.pending_append queued (C.validate_dump analysis) _, ?_⟩
        simp only [applyAll, List.foldl_append, List.foldl_cons, List.foldl_nil]
        exact next

theorem Behind.recover (behind : Behind bounds s d) (now : DateTime)
    (emptied : (s.step bounds (.recoverIncidentAuthority now)).criticalSpool.pendingAnalysis = []) :
    Behind bounds (s.step bounds (.recoverIncidentAuthority now)) d := by
  obtain ⟨analyses, queued, similar⟩ := behind.caughtUp
  have drained := drainRows_emptied (s := { s with incidentAuthorityAvailable := true }) now behind.valid rfl queued emptied
  have spool : (s.step bounds (.recoverIncidentAuthority now)).criticalSpool =
      ⟨[], (s.step bounds (.recoverIncidentAuthority now)).criticalSpool.spoolEvents⟩ := by
    rw [← emptied]
  refine ⟨?_, behind.direct, fun _ => emptied, [], by simp [Spool.pending, emptied], ?_⟩
  · rw [spool]
    exact behind.valid.dropped List.nil_suffix _
  · exact drained.1 ▸ similar

/-- A step puts nothing in the queue but the analysis it is given. -/
theorem pendingIds_step {op : Operation} (recovers : Recovers bounds s op) {id : UUID}
    (member : id ∈ (s.step bounds op).criticalSpool.pendingIds) : id ∈ s.criticalSpool.pendingIds ∨ op.analysisId = some id := by
  cases op with
  | setIncidentAuthorityAvailable available => exact Or.inl member
  | recoverIncidentAuthority now =>
      have emptied : (s.step bounds (.recoverIncidentAuthority now)).criticalSpool.pendingAnalysis = [] := recovers
      simp [Spool.pendingIds, emptied] at member
  | applyOrSpool analysis acceptedAt =>
      cases available : s.incidentAuthorityAvailable with
      | true =>
          rw [step_available available] at member
          exact Or.inl member
      | false =>
          obtain ⟨_, after⟩ | ⟨_, _, after⟩ | ⟨_, _, _, after⟩ := step_away bounds available analysis acceptedAt
          · rw [after] at member
            exact Or.inl member
          · rw [after] at member
            exact Or.inl member
          · simp only [after, Spool.pendingIds, List.map_append, List.mem_append, List.map_cons, List.map_nil,
              List.mem_singleton] at member
            cases member with
            | inl old => exact Or.inl old
            | inr new => exact Or.inr (congrArg some new.symm)

/-- The identities of the analyses of a run. -/
def identities (ops : List Operation) : List UUID := ops.filterMap Operation.analysisId

theorem Behind.run {ops : List Operation} (behind : Behind bounds s d)
    (fresh : ∀ id ∈ identities ops, id ∉ s.criticalSpool.pendingIds) (distinct : (identities ops).Nodup)
    (recovers : Meets (ScenarioEngine.step bounds) (Recovers bounds) s ops)
    (accepts : Meets (ScenarioEngine.step bounds) (Accepts bounds) s ops) :
    Behind bounds (Foundation.run (ScenarioEngine.step bounds) s ops)
      (Foundation.run (ScenarioEngine.step bounds) d (withoutOutages ops)) := by
  induction ops generalizing s d with
  | nil => exact behind
  | cons op ops ih =>
      have fresh' : ∀ id ∈ identities ops, id ∉ (s.step bounds op).criticalSpool.pendingIds := by
        intro id later member
        cases pendingIds_step recovers.1 member with
        | inl old =>
            refine fresh id ?_ old
            simp only [identities, List.mem_filterMap] at later ⊢
            obtain ⟨other, inOps, same⟩ := later
            exact ⟨other, List.mem_cons_of_mem _ inOps, same⟩
        | inr own =>
            simp only [identities, List.filterMap_cons, own, List.nodup_cons] at distinct
            exact distinct.1 later
      have distinct' : (identities ops).Nodup :=
        distinct.sublist ((List.sublist_cons_self op ops).filterMap Operation.analysisId)
      cases op with
      | setIncidentAuthorityAvailable available =>
          have off : available = false := recovers.1
          subst off
          exact ih ⟨behind.valid, behind.direct, nofun, behind.caughtUp⟩ fresh' distinct' recovers.2 accepts.2
      | recoverIncidentAuthority now =>
          exact ih (behind.recover now recovers.1) fresh' distinct' recovers.2 accepts.2
      | applyOrSpool analysis acceptedAt =>
          exact ih (behind.apply (fresh _ List.mem_cons_self) accepts.1) fresh' distinct' recovers.2 accepts.2

theorem Behind.start (incidents : Engine P) :
    Behind bounds (ScenarioEngine.start ({} : Spool C) incidents) (ScenarioEngine.start ({} : Spool C) incidents) where
  valid := Spool.Valid.empty
  direct := rfl
  settled := fun _ => rfl
  caughtUp := ⟨[], rfl, ⟨⟨rfl, rfl, rfl, rfl, rfl⟩, fun _ => rfl⟩⟩

/-- Similar engines have journalled the same substance. -/
theorem versions_eq (similar : Similar s.incidents d.incidents) (hazard : HazardKind) :
    s.versions hazard = d.versions hazard := by
  have rows := congrArg (fun rows : List (Option Int × IncidentRecord) =>
    ((rows.map Prod.snd).filter (fun r => r.hazard = hazard)).map substance) similar.store.incidents
  simp only [ScenarioEngine.versions, Store.journal, List.map_map, List.filter_map, Function.comp_def] at rows ⊢
  exact rows

/-- Two readings wait out an outage, a third comes after it. -/
def outageOfTwo : List Operation := [.setIncidentAuthorityAvailable false, .applyOrSpool (Spool.spooledReading 1) (some 7),
  .applyOrSpool (Spool.spooledReading 2) none, .recoverIncidentAuthority 9, .applyOrSpool (Spool.spooledReading 3) none]

end SentinelEdge.Scenario
