import SentinelEdge.Runtime.Dispatch

/-! # What one operation of a run can do

`Turn` lists the outcomes: the settings change, a submission is accepted, a
dispatch runs, or a running job completes. A call that raises before it has done
anything is a change of settings that changes nothing.
-/

namespace SentinelEdge.Runtime

open Foundation Domain

/-- Every workload is registered under its own id. -/
def Named (registry : Dict String WorkloadSpec) : Prop :=
  ∀ workloadId spec, registry.get? workloadId = some spec → spec.workloadId = workloadId

namespace WorkloadScheduler

variable {s t : WorkloadScheduler} {P : Platform}

/-- Only the registry, its freeze and the declared reasons may have changed. -/
structure Reconfigured (s t : WorkloadScheduler) : Prop where
  config : t.config = s.config
  cores : t.cores = s.cores
  queue : t.queue = s.queue
  active : t.active = s.active
  opportunities : t.opportunities = s.opportunities
  named : Named s.registry → Named t.registry

theorem Reconfigured.refl (s : WorkloadScheduler) : Reconfigured s s := ⟨rfl, rfl, rfl, rfl, rfl, id⟩

theorem Named.insert {registry : Dict String WorkloadSpec} (named : Named registry) {spec : WorkloadSpec} {workloadId : String}
    (same : spec.workloadId = workloadId) : Named (registry.insert workloadId spec) := by
  intro other found looked
  rw [Dict.get?_insert] at looked
  by_cases here : other = workloadId
  · rw [if_pos here] at looked
    obtain rfl := Option.some.inj looked
    exact same.trans here.symm
  · rw [if_neg here] at looked
    exact named other found looked

theorem register_reconfigured (spec : WorkloadSpec) (s : WorkloadScheduler) : Reconfigured s (register spec s).2 := by
  unfold register
  split
  · exact Reconfigured.refl s
  · split
    · exact Reconfigured.refl s
    · split
      · exact Reconfigured.refl s
      · exact ⟨rfl, rfl, rfl, rfl, rfl, fun named => Named.insert named rfl⟩

theorem reallocateCadence_reconfigured (workloadId : String) (multiplier : Option ℚ) (reasonCode : String)
    (s : WorkloadScheduler) : Reconfigured s (reallocateCadence workloadId multiplier reasonCode s).2 := by
  unfold reallocateCadence
  split
  · exact Reconfigured.refl s
  · cases known : s.registry.get? workloadId with
    | none => exact Reconfigured.refl s
    | some current =>
        cases multiplier with
        | none => exact Reconfigured.refl s
        | some m =>
            simp only
            split
            · exact Reconfigured.refl s
            · split
              · exact Reconfigured.refl s
              · refine ⟨rfl, rfl, rfl, rfl, rfl, fun named => ?_⟩
                exact Named.insert named (named workloadId current known)

/-! ## Submissions -/

/-- The submission is for a registered workload and finds room in the queue. -/
def Admits (s : WorkloadScheduler) (r : Submission) : Prop :=
  (s.registry.get? r.workloadId).isSome = true ∧ (s.queue.length : Int) < s.config.queueLimit

instance (s : WorkloadScheduler) (r : Submission) : Decidable (s.Admits r) := inferInstanceAs (Decidable (_ ∧ _))

/-- The record of a submission once it is queued. -/
def queuedRecord (P : Platform) (r : Submission) (spec : WorkloadSpec) : OpportunityRecord where
  opportunityId := opportunityId P (r.keyFor spec.workloadId)
  correlationId := r.correlationId
  workloadId := spec.workloadId
  hazard := spec.hazard
  scheduledReleaseAt := r.scheduledReleaseAt.getD r.released
  actualReleaseAt := some r.released
  capturedAt := r.capturedAt
  queueStartedMonotonicNs := some r.monotonicNs
  deadlineMonotonicNs := some (r.monotonicNs + spec.deadlineMs * 1000000)
  disposition := .queued

/-- The scheduler after an accepted submission. -/
def submitted (P : Platform) (r : Submission) (spec : WorkloadSpec) (s : WorkloadScheduler) : WorkloadScheduler :=
  { s.freezeForMode.enqueueJob (newJob r spec (opportunityId P (r.keyFor spec.workloadId))) with
    opportunities := s.opportunities.insert (opportunityId P (r.keyFor spec.workloadId)) (queuedRecord P r spec) }

theorem freezeForMode_reconfigured (s : WorkloadScheduler) : Reconfigured s s.freezeForMode := by
  unfold freezeForMode
  split
  · exact ⟨rfl, rfl, rfl, rfl, rfl, id⟩
  · exact Reconfigured.refl s

theorem freezeForMode_jobs (s : WorkloadScheduler) : s.freezeForMode.jobs = s.jobs := by
  unfold freezeForMode
  split <;> rfl

theorem submit_of_admits {r : Submission} (admits : s.Admits r) :
    ∃ spec, s.registry.get? r.workloadId = some spec ∧
      submit P r s = (.ok (newJob r spec (opportunityId P (r.keyFor spec.workloadId))), submitted P r spec s) := by
  obtain ⟨known, room⟩ := admits
  obtain ⟨spec, registered⟩ := Option.isSome_iff_exists.mp known
  refine ⟨spec, registered, ?_⟩
  have notFull : decide ((s.queue.length : Int) ≥ s.config.queueLimit) = false := by simpa using room
  have kept := (freezeForMode_reconfigured s).opportunities
  let offered : OpportunityRecord := {
    opportunityId := opportunityId P (r.keyFor spec.workloadId)
    correlationId := r.correlationId
    workloadId := spec.workloadId
    hazard := spec.hazard
    scheduledReleaseAt := r.scheduledReleaseAt.getD r.released
    capturedAt := r.capturedAt }
  let after := { s.freezeForMode with
    opportunities := s.freezeForMode.opportunities.insert offered.opportunityId offered }
  have offers : ledger (OpportunityLedger.offer P (r.keyFor spec.workloadId) spec.hazard r.capturedAt) s.freezeForMode =
      (.ok offered, after) := rfl
  have looked : after.opportunities.get? offered.opportunityId = some offered := Dict.get?_insert_self _ _ _
  let job := newJob r spec offered.opportunityId
  have marks : ledger (OpportunityLedger.markQueued job.opportunityId job.releasedAt job.releasedMonotonicNs
        job.deadlineMonotonicNs) after =
      (.ok (), { after with
        opportunities := after.opportunities.insert offered.opportunityId (queuedRecord P r spec) }) :=
    ledger_update looked _
  have once : after.opportunities.insert offered.opportunityId (queuedRecord P r spec) =
      s.opportunities.insert offered.opportunityId (queuedRecord P r spec) := by
    rw [Dict.insert_insert, kept]
  rw [once] at marks
  rw [submit, Call.read_bind, Call.read_bind, registered, notFull]
  simp only [Bool.false_eq_true, if_false]
  rw [Call.modify_bind, Call.bind_of_ok offers]
  exact (Call.bind_of_ok marks).trans rfl

theorem submit_of_not_admits {r : Submission} (refused : ¬ s.Admits r) : ∃ e, submit P r s = (.error e, s) := by
  rw [submit, Call.read_bind, Call.read_bind]
  cases registered : s.registry.get? r.workloadId with
  | none => exact ⟨_, rfl⟩
  | some spec =>
      have full : decide ((s.queue.length : Int) ≥ s.config.queueLimit) = true := by
        by_contra room
        refine refused ⟨by simp [registered], ?_⟩
        simpa using room
      rw [full]
      exact ⟨_, rfl⟩

theorem submitted_cores (r : Submission) (spec : WorkloadSpec) (s : WorkloadScheduler) :
    (submitted P r spec s).cores =
      s.cores ++ [⟨r.jobId, opportunityId P (r.keyFor spec.workloadId), spec, .queued⟩] := by
  simp only [submitted, enqueueJob, cores, freezeForMode_jobs, List.map_append, List.map_singleton]
  rfl

theorem submitted_queue (r : Submission) (spec : WorkloadSpec) (s : WorkloadScheduler) :
    (refs (submitted P r spec s).queue).Perm (s.cores.length :: refs s.queue) := by
  have kept := (freezeForMode_reconfigured s).queue
  simp only [submitted, enqueueJob, freezeForMode_jobs, kept, cores, List.length_map]
  exact (heappush_perm _ _).map QueueItem.job

/-! ## Completions -/

/-- The scheduler of a completed job before the ledger is told. -/
def completing (s : WorkloadScheduler) (ref : Nat) (job : JobRequest) (nowNs : Nat) : WorkloadScheduler :=
  { s.setJob ref (fun job => { job with status := .completed, completedMonotonicNs := some nowNs }) with
    active := s.active.restrict (fun id => id ≠ job.jobId) }

def completed (s : WorkloadScheduler) (ref : Nat) (job : JobRequest) (nowNs : Nat) : WorkloadScheduler :=
  (ledger (OpportunityLedger.markTerminal job.opportunityId .processed nowNs none) (s.completing ref job nowNs)).2

theorem completing_cores (ref : Nat) (job : JobRequest) (nowNs : Nat) :
    (s.completing ref job nowNs).cores = s.cores.modify ref (JobCore.withStatus .completed) :=
  setJob_cores (s := s) (fun _ => rfl)

theorem completed_steady (s : WorkloadScheduler) (ref : Nat) (job : JobRequest) (nowNs : Nat) :
    Steady s (s.completed ref job nowNs) :=
  steady_of_setJob _ (completing_cores ref job nowNs) rfl rfl

theorem completed_apply (booked : Booked s.cores (refs s.queue) s.opportunities) {ref : Nat} {job : JobRequest}
    (found : s.jobs[ref]? = some job) (running : job.status = .running) (nowNs : Nat) :
    Booked (s.completed ref job nowNs).cores (refs s.queue) (s.completed ref job nowNs).opportunities ∧
      Advance s (s.completed ref job nowNs) := by
  have atRef := cores_getElem? found
  have status : job.core.status = .running := running
  obtain ⟨_, record, looked, fits⟩ := booked.entry ref job.core atRef
  have unsettled : record.disposition.isTerminal = false := by
    rw [fits, status]
    rfl
  have kept : (s.completing ref job nowNs).opportunities.get? job.opportunityId = some record := looked
  have processed : OpportunityDisposition.processed.isTerminal = true := rfl
  obtain ⟨after, disposition, marks⟩ := ledger_markTerminal kept processed nowNs none
  have result : s.completed ref job nowNs = { s.completing ref job nowNs with
      opportunities := s.opportunities.insert job.opportunityId after } := by
    rw [completed, marks]
    rfl
  have idle : ref ∉ refs s.queue := by
    intro queued
    obtain ⟨_, known, waits⟩ := (booked.waiting ref).mp queued
    rw [atRef] at known
    obtain rfl := Option.some.inj known
    rw [status] at waits
    cases waits
  have cores := completing_cores (s := s) ref job nowNs
  have waiting : ∀ k, k ∈ refs s.queue ↔
      if k = ref then JobStatus.completed.isWaiting = true else k ∈ refs s.queue := by
    intro k
    by_cases same : k = ref
    · simp [same, idle, JobStatus.isWaiting]
    · simp [same]
  rw [result]
  refine ⟨?_, ?_, terminal_of_insert looked unsettled rfl⟩
  · exact booked_of_move booked atRef (by decide) (congrArg _ disposition) booked.nodup waiting cores rfl
  · intro before
    have occupied : Occupied (s.cores.modify ref (JobCore.withStatus .completed))
        (s.active.restrict (fun id => id ≠ job.jobId)) := before.finish atRef status (by decide)
    rw [← cores] at occupied
    exact occupied

/-! ## Operations -/

inductive Turn (P : Platform) (h : History) : Operation → History → Prop where
  | settings {op : Operation} {t : WorkloadScheduler} (kept : Reconfigured h.scheduler t) :
      Turn P h op { h with scheduler := t }
  | submit {r : Submission} {spec : WorkloadSpec} (admits : h.scheduler.Admits r)
      (registered : h.scheduler.registry.get? r.workloadId = some spec) :
      Turn P h (.submit r) ⟨submitted P r spec h.scheduler, h.accepted ++ [r]⟩
  | dispatch (resources : ResourceSnapshot) (nowNs : Nat) :
      Turn P h (.dispatch resources nowNs)
        { h with scheduler := (WorkloadScheduler.dispatch resources nowNs h.scheduler).2 }
  | complete {ref : Nat} {job : JobRequest} (nowNs : Nat) (found : h.scheduler.jobs[ref]? = some job)
      (running : job.status = .running) :
      Turn P h (.complete ref nowNs) { h with scheduler := h.scheduler.completed ref job nowNs }

theorem step_turn (P : Platform) (h : History) (op : Operation) : Turn P h op (step P h op) := by
  cases op with
  | register spec => exact .settings (register_reconfigured spec h.scheduler)
  | freeze => exact .settings ⟨rfl, rfl, rfl, rfl, rfl, id⟩
  | reallocateCadence workloadId multiplier reasonCode => exact .settings (reallocateCadence_reconfigured ..)
  | fallbackSchedule => exact .settings ⟨rfl, rfl, rfl, rfl, rfl, id⟩
  | dispatch resources nowNs => exact .dispatch resources nowNs
  | submit r =>
      by_cases admits : h.scheduler.Admits r
      · obtain ⟨spec, registered, call⟩ := submit_of_admits (P := P) admits
        simp only [step, call]
        exact .submit admits registered
      · obtain ⟨e, call⟩ := submit_of_not_admits (P := P) admits
        simp only [step, call]
        exact .settings (Reconfigured.refl _)
  | complete ref nowNs =>
      simp only [step]
      rw [WorkloadScheduler.complete, Call.read_bind]
      cases found : h.scheduler.jobs[ref]? with
      | none => exact .settings (Reconfigured.refl _)
      | some job =>
          by_cases running : job.status = .running
          · simp only [running, ne_eq, not_true_eq_false, if_false]
            rw [Call.modify_bind]
            exact .complete nowNs found running
          · simp only [running, ne_eq, not_false_eq_true, if_true]
            exact .settings (Reconfigured.refl _)

end WorkloadScheduler

end SentinelEdge.Runtime
