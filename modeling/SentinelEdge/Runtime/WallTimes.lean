import SentinelEdge.Runtime.DispatchOrder

/-! # Wall times do not count

Two schedulers that were given the same monotonic readings differ in the wall times of
their jobs, and in the opportunities named after them. Their calls run in lockstep.
-/

namespace SentinelEdge.Runtime

open Foundation Domain Call

/-- A job without its wall times and the id of its opportunity, which is named after one. -/
def JobRequest.timeless (job : JobRequest) : JobRequest :=
  { job with opportunityId := UUID.ofNat 0, releasedAt := 0, absoluteDeadline := 0 }

namespace WorkloadScheduler

def timeless (s : WorkloadScheduler) : WorkloadScheduler :=
  { s with jobs := s.jobs.map JobRequest.timeless, opportunities := Dict.empty }

/-- The same operation without the wall times it reads or is given. -/
def Operation.timeless : Operation → Operation
  | .submit r => .submit { r with releasedAt := none, scheduledReleaseAt := none, capturedAt := none, nowUtc := 0 }
  | op => op

variable {s t : WorkloadScheduler} {ids ids' : List UUID} {job job' : JobRequest} {resources : ResourceSnapshot} {nowNs : Nat}

theorem timeless_jobs (ref : Nat) : s.timeless.jobs[ref]? = (s.jobs[ref]?).map JobRequest.timeless := by simp [timeless]

theorem timeless_setJob {ref : Nat} {change : JobRequest → JobRequest}
    (commutes : ∀ job, (change job).timeless = change job.timeless) :
    (s.setJob ref change).timeless = s.timeless.setJob ref change := by
  have jobs : (s.jobs.modify ref change).map JobRequest.timeless = (s.jobs.map JobRequest.timeless).modify ref change := by
    apply List.ext_getElem?
    intro k
    simp only [List.getElem?_map, List.getElem?_modify]
    by_cases same : ref = k
    · cases s.jobs[k]? <;> simp [same, commutes]
    · simp [same]
  simp only [timeless, setJob, jobs]

/-! ## The admission check -/

theorem timeless_activeWorkloads (s : WorkloadScheduler) : s.timeless.activeWorkloads = s.activeWorkloads := by
  apply activeWorkloads_of_terms (s := s) (t := s.timeless) rfl
  intro ref
  rw [timeless_jobs, Option.map_map]
  rfl

theorem timeless_interferes (s : WorkloadScheduler) : s.timeless.interferes = s.interferes := rfl

theorem timeless_declareOverload (s : WorkloadScheduler) (reason : String) :
    (s.declareOverload reason).timeless = s.timeless.declareOverload reason := rfl

/-- The check reads no wall time, neither of its job nor of others. -/
theorem timeless_admissible (s : WorkloadScheduler) (ref : Nat) (terms : job'.terms = job.terms)
    (resources : ResourceSnapshot) (nowNs : Nat) :
    (s.timeless.admissible ref job' resources nowNs).1 = (s.admissible ref job resources nowNs).1 ∧
      (s.timeless.admissible ref job' resources nowNs).2 = (s.admissible ref job resources nowNs).2.timeless := by
  refine ⟨admissible_congr rfl (timeless_activeWorkloads s) terms, ?_⟩
  have blocked : (s.setJob ref (fun job =>
      { job with reasonCodes := addCode "unknown_tier_a_interference_serialized" job.reasonCodes })).timeless =
      s.timeless.setJob ref (fun job =>
        { job with reasonCodes := addCode "unknown_tier_a_interference_serialized" job.reasonCodes }) :=
    timeless_setJob (fun _ => rfl)
  simp only [JobRequest.terms, Prod.mk.injEq] at terms
  obtain ⟨workload, released, deadline⟩ := terms
  simp only [admissible, timeless_activeWorkloads, timeless_interferes, workload, released, deadline]
  by_cases active : s.activeWorkloads.any (fun running => s.interferes running job.workload) = true
  · rw [if_pos active, if_pos active]
    exact blocked.symm
  · rw [if_neg active, if_neg active]
    simp only [apply_ite Prod.snd, apply_ite WorkloadScheduler.timeless, timeless_declareOverload]
    rfl

/-! ## Calls in lockstep -/

/-- Every job has one of the ids, and every id a record. -/
structure Covers (ids : List UUID) (s : WorkloadScheduler) : Prop where
  listed : ∀ id ∈ s.jobs.map JobRequest.opportunityId, id ∈ ids
  recorded : ∀ id ∈ ids, id ∈ s.opportunities.keys

/-- The same but for wall times, and in step with the ledger. -/
structure Alike (ids ids' : List UUID) (s t : WorkloadScheduler) : Prop where
  timeless : s.timeless = t.timeless
  left : Covers ids s
  right : Covers ids' t

theorem Covers.of_ids (covers : Covers ids s) (same : t.jobs.map JobRequest.opportunityId = s.jobs.map JobRequest.opportunityId)
    (kept : t.opportunities.keys = s.opportunities.keys) : Covers ids t where
  listed := same ▸ covers.listed
  recorded := kept ▸ covers.recorded

/-- The two jobs of a reference. -/
def Twins (ids ids' : List UUID) (job job' : JobRequest) : Prop :=
  job.timeless = job'.timeless ∧ job.opportunityId ∈ ids ∧ job'.opportunityId ∈ ids'

theorem Alike.twins (alike : Alike ids ids' s t) (ref : Nat) :
    (s.jobs[ref]? = none ∧ t.jobs[ref]? = none) ∨
      ∃ job job', s.jobs[ref]? = some job ∧ t.jobs[ref]? = some job' ∧ Twins ids ids' job job' := by
  have same : (s.jobs[ref]?).map JobRequest.timeless = (t.jobs[ref]?).map JobRequest.timeless := by
    rw [← timeless_jobs, ← timeless_jobs, alike.timeless]
  cases left : s.jobs[ref]? with
  | none =>
      rw [left] at same
      exact Or.inl ⟨rfl, Option.map_eq_none_iff.mp same.symm⟩
  | some job =>
      rw [left] at same
      obtain ⟨job', right, equal⟩ := Option.map_eq_some_iff.mp same.symm
      exact Or.inr ⟨job, job', rfl, right, equal.symm,
        alike.left.listed _ (List.mem_map_of_mem (List.mem_of_getElem? left)),
        alike.right.listed _ (List.mem_map_of_mem (List.mem_of_getElem? right))⟩

theorem update_lockstep {id id' : UUID} (known : id ∈ ids) (known' : id' ∈ ids')
    (change change' : OpportunityRecord → OpportunityRecord) :
    Lockstep (Alike ids ids') (fun _ _ => True) (ledger (OpportunityLedger.update id change))
      (ledger (OpportunityLedger.update id' change')) := by
  intro s t alike
  obtain ⟨opportunities, keys, call⟩ := update_keys (alike.left.recorded id known) change
  obtain ⟨opportunities', keys', call'⟩ := update_keys (alike.right.recorded id' known') change'
  rw [call, call']
  exact ⟨⟨alike.timeless, alike.left.of_ids rfl keys, alike.right.of_ids rfl keys'⟩, trivial⟩

theorem markTerminal_lockstep {id id' : UUID} (known : id ∈ ids) (known' : id' ∈ ids') {disposition : OpportunityDisposition}
    (terminal : disposition.isTerminal = true) (nowNs : Nat) (reason : Option String) :
    Lockstep (Alike ids ids') (fun _ _ => True) (ledger (OpportunityLedger.markTerminal id disposition nowNs reason))
      (ledger (OpportunityLedger.markTerminal id' disposition nowNs reason)) := by
  unfold OpportunityLedger.markTerminal
  simp only [terminal, Bool.not_true, Bool.false_eq_true, if_false]
  exact update_lockstep known known' _ _

theorem Twins.jobId (twins : Twins ids ids' job job') : job.jobId = job'.jobId :=
  (congrArg JobRequest.jobId twins.1 : job.timeless.jobId = job'.timeless.jobId)

theorem Twins.status (twins : Twins ids ids' job job') : job.status = job'.status :=
  (congrArg JobRequest.status twins.1 : job.timeless.status = job'.timeless.status)

theorem Twins.terms (twins : Twins ids ids' job job') : job.terms = job'.terms :=
  (congrArg JobRequest.terms twins.1 : job.timeless.terms = job'.timeless.terms)

/-- One job is rewritten on both sides, in the same way. -/
theorem Alike.setJob (alike : Alike ids ids' s t) (ref : Nat) (change : JobRequest → JobRequest)
    (commutes : ∀ job, (change job).timeless = change job.timeless)
    (kept : ∀ job, (change job).opportunityId = job.opportunityId) :
    Alike ids ids' (s.setJob ref change) (t.setJob ref change) where
  timeless := by rw [timeless_setJob commutes, timeless_setJob commutes, alike.timeless]
  left := alike.left.of_ids (map_setJob kept) rfl
  right := alike.right.of_ids (map_setJob kept) rfl

/-- Anything else is changed on both sides, in the same way. -/
theorem Alike.settings (alike : Alike ids ids' s t) {f : WorkloadScheduler → WorkloadScheduler}
    (commutes : ∀ s : WorkloadScheduler, (f s).timeless = f s.timeless) (jobs : ∀ s : WorkloadScheduler, (f s).jobs = s.jobs)
    (opportunities : ∀ s : WorkloadScheduler, (f s).opportunities = s.opportunities) : Alike ids ids' (f s) (f t) where
  timeless := by rw [commutes, commutes, alike.timeless]
  left := alike.left.of_ids (by rw [jobs]) (by rw [opportunities])
  right := alike.right.of_ids (by rw [jobs]) (by rw [opportunities])

theorem Alike.admissible (alike : Alike ids ids' s t) (twins : Twins ids ids' job job') (ref : Nat)
    (resources : ResourceSnapshot) (nowNs : Nat) :
    (s.admissible ref job resources nowNs).1 = (t.admissible ref job' resources nowNs).1 ∧
      Alike ids ids' (s.admissible ref job resources nowNs).2 (t.admissible ref job' resources nowNs).2 := by
  obtain ⟨verdict, after⟩ := timeless_admissible s ref (rfl : job.terms = job.terms) resources nowNs
  obtain ⟨verdict', after'⟩ := timeless_admissible t ref twins.terms resources nowNs
  have left := (admissible_passes s ref job resources nowNs).1
  have right := (admissible_passes t ref job' resources nowNs).1
  refine ⟨?_, ?_, ?_, ?_⟩
  · rw [← verdict, ← verdict', alike.timeless]
  · rw [← after, ← after', alike.timeless]
  · exact alike.left.of_ids left.opportunityIds (congrArg Dict.keys (admissible_untouched s ref job resources nowNs).opportunities)
  · exact alike.right.of_ids right.opportunityIds
      (congrArg Dict.keys (admissible_untouched t ref job' resources nowNs).opportunities)

theorem rejectJob_lockstep (twins : Twins ids ids' job job') (ref nowNs : Nat) (reason : String) :
    Lockstep (Alike ids ids') (fun _ _ => True) (rejectJob ref job nowNs reason) (rejectJob ref job' nowNs reason) := by
  refine Lockstep.bind (Lockstep.modify (fun s t alike => ?_)) (fun _ _ _ => ?_)
  · exact alike.setJob ref _ (fun _ => rfl) (fun _ => rfl)
  · exact markTerminal_lockstep twins.2.1 twins.2.2 rfl nowNs (some reason)

theorem deferJob_lockstep (twins : Twins ids ids' job job') (ref : Nat) :
    Lockstep (Alike ids ids') (fun _ _ => True) (deferJob ref job) (deferJob ref job') := by
  refine Lockstep.bind (Lockstep.modify (fun s t alike => ?_)) (fun _ _ _ => update_lockstep twins.2.1 twins.2.2 _ _)
  rw [twins.jobId]
  have changed := alike.setJob ref JobRequest.deferredAgain (fun _ => rfl) (fun _ => rfl)
  exact changed.settings (f := fun s => { s with
    deferredIds := if job'.jobId ∈ s.deferredIds then s.deferredIds else s.deferredIds ++ [job'.jobId] })
    (fun _ => rfl) (fun _ => rfl) (fun _ => rfl)

theorem startJob_lockstep (twins : Twins ids ids' job job') (ref nowNs : Nat) :
    Lockstep (Alike ids ids') (fun _ _ => True) (startJob ref job nowNs) (startJob ref job' nowNs) := by
  refine Lockstep.bind (Lockstep.modify (fun s t alike => ?_)) (fun _ _ _ => update_lockstep twins.2.1 twins.2.2 _ _)
  rw [twins.jobId]
  have changed := alike.setJob ref (fun job => { job with status := .running, serviceStartedMonotonicNs := some nowNs })
    (fun _ => rfl) (fun _ => rfl)
  exact changed.settings (f := fun s => { s with
    deferredIds := s.deferredIds.filter (fun id => id ≠ job'.jobId)
    active := s.active.insert job'.jobId ref }) (fun _ => rfl) (fun _ => rfl) (fun _ => rfl)

/-- What the two loops end with. -/
def SameChoice (ids ids' : List UUID) (a b : Option (Nat × JobRequest) × List QueueItem) : Prop :=
  a.2 = b.2 ∧ ((a.1 = none ∧ b.1 = none) ∨
    ∃ ref job job', a.1 = some (ref, job) ∧ b.1 = some (ref, job') ∧ Twins ids ids' job job')

theorem dispatchLoop_lockstep (resources : ResourceSnapshot) (nowNs : Nat) (items held : List QueueItem) :
    Lockstep (Alike ids ids') (SameChoice ids ids') (dispatchLoop resources nowNs items held)
      (dispatchLoop resources nowNs items held) := by
  induction items generalizing held with
  | nil => exact Lockstep.pure ⟨rfl, Or.inl ⟨rfl, rfl⟩⟩
  | cons item rest ih =>
      refine Lockstep.bind (Lockstep.modify (fun s t alike => ?_)) (fun _ _ _ => ?_)
      · exact alike.settings (f := fun s => { s with queue := rest }) (fun _ => rfl) (fun _ => rfl) (fun _ => rfl)
      · refine Lockstep.bind (Q := fun a b => (a = none ∧ b = none) ∨
          ∃ job job', a = some job ∧ b = some job' ∧ Twins ids ids' job job')
          (Lockstep.read (fun s t alike => alike.twins item.job)) ?_
        rintro _ _ (⟨rfl, rfl⟩ | ⟨job, job', rfl, rfl, twins⟩)
        · exact Lockstep.raise _ _
        · refine Lockstep.bind (Lockstep.read (fun s t alike => (alike.admissible twins item.job resources nowNs).1)) ?_
          rintro verdict _ rfl
          refine Lockstep.bind (Lockstep.modify (fun s t alike => (alike.admissible twins item.job resources nowNs).2))
            (fun _ _ _ => ?_)
          rcases verdict with ⟨admitted, terminal⟩
          cases terminal with
          | some reason => exact Lockstep.bind (rejectJob_lockstep twins item.job nowNs reason) (fun _ _ _ => ih held)
          | none =>
              cases admitted with
              | true => exact Lockstep.pure ⟨rfl, Or.inr ⟨item.job, job, job', rfl, rfl, twins⟩⟩
              | false => exact Lockstep.bind (deferJob_lockstep twins item.job) (fun _ _ _ => ih (held ++ [item]))

theorem dispatch_lockstep (resources : ResourceSnapshot) (nowNs : Nat) :
    Lockstep (Alike ids ids') Eq (dispatch resources nowNs) (dispatch resources nowNs) := by
  refine Lockstep.bind (Lockstep.read (Q := Eq) (fun s t alike => ?_)) ?_
  · exact (congrArg queue alike.timeless : s.timeless.queue = t.timeless.queue)
  · rintro items _ rfl
    split
    · exact Lockstep.pure rfl
    · refine Lockstep.bind (dispatchLoop_lockstep resources nowNs items []) ?_
      rintro ⟨selected, held⟩ ⟨selected', _⟩ ⟨rfl, same⟩
      refine Lockstep.bind (Lockstep.modify (fun s t alike => ?_)) (fun _ _ _ => ?_)
      · exact alike.settings (f := fun s => { s with queue := held.foldl (fun queue item => heappush item queue) s.queue })
          (fun _ => rfl) (fun _ => rfl) (fun _ => rfl)
      · rcases same with ⟨rfl, rfl⟩ | ⟨ref, job, job', rfl, rfl, twins⟩
        · exact Lockstep.pure rfl
        · exact Lockstep.bind (startJob_lockstep twins ref nowNs) (fun _ _ _ => Lockstep.pure rfl)

theorem complete_lockstep (ref nowNs : Nat) : Lockstep (Alike ids ids') (fun _ _ => True) (complete ref nowNs)
    (complete ref nowNs) := by
  refine Lockstep.bind (Q := fun a b => (a = none ∧ b = none) ∨
    ∃ job job', a = some job ∧ b = some job' ∧ Twins ids ids' job job')
    (Lockstep.read (fun s t alike => alike.twins ref)) ?_
  rintro _ _ (⟨rfl, rfl⟩ | ⟨job, job', rfl, rfl, twins⟩)
  · exact Lockstep.raise _ _
  · simp only [twins.status, twins.jobId]
    split
    · exact Lockstep.raise _ _
    · refine Lockstep.bind (Lockstep.modify (fun s t alike => ?_)) (fun _ _ _ => ?_)
      · have changed := alike.setJob ref (fun job =>
          { job with status := .completed, completedMonotonicNs := some nowNs }) (fun _ => rfl) (fun _ => rfl)
        exact changed.settings (f := fun s => { s with active := s.active.restrict (fun id => id ≠ job'.jobId) })
          (fun _ => rfl) (fun _ => rfl) (fun _ => rfl)
      · exact markTerminal_lockstep twins.2.1 twins.2.2 rfl nowNs none

/-! ## Runs in lockstep -/

/-- Two schedulers that differ in wall times only, each with its records. -/
structure SameButTimes (s t : WorkloadScheduler) : Prop where
  timeless : s.timeless = t.timeless
  left : Queued s
  right : Queued t

theorem SameButTimes.alike (same : SameButTimes s t) :
    Alike (s.jobs.map JobRequest.opportunityId) (t.jobs.map JobRequest.opportunityId) s t where
  timeless := same.timeless
  left := ⟨fun _ listed => listed, by
    intro id listed
    obtain ⟨job, member, rfl⟩ := List.mem_map.mp listed
    exact same.left.recorded job member⟩
  right := ⟨fun _ listed => listed, by
    intro id listed
    obtain ⟨job, member, rfl⟩ := List.mem_map.mp listed
    exact same.right.recorded job member⟩

theorem SameButTimes.dispatch (same : SameButTimes s t) (resources : ResourceSnapshot) (nowNs : Nat) :
    (dispatch resources nowNs s).1 = (dispatch resources nowNs t).1 ∧
      (dispatch resources nowNs s).2.timeless = (dispatch resources nowNs t).2.timeless := by
  obtain ⟨after, results⟩ := dispatch_lockstep resources nowNs s t same.alike
  obtain ⟨result, s', call, -⟩ := dispatch_inOrder same.left resources nowNs
  obtain ⟨result', t', call', -⟩ := dispatch_inOrder same.right resources nowNs
  refine ⟨?_, after.timeless⟩
  rw [call, call'] at results ⊢
  exact congrArg Except.ok results

theorem timeless_freezeForMode (s : WorkloadScheduler) : s.freezeForMode.timeless = s.timeless.freezeForMode := by
  unfold freezeForMode
  split
  · rw [if_pos (by assumption)]
    rfl
  · rw [if_neg (by assumption)]

theorem timeless_enqueueJob (s : WorkloadScheduler) (job : JobRequest) :
    (s.enqueueJob job).timeless = s.timeless.enqueueJob job.timeless := by
  simp [timeless, enqueueJob, JobRequest.timeless]

theorem timeless_submitted (P : Platform) (r : Submission) (spec : WorkloadSpec) (s : WorkloadScheduler) :
    (submitted P r spec s).timeless = s.timeless.freezeForMode.enqueueJob (newJob r spec (UUID.ofNat 0)).timeless := by
  have erased : (submitted P r spec s).timeless =
      (s.freezeForMode.enqueueJob (newJob r spec (opportunityId P (r.keyFor spec.workloadId)))).timeless := rfl
  rw [erased, timeless_enqueueJob, timeless_freezeForMode]
  rfl

theorem submit_timeless (same : s.timeless = t.timeless) (P : Platform) {r r' : Submission}
    (requests : (Operation.submit r).timeless = (Operation.submit r').timeless) :
    (submit P r s).2.timeless = (submit P r' t).2.timeless := by
  simp only [Operation.timeless, Operation.submit.injEq, Submission.mk.injEq, true_and] at requests
  obtain ⟨workloadId, payload, correlationId, jobId, monotonicNs⟩ := requests
  have registry : s.registry = t.registry := (congrArg registry same : s.timeless.registry = t.timeless.registry)
  have queue : s.queue = t.queue := (congrArg queue same : s.timeless.queue = t.timeless.queue)
  have config : s.config = t.config := (congrArg config same : s.timeless.config = t.timeless.config)
  have admits : s.Admits r ↔ t.Admits r' := by
    unfold Admits
    rw [registry, queue, config, workloadId]
  by_cases room : s.Admits r
  · obtain ⟨spec, known, call⟩ := submit_of_admits (P := P) room
    obtain ⟨spec', known', call'⟩ := submit_of_admits (P := P) (admits.mp room)
    obtain rfl : spec = spec' := by
      rw [registry, workloadId] at known
      exact Option.some.inj (known.symm.trans known')
    rw [call, call', timeless_submitted, timeless_submitted, same]
    simp [newJob, JobRequest.timeless, payload, correlationId, jobId, monotonicNs]
  · obtain ⟨e, call⟩ := submit_of_not_admits (P := P) room
    obtain ⟨e', call'⟩ := submit_of_not_admits (P := P) (fun room' => room (admits.mpr room'))
    rw [call, call']
    exact same

theorem register_timeless (spec : WorkloadSpec) (s : WorkloadScheduler) :
    (register spec s).2.timeless = (register spec s.timeless).2 := by
  simp only [register, apply_ite Prod.snd, apply_ite WorkloadScheduler.timeless]
  rfl

theorem reallocateCadence_timeless (workloadId : String) (multiplier : Option ℚ) (reasonCode : String)
    (s : WorkloadScheduler) : (reallocateCadence workloadId multiplier reasonCode s).2.timeless =
      (reallocateCadence workloadId multiplier reasonCode s.timeless).2 := by
  have frozen : s.timeless.frozen = s.frozen := rfl
  have registry : s.timeless.registry = s.registry := rfl
  unfold reallocateCadence
  rw [frozen, registry]
  split
  · rfl
  · cases s.registry.get? workloadId with
    | none => rfl
    | some current =>
        cases multiplier with
        | none => rfl
        | some m =>
            dsimp only
            split
            · rfl
            · split <;> rfl

theorem SameButTimes.step {h h' : History} (same : SameButTimes h.scheduler h'.scheduler) (P : Platform) {op op' : Operation}
    (operations : op.timeless = op'.timeless) :
    SameButTimes (WorkloadScheduler.step P h op).scheduler (WorkloadScheduler.step P h' op').scheduler where
  left := same.left.step P op
  right := same.right.step P op'
  timeless := by
    have scheduler_submit : ∀ (h : History) (r : Submission),
        (WorkloadScheduler.step P h (.submit r)).scheduler = (WorkloadScheduler.submit P r h.scheduler).2 := by
      intro h r
      simp only [WorkloadScheduler.step]
      rcases WorkloadScheduler.submit P r h.scheduler with ⟨result, s⟩
      cases result <;> rfl
    cases op with
    | submit r =>
        cases op' with
        | submit r' =>
            rw [scheduler_submit, scheduler_submit]
            exact submit_timeless same.timeless P operations
        | _ => cases operations
    | register spec =>
        cases op' with
        | register spec' =>
            cases operations
            simp only [WorkloadScheduler.step, register_timeless, same.timeless]
        | _ => cases operations
    | freeze =>
        cases op' with
        | freeze => exact congrArg (fun s => { s with frozen := true }) same.timeless
        | _ => cases operations
    | reallocateCadence workloadId multiplier reasonCode =>
        cases op' with
        | reallocateCadence workloadId' multiplier' reasonCode' =>
            cases operations
            simp only [WorkloadScheduler.step, reallocateCadence_timeless, same.timeless]
        | _ => cases operations
    | fallbackSchedule =>
        cases op' with
        | fallbackSchedule =>
            exact congrArg (fun s => { s with reasonCodes := addCode "static_fallback_active" s.reasonCodes }) same.timeless
        | _ => cases operations
    | dispatch resources nowNs =>
        cases op' with
        | dispatch resources' nowNs' =>
            cases operations
            exact (same.dispatch resources nowNs).2
        | _ => cases operations
    | complete ref nowNs =>
        cases op' with
        | complete ref' nowNs' =>
            cases operations
            exact (complete_lockstep ref nowNs _ _ same.alike).1.timeless
        | _ => cases operations

theorem SameButTimes.run {h h' : History} (same : SameButTimes h.scheduler h'.scheduler) (P : Platform)
    {ops ops' : List Operation} (operations : ops.map Operation.timeless = ops'.map Operation.timeless) :
    SameButTimes (Foundation.run (WorkloadScheduler.step P) h ops).scheduler
      (Foundation.run (WorkloadScheduler.step P) h' ops').scheduler := by
  induction ops generalizing h h' ops' with
  | nil =>
      obtain rfl : ops' = [] := List.map_eq_nil_iff.mp operations.symm
      exact same
  | cons op ops ih =>
      cases ops' with
      | nil => cases operations
      | cons op' ops' =>
          rw [List.map_cons, List.map_cons, List.cons.injEq] at operations
          exact ih (same.step P operations.1) operations.2

/-- In every reachable state, dispatching starts the first of the jobs that may start, by
    tier, deadline and submission, or none if none may; puts off those before it and leaves
    those behind it alone; and does the same in every run with the same monotonic readings,
    whatever its wall times were. -/
theorem dispatch_in_order (P : Platform) (config : SchedulerConfig) (ops : List Operation) (resources : ResourceSnapshot)
    (nowNs : Nat) :
    (∃ result t, dispatch resources nowNs (run P config ops).scheduler = (.ok result, t) ∧
      InOrder (run P config ops).scheduler resources nowNs result t) ∧
    ∀ ops', ops'.map Operation.timeless = ops.map Operation.timeless →
      (dispatch resources nowNs (run P config ops').scheduler).1 = (dispatch resources nowNs (run P config ops).scheduler).1 ∧
      (dispatch resources nowNs (run P config ops').scheduler).2.timeless =
        (dispatch resources nowNs (run P config ops).scheduler).2.timeless := by
  constructor
  · obtain ⟨result, t, call, order, -⟩ := dispatch_inOrder (run_queued P config ops) resources nowNs
    exact ⟨result, t, call, order⟩
  · intro ops' operations
    have initially : SameButTimes (start config).scheduler (start config).scheduler :=
      ⟨rfl, run_queued P config [], run_queued P config []⟩
    exact (initially.run P operations).dispatch resources nowNs

end WorkloadScheduler

end SentinelEdge.Runtime
