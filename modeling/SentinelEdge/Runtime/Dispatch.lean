import SentinelEdge.Runtime.Books

/-! # What the scheduler's calls do to the books

The loop of `dispatch` is followed with the items it holds back counted among the
waiting ones: it rejects and defers jobs, and hands over at most one that passed
the admission check. No call raises on account of the ledger.
-/

namespace SentinelEdge.Runtime

open Foundation Domain

namespace WorkloadScheduler

variable {s t : WorkloadScheduler} {pool : List Nat}

/-- What the admission check and the bookkeeping around it leave alone. -/
structure Untouched (s t : WorkloadScheduler) : Prop where
  config : t.config = s.config
  registry : t.registry = s.registry
  cores : t.cores = s.cores
  queue : t.queue = s.queue
  active : t.active = s.active
  opportunities : t.opportunities = s.opportunities

theorem setJob_cores {ref : Nat} {change : JobRequest → JobRequest} {move : JobCore → JobCore}
    (moves : ∀ job, (change job).core = move job.core) : (s.setJob ref change).cores = s.cores.modify ref move := by
  apply List.ext_getElem?
  intro k
  simp only [cores, setJob, List.getElem?_map, List.getElem?_modify]
  by_cases same : ref = k
  · cases s.jobs[k]? <;> simp [same, moves]
  · simp [same]

theorem cores_getElem? {ref : Nat} {job : JobRequest} (found : s.jobs[ref]? = some job) : s.cores[ref]? = some job.core := by
  simp [cores, found]

theorem Untouched.refl (s : WorkloadScheduler) : Untouched s s := ⟨rfl, rfl, rfl, rfl, rfl, rfl⟩

theorem declareOverload_untouched (s : WorkloadScheduler) (reason : String) : Untouched s (s.declareOverload reason) :=
  ⟨rfl, rfl, rfl, rfl, rfl, rfl⟩

theorem addReason_untouched (s : WorkloadScheduler) (ref : Nat) (reason : String) :
    Untouched s (s.setJob ref (fun job => { job with reasonCodes := addCode reason job.reasonCodes })) := by
  have cores : (s.setJob ref (fun job => { job with reasonCodes := addCode reason job.reasonCodes })).cores =
      s.cores.modify ref id := setJob_cores (fun _ => rfl)
  rw [List.modify_id] at cores
  exact ⟨rfl, rfl, cores, rfl, rfl, rfl⟩

theorem admissible_untouched (s : WorkloadScheduler) (ref : Nat) (job : JobRequest) (resources : ResourceSnapshot)
    (nowNs : Nat) : Untouched s (s.admissible ref job resources nowNs).2 := by
  unfold admissible
  simp only
  split
  · exact addReason_untouched s ref _
  · split
    · exact declareOverload_untouched s _
    · split
      · exact declareOverload_untouched s _
      · split
        · simp only
          split
          · exact declareOverload_untouched s _
          · exact Untouched.refl s
        · split
          · split
            · exact declareOverload_untouched s _
            · exact Untouched.refl s
          · split
            · exact ⟨rfl, rfl, rfl, rfl, rfl, rfl⟩
            · simp only
              split
              · exact declareOverload_untouched s _
              · exact Untouched.refl s

/-- A job that passes the admission check interferes with no active one. -/
theorem admissible_safe {ref : Nat} {job : JobRequest} {resources : ResourceSnapshot} {nowNs : Nat}
    (passes : (s.admissible ref job resources nowNs).1.1 = true) :
    ∀ running ∈ s.activeWorkloads, s.interferes running job.workload = false := by
  intro running member
  by_contra unsafe_
  have blocked : s.activeWorkloads.any (fun running => s.interferes running job.workload) = true :=
    List.any_eq_true.mpr ⟨running, member, by simpa using unsafe_⟩
  simp only [admissible, blocked, if_true] at passes
  cases passes

/-! ## What dispatching keeps on any books -/

structure Steady (s t : WorkloadScheduler) : Prop where
  config : t.config = s.config
  registry : t.registry = s.registry
  identity : t.cores.map JobCore.identity = s.cores.map JobCore.identity

theorem Steady.refl (s : WorkloadScheduler) : Steady s s := ⟨rfl, rfl, rfl⟩

theorem Steady.trans {u : WorkloadScheduler} (first : Steady s t) (second : Steady t u) : Steady s u where
  config := second.config.trans first.config
  registry := second.registry.trans first.registry
  identity := second.identity.trans first.identity

/-- A job a scheduler knows keeps its place and its identity. -/
theorem Steady.core (steady : Steady s t) {ref : Nat} {after : JobCore} (found : t.cores[ref]? = some after) :
    ∃ before, s.cores[ref]? = some before ∧ before.identity = after.identity := by
  have looked : (t.cores.map JobCore.identity)[ref]? = some after.identity := by simp [found]
  rw [steady.identity, List.getElem?_map] at looked
  exact Option.map_eq_some_iff.mp looked

theorem Untouched.steady (untouched : Untouched s t) : Steady s t :=
  ⟨untouched.config, untouched.registry, by rw [untouched.cores]⟩

/-- A job gets a status, then its record is rewritten or the ledger raises. -/
theorem steady_of_setJob {α : Type} (call : OpportunityLedger.LedgerCall α) {marked : WorkloadScheduler} {ref : Nat}
    {status : JobStatus} (cores : marked.cores = s.cores.modify ref (JobCore.withStatus status))
    (config : marked.config = s.config) (registry : marked.registry = s.registry) :
    Steady s (ledger call marked).2 where
  config := config
  registry := registry
  identity := by
    have same : (ledger call marked).2.cores = marked.cores := rfl
    rw [same, cores]
    exact map_modify_withStatus JobCore.identity ref status (fun _ => rfl)

theorem rejectJob_steady (ref : Nat) (job : JobRequest) (nowNs : Nat) (reason : String) (s : WorkloadScheduler) :
    Steady s (rejectJob ref job nowNs reason s).2 ∧ (rejectJob ref job nowNs reason s).2.active = s.active := by
  rw [rejectJob, Call.modify_bind]
  exact ⟨steady_of_setJob _ (setJob_cores (s := s) (fun _ => rfl)) rfl rfl, rfl⟩

theorem deferJob_steady (ref : Nat) (job : JobRequest) (s : WorkloadScheduler) :
    Steady s (deferJob ref job s).2 ∧ (deferJob ref job s).2.active = s.active := by
  rw [deferJob, Call.modify_bind]
  exact ⟨steady_of_setJob _ (setJob_cores (s := s) (fun _ => rfl)) rfl rfl, rfl⟩

/-- The workload may run beside every active job. -/
def Clear (s : WorkloadScheduler) (spec : WorkloadSpec) : Prop :=
  ∀ other ∈ s.active.values, ∀ core, s.cores[other]? = some core → s.interferes core.workload spec = false

theorem Clear.of_steady {spec : WorkloadSpec} (clear : Clear t spec) (steady : Steady s t) (active : t.active = s.active) :
    Clear s spec := by
  intro other member core found
  have looked : (s.cores.map JobCore.identity)[other]? = some core.identity := by simp [found]
  rw [← steady.identity, List.getElem?_map] at looked
  obtain ⟨after, foundAfter, same⟩ := Option.map_eq_some_iff.mp looked
  simp only [JobCore.identity, Prod.mk.injEq] at same
  have safe := clear other (active ▸ member) after foundAfter
  have declared : t.interferes after.workload spec = s.interferes core.workload spec := by
    unfold interferes knownSafePairs
    rw [steady.config, same.2.2]
  exact declared.symm.trans safe

theorem admissible_clear {ref : Nat} {job : JobRequest} {resources : ResourceSnapshot} {nowNs : Nat}
    (passes : (s.admissible ref job resources nowNs).1.1 = true) :
    Clear (s.admissible ref job resources nowNs).2 job.workload := by
  have untouched := admissible_untouched s ref job resources nowNs
  intro other member core found
  rw [untouched.active] at member
  rw [untouched.cores] at found
  obtain ⟨running, atOther, rfl⟩ : ∃ running, s.jobs[other]? = some running ∧ running.core = core := by
    simpa [cores] using found
  have listed : running.workload ∈ s.activeWorkloads :=
    List.mem_filterMap.mpr ⟨other, member, by simp [atOther]⟩
  have declared : (s.admissible ref job resources nowNs).2.interferes running.workload job.workload =
      s.interferes running.workload job.workload := by
    unfold interferes knownSafePairs
    rw [untouched.config]
  exact declared.trans (admissible_safe passes running.workload listed)

/-- One turn of the loop, on the job it pops. -/
theorem dispatchLoop_cons (resources : ResourceSnapshot) (nowNs : Nat) (item : QueueItem) (rest held : List QueueItem)
    {job : JobRequest} (found : s.jobs[item.job]? = some job) :
    dispatchLoop resources nowNs (item :: rest) held s =
      (match ({ s with queue := rest }.admissible item.job job resources nowNs).1 with
        | (_, some reason) => do
            rejectJob item.job job nowNs reason
            dispatchLoop resources nowNs rest held
        | (true, none) => pure (some (item.job, job), held)
        | (false, none) => do
            deferJob item.job job
            dispatchLoop resources nowNs rest (held ++ [item]) :
        SchedulerCall (Option (Nat × JobRequest) × List QueueItem))
        ({ s with queue := rest }.admissible item.job job resources nowNs).2 := by
  have foundPopped : { s with queue := rest }.jobs[item.job]? = some job := found
  rw [dispatchLoop, Call.modify_bind, Call.read_bind, foundPopped]
  rfl

/-- What the loop may do to a scheduler and which job it may hand over. -/
structure LoopOutcome (s : WorkloadScheduler) (result : Except Error (Option (Nat × JobRequest) × List QueueItem))
    (t : WorkloadScheduler) : Prop where
  steady : Steady s t
  active : t.active = s.active
  clear : ∀ ref job held, result = .ok (some (ref, job), held) → Clear t job.workload ∧
    ∃ core, t.cores[ref]? = some core ∧ core.identity = job.core.identity

theorem LoopOutcome.after {middle : WorkloadScheduler} {result : Except Error (Option (Nat × JobRequest) × List QueueItem)}
    (steady : Steady s middle) (active : middle.active = s.active) (later : LoopOutcome middle result t) :
    LoopOutcome s result t :=
  ⟨steady.trans later.steady, later.active.trans active, later.clear⟩

theorem LoopOutcome.bind {first : SchedulerCall Unit}
    {next : SchedulerCall (Option (Nat × JobRequest) × List QueueItem)}
    (keeps : Steady s (first s).2 ∧ (first s).2.active = s.active)
    (later : ∀ middle, LoopOutcome middle (next middle).1 (next middle).2) :
    LoopOutcome s ((first >>= fun _ => next) s).1 ((first >>= fun _ => next) s).2 := by
  obtain ⟨steady, active⟩ := keeps
  rcases called : first s with ⟨result, middle⟩
  rw [called] at steady active
  cases result with
  | ok _ =>
      rw [Call.bind_of_ok called]
      exact (later middle).after steady active
  | error e =>
      rw [Call.bind_of_error called]
      exact ⟨steady, active, by simp⟩

theorem dispatchLoop_outcome (resources : ResourceSnapshot) (nowNs : Nat) (items held : List QueueItem)
    (s : WorkloadScheduler) :
    LoopOutcome s (dispatchLoop resources nowNs items held s).1 (dispatchLoop resources nowNs items held s).2 := by
  induction items generalizing s held with
  | nil => exact ⟨Steady.refl s, rfl, by simp [dispatchLoop]⟩
  | cons item rest ih =>
      let popped := { s with queue := rest }
      have pops : Steady s popped := ⟨rfl, rfl, rfl⟩
      cases found : s.jobs[item.job]? with
      | none =>
          have foundPopped : popped.jobs[item.job]? = none := found
          rw [dispatchLoop, Call.modify_bind, Call.read_bind, foundPopped]
          exact ⟨pops, rfl, by simp⟩
      | some job =>
          have untouched := admissible_untouched popped item.job job resources nowNs
          have atChecked : (popped.admissible item.job job resources nowNs).2.cores[item.job]? = some job.core := by
            rw [untouched.cores]
            exact cores_getElem? (s := popped) found
          rw [dispatchLoop_cons resources nowNs item rest held found]
          refine LoopOutcome.after (pops.trans untouched.steady) untouched.active ?_
          cases verdict : (popped.admissible item.job job resources nowNs).1 with
          | mk admitted terminal =>
              cases terminal with
              | some reason => exact LoopOutcome.bind (rejectJob_steady ..) (ih held)
              | none =>
                  cases admitted with
                  | false => exact LoopOutcome.bind (deferJob_steady ..) (ih (held ++ [item]))
                  | true =>
                      refine ⟨Steady.refl _, rfl, ?_⟩
                      rintro ref chosen held' ⟨⟩
                      exact ⟨admissible_clear (congrArg Prod.fst verdict), job.core, atChecked, rfl⟩

theorem startJob_steady (ref : Nat) (job : JobRequest) (nowNs : Nat) (s : WorkloadScheduler) :
    Steady s (startJob ref job nowNs s).2 ∧
      (startJob ref job nowNs s).2.active = s.active.insert job.jobId ref := by
  rw [startJob, Call.modify_bind]
  exact ⟨steady_of_setJob _ (setJob_cores (s := s) (fun _ => rfl)) rfl rfl, rfl⟩

/-- The scheduler between the loop and the start of the selected job. -/
def pushedBack (t : WorkloadScheduler) (held : List QueueItem) : WorkloadScheduler :=
  { t with queue := held.foldl (fun queue item => heappush item queue) t.queue }

/-- What `dispatch` does once the held items are back in the queue. -/
def startSelected (nowNs : Nat) : Option (Nat × JobRequest) → SchedulerCall (Option Nat)
  | none => pure none
  | some (ref, job) => do
      startJob ref job nowNs
      pure (some ref)

theorem dispatch_of_loop {resources : ResourceSnapshot} {nowNs : Nat} {selected : Option (Nat × JobRequest)}
    {held : List QueueItem} (filled : s.queue ≠ [])
    (loop : dispatchLoop resources nowNs s.queue [] s = (.ok (selected, held), t)) :
    dispatch resources nowNs s = startSelected nowNs selected (t.pushedBack held) := by
  have nonempty : s.queue.isEmpty = false := by simpa using filled
  rw [dispatch, Call.read_bind, nonempty]
  simp only [Bool.false_eq_true, if_false]
  rw [Call.bind_of_ok loop, Call.modify_bind]
  cases selected <;> rfl

/-- Dispatching leaves the active set alone or adds one job to it, which may run
    beside those already there. -/
theorem dispatch_outcome (resources : ResourceSnapshot) (nowNs : Nat) (s : WorkloadScheduler) :
    Steady s (dispatch resources nowNs s).2 ∧
      ((dispatch resources nowNs s).2.active = s.active ∨
        ∃ ref core, s.cores[ref]? = some core ∧ Clear s core.workload ∧
          (dispatch resources nowNs s).2.active = s.active.insert core.jobId ref) := by
  by_cases filled : s.queue = []
  · have idle : dispatch resources nowNs s = (.ok none, s) := by
      rw [dispatch, Call.read_bind, filled]
      rfl
    rw [idle]
    exact ⟨Steady.refl s, .inl rfl⟩
  · have outcome := dispatchLoop_outcome resources nowNs s.queue [] s
    rcases loop : dispatchLoop resources nowNs s.queue [] s with ⟨result, t⟩
    rw [loop] at outcome
    cases result with
    | error e =>
        have raised : dispatch resources nowNs s = (.error e, t) := by
          have nonempty : s.queue.isEmpty = false := by simpa using filled
          rw [dispatch, Call.read_bind, nonempty]
          simp only [Bool.false_eq_true, if_false]
          rw [Call.bind_of_error loop]
        rw [raised]
        exact ⟨outcome.steady, .inl outcome.active⟩
    | ok value =>
        rcases value with ⟨selected, held⟩
        have pushes : Steady t (t.pushedBack held) := ⟨rfl, rfl, rfl⟩
        rw [dispatch_of_loop filled loop]
        cases selected with
        | none => exact ⟨outcome.steady.trans pushes, .inl outcome.active⟩
        | some chosen =>
            rcases chosen with ⟨ref, job⟩
            obtain ⟨clear, core, found, identity⟩ := outcome.clear ref job held rfl
            obtain ⟨steady, active⟩ := startJob_steady ref job nowNs (t.pushedBack held)
            simp only [startSelected, Call.bind_pure_state]
            refine ⟨outcome.steady.trans (pushes.trans steady), .inr ?_⟩
            obtain ⟨before, foundBefore, same⟩ := outcome.steady.core found
            have ids : before.identity = job.core.identity := same.trans identity
            simp only [JobCore.identity, JobRequest.core, Prod.mk.injEq] at ids
            refine ⟨ref, before, foundBefore, ?_, ?_⟩
            · rw [ids.2.2]
              exact clear.of_steady outcome.steady outcome.active
            · rw [active, ids.1, ← outcome.active]
              rfl

/-! ## Ledger calls -/

theorem ledger_update {id : UUID} {record : OpportunityRecord} (found : s.opportunities.get? id = some record)
    (change : OpportunityRecord → OpportunityRecord) :
    ledger (OpportunityLedger.update id change) s =
      (.ok (), { s with opportunities := s.opportunities.insert id (change record) }) := by
  apply Call.zoom_of_eq
  simp only [OpportunityLedger.update, Call.read_bind, found]
  rfl

theorem ledger_markTerminal {id : UUID} {record : OpportunityRecord} (found : s.opportunities.get? id = some record)
    {disposition : OpportunityDisposition} (terminal : disposition.isTerminal = true) (nowNs : Nat) (reason : Option String) :
    ∃ after : OpportunityRecord, after.disposition = disposition ∧
      ledger (OpportunityLedger.markTerminal id disposition nowNs reason) s =
        (.ok (), { s with opportunities := s.opportunities.insert id after }) := by
  refine ⟨{ record with
    completedMonotonicNs := some nowNs
    disposition := disposition
    reasonCodes := OpportunityLedger.addReason reason record.reasonCodes }, rfl, ?_⟩
  simp only [OpportunityLedger.markTerminal, terminal, Bool.not_true, Bool.false_eq_true, if_false]
  exact ledger_update found _

/-! ## Moving one job -/

/-- What the calls on jobs that are on the books keep. -/
structure Advance (s t : WorkloadScheduler) : Prop where
  occupied : Occupied s.cores s.active → Occupied t.cores t.active
  terminal : ∀ id record, s.opportunities.get? id = some record → record.disposition.isTerminal = true →
    t.opportunities.get? id = some record

theorem Advance.refl (s : WorkloadScheduler) : Advance s s := ⟨id, fun _ _ found _ => found⟩

theorem Advance.trans {u : WorkloadScheduler} (first : Advance s t) (second : Advance t u) : Advance s u where
  occupied before := second.occupied (first.occupied before)
  terminal id record found ended := second.terminal id record (first.terminal id record found ended) ended

theorem Untouched.advance (untouched : Untouched s t) : Advance s t where
  occupied before := by
    rw [untouched.cores, untouched.active]
    exact before
  terminal id record found _ := by
    rw [untouched.opportunities]
    exact found

/-- A job in the pool has an unsettled record. -/
theorem waiting_record (booked : Booked s.cores pool s.opportunities) {ref : Nat} {core : JobCore}
    (found : s.cores[ref]? = some core) (member : ref ∈ pool) :
    core.status.isWaiting = true ∧ ∃ record, s.opportunities.get? core.opportunityId = some record ∧
      record.disposition.isTerminal = false := by
  obtain ⟨_, atRef, waits⟩ := (booked.waiting ref).mp member
  rw [found] at atRef
  obtain rfl := Option.some.inj atRef
  obtain ⟨_, record, looked, fits⟩ := booked.entry ref core found
  refine ⟨waits, record, looked, fits.trans ?_⟩
  revert waits
  cases core.status <;> decide

/-- Rewriting a record that is not terminal keeps those that are. -/
theorem terminal_of_insert {id : UUID} {current record : OpportunityRecord}
    (found : s.opportunities.get? id = some current) (unsettled : current.disposition.isTerminal = false)
    (opportunities : t.opportunities = s.opportunities.insert id record) (other : UUID) (old : OpportunityRecord)
    (looked : s.opportunities.get? other = some old) (ended : old.disposition.isTerminal = true) :
    t.opportunities.get? other = some old := by
  have apart : other ≠ id := by
    rintro rfl
    rw [found] at looked
    obtain rfl := Option.some.inj looked
    rw [unsettled] at ended
    cases ended
  rw [opportunities, Dict.get?_insert, if_neg apart]
  exact looked

/-- One job changes its status and its record is rewritten to match. -/
theorem booked_of_move (booked : Booked s.cores pool s.opportunities) {ref : Nat} {core : JobCore}
    (found : s.cores[ref]? = some core) {status : JobStatus} (known : status ≠ .cancelled) {record : OpportunityRecord}
    (fits : record.disposition.isTerminal = status.isSettled) {pool' : List Nat} (nodup : pool'.Nodup)
    (waiting : ∀ k, k ∈ pool' ↔ if k = ref then status.isWaiting = true else k ∈ pool)
    (cores : t.cores = s.cores.modify ref (JobCore.withStatus status))
    (opportunities : t.opportunities = s.opportunities.insert core.opportunityId record) :
    Booked t.cores pool' t.opportunities := by
  rw [cores, opportunities]
  exact booked.move found known fits nodup waiting

/-- A waiting job gets another status than running, and its record is rewritten
    to match. -/
theorem advance_of_move (booked : Booked s.cores pool s.opportunities) {ref : Nat} {core : JobCore}
    (found : s.cores[ref]? = some core) (member : ref ∈ pool) (status : JobStatus) (idle : status ≠ .running)
    {record : OpportunityRecord} (active : t.active = s.active)
    (cores : t.cores = s.cores.modify ref (JobCore.withStatus status))
    (opportunities : t.opportunities = s.opportunities.insert core.opportunityId record) : Advance s t := by
  obtain ⟨waits, current, atJob, unsettled⟩ := waiting_record booked found member
  refine ⟨?_, terminal_of_insert atJob unsettled opportunities⟩
  intro before
  rw [cores, active]
  apply before.idle found ?_ idle
  intro running
  rw [running] at waits
  cases waits

theorem rejectJob_apply (booked : Booked s.cores pool s.opportunities) {ref : Nat} {job : JobRequest}
    (found : s.cores[ref]? = some job.core) (member : ref ∈ pool) (nowNs : Nat) (reason : String) :
    ∃ t, rejectJob ref job nowNs reason s = (.ok (), t) ∧ t.queue = s.queue ∧
      Booked t.cores (pool.erase ref) t.opportunities ∧ Advance s t := by
  let marked := s.setJob ref (fun job => { job with
    status := .rejected, reasonCodes := addCode reason job.reasonCodes })
  obtain ⟨_, record, looked, _⟩ := waiting_record booked found member
  have kept : marked.opportunities.get? job.opportunityId = some record := looked
  have skipped : OpportunityDisposition.skipped.isTerminal = true := rfl
  obtain ⟨after, disposition, marks⟩ := ledger_markTerminal kept skipped nowNs (some reason)
  have call : rejectJob ref job nowNs reason s =
      (.ok (), { marked with opportunities := marked.opportunities.insert job.opportunityId after }) := by
    rw [rejectJob, Call.modify_bind]
    exact marks
  have cores : marked.cores = s.cores.modify ref (JobCore.withStatus .rejected) := setJob_cores (fun _ => rfl)
  have waiting : ∀ k, k ∈ pool.erase ref ↔ if k = ref then JobStatus.rejected.isWaiting = true else k ∈ pool := by
    intro k
    rw [booked.nodup.mem_erase_iff]
    by_cases same : k = ref <;> simp [same, JobStatus.isWaiting]
  refine ⟨_, call, rfl, ?_, advance_of_move booked found member .rejected (by decide) rfl cores rfl⟩
  exact booked_of_move booked found (by decide) (congrArg _ disposition) (booked.nodup.erase ref) waiting cores rfl

theorem deferJob_apply (booked : Booked s.cores pool s.opportunities) {ref : Nat} {job : JobRequest}
    (found : s.cores[ref]? = some job.core) (member : ref ∈ pool) :
    ∃ t, deferJob ref job s = (.ok (), t) ∧ t.queue = s.queue ∧
      Booked t.cores pool t.opportunities ∧ Advance s t := by
  let marked := { s.setJob ref (fun job => { job with
      deferralCount := job.deferralCount + 1
      status := .deferred
      reasonCodes := addCode "resource_admission_deferred" job.reasonCodes }) with
    deferredIds := if job.jobId ∈ s.deferredIds then s.deferredIds else s.deferredIds ++ [job.jobId] }
  obtain ⟨_, record, looked, _⟩ := waiting_record booked found member
  have kept : marked.opportunities.get? job.opportunityId = some record := looked
  have call : deferJob ref job s = (.ok (), { marked with
      opportunities := marked.opportunities.insert job.opportunityId { record with
        disposition := .deferred
        reasonCodes := addCode "resource_admission_deferred" record.reasonCodes } }) := by
    rw [deferJob, Call.modify_bind]
    exact ledger_update kept _
  have cores : marked.cores = s.cores.modify ref (JobCore.withStatus .deferred) :=
    setJob_cores (s := s) (fun _ => rfl)
  have waiting : ∀ k, k ∈ pool ↔ if k = ref then JobStatus.deferred.isWaiting = true else k ∈ pool := by
    intro k
    by_cases same : k = ref <;> simp [same, JobStatus.isWaiting, member]
  refine ⟨_, call, rfl, ?_, advance_of_move booked found member .deferred (by decide) rfl cores rfl⟩
  exact booked_of_move booked found (by decide) rfl booked.nodup waiting cores rfl

/-! ## The dispatch loop -/

/-- The popped job and the scheduler its admission check leaves. -/
theorem pop_checked (booked : Booked s.cores pool s.opportunities) {item : QueueItem} (member : item.job ∈ pool)
    (rest : List QueueItem) (resources : ResourceSnapshot) (nowNs : Nat) :
    ∃ job checked, s.jobs[item.job]? = some job ∧
      ({ s with queue := rest }.admissible item.job job resources nowNs).2 = checked ∧ Advance s checked ∧
      Booked checked.cores pool checked.opportunities ∧ checked.cores[item.job]? = some job.core ∧
      checked.queue = rest := by
  obtain ⟨core, atItem, _⟩ := (booked.waiting item.job).mp member
  obtain ⟨job, found, rfl⟩ : ∃ job, s.jobs[item.job]? = some job ∧ job.core = core := by
    simpa [cores] using atItem
  have untouched := admissible_untouched { s with queue := rest } item.job job resources nowNs
  have pops : Advance s { s with queue := rest } := ⟨id, fun _ _ looked _ => looked⟩
  refine ⟨job, _, found, rfl, pops.trans untouched.advance, ?_, ?_, untouched.queue⟩
  · rw [untouched.cores, untouched.opportunities]
    exact booked
  · rw [untouched.cores]
    exact atItem

/-- Where the loop ends, with the items it holds back counted as waiting: a
    selected job is still on the books as waiting. -/
structure Followed (s : WorkloadScheduler) (size : Nat) (selected : Option (Nat × JobRequest)) (held : List QueueItem)
    (t : WorkloadScheduler) : Prop where
  advance : Advance s t
  booked : Booked t.cores ((selected.map Prod.fst).toList ++ (refs held ++ refs t.queue)) t.opportunities
  shorter : held.length + t.queue.length ≤ size
  chosen : ∀ ref job, selected = some (ref, job) → t.cores[ref]? = some job.core

theorem Followed.after {middle : WorkloadScheduler} {size more : Nat} {selected : Option (Nat × JobRequest)}
    {held : List QueueItem} (advance : Advance s middle) (followed : Followed middle size selected held t)
    (fits : size ≤ more) : Followed s more selected held t where
  advance := advance.trans followed.advance
  booked := followed.booked
  shorter := followed.shorter.trans fits
  chosen := followed.chosen

/-- A rejected job leaves the pool of held and waiting ones. -/
theorem refs_erase_popped {held rest : List QueueItem} {item : QueueItem}
    (nodup : (refs held ++ refs (item :: rest)).Nodup) :
    (refs held ++ refs (item :: rest)).erase item.job = refs held ++ refs rest := by
  have apart : item.job ∉ refs held := by
    intro earlier
    simp only [refs, List.map_cons] at nodup earlier
    exact (List.disjoint_of_nodup_append nodup earlier) List.mem_cons_self
  rw [List.erase_append_right _ apart]
  simp [refs]

/-- The loop ends without raising. -/
theorem dispatchLoop_apply (resources : ResourceSnapshot) (nowNs : Nat) (items held : List QueueItem)
    (queue : s.queue = items) (booked : Booked s.cores (refs held ++ refs items) s.opportunities) :
    ∃ selected held' t, dispatchLoop resources nowNs items held s = (.ok (selected, held'), t) ∧
      Followed s (held.length + items.length) selected held' t := by
  induction items generalizing s held with
  | nil =>
      refine ⟨none, held, s, rfl, Advance.refl s, ?_, ?_, by simp⟩
      · rw [queue]
        exact booked
      · rw [queue]
  | cons item rest ih =>
      have member : item.job ∈ refs held ++ refs (item :: rest) := by simp [refs]
      obtain ⟨job, checked, found, checks, advance, bookedChecked, atChecked, queueChecked⟩ :=
        pop_checked booked member rest resources nowNs
      rw [dispatchLoop_cons resources nowNs item rest held found, checks]
      cases ({ s with queue := rest }.admissible item.job job resources nowNs).1 with
      | mk admitted terminal =>
          cases terminal with
          | some reason =>
              obtain ⟨after, call, queueAfter, bookedAfter, advanceAfter⟩ :=
                rejectJob_apply bookedChecked atChecked member nowNs reason
              rw [refs_erase_popped booked.nodup] at bookedAfter
              obtain ⟨selected, held', t, loop, followed⟩ := ih held (queueAfter.trans queueChecked) bookedAfter
              refine ⟨selected, held', t, ?_, followed.after (advance.trans advanceAfter) ?_⟩
              · simp only
                rw [Call.bind_of_ok call]
                exact loop
              · simp only [List.length_cons]
                omega
          | none =>
              cases admitted with
              | true =>
                  refine ⟨some (item.job, job), held, checked, rfl, advance, ?_, ?_, ?_⟩
                  · rw [queueChecked]
                    apply bookedChecked.perm
                    simp only [Option.map_some, Option.toList_some, refs, List.map_cons, List.singleton_append]
                    exact List.perm_middle.symm
                  · rw [queueChecked, List.length_cons]
                    omega
                  · rintro ref chosen ⟨rfl, rfl⟩
                    exact atChecked
              | false =>
                  obtain ⟨after, call, queueAfter, bookedAfter, advanceAfter⟩ :=
                    deferJob_apply bookedChecked atChecked member
                  have pool : refs held ++ refs (item :: rest) = refs (held ++ [item]) ++ refs rest := by simp [refs]
                  rw [pool] at bookedAfter
                  obtain ⟨selected, held', t, loop, followed⟩ :=
                    ih (held ++ [item]) (queueAfter.trans queueChecked) bookedAfter
                  refine ⟨selected, held', t, ?_, followed.after (advance.trans advanceAfter) ?_⟩
                  · simp only
                    rw [Call.bind_of_ok call]
                    exact loop
                  · simp only [List.length_append, List.length_cons, List.length_nil]
                    omega

/-! ## Starting a job -/

theorem heappush_perm (item : QueueItem) (items : List QueueItem) : (heappush item items).Perm (item :: items) := by
  induction items with
  | nil => exact List.Perm.refl _
  | cons head rest ih =>
      simp only [heappush]
      split
      · exact List.Perm.refl _
      · exact (ih.cons head).trans (List.Perm.swap item head rest)

theorem pushedBack_perm (t : WorkloadScheduler) (held : List QueueItem) :
    (t.pushedBack held).queue.Perm (held ++ t.queue) := by
  have pushed : ∀ queue : List QueueItem,
      (held.foldl (fun queue item => heappush item queue) queue).Perm (held ++ queue) := by
    induction held with
    | nil => exact fun queue => List.Perm.refl queue
    | cons item held ih =>
        intro queue
        exact (ih (heappush item queue)).trans (((heappush_perm item queue).append_left held).trans List.perm_middle)
  exact pushed t.queue

theorem startJob_apply {ref : Nat} {job : JobRequest} (booked : Booked s.cores (ref :: pool) s.opportunities)
    (found : s.cores[ref]? = some job.core) (nowNs : Nat) :
    ∃ t, startJob ref job nowNs s = (.ok (), t) ∧ t.queue = s.queue ∧
      Booked t.cores pool t.opportunities ∧ Advance s t := by
  let marked := { s.setJob ref (fun job => { job with
      status := .running
      serviceStartedMonotonicNs := some nowNs }) with
    deferredIds := s.deferredIds.filter (fun id => id ≠ job.jobId)
    active := s.active.insert job.jobId ref }
  obtain ⟨waits, record, looked, unsettled⟩ := waiting_record booked found List.mem_cons_self
  have kept : marked.opportunities.get? job.opportunityId = some record := looked
  have call : startJob ref job nowNs s = (.ok (), { marked with
      opportunities := marked.opportunities.insert job.opportunityId { record with
        serviceStartedMonotonicNs := some nowNs } }) := by
    rw [startJob, Call.modify_bind]
    exact ledger_update kept _
  have cores : marked.cores = s.cores.modify ref (JobCore.withStatus .running) :=
    setJob_cores (s := s) (fun _ => rfl)
  obtain ⟨absent, nodup⟩ := List.nodup_cons.mp booked.nodup
  have waiting : ∀ k, k ∈ pool ↔ if k = ref then JobStatus.running.isWaiting = true else k ∈ ref :: pool := by
    intro k
    by_cases same : k = ref
    · simp [same, absent, JobStatus.isWaiting]
    · simp [same]
  refine ⟨_, call, rfl, ?_, ?_, terminal_of_insert looked unsettled rfl⟩
  · exact booked_of_move booked found (by decide) unsettled nodup waiting cores rfl
  · intro before
    have occupied := before.start found
    rw [← cores] at occupied
    exact occupied

theorem dispatch_apply (booked : Booked s.cores (refs s.queue) s.opportunities) (resources : ResourceSnapshot) (nowNs : Nat) :
    ∃ result t, dispatch resources nowNs s = (.ok result, t) ∧ Booked t.cores (refs t.queue) t.opportunities ∧
      t.queue.length ≤ s.queue.length ∧ Advance s t := by
  by_cases filled : s.queue = []
  · refine ⟨none, s, ?_, booked, Nat.le_refl _, Advance.refl s⟩
    rw [dispatch, Call.read_bind, filled]
    rfl
  · obtain ⟨selected, held, t, loop, advance, bookedLoop, shorter, chosen⟩ :=
      dispatchLoop_apply resources nowNs s.queue [] rfl booked
    have pushed := pushedBack_perm t held
    have fits : (t.pushedBack held).queue.length ≤ s.queue.length := by
      rw [pushed.length_eq, List.length_append]
      simpa using shorter
    have back : (refs held ++ refs t.queue).Perm (refs (t.pushedBack held).queue) := by
      have mapped := (pushed.map QueueItem.job).symm
      rwa [List.map_append] at mapped
    have advanceBack : Advance s (t.pushedBack held) := advance.trans ⟨id, fun _ _ found _ => found⟩
    rw [dispatch_of_loop filled loop]
    cases selected with
    | none => exact ⟨none, t.pushedBack held, rfl, bookedLoop.perm back.symm, fits, advanceBack⟩
    | some choice =>
        rcases choice with ⟨ref, job⟩
        have bookedBack : Booked (t.pushedBack held).cores (ref :: refs (t.pushedBack held).queue)
            (t.pushedBack held).opportunities := bookedLoop.perm (back.symm.cons ref)
        obtain ⟨after, call, queue, bookedAfter, advanceAfter⟩ := startJob_apply bookedBack (chosen ref job rfl) nowNs
        refine ⟨some ref, after, ?_, ?_, ?_, advanceBack.trans advanceAfter⟩
        · rw [startSelected, Call.bind_of_ok call]
          rfl
        · rw [queue]
          exact bookedAfter
        · rw [queue]
          exact fits

end WorkloadScheduler

end SentinelEdge.Runtime
