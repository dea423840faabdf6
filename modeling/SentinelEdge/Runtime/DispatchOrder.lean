import Mathlib.Data.List.Sort
import Mathlib.Data.List.TakeWhile
import SentinelEdge.Foundation.Lockstep
import SentinelEdge.Runtime.Isolation

/-! # The order of dispatch

The loop of `dispatch` follows the heap up to the first job that may start. Whether a
job may start depends on what no turn of the loop changes, so it can be said of the
scheduler before the call. Wall times are among the things no call reads.
-/

namespace SentinelEdge.Runtime

open Foundation Domain

/-! ## The order of the heap -/

namespace QueueItem

theorem before_iff {a b : QueueItem} : a.before b = true ↔
    a.tier < b.tier ∨ (a.tier = b.tier ∧ (a.deadlineNs < b.deadlineNs ∨ (a.deadlineNs = b.deadlineNs ∧ a.job ≤ b.job))) := by
  simp [before]

instance : Std.Total (fun a b : QueueItem => a.before b = true) where
  total a b := by
    rw [before_iff, before_iff]
    omega

instance : IsTrans QueueItem (fun a b => a.before b = true) where
  trans a b c := by
    simp only [before_iff]
    omega

theorem before_antisymm {a b : QueueItem} (forward : a.before b = true) (backward : b.before a = true) : a = b := by
  rw [before_iff] at forward backward
  cases a
  cases b
  simp only [QueueItem.mk.injEq] at *
  omega

end QueueItem

theorem heappush_eq (item : QueueItem) (items : List QueueItem) :
    heappush item items = items.orderedInsert (fun a b => a.before b = true) item := by
  induction items with
  | nil => rfl
  | cons head rest ih => simp [heappush, ih]

theorem heappush_sorted (item : QueueItem) {items : List QueueItem}
    (sorted : items.Pairwise (fun a b => a.before b = true)) : (heappush item items).Pairwise (fun a b => a.before b = true) := by
  rw [heappush_eq]
  exact sorted.orderedInsert item items

/-- The heap entry of a job. -/
def itemOf (ref : Nat) (job : JobRequest) : QueueItem := ⟨job.workload.tier.level, job.deadlineMonotonicNs, ref⟩

/-- What the admission check reads of a job. -/
def JobRequest.terms (job : JobRequest) : WorkloadSpec × Nat × Nat :=
  (job.workload, job.releasedMonotonicNs, job.deadlineMonotonicNs)

/-- A job that may neither start nor wait any longer. -/
def JobRequest.rejectedFor (reason : String) (job : JobRequest) : JobRequest :=
  { job with status := .rejected, reasonCodes := addCode reason job.reasonCodes }

/-- A job that waits for a later dispatch. -/
def JobRequest.deferredAgain (job : JobRequest) : JobRequest :=
  { job with
    deferralCount := job.deferralCount + 1
    status := .deferred
    reasonCodes := addCode "resource_admission_deferred" job.reasonCodes }

namespace WorkloadScheduler

variable {s t : WorkloadScheduler} {P : Platform} {resources : ResourceSnapshot} {nowNs : Nat}

/-! ## The verdict on a job -/

/-- The reasons for which a job may not wait either. -/
def maxDeferralReasons : List String :=
  ["max_deferral_exceeded_insufficient_memory", "max_deferral_exceeded_reserve", "max_deferral_exceeded_overload"]

/-- What the admission check says of a heap entry. -/
def verdict (s : WorkloadScheduler) (resources : ResourceSnapshot) (nowNs : Nat) (item : QueueItem) :
    Option (Bool × Option String) :=
  (s.jobs[item.job]?).map (fun job => (s.admissible item.job job resources nowNs).1)

/-- The entry's job may start. -/
def startable (s : WorkloadScheduler) (resources : ResourceSnapshot) (nowNs : Nat) (item : QueueItem) : Bool :=
  s.verdict resources nowNs item = some (true, none)

/-- The entry's job may not start, but it may wait. -/
def waits (s : WorkloadScheduler) (resources : ResourceSnapshot) (nowNs : Nat) (item : QueueItem) : Bool :=
  s.verdict resources nowNs item = some (false, none)

/-- The verdict of the check, from all that it depends on. -/
def admission (blocked : Bool) (reserveMb : Int) (spec : WorkloadSpec) (elapsedNs : Int) (resources : ResourceSnapshot) :
    Bool × Option String :=
  let deferralExpired := decide (elapsedNs ≥ spec.maxDeferralMs * 1000000)
  if blocked then (false, none)
  else if resources.availableMemoryMb < spec.memoryMb then
    (false, if deferralExpired then some "max_deferral_exceeded_insufficient_memory" else none)
  else if spec.forcedScanMs.any (fun ms => ms ≠ 0 && elapsedNs ≥ ms * 1000000) then (true, none)
  else if spec.tier = .immediate then (true, none)
  else if (resources.availableMemoryMb : Int) - spec.memoryMb < reserveMb then
    if deferralExpired then
      if spec.tier.level ≤ CriticalityTier.timely.level then (true, none) else (false, some "max_deferral_exceeded_reserve")
    else (false, none)
  else if resources.overloaded then
    if spec.tier.level ≤ CriticalityTier.urgent.level then (true, none)
    else if deferralExpired && spec.tier.level ≤ CriticalityTier.timely.level then (true, none)
    else if deferralExpired then (false, some "max_deferral_exceeded_overload")
    else (false, none)
  else (true, none)

theorem admissible_fst (s : WorkloadScheduler) (ref : Nat) (job : JobRequest) (resources : ResourceSnapshot) (nowNs : Nat) :
    (s.admissible ref job resources nowNs).1 =
      admission (s.activeWorkloads.any (fun running => s.interferes running job.workload)) s.config.tierAReserveMemoryMb
        job.workload ((nowNs : Int) - job.releasedMonotonicNs) resources := by
  simp only [admissible, admission, apply_ite Prod.fst]

/-- The check rejects for one of three reasons, and never starts what it rejects. -/
theorem admission_cases (blocked : Bool) (reserveMb : Int) (spec : WorkloadSpec) (elapsedNs : Int)
    (resources : ResourceSnapshot) :
    admission blocked reserveMb spec elapsedNs resources = (true, none) ∨
      admission blocked reserveMb spec elapsedNs resources = (false, none) ∨
      ∃ reason ∈ maxDeferralReasons, admission blocked reserveMb spec elapsedNs resources = (false, some reason) := by
  unfold admission maxDeferralReasons
  dsimp only
  repeat' split
  all_goals simp

/-- What the verdicts depend on is the same, and no record is gone. -/
structure Lasting (s t : WorkloadScheduler) : Prop where
  config : t.config = s.config
  active : t.active = s.active
  terms : t.jobs.map JobRequest.terms = s.jobs.map JobRequest.terms
  opportunityIds : t.jobs.map JobRequest.opportunityId = s.jobs.map JobRequest.opportunityId
  recorded : ∀ id ∈ s.opportunities.keys, id ∈ t.opportunities.keys

theorem Lasting.refl (s : WorkloadScheduler) : Lasting s s := ⟨rfl, rfl, rfl, rfl, fun _ known => known⟩

theorem Lasting.trans {u : WorkloadScheduler} (first : Lasting s t) (second : Lasting t u) : Lasting s u where
  config := second.config.trans first.config
  active := second.active.trans first.active
  terms := second.terms.trans first.terms
  opportunityIds := second.opportunityIds.trans first.opportunityIds
  recorded id known := second.recorded id (first.recorded id known)

theorem Lasting.termsAt (lasting : Lasting s t) (ref : Nat) :
    (t.jobs[ref]?).map JobRequest.terms = (s.jobs[ref]?).map JobRequest.terms := by
  rw [← List.getElem?_map, lasting.terms, List.getElem?_map]

theorem activeWorkloads_of_terms (active : t.active = s.active)
    (terms : ∀ ref : Nat, (t.jobs[ref]?).map JobRequest.terms = (s.jobs[ref]?).map JobRequest.terms) :
    t.activeWorkloads = s.activeWorkloads := by
  unfold activeWorkloads
  rw [active]
  congr
  funext ref
  have workload : JobRequest.workload = Prod.fst ∘ JobRequest.terms := rfl
  rw [workload, ← Option.map_map, terms, Option.map_map]

theorem admissible_congr {ref : Nat} {job job' : JobRequest} (config : t.config = s.config)
    (active : t.activeWorkloads = s.activeWorkloads) (terms : job'.terms = job.terms) :
    (t.admissible ref job' resources nowNs).1 = (s.admissible ref job resources nowNs).1 := by
  simp only [JobRequest.terms, Prod.mk.injEq] at terms
  obtain ⟨workload, released, -⟩ := terms
  rw [admissible_fst, admissible_fst, config, active, workload, released]
  simp only [interferes_congr config]

theorem Lasting.verdict (lasting : Lasting s t) (item : QueueItem) :
    t.verdict resources nowNs item = s.verdict resources nowNs item := by
  have terms := lasting.termsAt item.job
  have active := activeWorkloads_of_terms lasting.active lasting.termsAt
  unfold WorkloadScheduler.verdict
  cases after : t.jobs[item.job]? with
  | none =>
      rw [after] at terms
      rw [Option.map_eq_none_iff.mp terms.symm]
      rfl
  | some job' =>
      rw [after] at terms
      obtain ⟨job, before, same⟩ := Option.map_eq_some_iff.mp terms.symm
      rw [before]
      exact congrArg some (admissible_congr lasting.config active same.symm)

theorem Lasting.startable (lasting : Lasting s t) : t.startable resources nowNs = s.startable resources nowNs := by
  funext item
  simp only [WorkloadScheduler.startable, lasting.verdict]

theorem Lasting.waits (lasting : Lasting s t) : t.waits resources nowNs = s.waits resources nowNs := by
  funext item
  simp only [WorkloadScheduler.waits, lasting.verdict]

/-! ## One turn of the loop -/

theorem map_setJob {β : Type} {f : JobRequest → β} {ref : Nat} {change : JobRequest → JobRequest}
    (kept : ∀ job, f (change job) = f job) : (s.setJob ref change).jobs.map f = s.jobs.map f := by
  apply List.ext_getElem?
  intro k
  simp only [setJob, List.getElem?_map, List.getElem?_modify]
  by_cases same : ref = k
  · cases s.jobs[k]? <;> simp [same, kept]
  · simp [same]

theorem jobs_setJob_of_ne {ref k : Nat} (change : JobRequest → JobRequest) (apart : k ≠ ref) :
    (s.setJob ref change).jobs[k]? = s.jobs[k]? := by
  simp [setJob, Ne.symm apart]

theorem jobs_setJob_self {ref : Nat} (change : JobRequest → JobRequest) :
    (s.setJob ref change).jobs[ref]? = (s.jobs[ref]?).map change := by
  simp [setJob]

/-- A change of one job that leaves its terms and its opportunity. -/
theorem Lasting.setJob {ref : Nat} {change : JobRequest → JobRequest} (terms : ∀ job, (change job).terms = job.terms)
    (opportunity : ∀ job, (change job).opportunityId = job.opportunityId) : Lasting s (s.setJob ref change) where
  config := rfl
  active := rfl
  terms := map_setJob terms
  opportunityIds := map_setJob opportunity
  recorded _ known := known

theorem update_keys {id : UUID} (recorded : id ∈ s.opportunities.keys) (change : OpportunityRecord → OpportunityRecord) :
    ∃ opportunities : OpportunityLedger, opportunities.keys = s.opportunities.keys ∧
      ledger (OpportunityLedger.update id change) s = (.ok (), { s with opportunities := opportunities }) := by
  obtain ⟨record, found⟩ := Option.isSome_iff_exists.mp (Dict.mem_keys_iff.mp recorded)
  refine ⟨s.opportunities.insert id (change record), ?_, ledger_update found change⟩
  rw [Dict.keys_insert, if_pos recorded]

theorem rejectJob_passes (ref : Nat) {job : JobRequest} (recorded : job.opportunityId ∈ s.opportunities.keys) (nowNs : Nat)
    (reason : String) : ∃ t, rejectJob ref job nowNs reason s = (.ok (), t) ∧ Lasting s t ∧ t.queue = s.queue ∧
      t.jobs = s.jobs.modify ref (JobRequest.rejectedFor reason) := by
  let marked := s.setJob ref (JobRequest.rejectedFor reason)
  have marks : Lasting s marked := Lasting.setJob (fun _ => rfl) (fun _ => rfl)
  obtain ⟨opportunities, keys, call⟩ := update_keys (s := marked) recorded (fun record => { record with
    completedMonotonicNs := some nowNs
    disposition := .skipped
    reasonCodes := OpportunityLedger.addReason (some reason) record.reasonCodes })
  have terminal : OpportunityLedger.markTerminal job.opportunityId .skipped nowNs (some reason) =
      OpportunityLedger.update job.opportunityId (fun record => { record with
        completedMonotonicNs := some nowNs
        disposition := .skipped
        reasonCodes := OpportunityLedger.addReason (some reason) record.reasonCodes }) := rfl
  refine ⟨{ marked with opportunities := opportunities }, ?_, ⟨rfl, rfl, marks.terms, marks.opportunityIds, ?_⟩, rfl, rfl⟩
  · rw [rejectJob, Call.modify_bind, terminal]
    exact call
  · intro id known
    rw [keys]
    exact known

theorem deferJob_passes (ref : Nat) {job : JobRequest} (recorded : job.opportunityId ∈ s.opportunities.keys) :
    ∃ t, deferJob ref job s = (.ok (), t) ∧ Lasting s t ∧ t.queue = s.queue ∧
      t.jobs = s.jobs.modify ref JobRequest.deferredAgain := by
  let marked := { s.setJob ref JobRequest.deferredAgain with
    deferredIds := if job.jobId ∈ s.deferredIds then s.deferredIds else s.deferredIds ++ [job.jobId] }
  have marks : Lasting s (s.setJob ref JobRequest.deferredAgain) := Lasting.setJob (fun _ => rfl) (fun _ => rfl)
  obtain ⟨opportunities, keys, call⟩ := update_keys (s := marked) recorded (fun record => { record with
    disposition := .deferred
    reasonCodes := addCode "resource_admission_deferred" record.reasonCodes })
  refine ⟨{ marked with opportunities := opportunities }, ?_, ⟨rfl, rfl, marks.terms, marks.opportunityIds, ?_⟩, rfl, rfl⟩
  · rw [deferJob, Call.modify_bind]
    exact call
  · intro id known
    rw [keys]
    exact known

/-- What the check leaves: at most the reasons of its own job have changed, and not if it
    may start. -/
theorem admissible_passes (s : WorkloadScheduler) (ref : Nat) (job : JobRequest) (resources : ResourceSnapshot) (nowNs : Nat) :
    Lasting s (s.admissible ref job resources nowNs).2 ∧
      ((s.admissible ref job resources nowNs).2.jobs = s.jobs ∨
        ((s.admissible ref job resources nowNs).1 = (false, none) ∧
          (s.admissible ref job resources nowNs).2.jobs = s.jobs.modify ref (fun job =>
            { job with reasonCodes := addCode "unknown_tier_a_interference_serialized" job.reasonCodes }))) := by
  unfold admissible
  dsimp only
  split
  · exact ⟨Lasting.setJob (fun _ => rfl) (fun _ => rfl), Or.inr ⟨rfl, rfl⟩⟩
  · have unchanged : ∀ t : WorkloadScheduler, t.config = s.config → t.active = s.active → t.jobs = s.jobs →
        t.opportunities = s.opportunities → Lasting s t := by
      intro t config active jobs opportunities
      exact ⟨config, active, by rw [jobs], by rw [jobs], by simp [opportunities]⟩
    repeat' split
    all_goals exact ⟨unchanged _ rfl rfl rfl rfl, Or.inl rfl⟩

/-- What becomes of a job that the loop passes over. -/
def PassedOver (s : WorkloadScheduler) (resources : ResourceSnapshot) (nowNs : Nat) (t : WorkloadScheduler)
    (item : QueueItem) : Prop :=
  ∃ job, t.jobs[item.job]? = some job ∧
    if s.waits resources nowNs item then job.status = .deferred
    else job.status = .rejected ∧ ∃ reason ∈ maxDeferralReasons, reason ∈ job.reasonCodes

theorem mem_addCode (reason : String) (codes : List String) : reason ∈ addCode reason codes := by
  unfold addCode
  split
  · assumption
  · simp

/-- The popped job, and what the check leaves. -/
theorem pop_passes (resources : ResourceSnapshot) (nowNs : Nat) {item : QueueItem} {job : JobRequest} (found : s.jobs[item.job]? = some job) {popped : WorkloadScheduler}
    {rest : List QueueItem} (pops : popped = { s with queue := rest }) :
    s.verdict resources nowNs item = some (popped.admissible item.job job resources nowNs).1 ∧
      Lasting s (popped.admissible item.job job resources nowNs).2 ∧
      (popped.admissible item.job job resources nowNs).2.queue = rest ∧
      ((popped.admissible item.job job resources nowNs).2.jobs = s.jobs ∨
        ((popped.admissible item.job job resources nowNs).1 = (false, none) ∧
          (popped.admissible item.job job resources nowNs).2.jobs = s.jobs.modify item.job (fun job =>
            { job with reasonCodes := addCode "unknown_tier_a_interference_serialized" job.reasonCodes }))) := by
  have same : (popped.admissible item.job job resources nowNs).1 = (s.admissible item.job job resources nowNs).1 := by
    rw [pops]
    exact admissible_congr rfl rfl rfl
  have lasts : Lasting s popped := by
    rw [pops]
    exact ⟨rfl, rfl, rfl, rfl, fun _ known => known⟩
  have jobs : popped.jobs = s.jobs := by rw [pops]
  obtain ⟨checks, leaves⟩ := admissible_passes popped item.job job resources nowNs
  refine ⟨?_, lasts.trans checks, ?_, ?_⟩
  · rw [WorkloadScheduler.verdict, found, Option.map_some, same]
  · rw [(admissible_untouched popped item.job job resources nowNs).queue, pops]
  · rw [← jobs]
    exact leaves

/-- A turn on a job that may start. -/
theorem turn_starts {item : QueueItem} {job : JobRequest} (found : s.jobs[item.job]? = some job)
    (starts : s.startable resources nowNs item = true) (rest held : List QueueItem) :
    ∃ t, dispatchLoop resources nowNs (item :: rest) held s = (.ok (some (item.job, job), held), t) ∧ Lasting s t ∧
      t.queue = rest ∧ t.jobs = s.jobs := by
  obtain ⟨popped, pops⟩ : ∃ popped, popped = { s with queue := rest } := ⟨_, rfl⟩
  obtain ⟨verdict, lasting, queue, jobs⟩ := pop_passes resources nowNs found pops
  have admits : (popped.admissible item.job job resources nowNs).1 = (true, none) := by
    simpa [startable, verdict] using starts
  refine ⟨_, ?_, lasting, queue, ?_⟩
  · rw [dispatchLoop_cons resources nowNs item rest held found, ← pops, admits]
    rfl
  · cases jobs with
    | inl same => exact same
    | inr waits =>
        rw [admits] at waits
        cases waits.1

/-- A turn on a job that may not start. -/
theorem turn_passes {item : QueueItem} {job : JobRequest} (found : s.jobs[item.job]? = some job)
    (recorded : job.opportunityId ∈ s.opportunities.keys) (stays : s.startable resources nowNs item = false)
    (rest held : List QueueItem) :
    ∃ middle, dispatchLoop resources nowNs (item :: rest) held s =
        dispatchLoop resources nowNs rest (held ++ [item].filter (s.waits resources nowNs)) middle ∧
      Lasting s middle ∧ middle.queue = rest ∧ (∀ k ≠ item.job, middle.jobs[k]? = s.jobs[k]?) ∧
      PassedOver s resources nowNs middle item := by
  obtain ⟨popped, pops⟩ : ∃ popped, popped = { s with queue := rest } := ⟨_, rfl⟩
  obtain ⟨verdict, lasting, queue, jobs⟩ := pop_passes resources nowNs found pops
  have known := lasting.recorded _ recorded
  have others : ∀ k ≠ item.job, (popped.admissible item.job job resources nowNs).2.jobs[k]? = s.jobs[k]? := by
    intro k apart
    cases jobs with
    | inl same => rw [same]
    | inr waits => simp [waits.2, Ne.symm apart]
  have here : ∃ own, (popped.admissible item.job job resources nowNs).2.jobs[item.job]? = some own := by
    cases jobs with
    | inl same => exact ⟨job, by rw [same, found]⟩
    | inr waits => simp [waits.2, found]
  obtain ⟨own, here⟩ := here
  rw [dispatchLoop_cons resources nowNs item rest held found, ← pops]
  rcases admission_cases (popped.activeWorkloads.any (fun running => popped.interferes running job.workload))
    popped.config.tierAReserveMemoryMb job.workload ((nowNs : Int) - job.releasedMonotonicNs) resources
    with starts | waits | ⟨reason, among, rejects⟩
  · rw [← admissible_fst popped item.job job resources nowNs] at starts
    simp [startable, verdict, starts] at stays
  · rw [← admissible_fst popped item.job job resources nowNs] at waits
    obtain ⟨middle, call, defers, sameQueue, after⟩ := deferJob_passes item.job known
    have waiting : s.waits resources nowNs item = true := by simp [WorkloadScheduler.waits, verdict, waits]
    refine ⟨middle, ?_, lasting.trans defers, sameQueue.trans queue, ?_, ?_⟩
    · have holds : [item].filter (s.waits resources nowNs) = [item] := by simp [waiting]
      rw [waits, holds]
      exact Call.bind_of_ok call
    · intro k apart
      simp [after, Ne.symm apart, others k apart]
    · refine ⟨own.deferredAgain, by simp [after, here], ?_⟩
      rw [if_pos waiting]
      rfl
  · rw [← admissible_fst popped item.job job resources nowNs] at rejects
    obtain ⟨middle, call, marks, sameQueue, after⟩ := rejectJob_passes item.job known nowNs reason
    have gone : s.waits resources nowNs item = false := by simp [WorkloadScheduler.waits, verdict, rejects]
    refine ⟨middle, ?_, lasting.trans marks, sameQueue.trans queue, ?_, ?_⟩
    · have drops : [item].filter (s.waits resources nowNs) = [] := by simp [gone]
      rw [rejects, drops, List.append_nil]
      exact Call.bind_of_ok call
    · intro k apart
      simp [after, Ne.symm apart, others k apart]
    · refine ⟨own.rejectedFor reason, by simp [after, here], ?_⟩
      rw [gone]
      exact ⟨rfl, reason, among, mem_addCode reason own.reasonCodes⟩

/-! ## The whole loop -/

/-- How a heap is walked: the entries in front of the first job that may start are passed
    over, those that wait are held, and the rest is not looked at. -/
structure Walked (s : WorkloadScheduler) (resources : ResourceSnapshot) (nowNs : Nat) (items held : List QueueItem)
    (selected : Option (Nat × JobRequest)) (held' : List QueueItem) (t : WorkloadScheduler) : Prop where
  lasting : Lasting s t
  selected : selected = (items.find? (s.startable resources nowNs)).bind (fun item =>
    (s.jobs[item.job]?).map (fun job => (item.job, job)))
  held : held' = held ++ (items.takeWhile (fun item => !s.startable resources nowNs item)).filter (s.waits resources nowNs)
  queue : t.queue = (items.dropWhile (fun item => !s.startable resources nowNs item)).tail
  others : ∀ k, k ∉ refs (items.takeWhile (fun item => !s.startable resources nowNs item)) → t.jobs[k]? = s.jobs[k]?
  passed : ∀ item ∈ items.takeWhile (fun item => !s.startable resources nowNs item), PassedOver s resources nowNs t item

theorem dispatchLoop_walks (resources : ResourceSnapshot) (nowNs : Nat) (items held : List QueueItem) (queue : s.queue = items) (distinct : (refs items).Nodup)
    (known : ∀ item ∈ items, ∃ job, s.jobs[item.job]? = some job)
    (recorded : ∀ job ∈ s.jobs, job.opportunityId ∈ s.opportunities.keys) :
    ∃ selected held' t, dispatchLoop resources nowNs items held s = (.ok (selected, held'), t) ∧
      Walked s resources nowNs items held selected held' t := by
  induction items generalizing s held with
  | nil =>
      refine ⟨none, held, s, rfl, Lasting.refl s, rfl, by simp, queue, ?_, by simp⟩
      exact fun _ _ => rfl
  | cons item rest ih =>
      obtain ⟨job, found⟩ := known item List.mem_cons_self
      cases starts : s.startable resources nowNs item with
      | true =>
          obtain ⟨t, loop, lasting, behind, jobs⟩ := turn_starts found starts rest held
          refine ⟨_, held, t, loop, lasting, ?_, ?_, ?_, ?_, ?_⟩
          · simp [starts, found]
          · simp [starts]
          · simp [starts, behind]
          · intro k _
            rw [jobs]
          · simp [starts]
      | false =>
          obtain ⟨apart, distinct⟩ := List.nodup_cons.mp distinct
          obtain ⟨middle, turn, lasting, behind, others, passed⟩ :=
            turn_passes found (recorded job (List.mem_of_getElem? found)) starts rest held
          have away : ∀ other ∈ rest, other.job ≠ item.job := by
            intro other member same
            exact apart (same ▸ List.mem_map_of_mem member)
          have knownMiddle : ∀ other ∈ rest, ∃ job, middle.jobs[other.job]? = some job := by
            intro other member
            rw [others other.job (away other member)]
            exact known other (List.mem_cons_of_mem _ member)
          have recordedMiddle : ∀ job ∈ middle.jobs, job.opportunityId ∈ middle.opportunities.keys := by
            intro own member
            have listed : own.opportunityId ∈ s.jobs.map JobRequest.opportunityId := by
              rw [← lasting.opportunityIds]
              exact List.mem_map_of_mem member
            obtain ⟨old, member, same⟩ := List.mem_map.mp listed
            exact lasting.recorded _ (same ▸ recorded old member)
          obtain ⟨selected, held', t, loop, walked⟩ := ih _ behind distinct knownMiddle recordedMiddle
          obtain ⟨last, chosen, holds, left, rests, passes⟩ := walked
          rw [lasting.startable, lasting.waits] at holds
          rw [lasting.startable] at chosen left rests passes
          refine ⟨selected, held', t, turn.trans loop, lasting.trans last, ?_, ?_, ?_, ?_, ?_⟩
          · rw [chosen, List.find?_cons_of_neg (by simp [starts])]
            cases first : rest.find? (s.startable resources nowNs) with
            | none => rfl
            | some other =>
                simp only [Option.bind_some]
                rw [others other.job (away other (List.mem_of_find?_eq_some first))]
          · rw [holds, List.takeWhile_cons_of_pos (by simp [starts]), List.append_assoc, ← List.filter_append]
            rfl
          · rw [left, List.dropWhile_cons_of_pos (by simp [starts])]
          · intro k outside
            rw [List.takeWhile_cons_of_pos (by simp [starts])] at outside
            simp only [refs, List.map_cons, List.mem_cons, not_or] at outside
            rw [rests k outside.2, others k outside.1]
          · intro other member
            rw [List.takeWhile_cons_of_pos (by simp [starts])] at member
            cases List.mem_cons.mp member with
            | inl same =>
                subst same
                have kept : t.jobs[other.job]? = middle.jobs[other.job]? := by
                  apply rests
                  intro again
                  obtain ⟨later, among, same⟩ := List.mem_map.mp again
                  exact away later ((List.takeWhile_sublist _).subset among) same
                unfold PassedOver
                rw [kept]
                exact passed
            | inr later =>
                have after := passes other later
                unfold PassedOver at after
                rw [lasting.waits] at after
                exact after

/-! ## What dispatch does to the queue -/

/-- How the heap of a scheduler stands: in order, each entry once and that of its job;
    and every job has a record in the ledger. -/
structure Queued (s : WorkloadScheduler) : Prop where
  sorted : s.queue.Pairwise (fun a b => a.before b = true)
  distinct : (refs s.queue).Nodup
  entries : ∀ item ∈ s.queue, ∃ job, s.jobs[item.job]? = some job ∧ item = itemOf item.job job
  recorded : ∀ job ∈ s.jobs, job.opportunityId ∈ s.opportunities.keys

theorem Queued.known (queued : Queued s) : ∀ item ∈ s.queue, ∃ job, s.jobs[item.job]? = some job := by
  intro item member
  obtain ⟨job, found, -⟩ := queued.entries item member
  exact ⟨job, found⟩

/-- A heap with entries of the same jobs is as it should be if it is in order. -/
theorem Queued.of_terms (queued : Queued s) (terms : t.jobs.map JobRequest.terms = s.jobs.map JobRequest.terms)
    (opportunityIds : t.jobs.map JobRequest.opportunityId = s.jobs.map JobRequest.opportunityId)
    (keys : ∀ id ∈ s.opportunities.keys, id ∈ t.opportunities.keys)
    (sorted : t.queue.Pairwise (fun a b => a.before b = true)) (distinct : (refs t.queue).Nodup)
    (within : ∀ item ∈ t.queue, item ∈ s.queue) : Queued t where
  sorted := sorted
  distinct := distinct
  entries item member := by
    obtain ⟨job, found, entry⟩ := queued.entries item (within item member)
    have same : (t.jobs[item.job]?).map JobRequest.terms = some job.terms := by
      rw [← List.getElem?_map, terms, List.getElem?_map, found]
      rfl
    obtain ⟨job', found', same⟩ := Option.map_eq_some_iff.mp same
    simp only [JobRequest.terms, Prod.mk.injEq] at same
    refine ⟨job', found', ?_⟩
    rw [itemOf, same.1, same.2.2]
    exact entry
  recorded job member := by
    have listed : job.opportunityId ∈ s.jobs.map JobRequest.opportunityId := by
      rw [← opportunityIds]
      exact List.mem_map_of_mem member
    obtain ⟨old, known, same⟩ := List.mem_map.mp listed
    exact keys _ (same ▸ queued.recorded old known)

/-- The job waits in the queue, once and deferred, or it is gone from there, rejected for
    having waited too long. -/
def PutOff (t : WorkloadScheduler) (item : QueueItem) : Prop :=
  (t.queue.count item = 1 ∧ ∃ job, t.jobs[item.job]? = some job ∧ job.status = .deferred) ∨
  (item ∉ t.queue ∧ ∃ job, t.jobs[item.job]? = some job ∧ job.status = .rejected ∧
    ∃ reason ∈ maxDeferralReasons, reason ∈ job.reasonCodes)

/-- The entry is the first that may start; its job runs, those before it are put off, and
    those behind it are left alone. -/
structure Chosen (s : WorkloadScheduler) (resources : ResourceSnapshot) (nowNs : Nat) (t : WorkloadScheduler)
    (item : QueueItem) : Prop where
  startable : s.startable resources nowNs item = true
  least : ∀ other ∈ s.queue, s.startable resources nowNs other = true → item.before other = true
  leaves : item ∉ t.queue
  runs : ∃ job, t.jobs[item.job]? = some job ∧ job.status = .running
  ahead : ∀ other ∈ s.queue, other ≠ item → other.before item = true → PutOff t other
  behind : ∀ other ∈ s.queue, other ≠ item → item.before other = true →
    t.queue.count other = 1 ∧ t.jobs[other.job]? = s.jobs[other.job]?

/-- What one dispatch does to the queue. -/
structure InOrder (s : WorkloadScheduler) (resources : ResourceSnapshot) (nowNs : Nat) (result : Option Nat)
    (t : WorkloadScheduler) : Prop where
  entries : ∀ item ∈ s.queue, ∃ job, s.jobs[item.job]? = some job ∧ item = itemOf item.job job
  idle : result = none ↔ ∀ item ∈ s.queue, s.startable resources nowNs item = false
  ahead : result = none → ∀ item ∈ s.queue, PutOff t item
  chosen : ∀ ref, result = some ref → ∃ item ∈ s.queue, item.job = ref ∧ Chosen s resources nowNs t item
  within : ∀ item ∈ t.queue, item ∈ s.queue
  others : ∀ ref, ref ∉ refs s.queue → t.jobs[ref]? = s.jobs[ref]?

/-- A list is what stands before the first item of a kind, that item and the rest. -/
theorem split_at_first {α : Type} (p : α → Bool) (items : List α) :
    items.takeWhile (fun item => !p item) ++ ((items.find? p).toList ++ (items.dropWhile (fun item => !p item)).tail) = items := by
  induction items with
  | nil => rfl
  | cons item rest ih =>
      cases holds : p item with
      | true => simp [holds]
      | false => simpa [holds] using ih

theorem pushedBack_sorted {held : List QueueItem} (sorted : t.queue.Pairwise (fun a b => a.before b = true)) :
    (t.pushedBack held).queue.Pairwise (fun a b => a.before b = true) := by
  have pushed : ∀ queue : List QueueItem, queue.Pairwise (fun a b => a.before b = true) →
      (held.foldl (fun queue item => heappush item queue) queue).Pairwise (fun a b => a.before b = true) := by
    induction held with
    | nil => exact fun queue sorted => sorted
    | cons item held ih => exact fun queue sorted => ih (heappush item queue) (heappush_sorted item sorted)
  exact pushed t.queue sorted

theorem startJob_passes (ref : Nat) {job : JobRequest} (recorded : job.opportunityId ∈ s.opportunities.keys) (nowNs : Nat) :
    ∃ t, startJob ref job nowNs s = (.ok (), t) ∧ t.queue = s.queue ∧ t.opportunities.keys = s.opportunities.keys ∧
      t.jobs = (s.setJob ref (fun job => { job with status := .running, serviceStartedMonotonicNs := some nowNs })).jobs := by
  let marked := { s.setJob ref (fun job => { job with
      status := .running
      serviceStartedMonotonicNs := some nowNs }) with
    deferredIds := s.deferredIds.filter (fun id => id ≠ job.jobId)
    active := s.active.insert job.jobId ref }
  obtain ⟨opportunities, keys, call⟩ := update_keys (s := marked) recorded (fun record => { record with
    serviceStartedMonotonicNs := some nowNs })
  refine ⟨{ marked with opportunities := opportunities }, ?_, rfl, keys, rfl⟩
  rw [startJob, Call.modify_bind]
  exact call

section Walked

variable {selected : Option (Nat × JobRequest)} {held : List QueueItem} {u : WorkloadScheduler} {item : QueueItem}

/-- The queue falls into the entries passed over, the first that may start and the rest. -/
theorem Walked.queue_split (walked : Walked s resources nowNs s.queue [] selected held t) :
    s.queue.takeWhile (fun item => !s.startable resources nowNs item) ++
      ((s.queue.find? (s.startable resources nowNs)).toList ++ t.queue) = s.queue := by
  rw [walked.queue]
  exact split_at_first _ _

theorem Walked.nodup (walked : Walked s resources nowNs s.queue [] selected held t) (distinct : (refs s.queue).Nodup) :
    (s.queue.takeWhile (fun item => !s.startable resources nowNs item) ++
      ((s.queue.find? (s.startable resources nowNs)).toList ++ t.queue)).Nodup := by
  rw [walked.queue_split]
  exact distinct.of_map

theorem Walked.putOff (walked : Walked s resources nowNs s.queue [] selected held t) (distinct : (refs s.queue).Nodup)
    (queue : u.queue.Perm (held ++ t.queue)) (ahead : item ∈ s.queue.takeWhile (fun item => !s.startable resources nowNs item))
    (jobs : u.jobs[item.job]? = t.jobs[item.job]?) : PutOff u item := by
  have nodup := walked.nodup distinct
  have notBehind : item ∉ t.queue := by
    intro behind
    exact (List.disjoint_of_nodup_append nodup) ahead (List.mem_append_right _ behind)
  have once := List.count_eq_one_of_mem nodup.of_append_left ahead
  obtain ⟨job, found, status⟩ := walked.passed item ahead
  have count : u.queue.count item = held.count item := by
    rw [queue.count_eq, List.count_append, List.count_eq_zero_of_not_mem notBehind, Nat.add_zero]
  rw [walked.held, List.nil_append] at count
  cases waits : s.waits resources nowNs item with
  | true =>
      rw [List.count_filter waits, once] at count
      rw [if_pos waits] at status
      exact Or.inl ⟨count, job, jobs.trans found, status⟩
  | false =>
      rw [waits, if_neg Bool.false_ne_true] at status
      refine Or.inr ⟨?_, job, jobs.trans found, status⟩
      apply List.count_eq_zero.mp
      rw [count, List.count_eq_zero]
      intro member
      exact Bool.false_ne_true (waits.symm.trans (List.mem_filter.mp member).2)

theorem Walked.leftAlone (walked : Walked s resources nowNs s.queue [] selected held t) (distinct : (refs s.queue).Nodup)
    (queue : u.queue.Perm (held ++ t.queue)) (behind : item ∈ t.queue) :
    u.queue.count item = 1 ∧ t.jobs[item.job]? = s.jobs[item.job]? := by
  have nodup := walked.nodup distinct
  have notAhead : item ∉ s.queue.takeWhile (fun item => !s.startable resources nowNs item) := by
    intro ahead
    exact (List.disjoint_of_nodup_append nodup) ahead (List.mem_append_right _ behind)
  constructor
  · have notHeld : item ∉ held := by
      rw [walked.held, List.nil_append]
      exact fun member => notAhead (List.mem_filter.mp member).1
    rw [queue.count_eq, List.count_append, List.count_eq_zero_of_not_mem notHeld, Nat.zero_add]
    exact List.count_eq_one_of_mem nodup.of_append_right.of_append_right behind
  · apply walked.others
    intro ahead
    obtain ⟨other, among, same⟩ := List.mem_map.mp ahead
    have inQueue : item ∈ s.queue := by
      rw [← walked.queue_split]
      exact List.mem_append_right _ (List.mem_append_right _ behind)
    have known : other ∈ s.queue := (List.takeWhile_sublist _).subset among
    obtain rfl : other = item := List.inj_on_of_nodup_map distinct known inQueue same
    exact notAhead among

theorem Walked.within (walked : Walked s resources nowNs s.queue [] selected held t)
    (member : item ∈ held ++ t.queue) : item ∈ s.queue := by
  rw [← walked.queue_split]
  cases List.mem_append.mp member with
  | inl holds =>
      rw [walked.held, List.nil_append] at holds
      exact List.mem_append_left _ (List.mem_filter.mp holds).1
  | inr behind => exact List.mem_append_right _ (List.mem_append_right _ behind)

/-- Whatever goes back into the queue is still as it should be. -/
theorem Walked.queued (walked : Walked s resources nowNs s.queue [] selected held t) (queued : Queued s) {u : WorkloadScheduler}
    (queue : u.queue = (t.pushedBack held).queue) (terms : u.jobs.map JobRequest.terms = t.jobs.map JobRequest.terms)
    (opportunityIds : u.jobs.map JobRequest.opportunityId = t.jobs.map JobRequest.opportunityId)
    (keys : u.opportunities.keys = t.opportunities.keys) : Queued u := by
  have recorded : ∀ id ∈ s.opportunities.keys, id ∈ u.opportunities.keys := by
    rw [keys]
    exact walked.lasting.recorded
  refine queued.of_terms (terms.trans walked.lasting.terms) (opportunityIds.trans walked.lasting.opportunityIds) recorded
    ?_ ?_ ?_
  · have behind : t.queue.Pairwise (fun a b => a.before b = true) := by
      rw [walked.queue]
      exact queued.sorted.sublist ((List.tail_sublist _).trans (List.dropWhile_sublist _))
    rw [queue]
    exact pushedBack_sorted behind
  · have sub : (held ++ t.queue).Sublist (s.queue.takeWhile (fun item => !s.startable resources nowNs item) ++
        ((s.queue.find? (s.startable resources nowNs)).toList ++ t.queue)) := by
      rw [walked.held, List.nil_append]
      exact List.Sublist.append List.filter_sublist (List.sublist_append_right _ _)
    rw [walked.queue_split] at sub
    have nodup : (refs (held ++ t.queue)).Nodup := queued.distinct.sublist (sub.map QueueItem.job)
    rw [queue]
    exact ((pushedBack_perm t held).map QueueItem.job).nodup_iff.mpr nodup
  · intro item member
    rw [queue] at member
    exact walked.within ((pushedBack_perm t held).mem_iff.mp member)

end Walked

/-- Dispatching with nothing selected. -/
theorem inOrder_of_none {held : List QueueItem} (walked : Walked s resources nowNs s.queue [] none held t) (queued : Queued s) :
    InOrder s resources nowNs none (t.pushedBack held) := by
  have nothing : s.queue.find? (s.startable resources nowNs) = none := by
    cases first : s.queue.find? (s.startable resources nowNs) with
    | none => rfl
    | some item =>
        obtain ⟨job, found, -⟩ := queued.entries item (List.mem_of_find?_eq_some first)
        have chosen := walked.selected
        simp [first, found] at chosen
  have stays : ∀ item ∈ s.queue, s.startable resources nowNs item = false := by simpa using List.find?_eq_none.mp nothing
  have all : s.queue.takeWhile (fun item => !s.startable resources nowNs item) = s.queue :=
    List.takeWhile_eq_self_iff.mpr (fun item member => by simp [stays item member])
  have putOff : ∀ item ∈ s.queue, PutOff (t.pushedBack held) item := by
    intro item member
    exact walked.putOff queued.distinct (pushedBack_perm t held) (all.symm ▸ member) rfl
  refine ⟨queued.entries, ⟨fun _ => stays, fun _ => rfl⟩, fun _ => putOff, by simp, ?_, ?_⟩
  · intro item member
    exact walked.within ((pushedBack_perm t held).mem_iff.mp member)
  · intro ref outside
    apply walked.others
    rw [all]
    exact outside

/-- Dispatching once the first job that may start runs. -/
theorem inOrder_of_some {item : QueueItem} {job : JobRequest} {held : List QueueItem} {u : WorkloadScheduler}
    (walked : Walked s resources nowNs s.queue [] (some (item.job, job)) held t) (queued : Queued s)
    (first : s.queue.find? (s.startable resources nowNs) = some item) (queue : u.queue = (t.pushedBack held).queue)
    (running : ∃ job, u.jobs[item.job]? = some job ∧ job.status = .running)
    (others : ∀ k ≠ item.job, u.jobs[k]? = t.jobs[k]?) : InOrder s resources nowNs (some item.job) u := by
  have member := List.mem_of_find?_eq_some first
  have starts : s.startable resources nowNs item = true := List.find?_some first
  have perm : u.queue.Perm (held ++ t.queue) := queue ▸ pushedBack_perm t held
  have split := walked.queue_split
  have nodup := walked.nodup queued.distinct
  have sorted := queued.sorted
  rw [first, Option.toList_some, List.singleton_append] at split nodup
  rw [← split] at sorted
  obtain ⟨-, fromItem, fromAhead⟩ := List.pairwise_append.mp sorted
  have behindItem := (List.pairwise_cons.mp fromItem).1
  have aheadItem : ∀ other ∈ s.queue.takeWhile (fun item => !s.startable resources nowNs item), other.before item = true :=
    fun other among => fromAhead other among item List.mem_cons_self
  have place : ∀ other ∈ s.queue, other ≠ item →
      other ∈ s.queue.takeWhile (fun item => !s.startable resources nowNs item) ∨ other ∈ t.queue := by
    intro other known apart
    rw [← split] at known
    simpa [apart] using known
  have away : ∀ other ∈ s.queue, other ≠ item → other.job ≠ item.job := by
    intro other known apart same
    exact apart (List.inj_on_of_nodup_map queued.distinct known member same)
  refine ⟨queued.entries, ⟨by simp, ?_⟩, by simp, ?_, ?_, ?_⟩
  · intro stays
    exact absurd (stays item member) (by simp [starts])
  · intro ref same
    obtain rfl := Option.some.inj same
    refine ⟨item, member, rfl, starts, ?_, ?_, running, ?_, ?_⟩
    · intro other known may
      by_cases apart : other = item
      · rw [apart, QueueItem.before_iff]
        omega
      · cases place other known apart with
        | inl ahead => simpa [may] using List.mem_takeWhile_imp ahead
        | inr behind => exact behindItem other behind
    · intro back
      rw [perm.mem_iff] at back
      cases List.mem_append.mp back with
      | inl holds =>
          rw [walked.held, List.nil_append] at holds
          simpa [starts] using List.mem_takeWhile_imp (List.mem_filter.mp holds).1
      | inr behind => exact (List.nodup_cons.mp nodup.of_append_right).1 behind
    · intro other known apart earlier
      cases place other known apart with
      | inl ahead => exact walked.putOff queued.distinct perm ahead (others _ (away other known apart))
      | inr behind => exact absurd (QueueItem.before_antisymm earlier (behindItem other behind)) apart
    · intro other known apart later
      cases place other known apart with
      | inl ahead => exact absurd (QueueItem.before_antisymm (aheadItem other ahead) later) apart
      | inr behind =>
          obtain ⟨once, same⟩ := walked.leftAlone queued.distinct perm behind
          exact ⟨once, (others _ (away other known apart)).trans same⟩
  · intro other back
    exact walked.within (perm.mem_iff.mp back)
  · intro ref outside
    have apart : ref ≠ item.job := fun same => outside (same ▸ List.mem_map_of_mem member)
    rw [others ref apart]
    apply walked.others
    intro ahead
    exact outside ((List.takeWhile_sublist _).map QueueItem.job |>.subset ahead)

/-- A dispatch returns, follows the order, and leaves the heap as it should be. -/
theorem dispatch_inOrder (queued : Queued s) (resources : ResourceSnapshot) (nowNs : Nat) :
    ∃ result t, dispatch resources nowNs s = (.ok result, t) ∧ InOrder s resources nowNs result t ∧ Queued t := by
  by_cases filled : s.queue = []
  · refine ⟨none, s, ?_, ?_, queued⟩
    · rw [dispatch, Call.read_bind, filled]
      rfl
    · exact ⟨queued.entries, by simp [filled], by simp [filled], by simp, fun _ => id, fun _ _ => rfl⟩
  · obtain ⟨selected, held, t, loop, walked⟩ := dispatchLoop_walks resources nowNs s.queue [] rfl queued.distinct
      queued.known queued.recorded
    rw [dispatch_of_loop filled loop]
    cases selected with
    | none => exact ⟨none, _, rfl, inOrder_of_none walked queued, walked.queued queued rfl rfl rfl rfl⟩
    | some choice =>
        cases first : s.queue.find? (s.startable resources nowNs) with
        | none =>
            have chosen := walked.selected
            simp [first] at chosen
        | some item =>
            obtain ⟨job, found, -⟩ := queued.entries item (List.mem_of_find?_eq_some first)
            have chosen : some choice = some (item.job, job) := by
              rw [walked.selected]
              simp [first, found]
            obtain rfl := Option.some.inj chosen
            have recorded : job.opportunityId ∈ (t.pushedBack held).opportunities.keys :=
              walked.lasting.recorded _ (queued.recorded job (List.mem_of_getElem? found))
            obtain ⟨u, call, queue, keys, jobs⟩ := startJob_passes item.job recorded nowNs
            refine ⟨some item.job, u, ?_, ?_, ?_⟩
            · rw [startSelected, Call.bind_of_ok call]
              rfl
            · refine inOrder_of_some walked queued first queue ?_ ?_
              · have same := walked.lasting.termsAt item.job
                rw [found] at same
                obtain ⟨own, here, -⟩ := Option.map_eq_some_iff.mp same
                rw [jobs, jobs_setJob_self]
                exact ⟨_, congrArg (Option.map _) here, rfl⟩
              · intro k apart
                rw [jobs]
                exact jobs_setJob_of_ne _ apart
            · refine walked.queued queued queue ?_ ?_ keys
              · rw [jobs]
                exact map_setJob (fun _ => rfl)
              · rw [jobs]
                exact map_setJob (fun _ => rfl)

theorem startJob_jobs (ref : Nat) (job : JobRequest) (nowNs : Nat) (s : WorkloadScheduler) :
    (startJob ref job nowNs s).2.jobs =
      (s.setJob ref (fun job => { job with status := .running, serviceStartedMonotonicNs := some nowNs })).jobs := by
  rw [startJob, Call.modify_bind]
  rfl

/-- The service of the job a dispatch returns starts with the dispatch. -/
theorem dispatch_starts {ref : Nat} (call : dispatch resources nowNs s = (.ok (some ref), t)) {job : JobRequest}
    (found : t.jobs[ref]? = some job) : job.serviceStartedMonotonicNs = some nowNs := by
  rw [dispatch, Call.read_bind] at call
  split at call
  · cases call
  · obtain ⟨⟨selected, held⟩, u, -, call⟩ := Call.bind_ok.mp call
    rw [Call.modify_bind] at call
    cases selected with
    | none => cases call
    | some choice =>
        obtain ⟨_, v, started, returned⟩ := Call.bind_ok.mp call
        cases returned
        have jobs := startJob_jobs choice.1 choice.2 nowNs (u.pushedBack held)
        rw [pushedBack, started] at jobs
        rw [jobs, jobs_setJob_self] at found
        obtain ⟨_, -, rfl⟩ := Option.map_eq_some_iff.mp found
        rfl

/-! ## Every reachable heap -/

theorem Queued.of_same (queued : Queued s) (queue : t.queue = s.queue) (jobs : t.jobs = s.jobs)
    (opportunities : t.opportunities = s.opportunities) : Queued t where
  sorted := queue ▸ queued.sorted
  distinct := queue ▸ queued.distinct
  entries := by
    rw [queue, jobs]
    exact queued.entries
  recorded := by
    rw [jobs, opportunities]
    exact queued.recorded

theorem register_jobs (spec : WorkloadSpec) : Call.Keeps jobs (register spec) := by
  intro s
  unfold register
  repeat' split
  all_goals rfl

theorem reallocateCadence_jobs (workloadId : String) (multiplier : Option ℚ) (reasonCode : String) :
    Call.Keeps jobs (reallocateCadence workloadId multiplier reasonCode) := by
  intro s
  unfold reallocateCadence
  repeat' split
  all_goals rfl

theorem submitted_jobs (P : Platform) (r : Submission) (spec : WorkloadSpec) (s : WorkloadScheduler) :
    (submitted P r spec s).jobs = s.jobs ++ [newJob r spec (opportunityId P (r.keyFor spec.workloadId))] := by
  simp only [submitted, enqueueJob, freezeForMode_jobs]

/-- A new job comes after all jobs before it. -/
theorem Queued.submitted (queued : Queued s) (P : Platform) (r : Submission) (spec : WorkloadSpec) :
    Queued (submitted P r spec s) := by
  have bound : ∀ item ∈ s.queue, item.job < s.jobs.length := by
    intro item member
    obtain ⟨job, found, -⟩ := queued.entries item member
    exact (List.getElem?_eq_some_iff.mp found).1
  let job := newJob r spec (opportunityId P (r.keyFor spec.workloadId))
  have queue : (WorkloadScheduler.submitted P r spec s).queue = heappush (itemOf s.jobs.length job) s.queue := by
    simp only [WorkloadScheduler.submitted, enqueueJob, freezeForMode_jobs, (freezeForMode_reconfigured s).queue]
    rfl
  have jobs : (WorkloadScheduler.submitted P r spec s).jobs = s.jobs ++ [job] := submitted_jobs P r spec s
  constructor
  · rw [queue]
    exact heappush_sorted _ queued.sorted
  · rw [queue]
    apply ((heappush_perm _ _).map QueueItem.job).nodup_iff.mpr
    refine List.nodup_cons.mpr ⟨?_, queued.distinct⟩
    intro again
    obtain ⟨item, member, same⟩ := List.mem_map.mp again
    exact absurd (bound item member) (by simp [same, itemOf])
  · intro item member
    rw [queue, (heappush_perm _ _).mem_iff] at member
    rw [jobs]
    cases List.mem_cons.mp member with
    | inl new =>
        subst new
        exact ⟨job, by simp [itemOf], rfl⟩
    | inr old =>
        rw [List.getElem?_append_left (bound item old)]
        exact queued.entries item old
  · intro own member
    rw [jobs] at member
    have keys : ∀ id, id ∈ (WorkloadScheduler.submitted P r spec s).opportunities.keys ↔
        id = job.opportunityId ∨ id ∈ s.opportunities.keys := by
      intro id
      have inserted : (WorkloadScheduler.submitted P r spec s).opportunities =
          s.opportunities.insert job.opportunityId (queuedRecord P r spec) := rfl
      rw [inserted, Dict.mem_keys_iff, Dict.mem_keys_iff, Dict.get?_insert]
      by_cases same : id = job.opportunityId <;> simp [same]
    rw [keys]
    cases List.mem_append.mp member with
    | inl old => exact Or.inr (queued.recorded own old)
    | inr new => exact Or.inl (by rw [List.mem_singleton.mp new])

theorem Queued.completed (queued : Queued s) {ref : Nat} {job : JobRequest} (found : s.jobs[ref]? = some job) (nowNs : Nat) :
    Queued (s.completed ref job nowNs) := by
  have recorded : job.opportunityId ∈ (s.completing ref job nowNs).opportunities.keys :=
    queued.recorded job (List.mem_of_getElem? found)
  obtain ⟨opportunities, keys, call⟩ := update_keys recorded (fun record => { record with
    completedMonotonicNs := some nowNs
    disposition := .processed
    reasonCodes := OpportunityLedger.addReason none record.reasonCodes })
  have result : s.completed ref job nowNs = { s.completing ref job nowNs with opportunities := opportunities } :=
    congrArg Prod.snd call
  have changed : (s.completed ref job nowNs).jobs =
      (s.setJob ref (fun job => { job with status := .completed, completedMonotonicNs := some nowNs })).jobs := by
    rw [result]
    rfl
  have queue : (s.completed ref job nowNs).queue = s.queue := by
    rw [result]
    rfl
  refine queued.of_terms ?_ ?_ ?_ ?_ ?_ ?_
  · rw [changed]
    exact map_setJob (fun _ => rfl)
  · rw [changed]
    exact map_setJob (fun _ => rfl)
  · rw [result, keys]
    exact fun _ known => known
  · rw [queue]
    exact queued.sorted
  · rw [queue]
    exact queued.distinct
  · rw [queue]
    exact fun _ member => member

theorem Queued.step {h : History} (queued : Queued h.scheduler) (P : Platform) (op : Operation) :
    Queued (step P h op).scheduler := by
  cases op with
  | register spec =>
      have kept := register_reconfigured spec h.scheduler
      exact queued.of_same kept.queue (register_jobs spec _) kept.opportunities
  | freeze => exact queued.of_same rfl rfl rfl
  | reallocateCadence workloadId multiplier reasonCode =>
      have kept := reallocateCadence_reconfigured workloadId multiplier reasonCode h.scheduler
      exact queued.of_same kept.queue (reallocateCadence_jobs workloadId multiplier reasonCode _) kept.opportunities
  | fallbackSchedule => exact queued.of_same rfl rfl rfl
  | dispatch resources nowNs =>
      obtain ⟨result, t, call, -, after⟩ := dispatch_inOrder queued resources nowNs
      simp only [WorkloadScheduler.step, call]
      exact after
  | submit r =>
      by_cases admits : h.scheduler.Admits r
      · obtain ⟨spec, -, call⟩ := submit_of_admits (P := P) admits
        simp only [WorkloadScheduler.step, call]
        exact queued.submitted P r spec
      · obtain ⟨e, call⟩ := submit_of_not_admits (P := P) admits
        simp only [WorkloadScheduler.step, call]
        exact queued
  | complete ref nowNs =>
      simp only [WorkloadScheduler.step]
      rw [WorkloadScheduler.complete, Call.read_bind]
      cases found : h.scheduler.jobs[ref]? with
      | none => exact queued
      | some job =>
          by_cases running : job.status = .running
          · simp only [running, ne_eq, not_true_eq_false, if_false]
            rw [Call.modify_bind]
            exact queued.completed found nowNs
          · simp only [running, ne_eq, not_false_eq_true, if_true]
            exact queued

theorem run_queued (P : Platform) (config : SchedulerConfig) (ops : List Operation) :
    Queued (run P config ops).scheduler := by
  have initially : Queued (start config).scheduler := ⟨List.Pairwise.nil, List.nodup_nil, by simp [start], by simp [start]⟩
  exact run_invariant (I := fun h : History => Queued h.scheduler) (fun _ op queued => queued.step P op) initially ops

end WorkloadScheduler

end SentinelEdge.Runtime
