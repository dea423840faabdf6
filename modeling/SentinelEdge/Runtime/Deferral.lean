import SentinelEdge.Foundation.Checks
import SentinelEdge.Runtime.DispatchOrder

/-! # Bounded deferral

A dispatch that starts nothing has checked every job in the queue. The check makes a
job wait only if it interferes with an active one, or if the job has waited for less
than its limit and no forced scan that would fit into memory is due.
-/

namespace SentinelEdge.Runtime

open Foundation Domain

namespace WorkloadScheduler

variable {s t : WorkloadScheduler} {resources : ResourceSnapshot} {nowNs : Nat}

/-- Branch by branch: what a job must satisfy to be told to wait. -/
theorem admission_waits {reserveMb : Int} {spec : WorkloadSpec} {elapsedNs : Int}
    (waits : admission false reserveMb spec elapsedNs resources = (false, none)) :
    elapsedNs < spec.maxDeferralMs * 1000000 ∧
      ∀ ms : Nat, spec.forcedScanMs = some ms → 0 < ms → (ms * 1000000 : Int) ≤ elapsedNs →
        resources.availableMemoryMb < spec.memoryMb := by
  constructor
  · by_contra expired
    have expired : elapsedNs ≥ spec.maxDeferralMs * 1000000 := not_lt.mp expired
    unfold admission at waits
    simp only [Bool.false_eq_true, if_false, decide_eq_true expired, if_true, Bool.true_and] at waits
    repeat' split at waits
    all_goals cases waits
  · intro ms forced positive due
    by_contra fits
    have scans : spec.forcedScanMs.any (fun ms => ms ≠ 0 && elapsedNs ≥ ms * 1000000) = true := by
      simp [forced, Nat.ne_of_gt positive, due]
    unfold admission at waits
    simp only [Bool.false_eq_true, if_false, if_neg fits, scans, if_true] at waits
    cases waits

theorem waits_bounded {item : QueueItem} {job : JobRequest} (found : s.jobs[item.job]? = some job)
    (waits : s.waits resources nowNs item = true)
    (clear : ∀ running ∈ s.activeWorkloads, s.interferes running job.workload = false) :
    (nowNs : Int) - job.releasedMonotonicNs < job.workload.maxDeferralMs * 1000000 ∧
      ∀ ms : Nat, job.workload.forcedScanMs = some ms → 0 < ms →
        (ms * 1000000 : Int) ≤ (nowNs : Int) - job.releasedMonotonicNs →
        resources.availableMemoryMb < job.workload.memoryMb := by
  have unblocked : s.activeWorkloads.any (fun running => s.interferes running job.workload) = false := by
    simpa using clear
  have told : (s.admissible item.job job resources nowNs).1 = (false, none) := by
    simpa [WorkloadScheduler.waits, verdict, found] using waits
  rw [admissible_fst, unblocked] at told
  exact admission_waits told

/-- A dispatch that starts nothing leaves only jobs that it told to wait. -/
theorem dispatch_none (queued : Queued s) (nothing : dispatch resources nowNs s = (.ok none, t)) :
    Lasting s t ∧ ∀ item ∈ t.queue, s.waits resources nowNs item = true := by
  obtain ⟨result, after, call, order, -⟩ := dispatch_inOrder queued resources nowNs
  obtain rfl : result = none := Except.ok.inj (congrArg Prod.fst (call.symm.trans nothing))
  have stays := order.idle.mp rfl
  have first : s.queue.find? (s.startable resources nowNs) = none := List.find?_eq_none.mpr (by simpa using stays)
  by_cases filled : s.queue = []
  · have idle : dispatch resources nowNs s = (.ok none, s) := by
      rw [dispatch, Call.read_bind, filled]
      rfl
    obtain rfl : s = t := congrArg Prod.snd (idle.symm.trans nothing)
    exact ⟨Lasting.refl s, by simp [filled]⟩
  · obtain ⟨selected, held, u, loop, walked⟩ := dispatchLoop_walks resources nowNs s.queue [] rfl queued.distinct
      queued.known queued.recorded
    obtain rfl : selected = none := by
      rw [walked.selected, first]
      rfl
    rw [dispatch_of_loop filled loop] at nothing
    obtain rfl : u.pushedBack held = t := congrArg Prod.snd nothing
    obtain ⟨config, active, terms, opportunityIds, recorded⟩ := walked.lasting
    refine ⟨⟨config, active, terms, opportunityIds, recorded⟩, ?_⟩
    intro item member
    have behind : u.queue = [] := by
      rw [walked.queue, List.dropWhile_eq_nil_iff.mpr (fun item member => by simp [stays item member])]
      rfl
    rw [(pushedBack_perm u held).mem_iff, behind, List.append_nil, walked.held, List.nil_append] at member
    exact (List.mem_filter.mp member).2

/-- In every reachable state: if a dispatch returns none, every job left in the queue that
    interferes with no active one has waited for less than its limit, and no forced scan of
    it that fits into memory is due. -/
theorem deferral_is_bounded (P : Platform) (config : SchedulerConfig) (ops : List Operation) (resources : ResourceSnapshot)
    (nowNs : Nat) (t : WorkloadScheduler) (nothing : dispatch resources nowNs (run P config ops).scheduler = (.ok none, t)) :
    ∀ item ∈ t.queue, ∃ job, t.jobs[item.job]? = some job ∧
      ((∀ running ∈ t.activeWorkloads, t.interferes running job.workload = false) →
        (nowNs : Int) - job.releasedMonotonicNs < job.workload.maxDeferralMs * 1000000 ∧
        ∀ ms : Nat, job.workload.forcedScanMs = some ms → 0 < ms →
          (ms * 1000000 : Int) ≤ (nowNs : Int) - job.releasedMonotonicNs →
          resources.availableMemoryMb < job.workload.memoryMb) := by
  obtain ⟨lasting, waiting⟩ := dispatch_none (run_queued P config ops) nothing
  obtain ⟨result, u, call, order, queued⟩ := dispatch_inOrder (run_queued P config ops) resources nowNs
  obtain rfl : u = t := congrArg Prod.snd (call.symm.trans nothing)
  intro item member
  obtain ⟨job, found, -⟩ := queued.entries item member
  refine ⟨job, found, fun clear => ?_⟩
  have waits := waiting item member
  rw [← lasting.waits] at waits
  exact waits_bounded found waits clear

/-- A background job, and a node that is too busy for it. -/
def backlog : List Operation := [.register (workload "housekeeping" .background), .submit (request "housekeeping" 1)]

def busyNode : ResourceSnapshot := { idleNode with cpuPressure := 1 }

theorem backlog_is_bounded :
    ∃ t, dispatch busyNode 900000000 (run Platform.transparent {} backlog).scheduler = (.ok none, t) ∧ t.queue ≠ [] ∧
      ∀ item ∈ t.queue, ∃ job, t.jobs[item.job]? = some job ∧
        ((∀ running ∈ t.activeWorkloads, t.interferes running job.workload = false) →
          ((900000000 : Nat) : Int) - job.releasedMonotonicNs < job.workload.maxDeferralMs * 1000000 ∧
          ∀ ms : Nat, job.workload.forcedScanMs = some ms → 0 < ms →
            (ms * 1000000 : Int) ≤ ((900000000 : Nat) : Int) - job.releasedMonotonicNs →
            busyNode.availableMemoryMb < job.workload.memoryMb) := by
  have returns : (dispatch busyNode 900000000 (run Platform.transparent {} backlog).scheduler).1.toOption = some none := by
    decide +kernel
  have left : (dispatch busyNode 900000000 (run Platform.transparent {} backlog).scheduler).2.queue ≠ [] := by
    decide +kernel
  rcases called : dispatch busyNode 900000000 (run Platform.transparent {} backlog).scheduler with ⟨r, t⟩
  rw [called] at returns left
  obtain rfl := Checks.toOption_eq_some.mp returns
  exact ⟨t, rfl, left, deferral_is_bounded Platform.transparent {} backlog busyNode 900000000 t called⟩

end WorkloadScheduler

end SentinelEdge.Runtime
