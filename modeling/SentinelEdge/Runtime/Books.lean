import SentinelEdge.Runtime.Scheduler

/-! # The books of a scheduler

What the accounting depends on: of each job its ids, its workload and its status,
the references that wait, the active set and the ledger. `Booked` ties statuses
to waiting references and ledger records, `Occupied` to the active set. Every
move of a job is one application of `move`.
-/

namespace SentinelEdge.Runtime

open Foundation Domain

namespace JobStatus

def isWaiting (status : JobStatus) : Bool := status = .queued || status = .deferred

def isSettled (status : JobStatus) : Bool := status = .completed || status = .rejected

end JobStatus

/-- The part of a job the books are about. -/
structure JobCore where
  jobId : UUID
  opportunityId : UUID
  workload : WorkloadSpec
  status : JobStatus

def JobRequest.core (job : JobRequest) : JobCore := ⟨job.jobId, job.opportunityId, job.workload, job.status⟩

def JobCore.withStatus (status : JobStatus) (core : JobCore) : JobCore := { core with status := status }

/-- What never changes of a job. -/
def JobCore.identity (core : JobCore) : UUID × UUID × WorkloadSpec := (core.jobId, core.opportunityId, core.workload)

def WorkloadScheduler.cores (s : WorkloadScheduler) : List JobCore := s.jobs.map JobRequest.core

/-- The jobs of heap entries. -/
def refs (items : List QueueItem) : List Nat := items.map QueueItem.job

structure Booked (cores : List JobCore) (pool : List Nat) (records : OpportunityLedger) : Prop where
  nodup : pool.Nodup
  waiting : ∀ ref, ref ∈ pool ↔ ∃ core, cores[ref]? = some core ∧ core.status.isWaiting = true
  keys : records.keys = cores.map JobCore.opportunityId
  entry : ∀ (ref : Nat) (core : JobCore), cores[ref]? = some core → core.status ≠ .cancelled ∧
    ∃ record, records.get? core.opportunityId = some record ∧ record.disposition.isTerminal = core.status.isSettled

structure Occupied (cores : List JobCore) (active : Dict UUID Nat) : Prop where
  ids : (cores.map JobCore.jobId).Nodup
  running : ∀ id ref, active.get? id = some ref ↔
    ∃ core, cores[ref]? = some core ∧ core.jobId = id ∧ core.status = .running

variable {cores : List JobCore} {pool : List Nat} {records : OpportunityLedger} {active : Dict UUID Nat}

theorem map_modify_withStatus {β : Type} (f : JobCore → β) (ref : Nat) (status : JobStatus)
    (kept : ∀ core, f (core.withStatus status) = f core) :
    (cores.modify ref (JobCore.withStatus status)).map f = cores.map f := by
  apply List.ext_getElem?
  intro k
  simp only [List.getElem?_map, List.getElem?_modify]
  by_cases same : ref = k
  · cases cores[k]? <;> simp [same, kept]
  · simp [same]

/-- References with the same key are the same. -/
theorem ref_unique {β : Type} {f : JobCore → β} (nodup : (cores.map f).Nodup) {i j : Nat} {a b : JobCore}
    (atI : cores[i]? = some a) (atJ : cores[j]? = some b) (same : f a = f b) : i = j := by
  have left : (cores.map f)[i]? = some (f a) := by simp [atI]
  have right : (cores.map f)[j]? = some (f a) := by simp [atJ, same]
  have bound : i < (cores.map f).length := (List.getElem?_eq_some_iff.mp left).1
  exact (List.getElem?_inj bound nodup).mp (left.trans right.symm)

namespace Booked

theorem opportunities (booked : Booked cores pool records) : (cores.map JobCore.opportunityId).Nodup :=
  booked.keys ▸ records.nodup

theorem empty : Booked [] [] Dict.empty where
  nodup := List.nodup_nil
  waiting := by simp
  keys := rfl
  entry := by simp

theorem perm {pool' : List Nat} (booked : Booked cores pool records) (perm : pool'.Perm pool) : Booked cores pool' records where
  nodup := perm.nodup_iff.mpr booked.nodup
  waiting ref := perm.mem_iff.trans (booked.waiting ref)
  keys := booked.keys
  entry := booked.entry

/-- One job changes its status and its record is rewritten to match. -/
theorem move (booked : Booked cores pool records) {ref : Nat} {core : JobCore} (found : cores[ref]? = some core)
    {status : JobStatus} (known : status ≠ .cancelled) {record : OpportunityRecord}
    (fits : record.disposition.isTerminal = status.isSettled) {pool' : List Nat} (nodup : pool'.Nodup)
    (waiting : ∀ k, k ∈ pool' ↔ if k = ref then status.isWaiting = true else k ∈ pool) :
    Booked (cores.modify ref (JobCore.withStatus status)) pool' (records.insert core.opportunityId record) where
  nodup := nodup
  waiting k := by
    rw [waiting, List.getElem?_modify]
    by_cases same : ref = k
    · subst same
      simp [found, JobCore.withStatus]
    · simp [same, Ne.symm same, booked.waiting]
  keys := by
    have present : core.opportunityId ∈ records.keys := by
      rw [booked.keys]
      exact List.mem_map_of_mem (List.mem_of_getElem? found)
    rw [Dict.keys_insert, if_pos present, booked.keys]
    exact (map_modify_withStatus JobCore.opportunityId ref status (fun _ => rfl)).symm
  entry k other atK := by
    rw [List.getElem?_modify] at atK
    by_cases same : ref = k
    · subst same
      simp only [if_true, found, Option.map_eq_map, Option.map_some, Option.some.injEq] at atK
      subst atK
      exact ⟨known, record, Dict.get?_insert_self .., fits⟩
    · simp only [same, if_false, id_map'] at atK
      have apart : other.opportunityId ≠ core.opportunityId :=
        fun equal => same (ref_unique booked.opportunities found atK equal.symm)
      rw [Dict.get?_insert, if_neg apart]
      exact booked.entry k other atK

/-- A new job joins the queue under an opportunity that was not in the ledger. -/
theorem submit (booked : Booked cores pool records) {core : JobCore} (status : core.status = .queued)
    (fresh : core.opportunityId ∉ records.keys) {record : OpportunityRecord}
    (fits : record.disposition.isTerminal = false) :
    Booked (cores ++ [core]) (cores.length :: pool) (records.insert core.opportunityId record) where
  nodup := by
    refine List.nodup_cons.mpr ⟨?_, booked.nodup⟩
    intro queued
    obtain ⟨_, outside, _⟩ := (booked.waiting _).mp queued
    simp at outside
  waiting ref := by
    rw [List.mem_cons, booked.waiting]
    rcases lt_trichotomy ref cores.length with below | rfl | above
    · simp [List.getElem?_append_left below, Nat.ne_of_lt below]
    · simp [status, JobStatus.isWaiting]
    · have outside : cores[ref]? = none := List.getElem?_eq_none (Nat.le_of_lt above)
      have beyond : (cores ++ [core])[ref]? = none := List.getElem?_eq_none (by simp; omega)
      simp [outside, beyond, Nat.ne_of_gt above]
  keys := by
    rw [Dict.keys_insert, if_neg fresh, booked.keys, List.map_append, List.map_singleton]
  entry ref other atRef := by
    rcases lt_trichotomy ref cores.length with below | rfl | above
    · rw [List.getElem?_append_left below] at atRef
      have apart : other.opportunityId ≠ core.opportunityId := by
        intro equal
        rw [← equal, booked.keys] at fresh
        exact fresh (List.mem_map_of_mem (List.mem_of_getElem? atRef))
      rw [Dict.get?_insert, if_neg apart]
      exact booked.entry ref other atRef
    · simp only [List.getElem?_concat_length, Option.some.injEq] at atRef
      subst atRef
      refine ⟨by simp [status], record, Dict.get?_insert_self .., ?_⟩
      simp [fits, status, JobStatus.isSettled]
    · rw [List.getElem?_eq_none (by simp; omega)] at atRef
      cases atRef

end Booked

namespace Occupied

theorem empty : Occupied [] Dict.empty where
  ids := List.nodup_nil
  running := by simp [Dict.get?, Dict.empty]

theorem move (occupied : Occupied cores active) {ref : Nat} {core : JobCore} (found : cores[ref]? = some core)
    {status : JobStatus} {active' : Dict UUID Nat}
    (running : ∀ id k, active'.get? id = some k ↔
      if k = ref then id = core.jobId ∧ status = .running else active.get? id = some k) :
    Occupied (cores.modify ref (JobCore.withStatus status)) active' where
  ids := by
    rw [map_modify_withStatus JobCore.jobId ref status (fun _ => rfl)]
    exact occupied.ids
  running id k := by
    rw [running, List.getElem?_modify]
    by_cases same : ref = k
    · subst same
      simp [found, JobCore.withStatus, eq_comm]
    · simp [same, Ne.symm same, occupied.running]

/-- A job is active under its own id only. -/
theorem not_active (occupied : Occupied cores active) {ref : Nat} {core : JobCore} (found : cores[ref]? = some core)
    {id : UUID} (differs : id ≠ core.jobId) : active.get? id ≠ some ref := by
  rw [ne_eq, occupied.running]
  rintro ⟨_, atRef, jobId, _⟩
  rw [found] at atRef
  obtain rfl := Option.some.inj atRef
  exact differs jobId.symm

/-- A job that does not run goes on not running. -/
theorem idle (occupied : Occupied cores active) {ref : Nat} {core : JobCore} (found : cores[ref]? = some core)
    {status : JobStatus} (before : core.status ≠ .running) (after : status ≠ .running) :
    Occupied (cores.modify ref (JobCore.withStatus status)) active := by
  apply occupied.move found
  intro id k
  by_cases same : k = ref
  · subst same
    simp only [if_true, after, and_false, iff_false, occupied.running, found]
    rintro ⟨_, atRef, _, running⟩
    obtain rfl := Option.some.inj atRef
    exact before running
  · simp [same]

theorem start (occupied : Occupied cores active) {ref : Nat} {core : JobCore} (found : cores[ref]? = some core) :
    Occupied (cores.modify ref (JobCore.withStatus .running)) (active.insert core.jobId ref) := by
  apply occupied.move found
  intro id k
  rw [Dict.get?_insert]
  by_cases sameId : id = core.jobId
  · by_cases sameRef : k = ref
    · simp [sameId, sameRef]
    · -- no other job has this id
      have apart : ¬ active.get? core.jobId = some k := by
        rw [occupied.running]
        rintro ⟨other, atK, sameJob, _⟩
        exact sameRef (ref_unique occupied.ids atK found sameJob)
      simp [sameId, sameRef, Ne.symm sameRef, apart]
  · by_cases sameRef : k = ref
    · simp [sameId, sameRef, occupied.not_active found sameId]
    · simp [sameId, sameRef]

theorem finish (occupied : Occupied cores active) {ref : Nat} {core : JobCore} (found : cores[ref]? = some core)
    (running : core.status = .running) {status : JobStatus} (after : status ≠ .running) :
    Occupied (cores.modify ref (JobCore.withStatus status)) (active.restrict (fun id => id ≠ core.jobId)) := by
  apply occupied.move found
  intro id k
  rw [Dict.get?_restrict]
  by_cases sameId : id = core.jobId
  · -- the entry of this id is the job's own
    have here : active.get? core.jobId = some ref := (occupied.running _ _).mpr ⟨core, found, rfl, running⟩
    by_cases sameRef : k = ref
    · simp [sameId, sameRef, after]
    · simp [sameId, sameRef, Ne.symm sameRef, here]
  · by_cases sameRef : k = ref
    · simp [sameId, sameRef, after, occupied.not_active found sameId]
    · simp [sameId, sameRef]

theorem submit (occupied : Occupied cores active) {core : JobCore} (status : core.status = .queued)
    (fresh : core.jobId ∉ cores.map JobCore.jobId) : Occupied (cores ++ [core]) active where
  ids := by
    rw [List.map_append, List.map_singleton]
    exact List.nodup_append.mpr ⟨occupied.ids, List.nodup_singleton _, by
      intro id member other single equal
      rw [List.mem_singleton.mp single] at equal
      exact fresh (equal ▸ member)⟩
  running id ref := by
    rw [occupied.running]
    rcases lt_trichotomy ref cores.length with below | rfl | above
    · simp [List.getElem?_append_left below]
    · simp [status]
    · have outside : cores[ref]? = none := List.getElem?_eq_none (Nat.le_of_lt above)
      have beyond : (cores ++ [core])[ref]? = none := List.getElem?_eq_none (by simp; omega)
      simp [outside, beyond]

end Occupied

end SentinelEdge.Runtime
