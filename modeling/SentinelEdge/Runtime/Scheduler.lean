import Mathlib.Algebra.Order.Floor.Ring
import Mathlib.Data.Rat.Floor
import SentinelEdge.Foundation.Run
import SentinelEdge.Runtime.Opportunities

/-! # The workload scheduler

`WorkloadScheduler` queues jobs by tier, deadline and arrival, starts at most one
per dispatch and books every step in the opportunity ledger. A job is a shared
mutable object: the queue and the active set hold references to it, here its
place in the list of all jobs. The heap is kept as the list in heap order.
Monotonic readings and wall times are arguments of the calls that read a clock.
-/

namespace SentinelEdge.Runtime

open Foundation Domain

inductive CriticalityTier where
  | immediate | urgent | timely | periodic | background
  deriving DecidableEq, Repr

/-- `int(tier)` -/
def CriticalityTier.level : CriticalityTier → Nat
  | .immediate => 0
  | .urgent => 1
  | .timely => 2
  | .periodic => 3
  | .background => 4

inductive JobStatus where
  | queued | running | completed | deferred | rejected | cancelled
  deriving DecidableEq, Repr

inductive RuntimeMode where
  | judge | benchmark | fieldLab | development
  deriving DecidableEq, Repr

structure WorkloadSpec where
  workloadId : String
  hazard : HazardKind
  tier : CriticalityTier
  periodMs : Nat
  deadlineMs : Nat
  maxDeferralMs : Nat
  estimatedCostMs : Nat
  memoryMb : Nat
  profileId : String
  forcedScanMs : Option Nat := none
  deriving DecidableEq, Repr

structure ResourceSnapshot where
  cpuPressure : ℚ
  memoryPressure : ℚ
  ioPressure : ℚ
  temperatureC : ℚ
  availableMemoryMb : Nat
  powerDegraded : Bool := false

def ResourceSnapshot.overloaded (r : ResourceSnapshot) : Bool :=
  r.cpuPressure ≥ 90 / 100 || r.memoryPressure ≥ 85 / 100 || r.ioPressure ≥ 85 / 100 || r.temperatureC ≥ 82 ||
    r.powerDegraded

structure JobRequest where
  jobId : UUID
  opportunityId : UUID
  correlationId : UUID
  workload : WorkloadSpec
  releasedAt : DateTime
  absoluteDeadline : DateTime
  releasedMonotonicNs : Nat
  deadlineMonotonicNs : Nat
  payload : Json
  status : JobStatus := .queued
  deferralCount : Nat := 0
  reasonCodes : List String := []
  serviceStartedMonotonicNs : Option Nat := none
  completedMonotonicNs : Option Nat := none

/-- A heap entry `(tier, deadline_ns, counter, job)`; the counter is also the
    place of the job among all jobs. -/
structure QueueItem where
  tier : Nat
  deadlineNs : Nat
  job : Nat
  deriving DecidableEq, Repr

/-- The order of the tuples; counters differ, so jobs are never compared. -/
def QueueItem.before (a b : QueueItem) : Bool :=
  a.tier < b.tier || (a.tier = b.tier && (a.deadlineNs < b.deadlineNs || (a.deadlineNs = b.deadlineNs && a.job ≤ b.job)))

/-- `heapq.heappush` -/
def heappush (item : QueueItem) : List QueueItem → List QueueItem
  | [] => [item]
  | head :: rest => if item.before head then item :: head :: rest else head :: heappush item rest

/-- `tuple(sorted((a, b)))` -/
def sortedPair (a b : String) : String × String := if a ≤ b then (a, b) else (b, a)

/-- The arguments of the constructor that the modelled methods read. -/
structure SchedulerConfig where
  queueLimit : Int := 256
  tierAReserveMemoryMb : Int := 64
  mode : RuntimeMode := .development
  approvedProfileIds : Option (List String) := none
  knownSafeInterferencePairs : List (String × String) := []

structure WorkloadScheduler where
  config : SchedulerConfig
  registry : Dict String WorkloadSpec := Dict.empty
  queue : List QueueItem := []
  jobs : List JobRequest := []
  active : Dict UUID Nat := Dict.empty
  deferredIds : List UUID := []
  degradationLevel : Nat := 0
  overloaded : Bool := false
  reasonCodes : List String := []
  opportunities : OpportunityLedger := Dict.empty
  frozen : Bool := false

/-- The arguments of `submit`, with the clock readings it takes; absent times and
    ids are filled in as the method does. -/
structure Submission where
  workloadId : String
  payload : Json
  releasedAt : Option DateTime := none
  scheduledReleaseAt : Option DateTime := none
  capturedAt : Option DateTime := none
  /-- The argument, or what `uuid4` returns. -/
  correlationId : UUID
  /-- What `uuid4` returns for the job. -/
  jobId : UUID
  nowUtc : DateTime
  monotonicNs : Nat

namespace Submission

def released (r : Submission) : DateTime := r.releasedAt.getD r.nowUtc

def keyFor (r : Submission) (workloadId : String) : OpportunityKey :=
  ⟨r.correlationId, workloadId, r.scheduledReleaseAt.getD r.released⟩

/-- The key of the opportunity the submission offers. -/
def key (r : Submission) : OpportunityKey := r.keyFor r.workloadId

end Submission

namespace WorkloadScheduler

abbrev SchedulerCall (α : Type) := Call WorkloadScheduler Error α

/-- The pairs with a declared safe profile, each in sorted order. -/
def knownSafePairs (s : WorkloadScheduler) : List (String × String) :=
  s.config.knownSafeInterferencePairs.map (fun pair => sortedPair pair.1 pair.2)

/-- A call on the ledger. -/
def ledger {α : Type} (call : OpportunityLedger.LedgerCall α) : SchedulerCall α :=
  Call.zoom opportunities (fun s ledger => { s with opportunities := ledger }) call

def setJob (s : WorkloadScheduler) (job : Nat) (change : JobRequest → JobRequest) : WorkloadScheduler :=
  { s with jobs := s.jobs.modify job change }

/-- `_declare_overload` -/
def declareOverload (s : WorkloadScheduler) (reason : String) : WorkloadScheduler :=
  { s with overloaded := true, degradationLevel := max s.degradationLevel 1, reasonCodes := addCode reason s.reasonCodes }

def register (spec : WorkloadSpec) : SchedulerCall Unit := fun s =>
  if s.frozen then (.error (.valueError "workload registry is frozen"), s)
  else if s.config.approvedProfileIds.any (fun approved => spec.profileId ∉ approved) then
    (.error (.valueError ("profile is not approved: " ++ spec.profileId)), s)
  else if (s.registry.get? spec.workloadId).any (fun known => known ≠ spec) then
    (.error (.valueError "workload registration is immutable"), s)
  else (.ok (), { s with registry := s.registry.insert spec.workloadId spec })

def freeze : SchedulerCall Unit := Call.modify (fun s => { s with frozen := true })

/-- `reallocate_cadence`; a multiplier that is not finite is `none`. -/
def reallocateCadence (workloadId : String) (multiplier : Option ℚ) (reasonCode : String) : SchedulerCall WorkloadSpec :=
  fun s =>
    if s.frozen then (.error (.valueError "workload registry is frozen"), s)
    else match s.registry.get? workloadId with
      | none => (.error (.keyError workloadId), s)
      | some current => match multiplier with
          | none => (.error (.valueError "cadence multiplier must be finite and positive"), s)
          | some m =>
              if m ≤ 0 then (.error (.valueError "cadence multiplier must be finite and positive"), s)
              else if isBlank reasonCode then (.error (.valueError "cadence reallocation requires a reason code"), s)
              else
                let updated := { current with periodMs := max 1 ⌈(current.periodMs : ℚ) / m⌉.toNat }
                (.ok updated, { s with registry := s.registry.insert workloadId updated }.declareOverload
                  ("cadence_reallocated:" ++ strip reasonCode))

/-- The job `submit` makes for a registered workload. -/
def newJob (r : Submission) (spec : WorkloadSpec) (opportunityId : UUID) : JobRequest where
  jobId := r.jobId
  opportunityId := opportunityId
  correlationId := r.correlationId
  workload := spec
  releasedAt := r.released
  absoluteDeadline := r.released + spec.deadlineMs * 1000
  releasedMonotonicNs := r.monotonicNs
  deadlineMonotonicNs := r.monotonicNs + spec.deadlineMs * 1000000
  payload := r.payload

/-- Benchmark and judge runs freeze the registry at the first submission. -/
def freezeForMode (s : WorkloadScheduler) : WorkloadScheduler :=
  if s.config.mode = .benchmark ∨ s.config.mode = .judge then { s with frozen := true } else s

/-- Queue a new job under the next counter. -/
def enqueueJob (s : WorkloadScheduler) (job : JobRequest) : WorkloadScheduler :=
  { s with
    jobs := s.jobs ++ [job]
    queue := heappush ⟨job.workload.tier.level, job.deadlineMonotonicNs, s.jobs.length⟩ s.queue }

def submit (P : Platform) (r : Submission) : SchedulerCall JobRequest := do
  let registered ← Call.read (fun s => s.registry.get? r.workloadId)
  let full ← Call.read (fun s => decide ((s.queue.length : Int) ≥ s.config.queueLimit))
  match registered with
  | none => Call.raise (.keyError r.workloadId)
  | some spec =>
      if full then Call.raise (.admissionError "bounded queue is full")
      else do
        Call.modify freezeForMode
        let opportunity ← ledger (OpportunityLedger.offer P (r.keyFor spec.workloadId) spec.hazard r.capturedAt)
        let job := newJob r spec opportunity.opportunityId
        ledger (OpportunityLedger.markQueued job.opportunityId job.releasedAt job.releasedMonotonicNs
          job.deadlineMonotonicNs)
        Call.modify (fun s => s.enqueueJob job)
        pure job

/-- The pair has no declared safe profile although one of the two is Tier A. -/
def interferes (s : WorkloadScheduler) (running spec : WorkloadSpec) : Bool :=
  (running.tier = .immediate || spec.tier = .immediate) &&
    sortedPair running.workloadId spec.workloadId ∉ s.knownSafePairs

/-- The workloads of `self._active.values()`. -/
def activeWorkloads (s : WorkloadScheduler) : List WorkloadSpec :=
  s.active.values.filterMap (fun job => (s.jobs[job]?).map JobRequest.workload)

/-- `_admissible`: whether the job may start, a terminal reason if it may not
    wait either, and the scheduler with what the check declared. Elapsed
    milliseconds are compared as nanoseconds. -/
def admissible (s : WorkloadScheduler) (ref : Nat) (job : JobRequest) (resources : ResourceSnapshot) (nowNs : Nat) :
    (Bool × Option String) × WorkloadScheduler :=
  let spec := job.workload
  let elapsedNs : Int := (nowNs : Int) - job.releasedMonotonicNs
  let deferralExpired := decide (elapsedNs ≥ spec.maxDeferralMs * 1000000)
  let deadlineMissed := decide (nowNs > job.deadlineMonotonicNs)
  let forcedScanDue := spec.forcedScanMs.any (fun ms => ms ≠ 0 && elapsedNs ≥ ms * 1000000)
  if s.activeWorkloads.any (fun running => s.interferes running spec) then
    ((false, none), s.setJob ref (fun job =>
      { job with reasonCodes := addCode "unknown_tier_a_interference_serialized" job.reasonCodes }))
  else if resources.availableMemoryMb < spec.memoryMb then
    ((false, if deferralExpired then some "max_deferral_exceeded_insufficient_memory" else none),
      s.declareOverload "insufficient_memory")
  else if forcedScanDue then ((true, none), s.declareOverload "forced_scan_due")
  else if spec.tier = .immediate then
    ((true, none), if deadlineMissed then s.declareOverload "tier_a_deadline_miss" else s)
  else if (resources.availableMemoryMb : Int) - spec.memoryMb < s.config.tierAReserveMemoryMb then
    if deferralExpired then
      (if spec.tier.level ≤ CriticalityTier.timely.level then (true, none) else (false, some "max_deferral_exceeded_reserve"),
        s.declareOverload "tier_a_reserve_conflict")
    else ((false, none), s)
  else if resources.overloaded then
    (if spec.tier.level ≤ CriticalityTier.urgent.level then (true, none)
      else if deferralExpired && spec.tier.level ≤ CriticalityTier.timely.level then (true, none)
      else if deferralExpired then (false, some "max_deferral_exceeded_overload")
      else (false, none),
      { s with degradationLevel := max s.degradationLevel 1 }.declareOverload "node_overload")
  else ((true, none), if deadlineMissed then s.declareOverload "deadline_miss" else s)

/-- A job that may neither start nor wait. -/
def rejectJob (ref : Nat) (job : JobRequest) (nowNs : Nat) (reason : String) : SchedulerCall Unit := do
  Call.modify (fun s => s.setJob ref (fun job =>
    { job with status := .rejected, reasonCodes := addCode reason job.reasonCodes }))
  ledger (OpportunityLedger.markTerminal job.opportunityId .skipped nowNs (some reason))

/-- A job that waits for a later dispatch. -/
def deferJob (ref : Nat) (job : JobRequest) : SchedulerCall Unit := do
  Call.modify (fun s => { s.setJob ref (fun job =>
      { job with
        deferralCount := job.deferralCount + 1
        status := .deferred
        reasonCodes := addCode "resource_admission_deferred" job.reasonCodes }) with
    deferredIds := if job.jobId ∈ s.deferredIds then s.deferredIds else s.deferredIds ++ [job.jobId] })
  ledger (OpportunityLedger.markDeferred job.opportunityId "resource_admission_deferred")

/-- The loop of `dispatch` over the heap, which `items` lists: it ends with the
    selected job, if any, and the items to push back. A reference always leads to
    its job. -/
def dispatchLoop (resources : ResourceSnapshot) (nowNs : Nat) :
    (items held : List QueueItem) → SchedulerCall (Option (Nat × JobRequest) × List QueueItem)
  | [], held => pure (none, held)
  | item :: rest, held => do
      Call.modify (fun s => { s with queue := rest })
      let found ← Call.read (fun s => s.jobs[item.job]?)
      match found with
      | none => Call.raise .assertionError
      | some job => do
          let verdict ← Call.read (fun s => (s.admissible item.job job resources nowNs).1)
          Call.modify (fun s => (s.admissible item.job job resources nowNs).2)
          match verdict with
          | (_, some reason) => do
              rejectJob item.job job nowNs reason
              dispatchLoop resources nowNs rest held
          | (true, none) => pure (some (item.job, job), held)
          | (false, none) => do
              deferJob item.job job
              dispatchLoop resources nowNs rest (held ++ [item])

/-- Start the selected job. -/
def startJob (ref : Nat) (job : JobRequest) (nowNs : Nat) : SchedulerCall Unit := do
  Call.modify (fun s => { s.setJob ref (fun job =>
      { job with status := .running, serviceStartedMonotonicNs := some nowNs }) with
    deferredIds := s.deferredIds.filter (fun id => id ≠ job.jobId)
    active := s.active.insert job.jobId ref })
  ledger (OpportunityLedger.markStarted job.opportunityId nowNs)

/-- `dispatch`, which returns the reference of the job it starts. -/
def dispatch (resources : ResourceSnapshot) (nowNs : Nat) : SchedulerCall (Option Nat) := do
  let items ← Call.read queue
  if items.isEmpty then pure none
  else do
    let outcome ← dispatchLoop resources nowNs items []
    Call.modify (fun s => { s with queue := outcome.2.foldl (fun queue item => heappush item queue) s.queue })
    match outcome.1 with
    | none => pure none
    | some (ref, job) => do
        startJob ref job nowNs
        pure (some ref)

/-- `complete`, on one of the scheduler's own jobs. -/
def complete (ref : Nat) (nowNs : Nat) : SchedulerCall Unit := do
  let found ← Call.read (fun s => s.jobs[ref]?)
  match found with
  | none => Call.raise .assertionError
  | some job =>
      if job.status ≠ .running then Call.raise (.valueError "only running jobs can complete")
      else do
        Call.modify (fun s => { s.setJob ref (fun job =>
            { job with status := .completed, completedMonotonicNs := some nowNs }) with
          active := s.active.restrict (fun id => id ≠ job.jobId) })
        ledger (OpportunityLedger.markTerminal job.opportunityId .processed nowNs none)

/-- The state change of `fallback_schedule`. -/
def fallbackSchedule : SchedulerCall Unit :=
  Call.modify (fun s => { s with reasonCodes := addCode "static_fallback_active" s.reasonCodes })

/-! ## Runs -/

inductive Operation where
  | register (spec : WorkloadSpec)
  | freeze
  | reallocateCadence (workloadId : String) (multiplier : Option ℚ) (reasonCode : String)
  | submit (request : Submission)
  | dispatch (resources : ResourceSnapshot) (nowNs : Nat)
  | complete (ref : Nat) (nowNs : Nat)
  | fallbackSchedule

/-- A scheduler and the submissions it has accepted, oldest first. -/
structure History where
  scheduler : WorkloadScheduler
  accepted : List Submission := []

def step (P : Platform) (h : History) : Operation → History
  | .register spec => { h with scheduler := (WorkloadScheduler.register spec h.scheduler).2 }
  | .freeze => { h with scheduler := (WorkloadScheduler.freeze h.scheduler).2 }
  | .reallocateCadence workloadId multiplier reasonCode =>
      { h with scheduler := (WorkloadScheduler.reallocateCadence workloadId multiplier reasonCode h.scheduler).2 }
  | .submit request => match WorkloadScheduler.submit P request h.scheduler with
      | (.ok _, s) => { scheduler := s, accepted := h.accepted ++ [request] }
      | (.error _, s) => { h with scheduler := s }
  | .dispatch resources nowNs => { h with scheduler := (WorkloadScheduler.dispatch resources nowNs h.scheduler).2 }
  | .complete ref nowNs => { h with scheduler := (WorkloadScheduler.complete ref nowNs h.scheduler).2 }
  | .fallbackSchedule => { h with scheduler := (WorkloadScheduler.fallbackSchedule h.scheduler).2 }

def start (config : SchedulerConfig) : History := { scheduler := { config := config } }

def run (P : Platform) (config : SchedulerConfig) (ops : List Operation) : History :=
  Foundation.run (step P) (start config) ops

/-! ## A small node for examples -/

def workload (workloadId : String) (tier : CriticalityTier) : WorkloadSpec where
  workloadId := workloadId
  hazard := .earthquake
  tier := tier
  periodMs := 100
  deadlineMs := 1000
  maxDeferralMs := 1000
  estimatedCostMs := 10
  memoryMb := 16
  profileId := "test"

def request (workloadId : String) (jobId : Nat) : Submission where
  workloadId := workloadId
  payload := .obj []
  correlationId := UUID.ofNat 1
  jobId := UUID.ofNat jobId
  nowUtc := 0
  monotonicNs := 0

def idleNode : ResourceSnapshot where
  cpuPressure := 0
  memoryPressure := 0
  ioPressure := 0
  temperatureC := 45
  availableMemoryMb := 128

end WorkloadScheduler

end SentinelEdge.Runtime
