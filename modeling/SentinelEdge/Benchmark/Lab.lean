import Mathlib.Data.List.Sort
import SentinelEdge.Foundation.Checks
import SentinelEdge.Runtime.Scheduler

/-! # The benchmark lab

`DeterministicBenchmarkLab` replays opportunities in simulated time: at a fixed rate, each
after the one before it, or through the workload scheduler. There an arrival during a
service is queued and the service goes on with the time that is left of it.
-/

namespace SentinelEdge.Benchmark

open Foundation Domain SentinelEdge.Runtime
open WorkloadScheduler (SchedulerCall)

inductive BenchmarkVariant where
  | b0 | b1 | o1
  deriving DecidableEq

def BenchmarkVariant.value : BenchmarkVariant → String
  | .b0 => "B0"
  | .b1 => "B1"
  | .o1 => "O1"

structure BenchmarkOpportunity where
  opportunityKey : String
  workloadId : String
  hazard : HazardKind
  tier : CriticalityTier
  scheduledOffsetMs : Nat
  capturedOffsetMs : Nat
  deadlineMs : Nat
  maxDeferralMs : Nat
  memoryMb : Nat
  profileId : String
  /-- By variant, and none of them negative. -/
  serviceMs : Dict BenchmarkVariant Nat

/-- `item.service_ms[variant]` -/
def BenchmarkOpportunity.service (item : BenchmarkOpportunity) (variant : BenchmarkVariant) : Except Error Nat :=
  match item.serviceMs.get? variant with
  | some service => .ok service
  | none => .error (.keyError variant.value)

/-! ## Records -/

structure StageLatency where
  decode : Int
  preprocess : Int
  infer : Int
  postprocess : Int
  store : Int
  deriving DecidableEq

inductive Disposition where
  | processed | skipped
  deriving DecidableEq

structure BenchmarkRecord where
  opportunityKey : String
  workloadId : String
  hazard : HazardKind
  tier : Nat
  scheduledReleaseMs : Nat
  actualReleaseMs : Nat
  captureMs : Nat
  queueStartMs : Nat
  serviceStartMs : Option Nat
  completionMs : Option Nat
  queueLatencyMs : Option Int
  serviceMs : Option Int
  stageLatencyMs : Option StageLatency
  endToEndMs : Option Int
  deadlineMs : Nat
  deadlineMissed : Bool
  disposition : Disposition
  reasonCodes : List String := []
  deriving DecidableEq

def stageLatency (serviceMs : Int) : StageLatency where
  decode := serviceMs / 5
  preprocess := serviceMs / 5
  infer := serviceMs * 2 / 5
  postprocess := serviceMs / 10
  store := serviceMs - serviceMs / 5 * 2 - serviceMs * 2 / 5 - serviceMs / 10

/-- `_record` -/
def record (item : BenchmarkOpportunity) (releaseMs : Nat) (serviceStartMs completionMs : Option Nat)
    (endToEndMs : Option Int) : BenchmarkRecord :=
  let serviceMs := completionMs.bind fun completion => serviceStartMs.map fun start => (completion : Int) - start
  { opportunityKey := item.opportunityKey
    workloadId := item.workloadId
    hazard := item.hazard
    tier := item.tier.level
    scheduledReleaseMs := item.scheduledOffsetMs
    actualReleaseMs := releaseMs
    captureMs := item.capturedOffsetMs
    queueStartMs := releaseMs
    serviceStartMs := serviceStartMs
    completionMs := completionMs
    queueLatencyMs := serviceStartMs.map fun start => (start : Int) - releaseMs
    serviceMs := serviceMs
    stageLatencyMs := serviceMs.map stageLatency
    endToEndMs := endToEndMs
    deadlineMs := item.deadlineMs
    deadlineMissed := completionMs.all fun completion => releaseMs + item.deadlineMs < completion
    disposition := if completionMs.isSome then .processed else .skipped }

/-- The record of an opportunity that was served. -/
def servedRecord (item : BenchmarkOpportunity) (releaseMs serviceStartMs completionMs : Nat) : BenchmarkRecord :=
  record item releaseMs (some serviceStartMs) (some completionMs) (some ((completionMs : Int) - item.capturedOffsetMs))

/-- The record of an opportunity that was never dispatched. -/
def skippedRecord (item : BenchmarkOpportunity) : BenchmarkRecord :=
  { record item item.scheduledOffsetMs none none none with
    disposition := .skipped
    reasonCodes := ["not_dispatched"]
    deadlineMissed := true }

/-- By scheduled offset; opportunities of one offset stay in the order they are given in. -/
def byOffset (opportunities : List BenchmarkOpportunity) : List BenchmarkOpportunity :=
  opportunities.insertionSort (fun a b => a.scheduledOffsetMs ≤ b.scheduledOffsetMs)

/-! ## At a fixed rate -/

/-- The loop of `_run_fixed`. -/
def serveInTurn (variant : BenchmarkVariant) : Nat → List BenchmarkOpportunity → Except Error (List BenchmarkRecord)
  | _, [] => .ok []
  | nowMs, item :: rest => do
      let serviceStartMs := max nowMs item.scheduledOffsetMs
      let service ← item.service variant
      let records ← serveInTurn variant (serviceStartMs + service) rest
      pure (servedRecord item item.scheduledOffsetMs serviceStartMs (serviceStartMs + service) :: records)

/-- `_run_fixed` -/
def runFixed (opportunities : List BenchmarkOpportunity) (variant : BenchmarkVariant) : Except Error (List BenchmarkRecord) :=
  serveInTurn variant 0 (byOffset opportunities)

/-! ## Through the scheduler -/

/-- The arguments of `_run_orchestrated` but for the opportunities, and what `uuid4` gives
    for the job that is made after a number of others. -/
structure LabSetup where
  start : DateTime
  variant : BenchmarkVariant
  resources : ResourceSnapshot
  uuid4 : Nat → UUID

/-- `active`: the job, its opportunity and release, and the service time left. -/
structure ActiveService where
  job : Nat
  item : BenchmarkOpportunity
  releaseMs : Nat
  remainingMs : Nat

/-- The local variables of `_run_orchestrated`. The clock only moves by whole
    milliseconds, in which it is kept, and the calendar has no end. -/
structure LabRun where
  scheduler : WorkloadScheduler
  arrivals : List BenchmarkOpportunity
  nowMs : Nat := 0
  jobsById : Dict UUID (BenchmarkOpportunity × Nat) := Dict.empty
  records : List BenchmarkRecord := []
  active : Option ActiveService := none
  decisions : Nat := 0

namespace LabRun

def monotonicNs (lab : LabRun) : Nat := lab.nowMs * 1000000

/-- `clock.advance_ms` -/
def advanceMs (milliseconds : Int) (lab : LabRun) : Except Error LabRun :=
  if milliseconds < 0 then .error (.valueError "cannot move virtual clock backwards")
  else .ok { lab with nowMs := lab.nowMs + milliseconds.toNat }

/-- `scheduler_call` -/
def schedulerCall {α : Type} (call : SchedulerCall α) (lab : LabRun) : Except Error (α × LabRun) :=
  match call lab.scheduler with
  | (.ok result, scheduler) => .ok (result, { lab with scheduler := scheduler, decisions := lab.decisions + 1 })
  | (.error error, _) => .error error

end LabRun

/-- The specification of a workload, which needs a deadline, a memory size and a cost. -/
def workloadSpec (item : BenchmarkOpportunity) (variant : BenchmarkVariant) : Except Error WorkloadSpec := do
  let service ← item.service variant
  if item.deadlineMs = 0 ∨ service = 0 ∨ item.memoryMb = 0 then
    .error (.validationError "Input should be greater than 0")
  else pure {
    workloadId := item.workloadId
    hazard := item.hazard
    tier := item.tier
    periodMs := max 1 item.deadlineMs
    deadlineMs := item.deadlineMs
    maxDeferralMs := item.maxDeferralMs
    estimatedCostMs := service
    memoryMb := item.memoryMb
    profileId := item.profileId }

/-- Register every workload with the specification of its first opportunity. -/
def registerWorkloads (variant : BenchmarkVariant) : List String → List BenchmarkOpportunity → LabRun → Except Error LabRun
  | _, [], lab => .ok lab
  | specs, item :: rest, lab =>
      if item.workloadId ∈ specs then registerWorkloads variant specs rest lab
      else do
        let spec ← workloadSpec item variant
        let called ← lab.schedulerCall (WorkloadScheduler.register spec)
        registerWorkloads variant (specs ++ [item.workloadId]) rest called.2

section Orchestrated

variable (P : Platform) (setup : LabSetup)

/-- What is submitted for an opportunity. -/
def submission (lab : LabRun) (item : BenchmarkOpportunity) : Submission where
  workloadId := item.workloadId
  payload := .obj [("opportunity_key", .str item.opportunityKey)]
  releasedAt := some (setup.start + item.scheduledOffsetMs * 1000)
  scheduledReleaseAt := some (setup.start + item.scheduledOffsetMs * 1000)
  capturedAt := some (setup.start + item.capturedOffsetMs * 1000)
  correlationId := P.uuid5 ("benchmark:" ++ item.opportunityKey)
  jobId := setup.uuid4 lab.scheduler.jobs.length
  nowUtc := setup.start + lab.nowMs * 1000
  monotonicNs := lab.monotonicNs

/-- `submit_due`, on the arrivals that are left. -/
def submitDue : List BenchmarkOpportunity → LabRun → Except Error LabRun
  | [], lab => .ok lab
  | item :: rest, lab =>
      if item.scheduledOffsetMs ≤ lab.nowMs then do
        let called ← lab.schedulerCall (WorkloadScheduler.submit P (submission P setup lab item))
        submitDue rest { called.2 with
          arrivals := rest
          jobsById := called.2.jobsById.insert called.1.jobId (item, item.scheduledOffsetMs) }
      else .ok lab

/-- Where a round of the loop leaves off. -/
inductive Round where
  | goesOn (lab : LabRun)
  /-- `break` -/
  | breaks (lab : LabRun)

/-- An idle lab with nothing queued waits for the next arrival. -/
def awaitArrival (lab : LabRun) : Except Error LabRun :=
  match lab.arrivals with
  | [] => .ok lab
  | next :: _ =>
      if lab.active.isNone ∧ lab.scheduler.queue.isEmpty ∧ lab.nowMs < next.scheduledOffsetMs then
        lab.advanceMs ((next.scheduledOffsetMs : Int) - lab.nowMs)
      else .ok lab

/-- The service goes on until the next arrival. -/
def serveUntil (next : BenchmarkOpportunity) (a : ActiveService) (lab : LabRun) : Except Error Round := do
  let delta := (next.scheduledOffsetMs : Int) - lab.nowMs
  let later ← lab.advanceMs delta
  let submitted ← submitDue P setup later.arrivals
    { later with active := some { a with remainingMs := a.remainingMs - delta.toNat } }
  pure (.goesOn submitted)

/-- `value // 1_000_000`, where `None` raises. -/
def milliseconds (monotonicNs : Option Nat) : Except Error Nat :=
  match monotonicNs with
  | some ns => .ok (ns / 1000000)
  | none => .error (.typeError "unsupported operand type(s) for //: 'NoneType' and 'int'")

/-- The service ends. -/
def finishService (a : ActiveService) (lab : LabRun) : Except Error Round := do
  let later ← lab.advanceMs a.remainingMs
  let called ← later.schedulerCall (WorkloadScheduler.complete a.job later.monotonicNs)
  let job := called.2.scheduler.jobs[a.job]?
  let completionMs ← milliseconds (job.bind JobRequest.completedMonotonicNs)
  let serviceStartMs ← milliseconds (job.bind JobRequest.serviceStartedMonotonicNs)
  pure (.goesOn { called.2 with
    records := called.2.records ++ [servedRecord a.item a.releaseMs serviceStartMs completionMs]
    active := none })

/-- The round of a busy lab. -/
def serve (a : ActiveService) (lab : LabRun) : Except Error Round :=
  match lab.arrivals with
  | [] => finishService a lab
  | next :: _ =>
      if next.scheduledOffsetMs < lab.nowMs + a.remainingMs then serveUntil P setup next a lab else finishService a lab

/-- The service of a job that was dispatched. -/
def activate (ref : Nat) (lab : LabRun) : Except Error ActiveService :=
  match (lab.scheduler.jobs[ref]?).bind (fun job => lab.jobsById.get? job.jobId) with
  | none => .error (.keyError "job_id")
  | some (item, releaseMs) => (item.service setup.variant).map fun service => ⟨ref, item, releaseMs, service⟩

/-- One round of the loop. -/
def loopRound (lab : LabRun) : Except Error Round := do
  let awaited ← awaitArrival lab
  let lab ← submitDue P setup awaited.arrivals awaited
  match lab.active with
  | some a => serve P setup a lab
  | none => do
      let (found, lab) ← lab.schedulerCall (WorkloadScheduler.dispatch setup.resources lab.monotonicNs)
      match found with
      | none => pure (if lab.scheduler.queue.isEmpty then .goesOn lab else .breaks lab)
      | some ref => do
          let a ← activate setup ref lab
          serve P setup a { lab with active := some a }

/-- The loop, `none` if it is still going after as many rounds. -/
def loop : Nat → LabRun → Option (Except Error LabRun)
  | 0, _ => none
  | fuel + 1, lab =>
      if lab.arrivals.isEmpty ∧ lab.scheduler.queue.isEmpty ∧ lab.active.isNone then some (.ok lab)
      else match loopRound P setup lab with
        | .error error => some (.error error)
        | .ok (.breaks lab) => some (.ok lab)
        | .ok (.goesOn lab) => loop fuel lab

/-- The key that the records are sorted by: `(service_start_ms is None, service_start_ms or 0, opportunity_key)`. -/
def BenchmarkRecord.noLater (a b : BenchmarkRecord) : Bool :=
  let start (r : BenchmarkRecord) := r.serviceStartMs.getD 0
  (a.serviceStartMs.isSome && b.serviceStartMs.isNone) ||
    (a.serviceStartMs.isSome == b.serviceStartMs.isSome &&
      (start a < start b || (start a = start b && a.opportunityKey ≤ b.opportunityKey)))

/-- The records of the loop and those of what it left, in order. -/
def accountFor (opportunities : List BenchmarkOpportunity) (records : List BenchmarkRecord) : List BenchmarkRecord :=
  let processedKeys := records.map BenchmarkRecord.opportunityKey
  (records ++ (opportunities.filter fun item => item.opportunityKey ∉ processedKeys).map skippedRecord).insertionSort
    (fun a b => a.noLater b = true)

/-- A lab with its workloads registered. -/
def openLab (opportunities : List BenchmarkOpportunity) : Except Error LabRun :=
  registerWorkloads setup.variant [] opportunities {
    scheduler := { config := {
      mode := .benchmark
      approvedProfileIds := some (opportunities.map BenchmarkOpportunity.profileId) } }
    arrivals := byOffset opportunities }

/-- `_run_orchestrated`: the records and the number of scheduler decisions. -/
def runOrchestrated (fuel : Nat) (opportunities : List BenchmarkOpportunity) :
    Option (Except Error (List BenchmarkRecord × Nat)) :=
  match openLab setup opportunities with
  | .error error => some (.error error)
  | .ok lab => (loop P setup fuel lab).map fun outcome =>
      outcome.map fun last => (accountFor opportunities last.records, last.decisions)

end Orchestrated

end SentinelEdge.Benchmark

/-! ## Timetables

A lab serves opportunities in stints, one after the other. A timetable and what it leaves
out account for a list of opportunities; at a fixed rate nothing is left out.
-/

namespace SentinelEdge.Benchmark

open Foundation

/-! ## Stints -/

structure Stint where
  item : BenchmarkOpportunity
  startMs : Nat
  serviceMs : Nat

namespace Stint

def endMs (stint : Stint) : Nat := stint.startMs + stint.serviceMs

def record (stint : Stint) : BenchmarkRecord :=
  servedRecord stint.item stint.item.scheduledOffsetMs stint.startMs stint.endMs

/-- It begins at the release or later, and lasts as long as the variant takes. -/
structure Regular (variant : BenchmarkVariant) (stint : Stint) : Prop where
  service : stint.item.service variant = .ok stint.serviceMs
  released : stint.item.scheduledOffsetMs ≤ stint.startMs

end Stint

structure Timetable (variant : BenchmarkVariant) (stints : List Stint) : Prop where
  regular : ∀ stint ∈ stints, stint.Regular variant
  inTurn : stints.Pairwise (fun a b => a.endMs ≤ b.startMs)

variable {variant : BenchmarkVariant} {opportunities : List BenchmarkOpportunity} {stints : List Stint} {nowMs : Nat}

theorem Timetable.nil (variant : BenchmarkVariant) : Timetable variant [] := ⟨by simp, List.Pairwise.nil⟩

theorem Timetable.cons {stint : Stint} (regular : stint.Regular variant) (later : ∀ other ∈ stints, stint.endMs ≤ other.startMs)
    (table : Timetable variant stints) : Timetable variant (stint :: stints) where
  regular := List.forall_mem_cons.mpr ⟨regular, table.regular⟩
  inTurn := List.pairwise_cons.mpr ⟨later, table.inTurn⟩

theorem Timetable.append {stint : Stint} (table : Timetable variant stints) (regular : stint.Regular variant)
    (earlier : ∀ other ∈ stints, other.endMs ≤ stint.startMs) : Timetable variant (stints ++ [stint]) where
  regular := by
    intro other member
    cases List.mem_append.mp member with
    | inl before => exact table.regular other before
    | inr last => exact List.mem_singleton.mp last ▸ regular
  inTurn := by
    apply List.pairwise_append.mpr
    refine ⟨table.inTurn, List.pairwise_singleton _ _, fun other before _ last => ?_⟩
    exact List.mem_singleton.mp last ▸ earlier other before

/-! ## What records account for -/

/-- Two records are not of services at one time. -/
def BenchmarkRecord.Apart (a b : BenchmarkRecord) : Prop :=
  ∀ start completion start' completion', a.serviceStartMs = some start → a.completionMs = some completion →
    b.serviceStartMs = some start' → b.completionMs = some completion' → completion ≤ start' ∨ completion' ≤ start

/-- The record of a service of the opportunity. -/
structure BenchmarkRecord.Serves (variant : BenchmarkVariant) (item : BenchmarkOpportunity) (r : BenchmarkRecord) : Prop where
  key : r.opportunityKey = item.opportunityKey
  disposition : r.disposition = .processed
  release : r.actualReleaseMs = item.scheduledOffsetMs
  interval : ∃ start service, item.service variant = .ok service ∧ item.scheduledOffsetMs ≤ start ∧
    r.serviceStartMs = some start ∧ r.completionMs = some (start + service) ∧ r.serviceMs = some (service : Int)

/-- The record of an opportunity without a service. -/
structure BenchmarkRecord.Skips (item : BenchmarkOpportunity) (r : BenchmarkRecord) : Prop where
  key : r.opportunityKey = item.opportunityKey
  disposition : r.disposition = .skipped
  start : r.serviceStartMs = none
  completion : r.completionMs = none

/-- One record for each opportunity, and one service at a time. -/
structure Conserves (variant : BenchmarkVariant) (opportunities : List BenchmarkOpportunity) (records : List BenchmarkRecord) :
    Prop where
  once : (records.map BenchmarkRecord.opportunityKey).Perm (opportunities.map BenchmarkOpportunity.opportunityKey)
  settled : ∀ r ∈ records, ∃ item ∈ opportunities, r.Serves variant item ∨ r.Skips item
  apart : records.Pairwise BenchmarkRecord.Apart

theorem BenchmarkRecord.Apart.symm {a b : BenchmarkRecord} (apart : a.Apart b) : b.Apart a :=
  fun start completion start' completion' begins ends begins' ends' =>
    (apart start' completion' start completion begins' ends' begins ends).symm

theorem Stint.Regular.serves {stint : Stint} (regular : stint.Regular variant) : stint.record.Serves variant stint.item where
  key := rfl
  disposition := rfl
  release := rfl
  interval := by
    refine ⟨stint.startMs, stint.serviceMs, regular.service, regular.released, rfl, rfl, ?_⟩
    simp [Stint.record, Stint.endMs, servedRecord, Benchmark.record]

theorem skippedRecord_skips (item : BenchmarkOpportunity) : (skippedRecord item).Skips item := ⟨rfl, rfl, rfl, rfl⟩

/-- The records of a timetable and those of what it leaves out, in any order. -/
theorem Timetable.conserves (table : Timetable variant stints) {left : List BenchmarkOpportunity}
    (whole : (stints.map Stint.item ++ left).Perm opportunities) {records : List BenchmarkRecord}
    (accounted : records.Perm (stints.map Stint.record ++ left.map skippedRecord)) :
    Conserves variant opportunities records where
  once := by
    refine (accounted.map BenchmarkRecord.opportunityKey).trans ?_
    refine List.Perm.trans (List.Perm.of_eq ?_) (whole.map BenchmarkOpportunity.opportunityKey)
    simp [Function.comp_def, Stint.record, servedRecord, record, skippedRecord]
  settled := by
    intro r member
    cases List.mem_append.mp (accounted.mem_iff.mp member) with
    | inl served =>
        obtain ⟨stint, among, rfl⟩ := List.mem_map.mp served
        have known : stint.item ∈ stints.map Stint.item ++ left := by
          apply List.mem_append_left
          exact List.mem_map_of_mem among
        exact ⟨stint.item, whole.mem_iff.mp known, Or.inl (table.regular stint among).serves⟩
    | inr skipped =>
        obtain ⟨item, among, rfl⟩ := List.mem_map.mp skipped
        exact ⟨item, whole.mem_iff.mp (List.mem_append_right _ among), Or.inr (skippedRecord_skips item)⟩
  apart := by
    apply (accounted.pairwise_iff (fun apart => apart.symm)).mpr
    apply List.pairwise_append.mpr
    refine ⟨?_, ?_, ?_⟩
    · apply List.pairwise_map.mpr
      apply table.inTurn.imp
      intro a b inTurn _ completion start' _ _ ends begins _
      obtain rfl := Option.some.inj ends
      obtain rfl := Option.some.inj begins
      exact Or.inl inTurn
    · apply List.pairwise_map.mpr
      apply List.pairwise_of_forall
      intro a b _ _ _ _ begins
      cases begins
    · intro a _ b skipped _ _ _ _ _ _ begins
      obtain ⟨item, -, rfl⟩ := List.mem_map.mp skipped
      cases begins

/-! ## At a fixed rate -/

theorem serveInTurn_stints {items : List BenchmarkOpportunity} {records : List BenchmarkRecord}
    (returned : serveInTurn variant nowMs items = .ok records) :
    ∃ stints, records = stints.map Stint.record ∧ stints.map Stint.item = items ∧ Timetable variant stints ∧
      ∀ stint ∈ stints, nowMs ≤ stint.startMs := by
  induction items generalizing nowMs records with
  | nil =>
      obtain rfl := Except.ok.inj returned
      exact ⟨[], rfl, rfl, Timetable.nil variant, by simp⟩
  | cons item rest ih =>
      rw [serveInTurn, Checks.bind_eq_ok] at returned
      obtain ⟨service, served, returned⟩ := returned
      obtain ⟨later, following, returned⟩ := Checks.bind_eq_ok.mp returned
      obtain rfl := Except.ok.inj returned
      obtain ⟨stints, rfl, rfl, table, after⟩ := ih following
      let stint : Stint := ⟨item, max nowMs item.scheduledOffsetMs, service⟩
      refine ⟨stint :: stints, rfl, rfl, table.cons ⟨served, le_max_right _ _⟩ after, ?_⟩
      refine List.forall_mem_cons.mpr ⟨le_max_left _ _, fun other member => ?_⟩
      have waits := after other member
      omega

theorem byOffset_perm (opportunities : List BenchmarkOpportunity) : (byOffset opportunities).Perm opportunities :=
  List.perm_insertionSort _ _

theorem runFixed_conserves {records : List BenchmarkRecord} (returned : runFixed opportunities variant = .ok records) :
    Conserves variant opportunities records ∧ ∀ r ∈ records, r.disposition = .processed := by
  obtain ⟨stints, rfl, items, table, -⟩ := serveInTurn_stints returned
  have whole : (stints.map Stint.item ++ []).Perm opportunities := by
    rw [List.append_nil, items]
    exact byOffset_perm opportunities
  refine ⟨table.conserves whole (by simp), fun r member => ?_⟩
  obtain ⟨stint, -, rfl⟩ := List.mem_map.mp member
  rfl

end SentinelEdge.Benchmark
