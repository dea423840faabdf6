import SentinelEdge.Benchmark.Lab
import SentinelEdge.Runtime.DispatchOrder

/-! # What a benchmark run accounts for

Every opportunity of a run has one record: that of its stint, or the one that says it was
never dispatched. The account of a lab follows it from round to round, and every round
that goes on leaves less to do.
-/

namespace SentinelEdge.Benchmark

open Foundation Domain SentinelEdge.Runtime
open WorkloadScheduler (SchedulerCall Queued)

/-! ## Through the scheduler -/

/-- What a run has come to: the opportunities it has submitted, in the order of their jobs,
    and of those it has served the job and the stint. -/
structure Account where
  submitted : List BenchmarkOpportunity := []
  done : List Nat := []
  stints : List Stint := []

variable {P : Platform} {opportunities : List BenchmarkOpportunity} {setup : LabSetup} {account : Account} {lab lab' : LabRun}

/-- The service under way, of which the account will have the stint. -/
structure Serving (setup : LabSetup) (account : Account) (lab : LabRun) (a : ActiveService) (stint : Stint) : Prop where
  item : account.submitted[a.job]? = some a.item
  release : a.releaseMs = a.item.scheduledOffsetMs
  new : a.job ∉ account.done
  gone : a.job ∉ refs lab.scheduler.queue
  begun : ∀ job, lab.scheduler.jobs[a.job]? = some job → job.serviceStartedMonotonicNs = some (stint.startMs * 1000000)
  same : stint.item = a.item
  regular : stint.Regular setup.variant
  next : ∀ other ∈ account.stints, other.endMs ≤ stint.startMs
  ends : stint.endMs = lab.nowMs + a.remainingMs

/-- The lab stands as its account says. -/
structure Fits (setup : LabSetup) (opportunities : List BenchmarkOpportunity) (account : Account) (lab : LabRun) : Prop where
  order : account.submitted ++ lab.arrivals = byOffset opportunities
  queued : Queued lab.scheduler
  jobIds : lab.scheduler.jobs.map JobRequest.jobId = (List.range account.submitted.length).map setup.uuid4
  known : ∀ ref item, account.submitted[ref]? = some item →
    lab.jobsById.get? (setup.uuid4 ref) = some (item, item.scheduledOffsetMs)
  due : ∀ item ∈ account.submitted, item.scheduledOffsetMs ≤ lab.nowMs
  records : lab.records = account.stints.map Stint.record
  table : Timetable setup.variant account.stints
  past : ∀ stint ∈ account.stints, stint.endMs ≤ lab.nowMs
  items : account.done.map (fun ref => account.submitted[ref]?) = account.stints.map (fun stint => some stint.item)
  once : account.done.Nodup
  waiting : ∀ ref ∈ refs lab.scheduler.queue, ref ∉ account.done
  serving : ∀ a, lab.active = some a → ∃ stint, Serving setup account lab a stint

/-- How much the rounds of a lab have left to do. -/
def LabRun.work (lab : LabRun) : Nat :=
  3 * lab.arrivals.length + 2 * lab.scheduler.queue.length + if lab.active.isSome then 1 else 0

theorem schedulerCall_eq_ok {α : Type} {call : SchedulerCall α} {result : α} :
    lab.schedulerCall call = .ok (result, lab') ↔
      ∃ scheduler, call lab.scheduler = (.ok result, scheduler) ∧
        lab' = { lab with scheduler := scheduler, decisions := lab.decisions + 1 } := by
  unfold LabRun.schedulerCall
  rcases called : call lab.scheduler with ⟨answer, scheduler⟩
  cases answer with
  | error e => simp
  | ok value =>
      simp only [Except.ok.injEq, Prod.mk.injEq]
      constructor
      · intro same
        exact ⟨scheduler, ⟨same.1, rfl⟩, same.2.symm⟩
      · intro same
        obtain ⟨_, ⟨here, rfl⟩, rfl⟩ := same
        exact ⟨here, rfl⟩

theorem advanceMs_eq_ok {elapsed : Int} :
    lab.advanceMs elapsed = .ok lab' ↔ 0 ≤ elapsed ∧ lab' = { lab with nowMs := lab.nowMs + elapsed.toNat } := by
  unfold LabRun.advanceMs
  split
  · next negative => simp [negative]
  · next forward => simp [eq_comm, not_lt.mp forward]

namespace Fits

theorem jobs_length (fits : Fits setup opportunities account lab) :
    lab.scheduler.jobs.length = account.submitted.length := by
  simpa using congrArg List.length fits.jobIds

theorem submitted_length (fits : Fits setup opportunities account lab) :
    account.submitted.length + lab.arrivals.length = opportunities.length := by
  rw [← List.length_append, fits.order]
  exact (byOffset_perm opportunities).length_eq

/-- The job of a reference was given the id of its place. -/
theorem jobId (fits : Fits setup opportunities account lab) {ref : Nat} {job : JobRequest}
    (found : lab.scheduler.jobs[ref]? = some job) : ref < account.submitted.length ∧ job.jobId = setup.uuid4 ref := by
  have bound := (List.getElem?_eq_some_iff.mp found).1
  rw [fits.jobs_length] at bound
  have ids := congrArg (fun ids => ids[ref]?) fits.jobIds
  simp only [List.getElem?_map, found, List.getElem?_range bound, Option.map_some, Option.some.injEq] at ids
  exact ⟨bound, ids⟩

theorem done_lt (fits : Fits setup opportunities account lab) {ref : Nat} (member : ref ∈ account.done) :
    ref < account.submitted.length := by
  have listed := List.mem_map_of_mem (f := fun ref => account.submitted[ref]?) member
  rw [fits.items] at listed
  obtain ⟨stint, -, found⟩ := List.mem_map.mp listed
  exact (List.getElem?_eq_some_iff.mp found.symm).1

/-- An idle lab waits. -/
theorem wait (fits : Fits setup opportunities account lab) (idle : lab.active = none) (elapsed : Nat) :
    Fits setup opportunities account { lab with nowMs := lab.nowMs + elapsed } :=
  { fits with
    due := fun item member => Nat.le_add_right_of_le (fits.due item member)
    past := fun stint member => Nat.le_add_right_of_le (fits.past stint member)
    serving := fun a active => absurd (idle.symm.trans active) (by simp) }

/-- A busy lab goes on with its service. -/
theorem goOn {a : ActiveService} (fits : Fits setup opportunities account lab) (active : lab.active = some a) {elapsed : Nat}
    (within : elapsed ≤ a.remainingMs) :
    Fits setup opportunities account { lab with
      nowMs := lab.nowMs + elapsed
      active := some { a with remainingMs := a.remainingMs - elapsed } } :=
  { fits with
    due := fun item member => Nat.le_add_right_of_le (fits.due item member)
    past := fun stint member => Nat.le_add_right_of_le (fits.past stint member)
    serving := by
      intro b same
      obtain rfl := Option.some.inj same
      obtain ⟨stint, serving⟩ := fits.serving a active
      have ends := serving.ends
      refine ⟨stint, { serving with ends := ?_ }⟩
      show stint.endMs = lab.nowMs + elapsed + (a.remainingMs - elapsed)
      omega }

end Fits

/-! ### Submissions -/

theorem submit_eq_ok {s t : WorkloadScheduler} {r : Submission} {job : JobRequest}
    (returned : WorkloadScheduler.submit P r s = (.ok job, t)) :
    job.jobId = r.jobId ∧ ∃ spec, t = WorkloadScheduler.submitted P r spec s := by
  by_cases admits : s.Admits r
  · obtain ⟨spec, -, call⟩ := WorkloadScheduler.submit_of_admits (P := P) admits
    rw [call] at returned
    cases returned
    exact ⟨rfl, spec, rfl⟩
  · obtain ⟨e, call⟩ := WorkloadScheduler.submit_of_not_admits (P := P) admits
    rw [call] at returned
    cases returned

/-- The jobs of a run get different ids. -/
def LabSetup.Distinct (setup : LabSetup) (count : Nat) : Prop :=
  ∀ i j, i < count → j < count → setup.uuid4 i = setup.uuid4 j → i = j

/-- The lab with its next arrival submitted. -/
def LabRun.withSubmitted (P : Platform) (setup : LabSetup) (item : BenchmarkOpportunity) (rest : List BenchmarkOpportunity)
    (spec : WorkloadSpec) (lab : LabRun) : LabRun :=
  { lab with
    scheduler := WorkloadScheduler.submitted P (submission P setup lab item) spec lab.scheduler
    decisions := lab.decisions + 1
    arrivals := rest
    jobsById := lab.jobsById.insert (setup.uuid4 lab.scheduler.jobs.length) (item, item.scheduledOffsetMs) }

theorem Fits.submit (fits : Fits setup opportunities account lab) (distinct : setup.Distinct opportunities.length)
    {item : BenchmarkOpportunity} {rest : List BenchmarkOpportunity} (arrivals : lab.arrivals = item :: rest)
    (due : item.scheduledOffsetMs ≤ lab.nowMs) (spec : WorkloadSpec) :
    Fits setup opportunities { account with submitted := account.submitted ++ [item] }
      (lab.withSubmitted P setup item rest spec) := by
  have count := fits.submitted_length
  simp only [arrivals, List.length_cons] at count
  have jobs := WorkloadScheduler.submitted_jobs P (submission P setup lab item) spec lab.scheduler
  have queue : ∀ ref, ref ∈ refs (WorkloadScheduler.submitted P (submission P setup lab item) spec lab.scheduler).queue ↔
      ref = account.submitted.length ∨ ref ∈ refs lab.scheduler.queue := by
    intro ref
    rw [(WorkloadScheduler.submitted_queue (P := P) _ spec _).mem_iff, WorkloadScheduler.cores, List.length_map,
      fits.jobs_length, List.mem_cons]
  have old : ∀ {ref : Nat}, ref < account.submitted.length → (account.submitted ++ [item])[ref]? = account.submitted[ref]? :=
    fun bound => List.getElem?_append_left bound
  exact {
    order := by
      rw [← fits.order, arrivals]
      simp [LabRun.withSubmitted]
    queued := fits.queued.submitted P _ spec
    jobIds := by
      rw [LabRun.withSubmitted, jobs, List.map_append, fits.jobIds]
      simp [List.range_succ, WorkloadScheduler.newJob, submission, fits.jobs_length]
    known := by
      intro ref other found
      rw [LabRun.withSubmitted, Dict.get?_insert, fits.jobs_length]
      by_cases bound : ref < account.submitted.length
      · have apart : setup.uuid4 ref ≠ setup.uuid4 account.submitted.length := by
          intro same
          have := distinct _ _ (by omega) (by omega) same
          omega
        rw [if_neg apart]
        exact fits.known ref other (old bound ▸ found)
      · rw [List.getElem?_append_right (by omega)] at found
        obtain ⟨here, rfl⟩ : ref - account.submitted.length = 0 ∧ item = other := by simpa [List.getElem?_singleton] using found
        have last : ref = account.submitted.length := by omega
        rw [if_pos (by rw [last])]
    due := by
      intro other member
      cases List.mem_append.mp member with
      | inl before => exact fits.due other before
      | inr last => exact List.mem_singleton.mp last ▸ due
    records := fits.records
    table := fits.table
    past := fits.past
    items := by
      rw [← fits.items]
      apply List.map_congr_left
      intro ref member
      exact old (fits.done_lt member)
    once := fits.once
    waiting := by
      intro ref member finished
      have bound := fits.done_lt finished
      cases (queue ref).mp member with
      | inl last => omega
      | inr before => exact fits.waiting ref before finished
    serving := by
      intro a active
      obtain ⟨stint, serving⟩ := fits.serving a active
      have bound := (List.getElem?_eq_some_iff.mp serving.item).1
      refine ⟨stint, { serving with item := ?_, gone := ?_, begun := ?_ }⟩
      · exact (old bound).trans serving.item
      · intro member
        cases (queue a.job).mp member with
        | inl last => omega
        | inr before => exact serving.gone before
      · intro job found
        rw [LabRun.withSubmitted, jobs, List.getElem?_append_left (by rw [fits.jobs_length]; exact bound)] at found
        exact serving.begun job found }

/-- What `submit_due` leaves as it was, and that it submits what is due. -/
structure Submits (lab lab' : LabRun) : Prop where
  nowMs : lab'.nowMs = lab.nowMs
  active : lab'.active = lab.active
  pending : lab'.arrivals.length + lab'.scheduler.queue.length = lab.arrivals.length + lab.scheduler.queue.length
  fewer : lab'.arrivals.length ≤ lab.arrivals.length
  eager : ∀ next rest, lab.arrivals = next :: rest → next.scheduledOffsetMs ≤ lab.nowMs →
    lab'.arrivals.length < lab.arrivals.length

theorem submitDue_fits (distinct : setup.Distinct opportunities.length) {items : List BenchmarkOpportunity}
    (fits : Fits setup opportunities account lab) (arrivals : lab.arrivals = items)
    (returned : submitDue P setup items lab = .ok lab') :
    (∃ account, Fits setup opportunities account lab') ∧ Submits lab lab' := by
  induction items generalizing account lab with
  | nil =>
      obtain rfl := Except.ok.inj returned
      exact ⟨⟨account, fits⟩, rfl, rfl, rfl, le_rfl, by simp [arrivals]⟩
  | cons item rest ih =>
      rw [submitDue] at returned
      split at returned
      · next due =>
          obtain ⟨⟨job, submitted⟩, called, returned⟩ := Checks.bind_eq_ok.mp returned
          obtain ⟨scheduler, call, rfl⟩ := schedulerCall_eq_ok.mp called
          obtain ⟨jobId, spec, rfl⟩ := submit_eq_ok call
          have next := fits.submit (P := P) distinct arrivals due spec
          simp only [jobId] at returned
          obtain ⟨after, later⟩ := ih next rfl returned
          have queue := (WorkloadScheduler.submitted_queue (P := P) (submission P setup lab item) spec lab.scheduler).length_eq
          simp only [refs, List.length_map, List.length_cons] at queue
          have pending := later.pending
          have fewer := later.fewer
          simp only [LabRun.withSubmitted, queue] at pending fewer
          refine ⟨after, later.nowMs, later.active, ?_, ?_, fun _ _ _ _ => ?_⟩
          · simp only [arrivals, List.length_cons]
            omega
          · simp only [arrivals, List.length_cons]
            omega
          · simp only [arrivals, List.length_cons]
            omega
      · next early =>
          obtain rfl := Except.ok.inj returned
          refine ⟨⟨account, fits⟩, rfl, rfl, rfl, le_rfl, fun next rest' same due => ?_⟩
          rw [arrivals] at same
          obtain rfl := (List.cons.inj same).1
          exact absurd due early

/-! ### Services -/

theorem refs_subset {queue queue' : List QueueItem} (within : ∀ item ∈ queue', item ∈ queue) : refs queue' ⊆ refs queue := by
  intro ref member
  obtain ⟨item, among, rfl⟩ := List.mem_map.mp member
  exact List.mem_map_of_mem (within item among)

theorem Steady.jobIds {s t : WorkloadScheduler} (steady : WorkloadScheduler.Steady s t) :
    t.jobs.map JobRequest.jobId = s.jobs.map JobRequest.jobId := by
  have same := congrArg (List.map Prod.fst) steady.identity
  simpa [WorkloadScheduler.cores, Function.comp_def, JobCore.identity, JobRequest.core] using same

/-- What a dispatch leaves of the queue of an idle lab. -/
structure Dispatched (s t : WorkloadScheduler) (nowNs : Nat) (found : Option Nat) : Prop where
  queued : Queued t
  jobIds : t.jobs.map JobRequest.jobId = s.jobs.map JobRequest.jobId
  within : refs t.queue ⊆ refs s.queue
  started : ∀ ref, found = some ref → ref ∈ refs s.queue ∧ ref ∉ refs t.queue ∧
    ∀ job, t.jobs[ref]? = some job → job.serviceStartedMonotonicNs = some nowNs

theorem dispatch_dispatched {s t : WorkloadScheduler} (queued : Queued s) {resources : ResourceSnapshot} {nowNs : Nat}
    {found : Option Nat} (call : WorkloadScheduler.dispatch resources nowNs s = (.ok found, t)) : Dispatched s t nowNs found := by
  obtain ⟨result, u, returned, inOrder, after⟩ := WorkloadScheduler.dispatch_inOrder queued resources nowNs
  rw [call] at returned
  cases returned
  have steady := (WorkloadScheduler.dispatch_outcome resources nowNs s).1
  rw [call] at steady
  refine ⟨after, Steady.jobIds steady, refs_subset inOrder.within, ?_⟩
  intro ref same
  obtain ⟨item, member, rfl, chosen⟩ := inOrder.chosen ref same
  refine ⟨List.mem_map_of_mem member, ?_, fun job => WorkloadScheduler.dispatch_starts (same ▸ call)⟩
  intro still
  obtain ⟨other, among, sameJob⟩ := List.mem_map.mp still
  have identical := List.inj_on_of_nodup_map queued.distinct (inOrder.within other among) member sameJob
  exact chosen.leaves (identical ▸ among)

theorem Dispatched.length_lt {s t : WorkloadScheduler} {nowNs ref : Nat} (after : Dispatched s t nowNs (some ref)) :
    t.queue.length < s.queue.length := by
  obtain ⟨waited, gone, -⟩ := after.started ref rfl
  have distinct : (ref :: refs t.queue).Nodup := List.nodup_cons.mpr ⟨gone, after.queued.distinct⟩
  have within : ref :: refs t.queue ⊆ refs s.queue := List.cons_subset.mpr ⟨waited, after.within⟩
  have bound := (List.subperm_of_subset distinct within).length_le
  simpa [refs, Nat.succ_le_iff] using bound

theorem Fits.dispatched (fits : Fits setup opportunities account lab) (idle : lab.active = none) {scheduler : WorkloadScheduler}
    {found : Option Nat} (after : Dispatched lab.scheduler scheduler lab.monotonicNs found) (decisions : Nat) :
    Fits setup opportunities account { lab with scheduler := scheduler, decisions := decisions } :=
  { fits with
    queued := after.queued
    jobIds := after.jobIds.trans fits.jobIds
    waiting := fun ref member => fits.waiting ref (after.within member)
    serving := fun a active => absurd (idle.symm.trans active) (by simp) }

/-- A job that was taken from the queue starts its service now. -/
theorem Fits.activate (fits : Fits setup opportunities account lab) {ref : Nat} {a : ActiveService}
    (returned : activate setup ref lab = .ok a) (new : ref ∉ account.done) (gone : ref ∉ refs lab.scheduler.queue)
    (begun : ∀ job, lab.scheduler.jobs[ref]? = some job → job.serviceStartedMonotonicNs = some lab.monotonicNs) :
    Fits setup opportunities account { lab with active := some a } := by
  unfold Benchmark.activate at returned
  split at returned
  · cases returned
  · next item release found =>
      obtain ⟨job, here, known⟩ := Option.bind_eq_some_iff.mp found
      obtain ⟨bound, jobId⟩ := fits.jobId here
      have listed := List.getElem?_eq_getElem bound
      have recorded := fits.known ref _ listed
      rw [← jobId, known] at recorded
      obtain ⟨rfl, rfl⟩ := Prod.mk.inj (Option.some.inj recorded)
      cases served : BenchmarkOpportunity.service account.submitted[ref] setup.variant with
      | error e =>
          rw [served] at returned
          cases returned
      | ok service =>
          rw [served] at returned
          obtain rfl := Except.ok.inj returned
          refine { fits with serving := ?_ }
          intro b same
          obtain rfl := Option.some.inj same
          exact ⟨⟨account.submitted[ref], lab.nowMs, service⟩, {
            item := listed
            release := rfl
            new := new
            gone := gone
            begun := begun
            same := rfl
            regular := ⟨served, fits.due _ (List.getElem_mem bound)⟩
            next := fits.past
            ends := rfl }⟩

theorem complete_eq_ok {s t : WorkloadScheduler} {ref nowNs : Nat}
    (returned : WorkloadScheduler.complete ref nowNs s = (.ok (), t)) :
    ∃ job, s.jobs[ref]? = some job ∧ t = s.completed ref job nowNs := by
  rw [WorkloadScheduler.complete, Call.read_bind] at returned
  cases found : s.jobs[ref]? with
  | none =>
      rw [found] at returned
      cases returned
  | some job =>
      simp only [found] at returned
      split at returned
      · cases returned
      · rw [Call.modify_bind] at returned
        exact ⟨job, rfl, (congrArg Prod.snd returned).symm⟩

theorem completed_jobs (s : WorkloadScheduler) (ref : Nat) (job : JobRequest) (nowNs : Nat) :
    (s.completed ref job nowNs).jobs =
      (s.setJob ref (fun job => { job with status := .completed, completedMonotonicNs := some nowNs })).jobs := rfl

/-- A service ends as its stint says. -/
theorem Fits.finish (fits : Fits setup opportunities account lab) {a : ActiveService} (active : lab.active = some a)
    {round : Round} (returned : finishService a lab = .ok round) :
    ∃ lab', round = .goesOn lab' ∧ (∃ account, Fits setup opportunities account lab') ∧ lab'.active = none ∧
      lab'.arrivals = lab.arrivals ∧ lab'.scheduler.queue = lab.scheduler.queue := by
  obtain ⟨stint, serving⟩ := fits.serving a active
  obtain ⟨later, moved, returned⟩ := Checks.bind_eq_ok.mp returned
  obtain ⟨-, rfl⟩ := advanceMs_eq_ok.mp moved
  obtain ⟨⟨_, ended⟩, called, returned⟩ := Checks.bind_eq_ok.mp returned
  obtain ⟨scheduler, call, rfl⟩ := schedulerCall_eq_ok.mp called
  obtain ⟨job, found, rfl⟩ := complete_eq_ok call
  have started := serving.begun job found
  have here := @WorkloadScheduler.jobs_setJob_self lab.scheduler a.job (fun job => { job with
    status := .completed
    completedMonotonicNs := some (LabRun.monotonicNs { lab with nowMs := lab.nowMs + (a.remainingMs : Int).toNat }) })
  simp only [completed_jobs, here, found, Option.map_some, Option.bind_some, milliseconds, started] at returned
  obtain rfl := Except.ok.inj returned
  refine ⟨_, rfl, ⟨{ account with done := account.done ++ [a.job], stints := account.stints ++ [stint] }, ?_⟩, rfl, rfl, rfl⟩
  have ends := serving.ends
  exact {
    order := fits.order
    queued := fits.queued.completed found _
    jobIds := (Steady.jobIds (WorkloadScheduler.completed_steady lab.scheduler a.job job _)).trans fits.jobIds
    known := fits.known
    due := fun item member => Nat.le_add_right_of_le (fits.due item member)
    records := by
      have completion : lab.nowMs + a.remainingMs = stint.endMs := ends.symm
      simp [fits.records, Stint.record, serving.same, serving.release, LabRun.monotonicNs, completion]
    table := fits.table.append serving.regular serving.next
    past := by
      intro other member
      show other.endMs ≤ lab.nowMs + (a.remainingMs : Int).toNat
      cases List.mem_append.mp member with
      | inl before => exact Nat.le_add_right_of_le (fits.past other before)
      | inr last =>
          rw [List.mem_singleton.mp last]
          omega
    items := by simp [fits.items, serving.item, serving.same]
    once := by
      apply List.nodup_append.mpr
      refine ⟨fits.once, List.nodup_singleton _, fun ref member other last same => ?_⟩
      rw [List.mem_singleton.mp last] at same
      exact serving.new (same ▸ member)
    waiting := by
      intro ref member finished
      cases List.mem_append.mp finished with
      | inl before => exact fits.waiting ref member before
      | inr last => exact serving.gone (List.mem_singleton.mp last ▸ member)
    serving := by
      intro b same
      cases same }

/-! ### Rounds -/

/-- A round that goes on has done some of the work. -/
structure Progress (setup : LabSetup) (opportunities : List BenchmarkOpportunity) (work : Nat) (lab : LabRun) : Prop where
  fits : ∃ account, Fits setup opportunities account lab
  less : lab.work < work

theorem serve_progress (distinct : setup.Distinct opportunities.length) (fits : Fits setup opportunities account lab)
    {a : ActiveService} (active : lab.active = some a) {round : Round} (returned : serve P setup a lab = .ok round) :
    ∃ lab', round = .goesOn lab' ∧ Progress setup opportunities lab.work lab' := by
  have finishes : ∀ {round}, finishService a lab = .ok round →
      ∃ lab', round = .goesOn lab' ∧ Progress setup opportunities lab.work lab' := by
    intro round finished
    obtain ⟨lab', rfl, after, idle, arrivals, queue⟩ := fits.finish active finished
    refine ⟨lab', rfl, after, ?_⟩
    simp [LabRun.work, idle, active, arrivals, queue]
  unfold serve at returned
  split at returned
  · exact finishes returned
  · next next rest arrivals =>
      split at returned
      · next before =>
          obtain ⟨later, moved, returned⟩ := Checks.bind_eq_ok.mp returned
          obtain ⟨forward, rfl⟩ := advanceMs_eq_ok.mp moved
          obtain ⟨submitted, due, returned⟩ := Checks.bind_eq_ok.mp returned
          obtain rfl := Except.ok.inj returned
          have within : ((next.scheduledOffsetMs : Int) - lab.nowMs).toNat ≤ a.remainingMs := by omega
          obtain ⟨after, submits⟩ := submitDue_fits distinct (fits.goOn active within) rfl due
          refine ⟨submitted, rfl, after, ?_⟩
          have fewer := submits.eager next rest arrivals (by show _ ≤ lab.nowMs + _; omega)
          have pending := submits.pending
          have busy : submitted.active.isSome = true := by rw [submits.active]; rfl
          simp only [LabRun.work, busy, active, Option.isSome_some, if_true]
          simp only at fewer pending
          omega
      · exact finishes returned

theorem awaitArrival_fits (fits : Fits setup opportunities account lab) (returned : awaitArrival lab = .ok lab') :
    Fits setup opportunities account lab' ∧ lab'.active = lab.active ∧ lab'.arrivals = lab.arrivals ∧
      lab'.scheduler = lab.scheduler ∧ (lab.active = none → lab.scheduler.queue = [] →
        ∀ next rest, lab.arrivals = next :: rest → next.scheduledOffsetMs ≤ lab'.nowMs) := by
  unfold awaitArrival at returned
  split at returned
  · next arrivals =>
      obtain rfl := Except.ok.inj returned
      exact ⟨fits, rfl, rfl, rfl, by simp [arrivals]⟩
  · next next rest arrivals =>
      split at returned
      · next waits =>
          obtain ⟨forward, rfl⟩ := advanceMs_eq_ok.mp returned
          refine ⟨fits.wait (by simpa using waits.1) _, rfl, rfl, rfl, fun _ _ other rest' same => ?_⟩
          rw [arrivals] at same
          obtain rfl := (List.cons.inj same).1
          show _ ≤ lab.nowMs + _
          omega
      · next goes =>
          obtain rfl := Except.ok.inj returned
          refine ⟨fits, rfl, rfl, rfl, fun idle empty other rest' same => ?_⟩
          rw [arrivals] at same
          obtain rfl := (List.cons.inj same).1
          simpa [idle, empty] using goes

theorem loopRound_progress (distinct : setup.Distinct opportunities.length) (fits : Fits setup opportunities account lab)
    (going : ¬ (lab.arrivals.isEmpty ∧ lab.scheduler.queue.isEmpty ∧ lab.active.isNone)) {round : Round}
    (returned : loopRound P setup lab = .ok round) :
    (∃ lab', round = .goesOn lab' ∧ Progress setup opportunities lab.work lab') ∨
      ∃ lab', round = .breaks lab' ∧ ∃ account, Fits setup opportunities account lab' := by
  obtain ⟨awaited, waited, returned⟩ := Checks.bind_eq_ok.mp returned
  obtain ⟨fits, active, arrivals, scheduler, ready⟩ := awaitArrival_fits fits waited
  obtain ⟨due, submitted, returned⟩ := Checks.bind_eq_ok.mp returned
  obtain ⟨⟨account, fits⟩, submits⟩ := submitDue_fits distinct fits rfl submitted
  have pending := submits.pending
  have fewer := submits.fewer
  have eager := submits.eager
  rw [arrivals, scheduler] at pending
  rw [arrivals] at fewer eager
  have same : due.active = lab.active := submits.active.trans active
  cases busy : due.active with
  | some a =>
      simp only [busy] at returned
      obtain ⟨lab', rfl, after, less⟩ := serve_progress distinct fits busy returned
      refine Or.inl ⟨lab', rfl, after, less.trans_le ?_⟩
      simp only [LabRun.work, same]
      omega
  | none =>
      simp only [busy] at returned
      obtain ⟨⟨found, dispatched⟩, called, returned⟩ := Checks.bind_eq_ok.mp returned
      obtain ⟨t, call, rfl⟩ := schedulerCall_eq_ok.mp called
      have after := dispatch_dispatched fits.queued call
      have kept := fits.dispatched busy after (due.decisions + 1)
      have idle : lab.active = none := same ▸ busy
      cases found with
      | none =>
          obtain rfl := Except.ok.inj returned
          simp only
          split
          · next empty =>
              refine Or.inl ⟨_, rfl, ⟨account, kept⟩, ?_⟩
              have none : t.queue = [] := by simpa using empty
              have less : 3 * due.arrivals.length < 3 * lab.arrivals.length + 2 * lab.scheduler.queue.length := by
                cases queue : lab.scheduler.queue with
                | cons item items =>
                    simp only [List.length_cons]
                    omega
                | nil =>
                    -- Nothing was queued, so the lab has waited for what it then submitted.
                    cases waiting : lab.arrivals with
                    | nil => exact absurd ⟨by simp [waiting], by simp [queue], by simp [idle]⟩ going
                    | cons next rest =>
                        have submitted := eager next rest waiting (ready idle queue next rest waiting)
                        rw [waiting] at submitted
                        omega
              simpa [LabRun.work, none, busy, idle] using less
          · exact Or.inr ⟨_, rfl, account, kept⟩
      | some ref =>
          obtain ⟨waited, gone, begun⟩ := after.started ref rfl
          obtain ⟨a, activated, returned⟩ := Checks.bind_eq_ok.mp returned
          have serving := kept.activate activated (fits.waiting ref waited) gone begun
          obtain ⟨lab', rfl, after', less⟩ := serve_progress distinct serving rfl returned
          refine Or.inl ⟨lab', rfl, after', less.trans_le ?_⟩
          have shorter := after.length_lt
          simp only [LabRun.work, idle, Option.isSome_some, Option.isSome_none, if_true]
          simp only [Bool.false_eq_true, if_false]
          omega

/-- The loop ends, and where it returns the lab stands as an account says. -/
theorem loop_ends (distinct : setup.Distinct opportunities.length) (fits : Fits setup opportunities account lab) :
    ∃ outcome, (∀ fuel, lab.work < fuel → loop P setup fuel lab = some outcome) ∧
      ∀ last, outcome = .ok last → ∃ account, Fits setup opportunities account last := by
  induction work : lab.work using Nat.strong_induction_on generalizing lab account with
  | _ n ih =>
      by_cases settled : lab.arrivals.isEmpty ∧ lab.scheduler.queue.isEmpty ∧ lab.active.isNone
      · refine ⟨.ok lab, fun fuel enough => ?_, fun last same => Except.ok.inj same ▸ ⟨account, fits⟩⟩
        obtain ⟨rounds, rfl⟩ := Nat.exists_eq_add_of_lt enough
        simp [loop, settled]
      · have unfolds : ∀ fuel, n < fuel → ∃ rounds, n ≤ rounds ∧ fuel = rounds + 1 :=
          fun fuel enough => ⟨fuel - 1, by omega, by omega⟩
        cases round : loopRound P setup lab with
        | error e =>
            refine ⟨.error e, fun fuel enough => ?_, fun last same => by cases same⟩
            obtain ⟨rounds, -, rfl⟩ := unfolds fuel enough
            simp only [loop, if_neg settled, round]
        | ok outcome =>
            cases loopRound_progress distinct fits settled round with
            | inl goes =>
                obtain ⟨lab', rfl, ⟨account', fits'⟩, less⟩ := goes
                obtain ⟨outcome, ends, holds⟩ := ih lab'.work (work ▸ less) fits' rfl
                refine ⟨outcome, fun fuel enough => ?_, holds⟩
                obtain ⟨rounds, enough', rfl⟩ := unfolds fuel enough
                simp only [loop, if_neg settled, round]
                exact ends rounds (by omega)
            | inr breaks =>
                obtain ⟨lab', rfl, after⟩ := breaks
                refine ⟨.ok lab', fun fuel enough => ?_, fun last same => Except.ok.inj same ▸ after⟩
                obtain ⟨rounds, -, rfl⟩ := unfolds fuel enough
                simp only [loop, if_neg settled, round]

/-! ### Whole runs -/

theorem Fits.of_registered (fits : Fits setup opportunities account lab) (spec : WorkloadSpec) (decisions : Nat) :
    Fits setup opportunities account { lab with
      scheduler := (WorkloadScheduler.register spec lab.scheduler).2
      decisions := decisions } := by
  have kept := WorkloadScheduler.register_reconfigured spec lab.scheduler
  have jobs := WorkloadScheduler.register_jobs spec lab.scheduler
  exact { fits with
    queued := fits.queued.of_same kept.queue jobs kept.opportunities
    jobIds := (congrArg (List.map JobRequest.jobId) jobs).trans fits.jobIds
    waiting := by
      show ∀ ref ∈ refs (WorkloadScheduler.register spec lab.scheduler).2.queue, _
      rw [kept.queue]
      exact fits.waiting
    serving := by
      intro a active
      obtain ⟨stint, serving⟩ := fits.serving a active
      refine ⟨stint, { serving with gone := ?_, begun := ?_ }⟩
      · show a.job ∉ refs (WorkloadScheduler.register spec lab.scheduler).2.queue
        rw [kept.queue]
        exact serving.gone
      · show ∀ job, (WorkloadScheduler.register spec lab.scheduler).2.jobs[a.job]? = some job → _
        rw [jobs]
        exact serving.begun }

theorem registerWorkloads_fits {specs : List String} {items : List BenchmarkOpportunity}
    (fits : Fits setup opportunities account lab) (returned : registerWorkloads setup.variant specs items lab = .ok lab') :
    Fits setup opportunities account lab' ∧ lab'.work = lab.work := by
  induction items generalizing specs lab with
  | nil =>
      obtain rfl := Except.ok.inj returned
      exact ⟨fits, rfl⟩
  | cons item rest ih =>
      rw [registerWorkloads] at returned
      split at returned
      · exact ih fits returned
      · obtain ⟨spec, -, returned⟩ := Checks.bind_eq_ok.mp returned
        obtain ⟨⟨_, registered⟩, called, returned⟩ := Checks.bind_eq_ok.mp returned
        obtain ⟨scheduler, call, rfl⟩ := schedulerCall_eq_ok.mp called
        obtain rfl : (WorkloadScheduler.register spec lab.scheduler).2 = scheduler := congrArg Prod.snd call
        obtain ⟨after, work⟩ := ih (fits.of_registered spec _) returned
        refine ⟨after, work.trans ?_⟩
        simp only [LabRun.work, (WorkloadScheduler.register_reconfigured spec lab.scheduler).queue]

theorem openLab_fits (returned : openLab setup opportunities = .ok lab) :
    Fits setup opportunities {} lab ∧ lab.work = 3 * opportunities.length := by
  let config : SchedulerConfig := {
    mode := .benchmark
    approvedProfileIds := some (opportunities.map BenchmarkOpportunity.profileId) }
  have empty : Fits setup opportunities {} { scheduler := { config := config }, arrivals := byOffset opportunities } := {
    order := rfl
    queued := ⟨List.Pairwise.nil, List.nodup_nil, by simp, by simp⟩
    jobIds := rfl
    known := by simp
    due := by simp
    records := rfl
    table := Timetable.nil _
    past := by simp
    items := rfl
    once := List.nodup_nil
    waiting := by simp [refs]
    serving := by simp }
  obtain ⟨fits, work⟩ := registerWorkloads_fits empty returned
  refine ⟨fits, work.trans ?_⟩
  simp [LabRun.work, (byOffset_perm opportunities).length_eq]

theorem Fits.stint_item (fits : Fits setup opportunities account lab) {stint : Stint} (member : stint ∈ account.stints) :
    stint.item ∈ opportunities := by
  have listed : some stint.item ∈ account.done.map (fun ref => account.submitted[ref]?) := by
    rw [fits.items]
    exact List.mem_map_of_mem member
  obtain ⟨ref, -, found⟩ := List.mem_map.mp listed
  apply (byOffset_perm opportunities).mem_iff.mp
  rw [← fits.order]
  exact List.mem_append_left _ (List.mem_of_getElem? found)

theorem Fits.stint_items_nodup (fits : Fits setup opportunities account lab) (distinct : opportunities.Nodup) :
    (account.stints.map Stint.item).Nodup := by
  have submitted : account.submitted.Nodup := by
    have ordered := (byOffset_perm opportunities).nodup_iff.mpr distinct
    rw [← fits.order] at ordered
    exact ordered.of_append_left
  have listed : (account.done.map (fun ref => account.submitted[ref]?)).Nodup := by
    apply fits.once.map_on
    intro i done j _ same
    exact (List.getElem?_inj (fits.done_lt done) submitted).mp same
  rw [fits.items] at listed
  have some : (account.stints.map Stint.item).map some = account.stints.map (fun stint => some stint.item) := by simp
  rw [← some] at listed
  exact listed.of_map _

/-- The records of the loop with those of what it left are those of all opportunities. -/
theorem Fits.conserves (fits : Fits setup opportunities account lab)
    (keys : (opportunities.map BenchmarkOpportunity.opportunityKey).Nodup) :
    Conserves setup.variant opportunities (accountFor opportunities lab.records) := by
  have distinct : opportunities.Nodup := keys.of_map _
  have served : ∀ item ∈ opportunities,
      item.opportunityKey ∈ lab.records.map BenchmarkRecord.opportunityKey ↔ item ∈ account.stints.map Stint.item := by
    intro item known
    rw [fits.records, List.map_map]
    constructor
    · intro listed
      obtain ⟨stint, member, same⟩ := List.mem_map.mp listed
      obtain rfl := List.inj_on_of_nodup_map keys (fits.stint_item member) known same
      exact List.mem_map_of_mem member
    · intro listed
      obtain ⟨stint, member, rfl⟩ := List.mem_map.mp listed
      exact List.mem_map.mpr ⟨stint, member, rfl⟩
  have whole : (account.stints.map Stint.item ++ opportunities.filter fun item =>
      item.opportunityKey ∉ lab.records.map BenchmarkRecord.opportunityKey).Perm opportunities := by
    apply (List.perm_ext_iff_of_nodup ?_ distinct).mpr
    · intro item
      rw [List.mem_append, List.mem_filter]
      constructor
      · intro either
        cases either with
        | inl done =>
            obtain ⟨stint, member, rfl⟩ := List.mem_map.mp done
            exact fits.stint_item member
        | inr left => exact left.1
      · intro known
        by_cases done : item ∈ account.stints.map Stint.item
        · exact Or.inl done
        · exact Or.inr ⟨known, by simpa only [decide_eq_true_eq, served item known] using done⟩
    · apply List.nodup_append.mpr
      refine ⟨fits.stint_items_nodup distinct, distinct.filter _, ?_⟩
      intro item done other left same
      obtain ⟨known, unserved⟩ := List.mem_filter.mp left
      rw [decide_eq_true_eq, served other known] at unserved
      exact unserved (same ▸ done)
  apply fits.table.conserves whole
  rw [← fits.records]
  exact List.perm_insertionSort _ _

/-- Both ways to run the lab conserve opportunities and time, and the loop through the
    scheduler ends within three rounds for each opportunity and one more. -/
theorem lab_conserves (P : Platform) (setup : LabSetup) (opportunities : List BenchmarkOpportunity)
    (keys : (opportunities.map BenchmarkOpportunity.opportunityKey).Nodup) (distinct : setup.Distinct opportunities.length) :
    (∃ outcome, (∀ fuel, 3 * opportunities.length < fuel → runOrchestrated P setup fuel opportunities = some outcome) ∧
      ∀ records decisions, outcome = .ok (records, decisions) → Conserves setup.variant opportunities records) ∧
    ∀ variant records, runFixed opportunities variant = .ok records → Conserves variant opportunities records := by
  refine ⟨?_, fun variant records returned => (runFixed_conserves returned).1⟩
  cases opened : openLab setup opportunities with
  | error e =>
      refine ⟨.error e, fun fuel _ => ?_, fun _ _ same => by cases same⟩
      simp only [runOrchestrated, opened]
  | ok lab =>
      obtain ⟨fits, work⟩ := openLab_fits opened
      obtain ⟨outcome, ends, holds⟩ := loop_ends (P := P) distinct fits
      refine ⟨outcome.map fun last => (accountFor opportunities last.records, last.decisions), fun fuel enough => ?_, ?_⟩
      · simp only [runOrchestrated, opened, ends fuel (work.trans_lt enough), Option.map_some]
      · intro records decisions same
        cases outcome with
        | error e => cases same
        | ok last =>
            obtain ⟨rfl, -⟩ := Prod.mk.inj (Except.ok.inj same)
            obtain ⟨account, after⟩ := holds last rfl
            exact after.conserves keys

def arrival (key : String) (offsetMs : Nat) : BenchmarkOpportunity where
  opportunityKey := key
  workloadId := "seismic"
  hazard := .earthquake
  tier := .immediate
  scheduledOffsetMs := offsetMs
  capturedOffsetMs := offsetMs
  deadlineMs := 100
  maxDeferralMs := 100
  memoryMb := 16
  profileId := "test"
  serviceMs := Dict.empty.insert .o1 30

def simulated : LabSetup where
  start := 0
  variant := .o1
  resources := WorkloadScheduler.idleNode
  uuid4 := UUID.ofNat

theorem two_arrivals_conserve :
    (∃ outcome, (∀ fuel, 6 < fuel →
        runOrchestrated Platform.mixing simulated fuel [arrival "a" 0, arrival "b" 10] = some outcome) ∧
      ∀ records decisions, outcome = .ok (records, decisions) → Conserves .o1 [arrival "a" 0, arrival "b" 10] records) ∧
    ∀ variant records, runFixed [arrival "a" 0, arrival "b" 10] variant = .ok records →
      Conserves variant [arrival "a" 0, arrival "b" 10] records := by
  apply lab_conserves Platform.mixing simulated [arrival "a" 0, arrival "b" 10] (by decide)
  intro i j first second
  have small : ∀ i < 2, ∀ j < 2, UUID.ofNat i = UUID.ofNat j → i = j := by decide
  exact small i first j second

/-- The second waits for the first to end. -/
example : ((runOrchestrated Platform.mixing simulated 7 [arrival "a" 0, arrival "b" 10]).bind Except.toOption).map
    (fun outcome => outcome.1.map fun r => (r.opportunityKey, r.serviceStartMs, r.completionMs)) =
      some [("a", some 0, some 30), ("b", some 30, some 60)] := by
  decide +kernel

end SentinelEdge.Benchmark
