import SentinelEdge.Runtime.Turns

/-! # Conservation of jobs and finality of records

As long as no accepted submission offers an opportunity the ledger already has,
the books stay straight: every job has its own record, waits, runs or is settled,
and a terminal record is never touched again. Distinct keys are enough for that,
because their names differ.
-/

namespace SentinelEdge.Runtime

open Foundation Domain

namespace WorkloadScheduler

variable {P : Platform} {config : SchedulerConfig} {h : History}

/-- The opportunity a submission offers. -/
def offeredId (P : Platform) (r : Submission) : UUID := opportunityId P r.key

/-- A submission that will be accepted offers an opportunity that is not in the
    ledger. -/
def OffersFresh (P : Platform) (h : History) : Operation → Prop
  | .submit r => h.scheduler.Admits r → offeredId P r ∉ h.scheduler.opportunities.keys
  | _ => True

structure Ledgered (P : Platform) (config : SchedulerConfig) (h : History) : Prop where
  configured : h.scheduler.config = config
  named : Named h.scheduler.registry
  booked : Booked h.scheduler.cores (refs h.scheduler.queue) h.scheduler.opportunities
  jobIds : h.scheduler.cores.map JobCore.jobId = h.accepted.map Submission.jobId
  offers : h.scheduler.cores.map JobCore.opportunityId = h.accepted.map (offeredId P)
  occupied : (h.accepted.map Submission.jobId).Nodup → Occupied h.scheduler.cores h.scheduler.active
  bounded : (h.scheduler.queue.length : Int) ≤ max 0 config.queueLimit

theorem Ledgered.start (P : Platform) (config : SchedulerConfig) : Ledgered P config (start config) where
  configured := rfl
  named := by simp [Named, WorkloadScheduler.start, Dict.get?, Dict.empty]
  booked := Booked.empty
  jobIds := rfl
  offers := rfl
  occupied _ := Occupied.empty
  bounded := le_max_left 0 _

theorem Ledgered.keys (ledgered : Ledgered P config h) :
    h.scheduler.opportunities.keys = h.accepted.map (offeredId P) :=
  ledgered.booked.keys.trans ledgered.offers

/-- A registered workload goes by its own name, so its record gets the id offered. -/
theorem Ledgered.offered (ledgered : Ledgered P config h) {r : Submission} {spec : WorkloadSpec}
    (registered : h.scheduler.registry.get? r.workloadId = some spec) :
    opportunityId P (r.keyFor spec.workloadId) = offeredId P r := by
  rw [ledgered.named r.workloadId spec registered]
  rfl

/-- A call that books its own moves and keeps every job. -/
theorem Ledgered.advance (ledgered : Ledgered P config h) {t : WorkloadScheduler} (steady : Steady h.scheduler t)
    (advance : Advance h.scheduler t) (booked : Booked t.cores (refs t.queue) t.opportunities)
    (shorter : t.queue.length ≤ h.scheduler.queue.length) : Ledgered P config { h with scheduler := t } where
  configured := steady.config.trans ledgered.configured
  named := by
    rw [steady.registry]
    exact ledgered.named
  booked := booked
  jobIds := by
    have ids := congrArg (List.map (fun identity => identity.1)) steady.identity
    rw [List.map_map, List.map_map] at ids
    exact ids.trans ledgered.jobIds
  offers := by
    have ids := congrArg (List.map (fun identity => identity.2.1)) steady.identity
    rw [List.map_map, List.map_map] at ids
    exact ids.trans ledgered.offers
  occupied unique := advance.occupied (ledgered.occupied unique)
  bounded := by
    have before := ledgered.bounded
    simp only at before ⊢
    omega

theorem Ledgered.submit (ledgered : Ledgered P config h) {r : Submission} {spec : WorkloadSpec}
    (admits : h.scheduler.Admits r) (registered : h.scheduler.registry.get? r.workloadId = some spec)
    (fresh : offeredId P r ∉ h.scheduler.opportunities.keys) :
    Ledgered P config ⟨submitted P r spec h.scheduler, h.accepted ++ [r]⟩ := by
  have frozen := freezeForMode_reconfigured h.scheduler
  have key := ledgered.offered registered
  have cores := submitted_cores (P := P) r spec h.scheduler
  have queue := submitted_queue (P := P) r spec h.scheduler
  rw [key] at cores
  refine ⟨frozen.config.trans ledgered.configured, frozen.named ledgered.named, ?_, ?_, ?_, ?_, ?_⟩
  · have opportunities : (submitted P r spec h.scheduler).opportunities =
        h.scheduler.opportunities.insert (offeredId P r) (queuedRecord P r spec) := by
      rw [submitted, key]
    rw [cores, opportunities]
    refine (ledgered.booked.submit rfl fresh ?_).perm queue
    rfl
  · rw [cores, List.map_append, List.map_append, ledgered.jobIds]
    rfl
  · rw [cores, List.map_append, List.map_append, ledgered.offers]
    rfl
  · intro unique
    rw [List.map_append, List.nodup_append] at unique
    have before := ledgered.occupied unique.1
    have active : (submitted P r spec h.scheduler).active = h.scheduler.active := frozen.active
    rw [cores, active]
    apply before.submit rfl
    rw [ledgered.jobIds]
    intro taken
    exact unique.2.2 r.jobId taken r.jobId (by simp) rfl
  · have longer : (submitted P r spec h.scheduler).queue.length = h.scheduler.queue.length + 1 := by
      have lengths := queue.length_eq
      simpa [refs] using lengths
    have room := admits.2
    rw [ledgered.configured] at room
    simp only [longer]
    omega

theorem Ledgered.step {op : Operation} (ledgered : Ledgered P config h) (fresh : OffersFresh P h op) :
    Ledgered P config (step P h op) ∧ ∀ id record, h.scheduler.opportunities.get? id = some record →
      record.disposition.isTerminal = true → (WorkloadScheduler.step P h op).scheduler.opportunities.get? id = some record := by
  have turn := step_turn P h op
  generalize WorkloadScheduler.step P h op = after at turn ⊢
  cases turn with
  | settings kept =>
      refine ⟨⟨kept.config.trans ledgered.configured, kept.named ledgered.named, ?_, ?_, ?_, ?_, ?_⟩, ?_⟩
      · rw [kept.cores, kept.queue, kept.opportunities]
        exact ledgered.booked
      · rw [kept.cores]
        exact ledgered.jobIds
      · rw [kept.cores]
        exact ledgered.offers
      · intro unique
        rw [kept.cores, kept.active]
        exact ledgered.occupied unique
      · rw [kept.queue]
        exact ledgered.bounded
      · intro id record found _
        rw [kept.opportunities]
        exact found
  | @submit r spec admits registered =>
      have unoffered := fresh admits
      refine ⟨ledgered.submit admits registered unoffered, ?_⟩
      intro id record found _
      have apart : id ≠ offeredId P r := by
        rintro rfl
        apply unoffered
        rw [Dict.mem_keys_iff, found]
        rfl
      simp only [submitted]
      rw [ledgered.offered registered, Dict.get?_insert, if_neg apart]
      exact found
  | dispatch resources nowNs =>
      obtain ⟨result, t, call, booked, shorter, advance⟩ := dispatch_apply ledgered.booked resources nowNs
      have steady := (dispatch_outcome resources nowNs h.scheduler).1
      rw [call] at steady ⊢
      exact ⟨ledgered.advance steady advance booked shorter, advance.terminal⟩
  | @complete ref job nowNs found running =>
      obtain ⟨booked, advance⟩ := completed_apply ledgered.booked found running nowNs
      exact ⟨ledgered.advance (completed_steady ..) advance booked (Nat.le_refl _), advance.terminal⟩

theorem run_ledgered {ops : List Operation} (meets : Meets (step P) (OffersFresh P) (start config) ops) :
    Ledgered P config (run P config ops) :=
  meets.invariant (fun _ _ fresh ledgered => (ledgered.step fresh).1) (Ledgered.start P config)

/-! ## Terminal records -/

def processed : List Operation := [
  .register (workload "seismic" .immediate), .submit (request "seismic" 10), .dispatch idleNode 1, .complete 0 2]

theorem step_accepted (P : Platform) (h : History) (op : Operation) : h.accepted <+: (step P h op).accepted := by
  have turn := step_turn P h op
  generalize step P h op = after at turn ⊢
  cases turn with
  | submit => exact List.prefix_append ..
  | settings | dispatch | complete => exact List.prefix_refl _

theorem run_accepted (P : Platform) (h : History) (ops : List Operation) :
    h.accepted <+: (Foundation.run (step P) h ops).accepted :=
  run_invariant (I := fun after : History => h.accepted <+: after.accepted)
    (fun after op before => before.trans (step_accepted P after op)) (List.prefix_refl _) ops

/-- An accepted submission of an opportunity already in the ledger would show at
    the end of the run. -/
theorem meets_of_nodup {ops : List Operation} (ledgered : Ledgered P config h)
    (distinct : ((Foundation.run (step P) h ops).accepted.map (offeredId P)).Nodup) :
    Meets (step P) (OffersFresh P) h ops := by
  induction ops generalizing h with
  | nil => trivial
  | cons op ops ih =>
      have fresh : OffersFresh P h op := by
        cases op with
        | submit r =>
            intro admits taken
            have later := run_accepted P (step P h (.submit r)) ops
            have unique := distinct.sublist (later.sublist.map (offeredId P))
            obtain ⟨spec, _, call⟩ := submit_of_admits (P := P) admits
            simp only [step, call, List.map_append, List.nodup_append] at unique
            rw [ledgered.keys] at taken
            exact unique.2.2 _ taken _ (by simp) rfl
        | register | freeze | reallocateCadence | dispatch | complete | fallbackSchedule => trivial
      exact ⟨fresh, ih (ledgered.step fresh).1 distinct⟩

/-! ## Where the jobs are -/

inductive Place where
  | queued | active | completed | rejected
  deriving DecidableEq, Repr

/-- The job of a reference is at a place: in the heap, in the active set, or
    ended in the given way. -/
def At (s : WorkloadScheduler) (ref : Nat) : Place → Prop
  | .queued => ref ∈ refs s.queue
  | .active => ref ∈ s.active.values
  | .completed => ∃ job, s.jobs[ref]? = some job ∧ job.status = .completed
  | .rejected => ∃ job, s.jobs[ref]? = some job ∧ job.status = .rejected

/-- The place that goes with a status. -/
def placeOf : JobStatus → Option Place
  | .queued | .deferred => some .queued
  | .running => some .active
  | .completed => some .completed
  | .rejected => some .rejected
  | .cancelled => none

/-- How the books of a run stand. -/
structure Conserved (h : History) : Prop where
  jobs : h.scheduler.jobs.map JobRequest.jobId = h.accepted.map Submission.jobId
  placed : ∀ ref < h.accepted.length, ∃! place, h.scheduler.At ref place
  once : (refs h.scheduler.queue).Nodup ∧ h.scheduler.active.values.Nodup
  bounded : (h.scheduler.queue.length : Int) ≤ max 0 h.scheduler.config.queueLimit
  offered : (OpportunityLedger.reconcile h.scheduler.opportunities).offered = h.accepted.length
  terminal : (OpportunityLedger.reconcile h.scheduler.opportunities).terminal =
    h.scheduler.jobs.countP (fun job => job.status = .completed) +
      h.scheduler.jobs.countP (fun job => job.status = .rejected)
  balanced : (OpportunityLedger.reconcile h.scheduler.opportunities).balanced = true ↔
    h.scheduler.queue = [] ∧ h.scheduler.active.values = []

variable {s : WorkloadScheduler}

theorem at_iff (booked : Booked s.cores (refs s.queue) s.opportunities) (occupied : Occupied s.cores s.active)
    {ref : Nat} {core : JobCore} (found : s.cores[ref]? = some core) (place : Place) :
    s.At ref place ↔ placeOf core.status = some place := by
  obtain ⟨job, atRef, rfl⟩ : ∃ job, s.jobs[ref]? = some job ∧ job.core = core := by simpa [cores] using found
  cases place with
  | queued =>
      simp only [At, booked.waiting, found, Option.some.injEq, exists_eq_left']
      cases job.core.status <;> simp [JobStatus.isWaiting, placeOf]
  | active =>
      simp only [At, Dict.mem_values_iff, occupied.running, found, Option.some.injEq, exists_eq_left']
      cases job.core.status <;> simp [placeOf]
  | completed =>
      simp only [At, atRef, Option.some.injEq, exists_eq_left', JobRequest.core]
      cases job.status <;> simp [placeOf]
  | rejected =>
      simp only [At, atRef, Option.some.injEq, exists_eq_left', JobRequest.core]
      cases job.status <;> simp [placeOf]

theorem exists_place (booked : Booked s.cores (refs s.queue) s.opportunities) (occupied : Occupied s.cores s.active)
    {ref : Nat} (known : ref < s.cores.length) : ∃! place, s.At ref place := by
  have found : s.cores[ref]? = some s.cores[ref] := List.getElem?_eq_getElem known
  have live := (booked.entry ref _ found).1
  obtain ⟨place, stands⟩ : ∃ place, placeOf s.cores[ref].status = some place := by
    revert live
    cases s.cores[ref].status <;> simp [placeOf]
  refine ⟨place, (at_iff booked occupied found place).mpr stands, ?_⟩
  intro other elsewhere
  rw [at_iff booked occupied found, stands] at elsewhere
  exact (Option.some.inj elsewhere).symm

/-- A reference is active under one id only. -/
theorem active_values_nodup (occupied : Occupied s.cores s.active) : s.active.values.Nodup := by
  have items : s.active.items.Nodup := List.Nodup.of_map _ s.active.nodup
  refine items.map_on ?_
  rintro ⟨idA, refA⟩ memberA ⟨idB, refB⟩ memberB same
  obtain ⟨_, atA, rfl, _⟩ := (occupied.running idA refA).mp (Dict.get?_eq_some_iff.mpr memberA)
  obtain ⟨_, atB, rfl, _⟩ := (occupied.running idB refB).mp (Dict.get?_eq_some_iff.mpr memberB)
  simp only at same
  subst same
  rw [atA] at atB
  rw [Option.some.inj atB]

theorem settled_count (cores : List JobCore) : cores.countP (fun core => core.status.isSettled) =
    cores.countP (fun core => core.status = .completed) + cores.countP (fun core => core.status = .rejected) := by
  induction cores with
  | nil => rfl
  | cons core cores ih =>
      simp only [List.countP_cons, ih]
      cases core.status <;> simp [JobStatus.isSettled] <;> omega

/-- The ledger counts the settled jobs as terminal. -/
theorem reconcile_terminal (booked : Booked s.cores (refs s.queue) s.opportunities) :
    (OpportunityLedger.reconcile s.opportunities).terminal = s.cores.countP (fun core => core.status.isSettled) := by
  simp only [OpportunityLedger.reconcile]
  rw [Dict.countP_values, booked.keys, List.countP_map]
  apply List.countP_congr
  intro core member
  obtain ⟨ref, found⟩ := List.mem_iff_getElem?.mp member
  obtain ⟨_, record, looked, fits⟩ := booked.entry ref core found
  simp [looked, fits]

theorem reconcile_offered (booked : Booked s.cores (refs s.queue) s.opportunities) :
    (OpportunityLedger.reconcile s.opportunities).offered = s.cores.length := by
  have lengths := congrArg List.length booked.keys
  simpa [OpportunityLedger.reconcile, Dict.keys] using lengths

theorem all_settled_iff (booked : Booked s.cores (refs s.queue) s.opportunities) (occupied : Occupied s.cores s.active) :
    (∀ core ∈ s.cores, core.status.isSettled = true) ↔ s.queue = [] ∧ s.active.values = [] := by
  constructor
  · intro settled
    have idle : ∀ (ref : Nat) (core : JobCore), s.cores[ref]? = some core → core.status.isSettled = true :=
      fun ref core found => settled core (List.mem_of_getElem? found)
    constructor
    · apply List.eq_nil_iff_forall_not_mem.mpr
      intro item member
      obtain ⟨core, found, waits⟩ := (booked.waiting item.job).mp (List.mem_map_of_mem member)
      have ended := idle _ core found
      revert waits ended
      cases core.status <;> decide
    · apply List.eq_nil_iff_forall_not_mem.mpr
      intro ref member
      obtain ⟨id, looked⟩ := Dict.mem_values_iff.mp member
      obtain ⟨core, found, _, running⟩ := (occupied.running id ref).mp looked
      have ended := idle ref core found
      rw [running] at ended
      cases ended
  · rintro ⟨queue, active⟩ core member
    obtain ⟨ref, found⟩ := List.mem_iff_getElem?.mp member
    have live := (booked.entry ref core found).1
    have notWaiting : core.status.isWaiting ≠ true := by
      intro waits
      have queued := (booked.waiting ref).mpr ⟨core, found, waits⟩
      simp [queue, refs] at queued
    have notRunning : core.status ≠ .running := by
      intro running
      have listed := Dict.mem_values_iff.mpr ⟨core.jobId, (occupied.running core.jobId ref).mpr ⟨core, found, rfl, running⟩⟩
      simp [active] at listed
    revert live notWaiting notRunning
    cases core.status <;> decide

theorem Ledgered.conserved (ledgered : Ledgered P config h) (unique : (h.accepted.map Submission.jobId).Nodup) :
    Conserved h := by
  have booked := ledgered.booked
  have occupied := ledgered.occupied unique
  have lengths : h.scheduler.cores.length = h.accepted.length := by
    simpa using congrArg List.length ledgered.jobIds
  have terminal := reconcile_terminal booked
  refine ⟨?_, ?_, ⟨booked.nodup, active_values_nodup occupied⟩, ?_, ?_, ?_, ?_⟩
  · have ids := ledgered.jobIds
    rw [cores, List.map_map] at ids
    exact ids
  · intro ref known
    exact exists_place booked occupied (lengths ▸ known)
  · rw [ledgered.configured]
    exact ledgered.bounded
  · rw [reconcile_offered booked, lengths]
  · rw [terminal, settled_count, cores, List.countP_map, List.countP_map]
    rfl
  · have balance : (OpportunityLedger.reconcile h.scheduler.opportunities).balanced = true ↔
        (OpportunityLedger.reconcile h.scheduler.opportunities).terminal =
          (OpportunityLedger.reconcile h.scheduler.opportunities).offered := by
      simp [OpportunityLedger.reconcile, eq_comm]
    rw [balance, terminal, reconcile_offered booked, List.countP_eq_length]
    exact all_settled_iff booked occupied

def twoKeys : List Operation := [
  .register (workload "seismic" .immediate), .register (workload "flood" .periodic),
  .submit (request "seismic" 10), .submit (request "flood" 11), .dispatch idleNode 1]

end WorkloadScheduler

end SentinelEdge.Runtime
