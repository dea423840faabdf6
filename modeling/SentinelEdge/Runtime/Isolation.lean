import SentinelEdge.Runtime.Turns

/-! # Tier A isolation

Two jobs that are active together were checked against each other when the later
one was dispatched, and the check is the same in both directions. The invariant is
about the active references and their workloads, which no call changes.
-/

namespace SentinelEdge.Runtime

open Foundation Domain

theorem sortedPair_comm (a b : String) : sortedPair a b = sortedPair b a := by
  unfold sortedPair
  by_cases forward : a ≤ b
  · by_cases backward : b ≤ a
    · rw [String.le_antisymm forward backward]
    · simp [forward, backward]
  · have backward : b ≤ a := (String.le_total a b).resolve_left forward
    simp [forward, backward]

namespace WorkloadScheduler

variable {s t : WorkloadScheduler} {P : Platform}

theorem interferes_comm (s : WorkloadScheduler) (a b : WorkloadSpec) : s.interferes a b = s.interferes b a := by
  simp only [interferes, sortedPair_comm a.workloadId b.workloadId, Bool.or_comm (decide (a.tier = .immediate))]

theorem interferes_congr (config : t.config = s.config) (a b : WorkloadSpec) : t.interferes a b = s.interferes a b := by
  unfold interferes knownSafePairs
  rw [config]

def workloadAt (s : WorkloadScheduler) (ref : Nat) : Option WorkloadSpec := (s.cores[ref]?).map JobCore.workload

/-- Active references lead to jobs, and no two active jobs interfere. -/
structure Isolated (s : WorkloadScheduler) : Prop where
  known : ∀ id ref, s.active.get? id = some ref → ref < s.cores.length
  safe : ∀ idA idB refA refB a b, idA ≠ idB → s.active.get? idA = some refA → s.active.get? idB = some refB →
    s.workloadAt refA = some a → s.workloadAt refB = some b → s.interferes a b = false

theorem Steady.length (steady : Steady s t) : t.cores.length = s.cores.length := by
  have lengths := congrArg List.length steady.identity
  simpa using lengths

theorem Steady.workloadAt (steady : Steady s t) (ref : Nat) : t.workloadAt ref = s.workloadAt ref := by
  have looked := congrArg (fun identities => (identities[ref]?).map (fun identity => identity.2.2)) steady.identity
  simpa [WorkloadScheduler.workloadAt, Function.comp_def, JobCore.identity] using looked

/-- Fewer active jobs among more known ones. -/
theorem Isolated.mono (isolated : Isolated s) (config : t.config = s.config) (longer : s.cores.length ≤ t.cores.length)
    (workloads : ∀ ref < s.cores.length, t.workloadAt ref = s.workloadAt ref)
    (active : ∀ id ref, t.active.get? id = some ref → s.active.get? id = some ref) : Isolated t where
  known id ref found := (isolated.known id ref (active id ref found)).trans_le longer
  safe idA idB refA refB a b apart foundA foundB atA atB := by
    have beforeA := active idA refA foundA
    have beforeB := active idB refB foundB
    rw [workloads refA (isolated.known idA refA beforeA)] at atA
    rw [workloads refB (isolated.known idB refB beforeB)] at atB
    rw [interferes_congr config]
    exact isolated.safe idA idB refA refB a b apart beforeA beforeB atA atB

/-- One more active job that may run beside the others. -/
theorem Isolated.start (isolated : Isolated s) (steady : Steady s t) {ref : Nat} {core : JobCore}
    (found : s.cores[ref]? = some core) (clear : Clear s core.workload)
    (active : t.active = s.active.insert core.jobId ref) : Isolated t := by
  have atRef : s.workloadAt ref = some core.workload := by simp [WorkloadScheduler.workloadAt, found]
  -- an active job other than the new one was active before, and the check saw it
  have beside : ∀ id other spec, id ≠ core.jobId → t.active.get? id = some other → t.workloadAt other = some spec →
      s.active.get? id = some other ∧ s.workloadAt other = some spec ∧ s.interferes spec core.workload = false := by
    intro id other spec apart looked atOther
    rw [active, Dict.get?_insert, if_neg apart] at looked
    rw [steady.workloadAt] at atOther
    obtain ⟨known, foundOther, rfl⟩ := Option.map_eq_some_iff.mp atOther
    exact ⟨looked, atOther, clear other (Dict.mem_values_iff.mpr ⟨id, looked⟩) known foundOther⟩
  have new : ∀ other spec, t.active.get? core.jobId = some other → t.workloadAt other = some spec →
      spec = core.workload := by
    intro other spec looked atOther
    rw [active, Dict.get?_insert_self] at looked
    obtain rfl := Option.some.inj looked
    rw [steady.workloadAt, atRef] at atOther
    exact (Option.some.inj atOther).symm
  refine ⟨?_, ?_⟩
  · intro id other looked
    rw [steady.length]
    rw [active, Dict.get?_insert] at looked
    split at looked
    · obtain rfl := Option.some.inj looked
      exact (List.getElem?_eq_some_iff.mp found).1
    · exact isolated.known id other looked
  · intro idA idB refA refB a b apart foundA foundB atA atB
    rw [interferes_congr steady.config]
    by_cases newA : idA = core.jobId
    · subst newA
      obtain rfl := new refA a foundA atA
      rw [interferes_comm]
      exact (beside idB refB b (Ne.symm apart) foundB atB).2.2
    · obtain ⟨beforeA, workloadA, clearA⟩ := beside idA refA a newA foundA atA
      by_cases newB : idB = core.jobId
      · subst newB
        obtain rfl := new refB b foundB atB
        exact clearA
      · obtain ⟨beforeB, workloadB, _⟩ := beside idB refB b newB foundB atB
        exact isolated.safe idA idB refA refB a b apart beforeA beforeB workloadA workloadB

/-- One operation: the invariant holds and the configuration stays. -/
theorem step_isolated (P : Platform) (h : History) (op : Operation) (isolated : Isolated h.scheduler) :
    Isolated (step P h op).scheduler ∧ (step P h op).scheduler.config = h.scheduler.config := by
  have turn := step_turn P h op
  generalize step P h op = after at turn ⊢
  cases turn with
  | settings kept =>
      refine ⟨isolated.mono kept.config (by rw [kept.cores]) ?_ ?_, kept.config⟩
      · intro ref _
        simp only [workloadAt, kept.cores]
      · intro id ref found
        exact kept.active ▸ found
  | @submit r spec admits registered =>
      have frozen := freezeForMode_reconfigured h.scheduler
      have cores := submitted_cores (P := P) r spec h.scheduler
      refine ⟨isolated.mono frozen.config ?_ ?_ ?_, frozen.config⟩
      · rw [cores, List.length_append]
        exact Nat.le_add_right _ _
      · intro ref below
        simp only [workloadAt, cores, List.getElem?_append_left below]
      · intro id ref found
        exact frozen.active ▸ found
  | dispatch resources nowNs =>
      obtain ⟨steady, kept | ⟨ref, core, found, clear, started⟩⟩ := dispatch_outcome resources nowNs h.scheduler
      · refine ⟨isolated.mono steady.config steady.length.ge (fun ref _ => steady.workloadAt ref) ?_, steady.config⟩
        intro id ref found
        exact kept ▸ found
      · exact ⟨isolated.start steady found clear started, steady.config⟩
  | @complete ref job nowNs found running =>
      have steady := completed_steady h.scheduler ref job nowNs
      refine ⟨isolated.mono steady.config steady.length.ge (fun ref _ => steady.workloadAt ref) ?_, steady.config⟩
      intro id other looked
      have restricted : (h.scheduler.completed ref job nowNs).active =
          h.scheduler.active.restrict (fun id => id ≠ job.jobId) := rfl
      rw [restricted, Dict.get?_restrict] at looked
      split at looked
      · exact looked
      · cases looked

theorem run_isolated (P : Platform) (config : SchedulerConfig) (ops : List Operation) :
    Isolated (run P config ops).scheduler ∧ (run P config ops).scheduler.config = config := by
  refine run_invariant (I := fun h : History => Isolated h.scheduler ∧ h.scheduler.config = config) ?_ ?_ ops
  · rintro h op ⟨isolated, same⟩
    obtain ⟨after, kept⟩ := step_isolated P h op isolated
    exact ⟨after, kept.trans same⟩
  · refine ⟨⟨?_, ?_⟩, rfl⟩ <;> simp [start, Dict.get?, Dict.empty]

/-- Jobs that are active together and of which one is Tier A have a declared safe
    profile, in any run. -/
theorem active_tierA_pair_declared (P : Platform) (config : SchedulerConfig) (ops : List Operation) {a b : Nat}
    (activeA : a ∈ (run P config ops).scheduler.active.values) (activeB : b ∈ (run P config ops).scheduler.active.values)
    (distinct : a ≠ b) :
    ∃ jobA jobB, (run P config ops).scheduler.jobs[a]? = some jobA ∧ (run P config ops).scheduler.jobs[b]? = some jobB ∧
      (jobA.workload.tier = .immediate ∨ jobB.workload.tier = .immediate →
        sortedPair jobA.workload.workloadId jobB.workload.workloadId ∈
          config.knownSafeInterferencePairs.map (fun pair => sortedPair pair.1 pair.2)) := by
  obtain ⟨isolated, same⟩ := run_isolated P config ops
  obtain ⟨idA, foundA⟩ := Dict.mem_values_iff.mp activeA
  obtain ⟨idB, foundB⟩ := Dict.mem_values_iff.mp activeB
  have apart : idA ≠ idB := by
    rintro rfl
    exact distinct (Option.some.inj (foundA.symm.trans foundB))
  have looked : ∀ id ref, (run P config ops).scheduler.active.get? id = some ref →
      ∃ job, (run P config ops).scheduler.jobs[ref]? = some job := by
    intro id ref found
    have below := isolated.known id ref found
    rw [cores, List.length_map] at below
    exact ⟨_, List.getElem?_eq_getElem below⟩
  obtain ⟨jobA, atA⟩ := looked idA a foundA
  obtain ⟨jobB, atB⟩ := looked idB b foundB
  refine ⟨jobA, jobB, atA, atB, fun tierA => ?_⟩
  have safe := isolated.safe idA idB a b jobA.workload jobB.workload apart foundA foundB
    (by simp [workloadAt, cores_getElem? atA, JobRequest.core])
    (by simp [workloadAt, cores_getElem? atB, JobRequest.core])
  by_contra undeclared
  simp only [interferes, knownSafePairs, same, undeclared] at safe
  rcases tierA with tier | tier <;> simp [tier] at safe

def safePair : SchedulerConfig := { knownSafeInterferencePairs := [("seismic", "known-safe")] }

def coRun : List Operation := [
  .register (workload "seismic" .immediate), .register (workload "known-safe" .immediate),
  .submit (request "seismic" 10), .submit (request "known-safe" 11),
  .dispatch idleNode 1, .dispatch idleNode 2]

theorem coRun_pair_declared :
    0 ∈ (run Platform.mixing safePair coRun).scheduler.active.values ∧
      1 ∈ (run Platform.mixing safePair coRun).scheduler.active.values ∧
      ∃ jobA jobB, (run Platform.mixing safePair coRun).scheduler.jobs[0]? = some jobA ∧
        (run Platform.mixing safePair coRun).scheduler.jobs[1]? = some jobB ∧
        (jobA.workload.tier = .immediate ∨ jobB.workload.tier = .immediate →
          sortedPair jobA.workload.workloadId jobB.workload.workloadId ∈
            safePair.knownSafeInterferencePairs.map (fun pair => sortedPair pair.1 pair.2)) := by
  have first : 0 ∈ (run Platform.mixing safePair coRun).scheduler.active.values := by decide +kernel
  have second : 1 ∈ (run Platform.mixing safePair coRun).scheduler.active.values := by decide +kernel
  exact ⟨first, second, active_tierA_pair_declared Platform.mixing safePair coRun first second (by decide)⟩

end WorkloadScheduler

end SentinelEdge.Runtime
