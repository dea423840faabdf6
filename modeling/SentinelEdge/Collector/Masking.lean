import SentinelEdge.Collector.Lateness

/-! # What a recovering source hides

The conditions on an admitted observation set the state one after the other. A source that
was stale or failed is set to healthy after the observation was found late or out of
order or its measurements suspect; only a stale capture and an overwritten buffer
still count then.
-/

namespace SentinelEdge.Collector

open Foundation Domain Analysis

variable {P : Platform}

namespace StreamingSourceCollector

variable {c c' : StreamingSourceCollector} {o : Observation}

/-- The observation is older than the last one of its source. -/
def IsLate (c : StreamingSourceCollector) (o : Observation) : Prop :=
  ∃ previous ∈ c.health.get? o.sourceId, previous.lastSequence.isSome = true ∧
    ∃ last ∈ previous.lastObservedAt, o.observedAt < last

/-- Sequence numbers of its boot and clock epoch are missing before it. -/
def IsGapped (c : StreamingSourceCollector) (o : Observation) : Prop :=
  ∃ previous ∈ c.health.get? o.sourceId, sameEpoch previous o = true ∧
    ∃ lastSequence ∈ previous.lastSequence, lastSequence + 1 < o.sequence

/-- A measurement of it is invalid or suspect. -/
def IsDoubtful (c : StreamingSourceCollector) (o : Observation) : Prop :=
  (c.measurements o.toObservation).invalidProperties ≠ [] ∨ (c.measurements o.toObservation).suspectProperties ≠ []

instance (c : StreamingSourceCollector) (o : Observation) : Decidable (c.IsGapped o) :=
  inferInstanceAs (Decidable (∃ previous ∈ c.health.get? o.sourceId, sameEpoch previous o = true ∧
    ∃ lastSequence ∈ previous.lastSequence, lastSequence + 1 < o.sequence))

def IsStale (o : Observation) : Prop := 5000 < o.captureAgeMs

/-- The buffer of its source. -/
def bufferOf (c : StreamingSourceCollector) (o : Observation) : BoundedRingBuffer :=
  (c.buffers.get? o.sourceId).getD { capacity := c.capacity.toNat }

/-- It takes the place of an observation in the buffer. -/
def Overwrites (c : StreamingSourceCollector) (o : Observation) : Prop :=
  (c.bufferOf o).items.length = (c.bufferOf o).capacity

/-- Its source was stale or failed before. -/
def Recovers (c : StreamingSourceCollector) (o : Observation) : Prop :=
  ∃ previous ∈ c.health.get? o.sourceId, previous.state = .stale ∨ previous.state = .failed

structure Faultless (c : StreamingSourceCollector) (o : Observation) : Prop where
  timely : ¬ c.IsLate o
  continuous : ¬ c.IsGapped o
  sound : ¬ c.IsDoubtful o
  fresh : ¬ IsStale o
  kept : ¬ c.Overwrites o

/-- The recovery of its source hides what is wrong with the observation: neither a stale
    capture nor a buffer that has ever been overwritten degrades the source again. -/
structure Masks (c : StreamingSourceCollector) (o : Observation) : Prop where
  recovers : c.Recovers o
  fresh : ¬ IsStale o
  kept : ¬ c.Overwrites o
  undropped : (c.bufferOf o).dropped = 0
  faulty : c.IsLate o ∨ c.IsGapped o ∨ c.IsDoubtful o

theorem buffered_dropped : (c.buffered o).dropped = 0 ↔ ¬ c.Overwrites o ∧ (c.bufferOf o).dropped = 0 := by
  have appended : c.buffered o = (c.bufferOf o).append o := rfl
  unfold Overwrites
  rw [appended, BoundedRingBuffer.append]
  split
  · next full => simp [full]
  · next room => simp [room]

theorem contractState_healthy (c : StreamingSourceCollector) (o : Observation) :
    contractState (c.measurements o.toObservation) = .healthy ↔ ¬ c.IsDoubtful o := by
  simp only [contractState, IsDoubtful, List.isEmpty_iff]
  split <;> simp_all

/-- The comparison with the last observation leaves a state that is healthy exactly if
    nothing is wrong so far. -/
theorem compared_healthy {state : HealthState} {reasons : List String}
    (admitted : c.compared o (c.measurements o.toObservation) = .admitted state reasons) :
    state = .healthy ↔ ¬ c.IsLate o ∧ ¬ c.IsGapped o ∧ ¬ c.IsDoubtful o := by
  rw [← contractState_healthy]
  unfold compared at admitted
  unfold IsLate IsGapped
  cases known : c.health.get? o.sourceId with
  | none =>
      rw [known] at admitted
      cases admitted
      simp
  | some previous =>
      rw [known] at admitted
      simp only [continued] at admitted
      cases sequence : previous.lastSequence with
      | none =>
          rw [sequence] at admitted
          cases admitted
          simp [sequence]
      | some lastSequence =>
          rw [sequence] at admitted
          dsimp only at admitted
          split at admitted
          · cases admitted
          · split at admitted
            · cases admitted
            · cases admitted
              have late : previous.lastObservedAt.any (fun last => o.observedAt < last) = true ↔
                  ∃ last ∈ previous.lastObservedAt, o.observedAt < last := by simp [Option.any_eq_true]
              have gapped : (sameEpoch previous o && decide (lastSequence + 1 < o.sequence)) = true ↔
                  sameEpoch previous o = true ∧ lastSequence + 1 < o.sequence := by simp
              simp only [Option.mem_some_iff, exists_eq_left', sequence, Option.isSome_some, true_and, ← late, ← gapped]
              split
              · next faulty =>
                  rw [Bool.or_eq_true] at faulty
                  simp only [reduceCtorEq, false_iff]
                  tauto
              · next faultless =>
                  rw [Bool.or_eq_true, not_or] at faultless
                  tauto

/-- The last checks keep the state of a comparison unless the capture is stale or the source
    recovers. -/
theorem examine_healthy {state : HealthState} {reasons : List String} (examined : c.examine o = .admitted state reasons) :
    state = .healthy ↔
      ¬ IsStale o ∧ (c.Recovers o ∨ ¬ c.IsLate o ∧ ¬ c.IsGapped o ∧ ¬ c.IsDoubtful o) := by
  unfold examine at examined
  split at examined
  · cases examined
  · split at examined
    · cases examined
    · obtain ⟨state₀, reasons₀, admitted⟩ := settled_admitted examined
      have healthy := compared_healthy admitted
      have recovered : (c.health.get? o.sourceId).any (fun p => p.state = .stale ∨ p.state = .failed) = true ↔
          c.Recovers o := by simp [Recovers, Option.any_eq_true]
      rw [admitted] at examined
      simp only [settled] at examined
      split at examined
      · cases examined
      · split at examined
        · next stale =>
            cases examined
            have stale : IsStale o := by simpa [IsStale] using stale
            simp [stale]
        · next fresh =>
            have fresh : ¬ IsStale o := by simpa [IsStale] using fresh
            split at examined
            · next recovers =>
                cases examined
                exact iff_of_true rfl ⟨fresh, Or.inl (recovered.mp recovers)⟩
            · next steady =>
                cases examined
                rw [healthy]
                have steady : ¬ c.Recovers o := fun recovers => steady (recovered.mpr recovers)
                simp [fresh, steady]

theorem recorded_healthy {state : HealthState} {reasons : List String} :
    (c.recorded o state reasons).state = .healthy ↔ state = .healthy ∧ (c.buffered o).dropped = 0 := by
  unfold recorded
  dsimp only
  split
  · next overwrites =>
      have dropped : (c.buffered o).dropped ≠ 0 := by
        simp only [Bool.and_eq_true, decide_eq_true_eq] at overwrites
        exact overwrites.1
      simp [dropped]
  · next kept =>
      simp only [Bool.and_eq_true, decide_eq_true_eq, not_and] at kept
      tauto

/-- The health that an accepted observation leaves is healthy only if the observation is
    faultless, except for one that its source's recovery masks. -/
theorem healthy_only_if_faultless_iff {returned : Observation} (ingested : ingest P o c = (.ok returned, c')) :
    (∀ h ∈ c'.health.get? o.sourceId, h.state = .healthy → c.Faultless o) ↔ ¬ c.Masks o := by
  have ingests := ingest_ingests P c o
  rw [ingested] at ingests
  cases ingests with
  | accepts accepts examined =>
      simp only [Dict.get?_insert_self, Option.mem_some_iff, forall_eq', recorded_healthy, examine_healthy examined,
        buffered_dropped]
      constructor
      · rintro faultless ⟨recovers, fresh, kept, undropped, faulty⟩
        obtain ⟨timely, continuous, sound, -, -⟩ := faultless ⟨⟨fresh, Or.inl recovers⟩, kept, undropped⟩
        tauto
      · rintro unmasked ⟨⟨fresh, recovers | ⟨timely, continuous, sound⟩⟩, kept, undropped⟩
        · have faultless : ¬ (c.IsLate o ∨ c.IsGapped o ∨ c.IsDoubtful o) :=
            fun faulty => unmasked ⟨recovers, fresh, kept, undropped, faulty⟩
          simp only [not_or] at faultless
          exact ⟨faultless.1, faultless.2.1, faultless.2.2, fresh, kept⟩
        · exact ⟨timely, continuous, sound, fresh, kept⟩

theorem firstFrame_faultless : (start 256 validate camera).Faultless (frame "boot" 1 4000000) := by
  obtain ⟨accepted, h, known, healthy⟩ :
      (ingest Platform.mixing (frame "boot" 1 4000000) (start 256 validate camera)).1.isOk = true ∧
      ∃ h ∈ (ingest Platform.mixing (frame "boot" 1 4000000) (start 256 validate camera)).2.health.get? "camera-1",
        h.state = .healthy := by decide +kernel
  have unmasked : ¬ (start 256 validate camera).Masks (frame "boot" 1 4000000) := by
    rintro ⟨⟨previous, unknown, -⟩, -⟩
    cases unknown
  rcases ingested : ingest Platform.mixing (frame "boot" 1 4000000) (start 256 validate camera) with ⟨result, after⟩
  rw [ingested] at accepted known
  cases result with
  | error e => cases accepted
  | ok returned => exact (healthy_only_if_faultless_iff ingested).mpr unmasked h known healthy

/-- The camera has been marked stale after its first frame. -/
def silentCamera : StreamingSourceCollector :=
  Foundation.run (step Platform.mixing) (start 256 validate camera) [
    .ingest (frame "boot" 1 4000000), .markStale 60000000 30]

/-- It comes back with its fifth frame. -/
theorem silentCamera_masks : ¬ ∀ (c c' : StreamingSourceCollector) (o returned : Observation),
    ingest Platform.mixing o c = (.ok returned, c') →
    ∀ h ∈ c'.health.get? o.sourceId, h.state = .healthy → c.Faultless o := by
  intro unmasked
  obtain ⟨accepted, ⟨h, known, healthy⟩, gapped⟩ :
      (ingest Platform.mixing (frame "boot" 5 4500000) silentCamera).1.isOk = true ∧
      (∃ h ∈ (ingest Platform.mixing (frame "boot" 5 4500000) silentCamera).2.health.get? "camera-1",
        h.state = .healthy) ∧
      silentCamera.IsGapped (frame "boot" 5 4500000) := by decide +kernel
  rcases ingested : ingest Platform.mixing (frame "boot" 5 4500000) silentCamera with ⟨result, after⟩
  rw [ingested] at accepted known
  cases result with
  | error e => cases accepted
  | ok returned => exact (unmasked _ after _ returned ingested h known healthy).continuous gapped

end StreamingSourceCollector

end SentinelEdge.Collector
