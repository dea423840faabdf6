import SentinelEdge.Collector.Lateness

/-! # What a rejected observation leaves behind

An observation is buffered before its health is recorded. A cursor that the store does
not take, for the size of a number or the id of an event, rejects the observation and
leaves it in the buffer.
-/

namespace SentinelEdge.Collector

open Foundation Domain Analysis

variable {P : Platform}

namespace StreamingSourceCollector

variable {c c' : StreamingSourceCollector} {o : Observation}

/-- The source of an observation that is too late has been degraded, in memory and in the
    store. -/
def Degraded (P : Platform) (o : Observation) (c c' : StreamingSourceCollector) : Prop :=
  ∃ previous ∈ c.health.get? o.sourceId, ∃ rejected : SourceHealth,
    rejected = { previous with
      state := .degraded
      reasonCodes := sortedSet (previous.reasonCodes ++ ["late_event_exceeded"]) } ∧
    c.examine o = .late rejected ∧
    SourceCursorStore.upsert P rejected (some o.receivedAt) c.cursorStore = (.ok (), c'.cursorStore) ∧
    c'.health = c.health.insert o.sourceId rejected

/-- Nothing has changed but the mark of an observation that is too late. -/
def Spares (P : Platform) (o : Observation) (c c' : StreamingSourceCollector) : Prop :=
  c'.buffers = c.buffers ∧ (c'.health = c.health ∧ c'.cursorStore = c.cursorStore ∨ Degraded P o c c')

/-- Once the observation is admitted and there is room for a buffer, the store takes its
    cursor and the event of its health. -/
def Records (P : Platform) (c : StreamingSourceCollector) (o : Observation) : Prop :=
  ∀ state reasons, c.examine o = .admitted state reasons → 0 < c.capacity →
    c.cursorStore.Recordable P (c.recorded o state reasons) o.clockEpoch o.sequence o.observedAt

theorem append_ne (b : BoundedRingBuffer) (o : Observation) : b.append o ≠ b := by
  intro same
  unfold BoundedRingBuffer.append at same
  split at same
  · have dropped := congrArg BoundedRingBuffer.dropped same
    simp at dropped
  · have items := congrArg (fun b => b.items.length) same
    simp at items

theorem buffers_change (c : StreamingSourceCollector) (o : Observation) :
    c.buffers.insert o.sourceId (c.buffered o) ≠ c.buffers := by
  intro same
  have found : some (c.buffered o) = c.buffers.get? o.sourceId := by
    rw [← Dict.get?_insert_self c.buffers o.sourceId (c.buffered o), same]
  have appended : c.buffered o = ((c.buffers.get? o.sourceId).getD { capacity := c.capacity.toNat }).append o := rfl
  rw [← found, Option.getD_some] at appended
  exact append_ne _ o appended.symm

/-- An admitted observation finds no room, is buffered in vain or is accepted. -/
theorem ingest_admitted {state : HealthState} {reasons : List String} (examined : c.examine o = .admitted state reasons) :
    (c.capacity ≤ 0 ∧ ∃ e, ingest P o c = (.error e, c)) ∨
    (0 < c.capacity ∧
      ¬ c.cursorStore.Recordable P (c.recorded o state reasons) o.clockEpoch o.sequence o.observedAt ∧
      ∃ e, ingest P o c = (.error e, { c with buffers := c.buffers.insert o.sourceId (c.buffered o) })) ∨
    (c.cursorStore.Recordable P (c.recorded o state reasons) o.clockEpoch o.sequence o.observedAt ∧
      ∃ c', ingest P o c = (.ok o, c')) := by
  unfold ingest
  rw [Call.read_bind]
  simp only [id, examined]
  by_cases room : c.capacity ≤ 0
  · rw [if_pos room]
    exact Or.inl ⟨room, _, rfl⟩
  · rw [if_neg room, Call.modify_bind]
    right
    cases @SourceCursorStore.upsert_complete P c.cursorStore (c.recorded o state reasons) o.bootId o.clockEpoch
      o.sequence o.observedAt none rfl rfl rfl rfl with
    | inl refused =>
        obtain ⟨unrecordable, e, refused⟩ := refused
        rw [Call.bind_of_error (@onCursors_of_eq { c with buffers := c.buffers.insert o.sourceId (c.buffered o) } _ _ _ _
          refused)]
        exact Or.inl ⟨by omega, unrecordable, e, rfl⟩
    | inr done =>
        obtain ⟨recordable, done⟩ := done
        rw [Call.bind_of_ok (@onCursors_of_eq { c with buffers := c.buffers.insert o.sourceId (c.buffered o) } _ _ _ _ done),
          Call.modify_bind]
        exact Or.inr ⟨recordable, _, rfl⟩

theorem ingest_refused {e : Error} (examined : c.examine o = .refused e) : ingest P o c = (.error e, c) := by
  unfold ingest
  rw [Call.read_bind]
  simp only [id, examined]
  rfl

theorem ingest_late {rejected : SourceHealth} (examined : c.examine o = .late rejected) {e : Error}
    (raised : ingest P o c = (.error e, c')) : Spares P o c c' := by
  have ingests := ingest_ingests P c o
  rw [raised] at ingests
  cases ingests with
  | refuses other => cases examined.symm.trans other
  | unrecorded other failed => exact ⟨rfl, Or.inl ⟨rfl, rfl⟩⟩
  | raises not unlate => exact absurd examined (unlate rejected)
  | @degrades marked _ s other recorded =>
      obtain ⟨previous, known, same⟩ := examine_late other
      exact ⟨rfl, Or.inr ⟨previous, known, marked, same, other, recorded, rfl⟩⟩

/-- A rejected observation changes nothing but the mark of a late one exactly if the store takes
    the cursor and the event of every observation that is admitted and buffered. -/
theorem rejection_spares_iff (P : Platform) (c : StreamingSourceCollector) (o : Observation) :
    (∀ e c', ingest P o c = (.error e, c') → Spares P o c c') ↔ c.Records P o := by
  cases examined : c.examine o with
  | refused cause =>
      have records : c.Records P o := by
        intro state reasons admitted
        cases examined.symm.trans admitted
      simp only [records, iff_true]
      intro e c' raised
      cases (ingest_refused examined).symm.trans raised
      exact ⟨rfl, Or.inl ⟨rfl, rfl⟩⟩
  | late rejected =>
      have records : c.Records P o := by
        intro state reasons admitted
        cases examined.symm.trans admitted
      simp only [records, iff_true]
      exact fun e c' raised => ingest_late examined raised
  | admitted state reasons =>
      have records : c.Records P o ↔ (0 < c.capacity →
          c.cursorStore.Recordable P (c.recorded o state reasons) o.clockEpoch o.sequence o.observedAt) := by
        constructor
        · exact fun records => records state reasons examined
        · intro recordable state' reasons' admitted
          cases examined.symm.trans admitted
          exact recordable
      rw [records]
      rcases ingest_admitted (P := P) examined with ⟨none, cause, raised⟩ | ⟨room, unrecordable, cause, raised⟩ |
        ⟨recordable, c', accepted⟩
      · constructor
        · intro _ room
          omega
        · intro _ e c' refused
          cases raised.symm.trans refused
          exact ⟨rfl, Or.inl ⟨rfl, rfl⟩⟩
      · constructor
        · intro spares
          exact absurd (spares _ _ raised).1 (buffers_change c o)
        · intro recordable
          exact absurd (recordable room) unrecordable
      · constructor
        · exact fun _ _ => recordable
        · intro _ e c'' refused
          cases accepted.symm.trans refused

/-- A second boot sends two frames at the time of the first boot's, which then comes back. -/
def returningBoot : StreamingSourceCollector :=
  Foundation.run (step Platform.mixing) (start 256 validate camera) [
    .ingest (frame "boot-a" 1 4000000),
    .ingest (frame "boot-b" 1 4000000),
    .ingest (frame "boot-b" 2 4000000)]

/-- The change of its health has the id of the change before. -/
theorem returningBoot_is_buffered : ¬ ∀ (c c' : StreamingSourceCollector) (o : Observation) (e : Error),
    ingest Platform.mixing o c = (.error e, c') → Spares Platform.mixing o c c' := by
  intro spares
  obtain ⟨rejected, grown⟩ :
      (ingest Platform.mixing (frame "boot-a" 1 4000000) returningBoot).1.isOk = false ∧
      ((ingest Platform.mixing (frame "boot-a" 1 4000000) returningBoot).2.buffers.get? "camera-1").map
          (fun b => b.items.length) ≠
        (returningBoot.buffers.get? "camera-1").map (fun b => b.items.length) := by
    decide +kernel
  rcases raised : ingest Platform.mixing (frame "boot-a" 1 4000000) returningBoot with ⟨result, after⟩
  rw [raised] at rejected grown
  cases result with
  | ok o => cases rejected
  | error e =>
      have same := (spares _ _ _ e raised).1
      exact grown (congrArg (fun buffers => (buffers.get? "camera-1").map (fun b => b.items.length)) same)

end StreamingSourceCollector

end SentinelEdge.Collector
