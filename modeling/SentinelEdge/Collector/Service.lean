import SentinelEdge.Analysis.Measurements
import SentinelEdge.Collector.Cursors
import SentinelEdge.Foundation.Run

/-! # The collector

`StreamingSourceCollector`: observations are checked against the last one of their
source, buffered, and recorded in the health of the source and in its cursor.
`examine` is the part of `ingest` before anything is buffered.
-/

namespace SentinelEdge.Collector

open Foundation Domain Analysis

/-- An observation with the fields that only the collector reads. -/
structure Observation extends Domain.Observation where
  sequence : Nat
  clockUncertaintyMs : ℚ≥0 := 0

inductive SourceKind where
  | camera | imu | videoFixture | rtsp
  deriving DecidableEq, Repr

def SourceKind.ofString : String → Option SourceKind
  | "camera" => some .camera
  | "imu" => some .imu
  | "video_fixture" => some .videoFixture
  | "rtsp" => some .rtsp
  | _ => none

def SourceKind.defaultLateness : SourceKind → ℚ
  | .imu => 1 / 2
  | .camera => 2
  | .rtsp => 2
  | .videoFixture => 0

structure SourceConfiguration where
  sourceId : String
  sourceKind : SourceKind
  location : String
  maxLatenessSeconds : ℚ
  nonBlank : isBlank sourceId = false ∧ isBlank location = false
  nonNegative : 0 ≤ maxLatenessSeconds
  deriving DecidableEq

/-- `SourceConfiguration(...)` with its validators. -/
def SourceConfiguration.validated (sourceId : String) (sourceKind : SourceKind) (location : String)
    (maxLatenessSeconds : ℚ) : Except Error SourceConfiguration :=
  if nonBlank : isBlank sourceId = false ∧ isBlank location = false then
    if nonNegative : 0 ≤ maxLatenessSeconds then
      .ok ⟨sourceId, sourceKind, location, maxLatenessSeconds, nonBlank, nonNegative⟩
    else .error (.validationError "max_lateness_seconds must be non-negative")
  else .error (.validationError "source configuration values must not be blank")

structure BoundedRingBuffer where
  capacity : Nat
  items : List Observation := []
  dropped : Nat := 0

def BoundedRingBuffer.append (b : BoundedRingBuffer) (o : Observation) : BoundedRingBuffer :=
  if b.items.length = b.capacity then { b with items := b.items.drop 1 ++ [o], dropped := b.dropped + 1 }
  else { b with items := b.items ++ [o] }

structure StreamingSourceCollector where
  capacity : Int := 256
  measurements : Domain.Observation → MeasurementContractReport := validate
  buffers : Dict String BoundedRingBuffer := Dict.empty
  cursorStore : SourceCursorStore
  health : Dict String SourceHealth
  sourceConfigurations : Dict String SourceConfiguration := Dict.empty

namespace StreamingSourceCollector

abbrev CollectorCall (α : Type) := Call StreamingSourceCollector Error α

/-- A new collector on a store. -/
def create (capacity : Int) (measurements : Domain.Observation → MeasurementContractReport)
    (cursorStore : SourceCursorStore) : StreamingSourceCollector where
  capacity := capacity
  measurements := measurements
  cursorStore := cursorStore
  health := Dict.ofList SourceHealth.sourceId cursorStore.loadAll

def onCursors {α : Type} (x : SourceCursorStore.CursorCall α) : CollectorCall α :=
  Call.zoom cursorStore (fun c s => { c with cursorStore := s }) x

def configureSource (sourceId sourceKind location : String) (maxLatenessSeconds : Option ℚ) :
    CollectorCall SourceConfiguration := do
  match SourceKind.ofString sourceKind with
  | none => Call.raise (.keyError sourceKind)
  | some kind => do
      let configuration ← Call.lift (SourceConfiguration.validated sourceId kind location
        (maxLatenessSeconds.getD kind.defaultLateness))
      let previous ← Call.read (fun c => c.sourceConfigurations.get? sourceId)
      if previous.any (fun previous => previous ≠ configuration) then
        Call.raise (.valueError "source configuration is immutable")
      else do
        Call.modify (fun c => { c with sourceConfigurations := c.sourceConfigurations.insert sourceId configuration })
        pure configuration

/-- `max_lateness_seconds` of the source, in microseconds. -/
def latenessBound (c : StreamingSourceCollector) (sourceId : String) : ℚ :=
  ((c.sourceConfigurations.get? sourceId).map SourceConfiguration.maxLatenessSeconds).getD 0 * 1000000

/-- What comes of an observation before it is buffered: it is refused, it is too late
    and degrades its source, or it is admitted with a state and reasons. -/
inductive Examination where
  | refused (e : Error)
  | late (rejected : SourceHealth)
  | admitted (state : HealthState) (reasons : List String)

/-- The previous observation of the source was of the same boot and clock epoch. -/
def sameEpoch (previous : SourceHealth) (o : Observation) : Bool :=
  previous.bootId = some o.bootId && previous.clockEpoch = some o.clockEpoch

/-- The state and reasons that the previous observation of the source gives. -/
def continued (c : StreamingSourceCollector) (o : Observation) (previous : SourceHealth) (state : HealthState)
    (reasons : List String) : Examination :=
  match previous.lastSequence with
  | none => .admitted state reasons
  | some lastSequence =>
      if sameEpoch previous o && o.sequence ≤ lastSequence then
        .refused (.valueError "sequence must increase per source boot and clock epoch")
      else
        let late : Bool := previous.lastObservedAt.any (fun last => o.observedAt < last)
        let exceeded : Bool := previous.lastObservedAt.any (fun last =>
          o.observedAt < last ∧ c.latenessBound o.sourceId < ((last - o.observedAt : Int) : ℚ))
        if exceeded then .late { previous with
          state := .degraded
          reasonCodes := sortedSet (previous.reasonCodes ++ ["late_event_exceeded"]) }
        else
          let gap : Bool := sameEpoch previous o && lastSequence + 1 < o.sequence
          .admitted (if late || gap then .degraded else state)
            (reasons ++ (if late then ["late_event"] else []) ++ (if gap then ["sequence_gap"] else []) ++
              if sameEpoch previous o then [] else ["source_epoch_transition"])

/-- The last checks of an observation that is not late. -/
def settled (o : Observation) (previous : Option SourceHealth) : Examination → Examination
  | .admitted state reasons =>
      let stale : Bool := 5000 < o.captureAgeMs
      let recovered : Bool := previous.any (fun p => p.state = .stale ∨ p.state = .failed)
      if o.values.values.any (fun value => 1000000 < |value|) then .refused (.valueError "implausible numeric value")
      else if stale then .admitted .stale (reasons ++ ["stale_capture"])
      else if recovered then .admitted .healthy (reasons ++ ["source_recovered"])
      else .admitted state reasons
  | examination => examination

/-- The state that the measurements alone give. -/
def contractState (report : MeasurementContractReport) : HealthState :=
  if ¬ report.invalidProperties.isEmpty ∨ ¬ report.suspectProperties.isEmpty then .degraded else .healthy

/-- The comparison with the previous record, if there is one. -/
def compared (c : StreamingSourceCollector) (o : Observation) (report : MeasurementContractReport) : Examination :=
  match c.health.get? o.sourceId with
  | some previous => c.continued o previous (contractState report) report.reasonCodes
  | none => .admitted (contractState report) report.reasonCodes

def examine (c : StreamingSourceCollector) (o : Observation) : Examination :=
  if o.sourceMode = .replayed then .refused (.valueError "replayed observations cannot enter the live collector")
  else if ¬ (c.measurements o.toObservation).valid then
    .refused (.valueError ("measurement contract rejected: " ++
      ",".intercalate (c.measurements o.toObservation).reasonCodes))
  else settled o (c.health.get? o.sourceId) (c.compared o (c.measurements o.toObservation))

/-- The buffer of the source with the observation appended. -/
def buffered (c : StreamingSourceCollector) (o : Observation) : BoundedRingBuffer :=
  ((c.buffers.get? o.sourceId).getD { capacity := c.capacity.toNat }).append o

/-- The health that an admitted observation gives its source. -/
def recorded (c : StreamingSourceCollector) (o : Observation) (state : HealthState) (reasons : List String) :
    SourceHealth :=
  let overwrites : Bool := (c.buffered o).dropped ≠ 0
  { sourceId := o.sourceId
    state := if overwrites && state = .healthy then .degraded else state
    bootId := some o.bootId
    clockEpoch := some o.clockEpoch
    lastSequence := some o.sequence
    lastObservedAt := some o.observedAt
    eventTimeWatermark := some (match (c.health.get? o.sourceId).bind SourceHealth.eventTimeWatermark with
      | some watermark => if o.observedAt < watermark then watermark else o.observedAt
      | none => o.observedAt)
    clockUncertaintyMs := o.clockUncertaintyMs
    reasonCodes := sortedSet (reasons ++ if overwrites then ["ring_buffer_overwrite"] else []) }

def ingest (P : Platform) (o : Observation) : CollectorCall Observation := do
  let c ← Call.read id
  match c.examine o with
  | .refused e => Call.raise e
  | .late rejected => do
      onCursors (SourceCursorStore.upsert P rejected (some o.receivedAt))
      Call.modify (fun c => { c with health := c.health.insert o.sourceId rejected })
      Call.raise (.valueError "event time exceeds adapter lateness bound")
  | .admitted state reasons =>
      if c.capacity ≤ 0 then Call.raise (.valueError "capacity must be positive")
      else do
        Call.modify (fun c => { c with buffers := c.buffers.insert o.sourceId (c.buffered o) })
        let health := c.recorded o state reasons
        onCursors (SourceCursorStore.upsert P health)
        Call.modify (fun c => { c with health := c.health.insert o.sourceId health })
        pure o

/-- `health()` -/
def healthRecords (c : StreamingSourceCollector) : List SourceHealth :=
  c.health.values.insertionSort (fun a b => a.sourceId ≤ b.sourceId)

/-- A health record that is overdue at `now`. -/
def overdue (now : DateTime) (thresholdSeconds : Int) (health : SourceHealth) : Bool :=
  health.lastObservedAt.any (fun last => thresholdSeconds * 1000000 < now - last)

def staled (health : SourceHealth) : SourceHealth :=
  { health with state := .stale, reasonCodes := sortedSet (health.reasonCodes ++ ["timeout"]) }

/-- The new record goes to memory first and then to the store. -/
def record (P : Platform) (sourceId : String) (updated : SourceHealth) (now : DateTime) : CollectorCall Unit := do
  Call.modify (fun c => { c with health := c.health.insert sourceId updated })
  onCursors (SourceCursorStore.upsert P updated (some now))

def markOne (P : Platform) (now : DateTime) (thresholdSeconds : Int) (item : String × SourceHealth) : CollectorCall Unit :=
  if overdue now thresholdSeconds item.2 then record P item.1 (staled item.2) now else pure ()

/-- The loop of `mark_stale` over the items as they were at its start. -/
def markOverdue (P : Platform) (now : DateTime) (thresholdSeconds : Int) : List (String × SourceHealth) → CollectorCall Unit
  | [] => pure ()
  | item :: rest => do
      markOne P now thresholdSeconds item
      markOverdue P now thresholdSeconds rest

def markStale (P : Platform) (now : DateTime) (thresholdSeconds : Int := 30) : CollectorCall Unit := do
  let items ← Call.read (fun c => c.health.items)
  markOverdue P now thresholdSeconds items

def failed (reason : String) (health : SourceHealth) : SourceHealth :=
  { health with state := .failed, reasonCodes := sortedSet (health.reasonCodes ++ [reason]) }

def markFailed (P : Platform) (sourceId reason : String) (now : DateTime) : CollectorCall Unit := do
  let current ← Call.read (fun c => c.health.get? sourceId)
  match current with
  | none => Call.raise (.keyError sourceId)
  | some current => record P sourceId (failed reason current) now

/-! ## Runs -/

inductive Operation where
  | ingest (o : Observation)
  | markStale (now : DateTime) (thresholdSeconds : Int)
  | markFailed (sourceId reason : String) (now : DateTime)

def step (P : Platform) (c : StreamingSourceCollector) : Operation → StreamingSourceCollector
  | .ingest o => (ingest P o c).2
  | .markStale now thresholdSeconds => (markStale P now thresholdSeconds c).2
  | .markFailed sourceId reason now => (markFailed P sourceId reason now c).2

/-- The observation that the operation has accepted. -/
def accepted (P : Platform) (c : StreamingSourceCollector) : Operation → List Observation
  | .ingest o => (ingest P o c).1.toOption.toList
  | .markStale _ _ => []
  | .markFailed _ _ _ => []

end StreamingSourceCollector

end SentinelEdge.Collector

/-! ## What one observation does

An observation is accepted when its examination admits it, there is room for a
buffer and its health can be recorded. Anything else leaves the health and the
cursor as they were, but for one that is too late, which degrades its source.
-/

namespace SentinelEdge.Collector

open Foundation Domain Analysis

variable {P : Platform}

namespace StreamingSourceCollector

variable {c c' : StreamingSourceCollector} {o : Observation}

/-- The observation will be accepted. -/
def Accepts (P : Platform) (c : StreamingSourceCollector) (o : Observation) : Prop :=
  ∃ state reasons, c.examine o = .admitted state reasons ∧ 0 < c.capacity ∧
    c.cursorStore.Recordable P (c.recorded o state reasons) o.clockEpoch o.sequence o.observedAt

/-- The ways a call of `ingest` can end. -/
inductive Ingests (P : Platform) (c : StreamingSourceCollector) (o : Observation) :
    Except Error Observation → StreamingSourceCollector → Prop where
  | refuses {e : Error} (examined : c.examine o = .refused e) : Ingests P c o (.error e) c
  | degrades {rejected : SourceHealth} {e : Error} {s : SourceCursorStore} (examined : c.examine o = .late rejected)
      (recorded : SourceCursorStore.upsert P rejected (some o.receivedAt) c.cursorStore = (.ok (), s)) :
      Ingests P c o (.error e) { c with cursorStore := s, health := c.health.insert o.sourceId rejected }
  | unrecorded {rejected : SourceHealth} {e : Error} (examined : c.examine o = .late rejected)
      (raised : SourceCursorStore.upsert P rejected (some o.receivedAt) c.cursorStore = (.error e, c.cursorStore)) :
      Ingests P c o (.error e) c
  | raises {e : Error} {buffers : Dict String BoundedRingBuffer} (not : ¬ c.Accepts P o)
      (examined : ∀ rejected, c.examine o ≠ .late rejected) : Ingests P c o (.error e) { c with buffers := buffers }
  | accepts {state : HealthState} {reasons : List String} (accepts : c.Accepts P o)
      (examined : c.examine o = .admitted state reasons) : Ingests P c o (.ok o) { c with
        buffers := c.buffers.insert o.sourceId (c.buffered o)
        cursorStore := {
          cursors := c.cursorStore.cursors.insert o.sourceId
            (SourceCursorStore.cursorOf (c.recorded o state reasons) o.bootId o.clockEpoch o.sequence o.observedAt)
          healthEvents := c.cursorStore.healthEvents ++ (SourceCursorStore.healthEvent P
            (c.cursorStore.cursors.get? o.sourceId) (c.recorded o state reasons) o.sequence o.observedAt).toList }
        health := c.health.insert o.sourceId (c.recorded o state reasons) }

theorem onCursors_of_eq {α : Type} {x : SourceCursorStore.CursorCall α} {r : Except Error α} {s : SourceCursorStore}
    (h : x c.cursorStore = (r, s)) : onCursors x c = (r, { c with cursorStore := s }) := Call.zoom_of_eq h

theorem ingest_ingests (P : Platform) (c : StreamingSourceCollector) (o : Observation) :
    Ingests P c o (ingest P o c).1 (ingest P o c).2 := by
  unfold ingest
  rw [Call.read_bind]
  cases examined : c.examine o with
  | refused e =>
      simp only [id, examined]
      exact .refuses examined
  | late rejected =>
      simp only [id, examined]
      cases recorded : SourceCursorStore.upsert P rejected (some o.receivedAt) c.cursorStore with
      | mk r s =>
          cases r with
          | error e =>
              have same := SourceCursorStore.upsert_error recorded
              subst same
              rw [Call.bind_of_error (onCursors_of_eq recorded)]
              exact .unrecorded examined recorded
          | ok _ =>
              rw [Call.bind_of_ok (onCursors_of_eq recorded), Call.modify_bind]
              exact .degrades examined recorded
  | admitted state reasons =>
      have unlate : ∀ rejected, c.examine o ≠ .late rejected := by
        intro rejected late
        rw [examined] at late
        cases late
      have admitted : ∀ {state' : HealthState} {reasons' : List String}, c.examine o = .admitted state' reasons' →
          state' = state ∧ reasons' = reasons := by
        intro state' reasons' same
        rw [examined] at same
        cases same
        exact ⟨rfl, rfl⟩
      simp only [id, examined]
      by_cases room : c.capacity ≤ 0
      · rw [if_pos room]
        refine .raises ?_ unlate
        rintro ⟨_, _, -, positive, -⟩
        omega
      · rw [if_neg room, Call.modify_bind]
        cases @SourceCursorStore.upsert_complete P c.cursorStore (c.recorded o state reasons) o.bootId o.clockEpoch
          o.sequence o.observedAt none rfl rfl rfl rfl with
        | inl refused =>
            obtain ⟨unrecordable, e, refused⟩ := refused
            rw [Call.bind_of_error (@onCursors_of_eq { c with buffers := c.buffers.insert o.sourceId (c.buffered o) } _ _ _ _
              refused)]
            refine .raises ?_ unlate
            rintro ⟨state', reasons', same, -, recordable⟩
            obtain ⟨rfl, rfl⟩ := admitted same
            exact unrecordable recordable
        | inr done =>
            obtain ⟨recordable, done⟩ := done
            rw [Call.bind_of_ok (@onCursors_of_eq { c with buffers := c.buffers.insert o.sourceId (c.buffered o) } _ _ _ _ done),
              Call.modify_bind]
            exact .accepts ⟨state, reasons, examined, by omega, recordable⟩ examined

theorem accepted_ingest (P : Platform) (c : StreamingSourceCollector) (o : Observation) :
    accepted P c (.ingest o) = [] ∧ ¬ c.Accepts P o ∨ accepted P c (.ingest o) = [o] ∧ c.Accepts P o := by
  have ingests := ingest_ingests P c o
  have emitted : accepted P c (.ingest o) = (ingest P o c).1.toOption.toList := rfl
  rw [emitted]
  generalize (ingest P o c).1 = r at ingests ⊢
  generalize (ingest P o c).2 = c' at ingests
  cases ingests with
  | refuses examined =>
      refine Or.inl ⟨rfl, ?_⟩
      rintro ⟨_, _, admitted, -⟩
      rw [examined] at admitted
      cases admitted
  | degrades examined recorded =>
      refine Or.inl ⟨rfl, ?_⟩
      rintro ⟨_, _, admitted, -⟩
      rw [examined] at admitted
      cases admitted
  | unrecorded examined raised =>
      refine Or.inl ⟨rfl, ?_⟩
      rintro ⟨_, _, admitted, -⟩
      rw [examined] at admitted
      cases admitted
  | raises not examined => exact Or.inl ⟨rfl, not⟩
  | accepts accepts examined => exact Or.inr ⟨rfl, accepts⟩

end StreamingSourceCollector

end SentinelEdge.Collector
