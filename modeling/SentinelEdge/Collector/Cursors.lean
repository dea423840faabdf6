import Mathlib.Algebra.Field.Rat
import Mathlib.Data.NNRat.Defs
import Mathlib.Data.List.Sort
import SentinelEdge.Domain.Enums
import SentinelEdge.Domain.Platform
import SentinelEdge.Foundation.Dict
import SentinelEdge.Foundation.Table

/-! # Source cursors

`SourceCursorStore` keeps the last cursor of every source and an event for each
change of its health. A cursor has no column for the watermark, which is read back
from the time of the last observation; the reader of events passes over the clock
uncertainty, which then takes its default.
-/

namespace SentinelEdge.Collector

open Foundation Domain

structure SourceHealth where
  sourceId : String
  state : HealthState
  bootId : Option String := none
  clockEpoch : Option Nat := none
  lastSequence : Option Nat := none
  lastObservedAt : Option DateTime := none
  eventTimeWatermark : Option DateTime := none
  clockUncertaintyMs : ℚ≥0 := 0
  reasonCodes : List String := []

structure SourceHealthEvent where
  eventId : UUID
  sourceId : String
  previousState : Option HealthState := none
  state : HealthState
  recordedAt : DateTime
  bootId : Option String := none
  sequence : Option Nat := none
  clockUncertaintyMs : ℚ≥0 := 0
  reasonCodes : List String := []

/-- A row of `source_cursors`. -/
structure SourceCursor where
  sourceId : String
  bootId : String
  clockEpoch : Nat
  lastSequence : Nat
  lastObservedAt : DateTime
  clockUncertaintyMs : ℚ≥0
  state : HealthState
  reasonCodes : List String

structure SourceCursorStore where
  cursors : Dict String SourceCursor := Dict.empty
  healthEvents : List SourceHealthEvent := []

namespace SourceCursorStore

abbrev CursorCall (α : Type) := Call SourceCursorStore Error α

def healthEventsTable : Table SourceCursorStore SourceHealthEvent where
  rows := healthEvents
  setRows s rows := { s with healthEvents := rows }
  clash event old := event.eventId = old.eventId

/-- The first integer that SQLite does not take. -/
def integerLimit : Nat := 2 ^ 63

/-- A cursor as `load_all` reads it. -/
def load (row : SourceCursor) : SourceHealth where
  sourceId := row.sourceId
  state := row.state
  bootId := some row.bootId
  clockEpoch := some row.clockEpoch
  lastSequence := some row.lastSequence
  lastObservedAt := some row.lastObservedAt
  eventTimeWatermark := some row.lastObservedAt
  clockUncertaintyMs := row.clockUncertaintyMs
  reasonCodes := row.reasonCodes

def loadAll (s : SourceCursorStore) : List SourceHealth :=
  (s.cursors.values.insertionSort (fun a b => a.sourceId ≤ b.sourceId)).map load

/-- The name that the id of an event is made of. -/
def eventKey (P : Platform) (previous : Option SourceCursor) (health : SourceHealth) (lastSequence : Nat)
    (recordedAt : DateTime) : String :=
  ":".intercalate [health.sourceId, (previous.map (fun row => row.state.value)).getD "none", health.state.value,
    toString lastSequence, P.isoformat recordedAt, ",".intercalate health.reasonCodes]

/-- The event of a cursor that takes the place of the previous one, if its health has
    changed. -/
def healthEvent (P : Platform) (previous : Option SourceCursor) (health : SourceHealth) (lastSequence : Nat)
    (recordedAt : DateTime) : Option SourceHealthEvent :=
  if previous.any (fun row => row.state = health.state ∧ row.reasonCodes = health.reasonCodes) then none
  else some {
    eventId := P.uuid5 ("sentinel-source-health:" ++ eventKey P previous health lastSequence recordedAt)
    sourceId := health.sourceId
    previousState := previous.map SourceCursor.state
    state := health.state
    recordedAt := recordedAt
    bootId := health.bootId
    sequence := some lastSequence
    clockUncertaintyMs := health.clockUncertaintyMs
    reasonCodes := health.reasonCodes }

def upsert (P : Platform) (health : SourceHealth) (recordedAt : Option DateTime := none) : CursorCall Unit :=
  match health.bootId, health.clockEpoch, health.lastSequence, health.lastObservedAt with
  | some bootId, some clockEpoch, some lastSequence, some lastObservedAt => Call.atomically do
      let previous ← Call.read (fun s => s.cursors.get? health.sourceId)
      if integerLimit ≤ clockEpoch ∨ integerLimit ≤ lastSequence then Call.raise .overflowError
      else do
        Call.modify (fun s => { s with cursors := s.cursors.insert health.sourceId {
          sourceId := health.sourceId
          bootId := bootId
          clockEpoch := clockEpoch
          lastSequence := lastSequence
          lastObservedAt := lastObservedAt
          clockUncertaintyMs := health.clockUncertaintyMs
          state := health.state
          reasonCodes := health.reasonCodes } })
        match healthEvent P previous health lastSequence (recordedAt.getD lastObservedAt) with
        | some event => healthEventsTable.insert (.integrityError "source_health_events") event
        | none => pure ()
  | _, _, _, _ => Call.raise (.valueError "complete source cursor required")

/-- `events`: the reader leaves out `clock_uncertainty_ms`. -/
def events (P : Platform) (s : SourceCursorStore) : List SourceHealthEvent :=
  (s.healthEvents.insertionSort (fun a b => P.isoformat a.recordedAt < P.isoformat b.recordedAt ∨
    (P.isoformat a.recordedAt = P.isoformat b.recordedAt ∧ a.eventId.str ≤ b.eventId.str))).map (fun event => {
      eventId := event.eventId
      sourceId := event.sourceId
      previousState := event.previousState
      state := event.state
      recordedAt := event.recordedAt
      bootId := event.bootId
      sequence := event.sequence
      reasonCodes := event.reasonCodes })

/-! ## When a cursor is recorded -/

/-- The row of a complete record. -/
def cursorOf (health : SourceHealth) (bootId : String) (clockEpoch lastSequence : Nat) (lastObservedAt : DateTime) :
    SourceCursor where
  sourceId := health.sourceId
  bootId := bootId
  clockEpoch := clockEpoch
  lastSequence := lastSequence
  lastObservedAt := lastObservedAt
  clockUncertaintyMs := health.clockUncertaintyMs
  state := health.state
  reasonCodes := health.reasonCodes

/-- The numbers fit into their columns, and no event has the id of the one to come. -/
def Recordable (P : Platform) (s : SourceCursorStore) (health : SourceHealth) (clockEpoch lastSequence : Nat)
    (recordedAt : DateTime) : Prop :=
  clockEpoch < integerLimit ∧ lastSequence < integerLimit ∧
    ∀ event, healthEvent P (s.cursors.get? health.sourceId) health lastSequence recordedAt = some event →
      ∀ old ∈ s.healthEvents, event.eventId ≠ old.eventId

variable {P : Platform} {s s' : SourceCursorStore} {health : SourceHealth} {bootId : String} {clockEpoch lastSequence : Nat}
  {lastObservedAt : DateTime} {recordedAt : Option DateTime}

theorem upsert_complete (boot : health.bootId = some bootId) (epoch : health.clockEpoch = some clockEpoch)
    (sequence : health.lastSequence = some lastSequence) (observed : health.lastObservedAt = some lastObservedAt) :
    (¬ s.Recordable P health clockEpoch lastSequence (recordedAt.getD lastObservedAt) ∧
      ∃ e, upsert P health recordedAt s = (.error e, s)) ∨
    s.Recordable P health clockEpoch lastSequence (recordedAt.getD lastObservedAt) ∧ upsert P health recordedAt s = (.ok (), {
      cursors := s.cursors.insert health.sourceId (cursorOf health bootId clockEpoch lastSequence lastObservedAt)
      healthEvents := s.healthEvents ++
        (healthEvent P (s.cursors.get? health.sourceId) health lastSequence (recordedAt.getD lastObservedAt)).toList }) := by
  simp only [upsert, boot, epoch, sequence, observed]
  by_cases large : integerLimit ≤ clockEpoch ∨ integerLimit ≤ lastSequence
  · refine Or.inl ⟨?_, .overflowError, Call.atomically_of_error (t := s) ?_⟩
    · rintro ⟨epochFits, sequenceFits, -⟩
      omega
    · rw [Call.read_bind, if_pos large, Call.raise_apply]
  · cases changed : healthEvent P (s.cursors.get? health.sourceId) health lastSequence (recordedAt.getD lastObservedAt) with
    | none =>
        refine Or.inr ⟨⟨by omega, by omega, fun event same => ?_⟩, Call.atomically_of_ok ?_⟩
        · rw [changed] at same
          cases same
        · rw [Call.read_bind, if_neg large, Call.modify_bind, changed]
          simp only [Option.toList_none, List.append_nil]
          rfl
    | some event =>
        cases clash : s.healthEvents.any (healthEventsTable.clash event) with
        | true =>
            refine Or.inl ⟨?_, .integrityError "source_health_events", Call.atomically_of_error
              (t := ⟨s.cursors.insert health.sourceId (cursorOf health bootId clockEpoch lastSequence lastObservedAt),
                s.healthEvents⟩) ?_⟩
            · rintro ⟨-, -, new⟩
              obtain ⟨old, member, taken⟩ := List.any_eq_true.mp clash
              exact new event changed old member (of_decide_eq_true taken)
            · rw [Call.read_bind, if_neg large, Call.modify_bind, changed]
              exact Table.insert_of_clash clash
        | false =>
            refine Or.inr ⟨⟨by omega, by omega, fun event' same old member => ?_⟩, Call.atomically_of_ok ?_⟩
            · rw [changed] at same
              cases same
              have apart := List.any_eq_false.mp clash old member
              simpa [healthEventsTable] using apart
            · rw [Call.read_bind, if_neg large, Call.modify_bind, changed]
              exact Table.insert_of_fresh clash

/-- What raises leaves the store alone. -/
theorem upsert_error {e : Error} (raised : upsert P health recordedAt s = (.error e, s')) : s' = s := by
  have incomplete : (Call.raise (.valueError "complete source cursor required") : CursorCall Unit) s = (.error e, s') →
      s' = s := by
    intro raised
    cases raised
    rfl
  cases boot : health.bootId with
  | none =>
      simp only [upsert, boot] at raised
      exact incomplete raised
  | some bootId => cases epoch : health.clockEpoch with
    | none =>
        simp only [upsert, boot, epoch] at raised
        exact incomplete raised
    | some clockEpoch => cases sequence : health.lastSequence with
      | none =>
          simp only [upsert, boot, epoch, sequence] at raised
          exact incomplete raised
      | some lastSequence => cases observed : health.lastObservedAt with
        | none =>
            simp only [upsert, boot, epoch, sequence, observed] at raised
            exact incomplete raised
        | some lastObservedAt =>
            simp only [upsert, boot, epoch, sequence, observed] at raised
            exact Call.atomically_error raised

end SourceCursorStore

end SentinelEdge.Collector
