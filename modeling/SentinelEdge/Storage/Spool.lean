import Mathlib.Algebra.Ring.Nat
import SentinelEdge.Domain.Incidents
import SentinelEdge.Foundation.Run
import SentinelEdge.Foundation.Table

/-! # The critical analysis spool

`CriticalAnalysisSpool` keeps analyses while the incident component is away:
`enqueue` is one transaction over both tables, `drain` walks over a snapshot of
the pending rows and commits row by row. Rows stand in the order of their
AUTOINCREMENT keys. The pydantic text encoding is a parameter.
-/

namespace SentinelEdge.Storage

open Foundation Domain

/-- `AnalysisResult` to JSON text and back. -/
structure SpoolCodec where
  Payload : Type
  [payloadEq : DecidableEq Payload]
  /-- `analysis.model_dump_json()` -/
  modelDumpJson : AnalysisResult → Payload
  /-- `AnalysisResult.model_validate_json`, `none` where it raises. -/
  modelValidateJson : Payload → Option AnalysisResult
  validate_dump : ∀ analysis, modelValidateJson (modelDumpJson analysis) = some analysis
  /-- `len(payload.encode("utf-8"))` -/
  encodedLength : Payload → Nat

attribute [instance] SpoolCodec.payloadEq

/-- A codec to evaluate on: the payload is the analysis, measured by its JSON
    text. -/
def SpoolCodec.transparent : SpoolCodec where
  Payload := AnalysisResult
  modelDumpJson := id
  modelValidateJson := some
  validate_dump _ := rfl
  encodedLength analysis := (analysis.modelDump Platform.transparent).text.utf8ByteSize

/-- The bounds the constructor accepts, in items, bytes and seconds. -/
structure SpoolBounds where
  maxItems : Nat := 256
  maxBytes : Nat := 4 * 1024 * 1024
  maxAgeSeconds : Nat := 900
  positive : 0 < maxItems ∧ 0 < maxBytes ∧ 0 < maxAgeSeconds := by decide

/-- The check of `CriticalAnalysisSpool.__init__`. -/
def SpoolBounds.make (maxItems maxBytes maxAgeSeconds : Int) : Except Error SpoolBounds :=
  if h : maxItems ≤ 0 ∨ maxBytes ≤ 0 ∨ maxAgeSeconds ≤ 0 then .error (.valueError "spool bounds must be positive")
  else .ok ⟨maxItems.toNat, maxBytes.toNat, maxAgeSeconds.toNat, by omega⟩

inductive SpoolStatus where
  | enqueued
  | rejected
  | expired
  | deliveryFailed
  | delivered
  deriving DecidableEq, Repr

def SpoolStatus.value : SpoolStatus → String
  | .enqueued => "enqueued"
  | .rejected => "rejected"
  | .expired => "expired"
  | .deliveryFailed => "delivery_failed"
  | .delivered => "delivered"

/-- A row of `pending_analysis`. -/
structure PendingAnalysis (C : SpoolCodec) where
  analysisId : UUID
  hazard : HazardKind
  enqueuedAt : DateTime
  expiresAt : DateTime
  payloadJson : C.Payload
  payloadBytes : Nat

/-- A row of `spool_events`. -/
structure SpoolEvent where
  analysisId : UUID
  status : SpoolStatus
  recordedAt : DateTime
  reason : Option String
  payloadBytes : Nat
  deriving DecidableEq, Repr

structure Spool (C : SpoolCodec) where
  pendingAnalysis : List (PendingAnalysis C) := []
  spoolEvents : List SpoolEvent := []

namespace Spool

variable {C : SpoolCodec} {bounds : SpoolBounds}

abbrev SpoolCall (C : SpoolCodec) (α : Type) := Call (Spool C) Error α

def pendingAnalysisTable : Table (Spool C) (PendingAnalysis C) where
  rows := pendingAnalysis
  setRows s rows := { s with pendingAnalysis := rows }
  clash row old := row.analysisId = old.analysisId

def spoolEventsTable : Table (Spool C) SpoolEvent where
  rows := spoolEvents
  setRows s rows := { s with spoolEvents := rows }
  clash _ _ := false

/-- `INSERT INTO spool_events` -/
def insertEvent (analysisId : UUID) (status : SpoolStatus) (recordedAt : DateTime) (reason : Option String)
    (payloadBytes : Nat) : SpoolCall C Unit :=
  spoolEventsTable.insert (.integrityError "spool_events") ⟨analysisId, status, recordedAt, reason, payloadBytes⟩

/-- `_counts` -/
def counts (s : Spool C) : Nat × Nat :=
  (s.pendingAnalysis.length, (s.pendingAnalysis.map PendingAnalysis.payloadBytes).sum)

def microseconds (seconds : Nat) : Int := seconds * 1000000

/-- The row `enqueue` writes for an analysis. -/
def pendingRow (bounds : SpoolBounds) (analysis : AnalysisResult) (enqueuedAt : DateTime) : PendingAnalysis C where
  analysisId := analysis.analysisId
  hazard := analysis.hazard
  enqueuedAt := enqueuedAt
  expiresAt := enqueuedAt + microseconds bounds.maxAgeSeconds
  payloadJson := C.modelDumpJson analysis
  payloadBytes := C.encodedLength (C.modelDumpJson analysis)

/-- `SELECT payload_json FROM pending_analysis WHERE analysis_id=?` -/
def find (s : Spool C) (analysisId : UUID) : Option (PendingAnalysis C) :=
  s.pendingAnalysis.find? (fun row => row.analysisId = analysisId)

/-- `items + 1 > max_items or total_bytes + payload_bytes > max_bytes` -/
def isFull (bounds : SpoolBounds) (s : Spool C) (payloadBytes : Nat) : Bool :=
  s.counts.1 + 1 > bounds.maxItems || s.counts.2 + payloadBytes > bounds.maxBytes

/-- The transaction of `enqueue`. It ends with `none` where the method returns
    early, and with the `exhausted` flag otherwise; the event of the last
    statement is written on both branches. -/
def enqueueBody (bounds : SpoolBounds) (analysis : AnalysisResult) (enqueuedAt : DateTime) :
    SpoolCall C (Option Bool) := do
  let row : PendingAnalysis C := pendingRow bounds analysis enqueuedAt
  let existing ← Call.read (fun s => s.find analysis.analysisId)
  match existing with
  | some old =>
      if old.payloadJson ≠ row.payloadJson then Call.raise (.valueError "analysis spool identity conflict")
      else pure none
  | none => do
      let exhausted ← Call.read (fun s => s.isFull bounds row.payloadBytes)
      if exhausted then
        insertEvent analysis.analysisId .rejected enqueuedAt (some "spool_exhausted") row.payloadBytes
      else pendingAnalysisTable.insert (.integrityError "pending_analysis") row
      insertEvent analysis.analysisId .enqueued enqueuedAt none row.payloadBytes
      pure (some exhausted)

def enqueue (bounds : SpoolBounds) (analysis : AnalysisResult) (enqueuedAt : DateTime) : SpoolCall C Bool := do
  let outcome ← Call.atomically (enqueueBody bounds analysis enqueuedAt)
  match outcome with
  | none => pure false
  | some exhausted =>
      if exhausted then Call.raise (.spoolExhaustedError "critical analysis spool exhausted")
      else pure true

/-- The list behind `pending()`, `none` where a payload fails to validate. -/
def pending (s : Spool C) : Option (List AnalysisResult) :=
  s.pendingAnalysis.mapM (fun row => C.modelValidateJson row.payloadJson)

/-- What a call of the handler does: it returns, or raises an `Exception` of the
    named type. -/
inductive HandlerOutcome where
  | returned
  | raised (typeName : String)
  deriving DecidableEq, Repr

/-- The transaction that follows a successful hand-over. -/
def removeDelivered (analysisId : UUID) (now : DateTime) (payloadBytes : Nat) : SpoolCall C Unit :=
  Call.atomically do
    Call.modify (fun s =>
      { s with pendingAnalysis := s.pendingAnalysis.filter (fun row => row.analysisId ≠ analysisId) })
    insertEvent analysisId .delivered now none payloadBytes

/-- The loop of `drain` over the rows it has not visited; the result lists what
    the rest of the loop delivers. -/
def drainRows (handler : AnalysisResult → HandlerOutcome) (now : DateTime) :
    List (PendingAnalysis C) → SpoolCall C (List UUID)
  | [] => pure []
  | row :: rows => match C.modelValidateJson row.payloadJson with
      | none => Call.raise (.validationError "AnalysisResult")
      | some analysis =>
          -- expired critical evidence remains pending
          if row.expiresAt ≤ now then do
            Call.atomically
              (insertEvent analysis.analysisId .expired now (some "maximum_age_exceeded") row.payloadBytes)
            pure []
          else match handler analysis with
            | .raised typeName => do
                Call.atomically
                  (insertEvent analysis.analysisId .deliveryFailed now (some typeName) row.payloadBytes)
                pure []
            | .returned => do
                removeDelivered analysis.analysisId now row.payloadBytes
                let later ← drainRows handler now rows
                pure (analysis.analysisId :: later)

def drain (handler : AnalysisResult → HandlerOutcome) (now : DateTime) : SpoolCall C (List UUID) := do
  let rows ← Call.read pendingAnalysis
  drainRows handler now rows

end Spool

end SentinelEdge.Storage
