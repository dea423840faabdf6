import SentinelEdge.Domain.Incidents
import SentinelEdge.Foundation.Call
import SentinelEdge.Foundation.Dict

/-! # The opportunity ledger

`OpportunityLedger` keeps one record per opportunity id, in the order in which
the ids were first offered. A record is mutated in place by the `mark_*` methods
and replaced when its id is offered again.
-/

namespace SentinelEdge.Runtime

open Foundation Domain

inductive OpportunityDisposition where
  | offered | queued | deferred | processed | skipped | replaced | invalid | dropped | expired | failed
  | deadlineMissed
  deriving DecidableEq, Repr

/-- The dispositions `mark_terminal` takes and `reconcile` counts. -/
def OpportunityDisposition.isTerminal : OpportunityDisposition → Bool
  | .offered | .queued | .deferred => false
  | .processed | .skipped | .replaced | .invalid | .dropped | .expired | .failed | .deadlineMissed => true

structure OpportunityRecord where
  opportunityId : UUID
  correlationId : UUID
  workloadId : String
  hazard : HazardKind
  scheduledReleaseAt : DateTime
  actualReleaseAt : Option DateTime := none
  capturedAt : Option DateTime := none
  queueStartedMonotonicNs : Option Nat := none
  serviceStartedMonotonicNs : Option Nat := none
  completedMonotonicNs : Option Nat := none
  deadlineMonotonicNs : Option Nat := none
  disposition : OpportunityDisposition := .offered
  reasonCodes : List String := []
  deriving DecidableEq, Repr

/-- What identifies an opportunity. -/
@[ext]
structure OpportunityKey where
  correlationId : UUID
  workloadId : String
  scheduledReleaseAt : DateTime
  deriving DecidableEq, Repr

def opportunityName (P : Platform) (key : OpportunityKey) : String :=
  "sentinel-opportunity:" ++ key.correlationId.str ++ ":" ++ key.workloadId ++ ":" ++ P.isoformat key.scheduledReleaseAt

def opportunityId (P : Platform) (key : OpportunityKey) : UUID := P.uuid5 (opportunityName P key)

/-- A name determines its key, although workload ids may contain colons: no time
    ends in a colon followed by another time. -/
theorem opportunityName_injective {P : Platform} (isoformat : Function.Injective P.isoformat)
    (tails : ∀ t u lead, P.isoformat t ≠ lead ++ ":" ++ P.isoformat u) {a b : OpportunityKey}
    (same : opportunityName P a = opportunityName P b) : a = b := by
  have colon : ":".toList = [':'] := rfl
  unfold opportunityName at same
  have chars := congrArg String.toList same
  simp only [String.toList_append, List.append_assoc, colon, List.cons_append, List.nil_append,
    List.append_right_inj] at chars
  obtain ⟨correlation, rest⟩ :=
    split_at_separator (UUID.str_noColon a.correlationId) (UUID.str_noColon b.correlationId) chars
  have behind : ∀ (t u : DateTime) (lead : List Char), (P.isoformat t).toList ≠ lead ++ ':' :: (P.isoformat u).toList := by
    intro t u lead equal
    apply tails t u (String.ofList lead)
    apply String.toList_injective
    simp [equal]
  have correlations : a.correlationId = b.correlationId := UUID.str_injective correlation
  have fields : a.workloadId = b.workloadId ∧ a.scheduledReleaseAt = b.scheduledReleaseAt := by
    -- the shorter workload id would leave a time behind a colon
    rcases List.append_eq_append_iff.mp rest with ⟨more, workload, left⟩ | ⟨more, workload, left⟩
    · cases more with
      | nil =>
          rw [List.append_nil] at workload
          exact ⟨String.toList_injective workload.symm, isoformat (String.toList_injective (List.cons.inj left).2)⟩
      | cons c more => exact absurd (List.cons.inj left).2 (behind _ _ more)
    · cases more with
      | nil =>
          rw [List.append_nil] at workload
          exact ⟨String.toList_injective workload, isoformat (String.toList_injective (List.cons.inj left).2.symm)⟩
      | cons c more => exact absurd (List.cons.inj left).2 (behind _ _ more)
  exact OpportunityKey.ext correlations fields.1 fields.2

/-- `if reason not in codes: codes.append(reason)` -/
def addCode (reason : String) (codes : List String) : List String :=
  if reason ∈ codes then codes else codes ++ [reason]

/-- The dictionary `_records`. -/
abbrev OpportunityLedger := Dict UUID OpportunityRecord

structure Reconciliation where
  offered : Nat
  terminal : Nat
  balanced : Bool
  deriving DecidableEq, Repr

namespace OpportunityLedger

abbrev LedgerCall (α : Type) := Call OpportunityLedger Error α

def offer (P : Platform) (key : OpportunityKey) (hazard : HazardKind) (capturedAt : Option DateTime) :
    LedgerCall OpportunityRecord := do
  let record : OpportunityRecord := {
    opportunityId := opportunityId P key
    correlationId := key.correlationId
    workloadId := key.workloadId
    hazard := hazard
    scheduledReleaseAt := key.scheduledReleaseAt
    capturedAt := capturedAt }
  Call.modify (fun ledger => Dict.insert ledger record.opportunityId record)
  pure record

/-- `record = self._records[opportunity_id]` and the assignments that follow. -/
def update (id : UUID) (change : OpportunityRecord → OpportunityRecord) : LedgerCall Unit := do
  let found ← Call.read (fun ledger => Dict.get? ledger id)
  match found with
  | none => Call.raise (.keyError id.str)
  | some record => Call.modify (fun ledger => Dict.insert ledger id (change record))

def markQueued (id : UUID) (actualReleaseAt : DateTime) (queueNs deadlineNs : Nat) : LedgerCall Unit :=
  update id (fun record => { record with
    actualReleaseAt := some actualReleaseAt
    queueStartedMonotonicNs := some queueNs
    deadlineMonotonicNs := some deadlineNs
    disposition := .queued })

def markDeferred (id : UUID) (reason : String) : LedgerCall Unit :=
  update id (fun record => { record with
    disposition := .deferred
    reasonCodes := addCode reason record.reasonCodes })

def markStarted (id : UUID) (serviceNs : Nat) : LedgerCall Unit :=
  update id (fun record => { record with serviceStartedMonotonicNs := some serviceNs })

/-- `if reason and reason not in codes: codes.append(reason)` -/
def addReason : (reason : Option String) → (codes : List String) → List String
  | none, codes => codes
  | some reason, codes => if reason = "" then codes else addCode reason codes

def markTerminal (id : UUID) (disposition : OpportunityDisposition) (completedNs : Nat) (reason : Option String) :
    LedgerCall Unit :=
  if !disposition.isTerminal then Call.raise (.valueError "terminal opportunity disposition required")
  else update id (fun record => { record with
    completedMonotonicNs := some completedNs
    disposition := disposition
    reasonCodes := addReason reason record.reasonCodes })

def reconcile (ledger : OpportunityLedger) : Reconciliation :=
  let offered := ledger.items.length
  let terminal := (Dict.values ledger).countP (fun record => record.disposition.isTerminal)
  ⟨offered, terminal, offered = terminal⟩

end OpportunityLedger

end SentinelEdge.Runtime
