import Mathlib.Data.Rat.Defs
import SentinelEdge.Domain.Platform
import SentinelEdge.Foundation.Run

/-! # Connector shutdown

`BoundedBackgroundConnector` is shared by any number of submitters, one worker thread
and the thread that drains it. Each of them is at some place in its method, and a run
lets one of them take its next step at a time. How long a wait takes, and whether the
handler raises, is up to the run.
-/

namespace SentinelEdge.Collector

open Foundation Domain

inductive ConnectorState where
  | created | running | draining | stopped | failed
  deriving DecidableEq, Repr

structure ConnectorShutdownReceipt where
  connectorId : String
  state : ConnectorState
  acceptedItems : Nat
  processedItems : Nat
  cancelledItems : Nat
  threadAlive : Bool
  stoppedAt : DateTime
  deadlineSeconds : ℚ
  reasonCodes : List String

/-- What `submit` raises: an error of its own, or `queue.Full`. -/
inductive SubmitError where
  | raised (error : Error)
  | full

/-- Where a call of `submit` is. -/
inductive SubmitterAt (ι : Type) where
  | checked (item : ι)
  | enqueued
  | returned (result : Except SubmitError Unit)

/-- Where `_run` is: at the stop test, at the `get`, in the handler, at the count behind
    it, on the way to the `except`, before the `finally`, behind it, or over. -/
inductive WorkerAt (α : Type) where
  | unstarted
  | testing
  | getting
  | handling (item : α)
  | counting
  | failing
  | leaving
  | ending
  | dead

/-- Where `drain_and_stop` is: in the wait, at the test behind it, in the cancellation,
    before the stop, in the join, at the verdict, or over. -/
inductive DrainAt where
  | idle
  | waiting (deadlineSeconds : ℚ)
  | choosing (deadlineSeconds : ℚ)
  | cancelling (deadlineSeconds : ℚ)
  | stopping (deadlineSeconds : ℚ) (reasonCodes : List String)
  | joining (deadlineSeconds : ℚ) (reasonCodes : List String)
  | judging (deadlineSeconds : ℚ) (reasonCodes : List String) (threadAlive : Bool)
  | returned (result : Except Error ConnectorShutdownReceipt)

/-- The arguments of the constructor. The normalizer may reject an item. -/
structure ConnectorConfig (ι α : Type) where
  connectorId : String
  queueLimit : Nat
  normalizer : ι → Option α
  limitPositive : 0 < queueLimit

structure BoundedBackgroundConnector (ι α : Type) where
  config : ConnectorConfig ι α
  queue : List α := []
  state : ConnectorState := .created
  stop : Bool := false
  accepted : Nat := 0
  processed : Nat := 0
  cancelled : Nat := 0
  worker : WorkerAt α := .unstarted
  submitters : List (SubmitterAt ι) := []
  drain : DrainAt := .idle
  /-- Whether the handler has raised on any item. -/
  raised : Bool := false

def WorkerAt.isAlive {α : Type} : WorkerAt α → Bool
  | .unstarted | .dead => false
  | _ => true

namespace BoundedBackgroundConnector

variable {ι α : Type}

def start (c : BoundedBackgroundConnector ι α) : BoundedBackgroundConnector ι α :=
  if c.state = .created then { c with state := .running, worker := .testing } else c

/-! ## `submit` -/

def move (c : BoundedBackgroundConnector ι α) (submitter : Nat) (place : SubmitterAt ι) : BoundedBackgroundConnector ι α :=
  { c with submitters := c.submitters.set submitter place }

/-- A call begins with the check of the state. -/
def submit (item : ι) (c : BoundedBackgroundConnector ι α) : BoundedBackgroundConnector ι α :=
  { c with submitters := c.submitters ++ [
      if c.state = .running then .checked item
      else .returned (.error (.raised (.runtimeError "connector is not accepting new input")))] }

/-- The `put` of a call that has passed the check, which waits while the queue is full. -/
def put (submitter : Nat) (c : BoundedBackgroundConnector ι α) : BoundedBackgroundConnector ι α :=
  match c.submitters[submitter]? with
  | some (.checked item) => match c.config.normalizer item with
      | none => c.move submitter (.returned (.error (.raised (.valueError "connector normalization rejected input"))))
      | some normalized =>
          if c.queue.length < c.config.queueLimit then
            { c.move submitter .enqueued with queue := c.queue ++ [normalized] }
          else c
  | _ => c

/-- The timeout of the `put`. -/
def giveUp (submitter : Nat) (c : BoundedBackgroundConnector ι α) : BoundedBackgroundConnector ι α :=
  match c.submitters[submitter]? with
  | some (.checked _) => c.move submitter (.returned (.error .full))
  | _ => c

/-- `self._accepted += 1` -/
def count (submitter : Nat) (c : BoundedBackgroundConnector ι α) : BoundedBackgroundConnector ι α :=
  match c.submitters[submitter]? with
  | some .enqueued => { c.move submitter (.returned (.ok ())) with accepted := c.accepted + 1 }
  | _ => c

/-! ## `_run` -/

/-- The next step of the worker; `returns` says whether the handler does. -/
def work (returns : Bool) (c : BoundedBackgroundConnector ι α) : BoundedBackgroundConnector ι α :=
  match c.worker with
  | .unstarted => c
  | .testing => { c with worker := if c.stop && c.queue.isEmpty then .leaving else .getting }
  | .getting => match c.queue with
      | [] => { c with worker := .testing }
      | item :: rest => { c with queue := rest, worker := .handling item }
  | .handling _ => if returns then { c with worker := .counting } else { c with worker := .failing, raised := true }
  | .counting => { c with processed := c.processed + 1, worker := .testing }
  | .failing => { c with state := .failed, worker := .leaving }
  | .leaving => { c with state := if c.state = .failed then .failed else .stopped, worker := .ending }
  | .ending => { c with worker := .dead }
  | .dead => c

/-! ## `drain_and_stop` -/

def receipt (c : BoundedBackgroundConnector ι α) (threadAlive : Bool) (stoppedAt : DateTime) (deadlineSeconds : ℚ)
    (reasonCodes : List String) : ConnectorShutdownReceipt where
  connectorId := c.config.connectorId
  state := c.state
  acceptedItems := c.accepted
  processedItems := c.processed
  cancelledItems := c.cancelled
  threadAlive := threadAlive
  stoppedAt := stoppedAt
  deadlineSeconds := deadlineSeconds
  reasonCodes := reasonCodes

/-- The one call begins with the change of the state. -/
def drainAndStop (deadlineSeconds : ℚ) (now : DateTime) (c : BoundedBackgroundConnector ι α) : BoundedBackgroundConnector ι α :=
  match c.drain with
  | .idle =>
      if deadlineSeconds ≤ 0 then { c with drain := .returned (.error (.valueError "shutdown deadline must be positive")) }
      else match c.state with
        | .stopped => { c with drain := .returned (.ok (c.receipt c.worker.isAlive now deadlineSeconds ["already_stopped"])) }
        | .running | .draining => { c with state := .draining, drain := .waiting deadlineSeconds }
        | .created | .failed => { c with drain := .returned (.error (.runtimeError "connector is not running")) }
  | _ => c

/-- The next step of the call; `elapsed` says whether its time is up. -/
def drainNext (elapsed : Bool) (now : DateTime) (c : BoundedBackgroundConnector ι α) : BoundedBackgroundConnector ι α :=
  match c.drain with
  | .idle => c
  | .waiting deadline => if !c.queue.isEmpty && !elapsed then c else { c with drain := .choosing deadline }
  | .choosing deadline =>
      { c with drain := if c.queue.isEmpty then .stopping deadline ["queue_drained"] else .cancelling deadline }
  | .cancelling deadline => match c.queue with
      | [] => { c with drain := .stopping deadline ["deadline_reached_pending_items_cancelled"] }
      | _ :: rest => { c with queue := rest, cancelled := c.cancelled + 1 }
  | .stopping deadline reasons => { c with stop := true, drain := .joining deadline reasons }
  | .joining deadline reasons =>
      if c.worker.isAlive && !elapsed then c else { c with drain := .judging deadline reasons c.worker.isAlive }
  | .judging deadline reasons threadAlive =>
      let codes := if threadAlive then reasons ++ ["worker_thread_failed_to_stop_within_deadline"] else reasons
      let settled := { c with state := if threadAlive then .failed else .stopped }
      { settled with drain := .returned (.ok (settled.receipt threadAlive now deadline codes)) }
  | .returned _ => c

/-! ## Runs -/

inductive Operation (ι : Type) where
  | start
  | submit (item : ι)
  | put (submitter : Nat)
  | giveUp (submitter : Nat)
  | count (submitter : Nat)
  | work (returns : Bool)
  | drainAndStop (deadlineSeconds : ℚ) (now : DateTime)
  | drainNext (elapsed : Bool) (now : DateTime)

def step (c : BoundedBackgroundConnector ι α) : Operation ι → BoundedBackgroundConnector ι α
  | .start => c.start
  | .submit item => c.submit item
  | .put submitter => c.put submitter
  | .giveUp submitter => c.giveUp submitter
  | .count submitter => c.count submitter
  | .work returns => c.work returns
  | .drainAndStop deadlineSeconds now => c.drainAndStop deadlineSeconds now
  | .drainNext elapsed now => c.drainNext elapsed now

def run (config : ConnectorConfig ι α) (ops : List (Operation ι)) : BoundedBackgroundConnector ι α :=
  Foundation.run step { config := config } ops

end BoundedBackgroundConnector

end SentinelEdge.Collector
