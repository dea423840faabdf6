import Mathlib.Data.List.Sort
import SentinelEdge.Collaboration.Signals
import SentinelEdge.Foundation.Call
import SentinelEdge.Foundation.Run

/-! # The Gmail connector

A poll lists the messages, delivers the signals of those without a receipt, and
labels every message it handles. Receipts are kept in memory and in a file; the
writes of the file are taken to succeed.
-/

namespace SentinelEdge.Collaboration

open Foundation Domain

/-- The ids in the receipt file. -/
structure ReceiptFile where
  messageIds : List String
  signalIds : List String

structure GmailReceiptStore where
  /-- There is a path to write to. -/
  durable : Bool := false
  messageIds : List String := []
  signalIds : List String := []
  file : Option ReceiptFile := none

namespace GmailReceiptStore

/-- `GmailReceiptStore(path)`, which reads the file if there is one. -/
def load (durable : Bool) (file : Option ReceiptFile) : GmailReceiptStore :=
  match durable, file with
  | true, some payload =>
      { durable := true, messageIds := payload.messageIds.dedup, signalIds := payload.signalIds.dedup, file := some payload }
  | _, _ => { durable := durable, file := file }

def hasMessage (s : GmailReceiptStore) (messageId : String) : Bool := messageId ∈ s.messageIds

def hasSignal (s : GmailReceiptStore) (signalId : String) : Bool := signalId ∈ s.signalIds

/-- The ids are sorted into the file. -/
def written (s : GmailReceiptStore) : GmailReceiptStore :=
  if s.durable then
    { s with file := some ⟨s.messageIds.insertionSort (· ≤ ·), s.signalIds.insertionSort (· ≤ ·)⟩ }
  else s

def record (messageId : String) (signalId : Option String) (s : GmailReceiptStore) : GmailReceiptStore :=
  match signalId with
  | none => written { s with messageIds := s.messageIds.insert messageId }
  | some id =>
      if id = "" then written { s with messageIds := s.messageIds.insert messageId }
      else written { s with messageIds := s.messageIds.insert messageId, signalIds := s.signalIds.insert id }

end GmailReceiptStore

/-- A call of `modify_labels` returns, or raises with or without the change made. -/
inductive LabelCall where
  | returns
  | raises (exc : Error) (applied : Bool)

/-- A listed message: its id, what `get_message` gives, and how the calls made about it end. -/
structure IncomingMessage where
  id : String
  raw : Except Error (List UInt8)
  emitted : Except Error Unit := .ok ()
  processed : LabelCall := .returns
  rejected : LabelCall := .returns

/-- The labels of the messages. -/
abbrev Mailbox := List (String × String)

def Mailbox.relabel (box : Mailbox) (messageId : String) (add remove : List String) : Mailbox :=
  box.filter (fun entry => ¬ (entry.1 = messageId ∧ entry.2 ∈ remove)) ++ add.map (fun label => (messageId, label))

/-- What connectors share, and what has been given to the sink. -/
structure GmailSystem where
  receipts : GmailReceiptStore := {}
  mailbox : Mailbox := []
  emitted : List CollaborativeSignalEnvelope := []

inductive Reason where
  | code (text : String)
  /-- `str(exc)` -/
  | raised (exc : Error)

structure GmailCollaborativeSignalConnector where
  enabled : Bool := false
  maxInflight : Nat := 50
  positive : 0 < maxInflight := by decide
  cursor : Option String := none

/-- A poll under way. -/
structure Polling extends GmailSystem where
  cursor : Option String := none
  accepted : Nat := 0
  rejected : Nat := 0
  duplicate : Nat := 0
  envelopes : List CollaborativeSignalEnvelope := []
  reasons : List Reason := []
  /-- The messages that are done with. -/
  handled : List String := []
  /-- Every call of `modify_labels` has returned. -/
  labelled : Bool := true

structure PollResult where
  accepted : Nat
  rejected : Nat
  duplicate : Nat
  envelopes : List CollaborativeSignalEnvelope
  reasonCodes : List Reason
  cursor : Option String

namespace Polling

abbrev PollCall (α : Type) := Call Polling Error α

def modifyLabels (messageId : String) (add remove : List String) : LabelCall → PollCall Unit
  | .returns => Call.modify (fun s => { s with mailbox := s.mailbox.relabel messageId add remove })
  | .raises exc applied => do
      Call.modify (fun s =>
        { s with
          mailbox := if applied then s.mailbox.relabel messageId add remove else s.mailbox
          labelled := false })
      Call.raise exc

def labelProcessed (m : IncomingMessage) : PollCall Unit :=
  modifyLabels m.id ["sentinel/processed"] ["sentinel/rejected"] m.processed

def labelRejected (m : IncomingMessage) : PollCall Unit := modifyLabels m.id ["sentinel/rejected"] [] m.rejected

/-- The ids of this poll, and that of the signal if it has a receipt. -/
def seenSignalIds (s : Polling) (signal : InboundSignal) : List String :=
  let seen := s.envelopes.map CollaborativeSignalEnvelope.signalId
  if s.receipts.hasSignal signal.signalId then seen.insert signal.signalId else seen

/-- `decision.reason_code or "INTERNAL_ERROR"` -/
def refusal (decision : ValidationDecision) : Error :=
  match decision.reasonCode with
  | some code => .valueError (if code = "" then "INTERNAL_ERROR" else code)
  | none => .valueError "INTERNAL_ERROR"

def envelopeOf (messageId : String) (receivedAt : WireTime) (signal : InboundSignal) (decision : ValidationDecision) :
    Except Error CollaborativeSignalEnvelope :=
  if messageId.length < 1 ∨ 160 < messageId.length then .error (.validationError "transport_message_id")
  else .ok
    { receivedAt := receivedAt.time
      transportMessageId := messageId
      transportTrust := .emailUnverified
      signal := signal.toCollaborativeSignal
      validationState := if decision.reasonCode = some "DOMAIN_UNKNOWN" ∨ decision.reasonCode = some "CLOCK_UNSAFE" then .contextOnly
        else .admitted
      validationReasonCodes := decision.reasonCode.toList }

/-- What is to be emitted for a message: its signal, if that is accepted. -/
def admitted (decode : List UInt8 → Except Error InboundSignal) (receivedAt : WireTime) (m : IncomingMessage) (s : Polling) :
    Except Error CollaborativeSignalEnvelope := do
  let raw ← m.raw
  let signal ← decode raw
  let decision ← CollaborativeInboundValidator.validate signal receivedAt .emailUnverified (s.seenSignalIds signal)
  if decision.accepted then envelopeOf m.id receivedAt signal decision else .error (refusal decision)

/-- The body of the `try`. -/
def deliver (decode : List UInt8 → Except Error InboundSignal) (receivedAt : WireTime) (m : IncomingMessage) : PollCall Unit := do
  let s ← Call.read id
  let envelope ← Call.lift (admitted decode receivedAt m s)
  Call.lift m.emitted
  -- nothing comes between the return of the sink and the receipt
  Call.modify (fun s =>
    { s with
      emitted := s.emitted ++ [envelope]
      receipts := s.receipts.record m.id (some envelope.signalId) })
  labelProcessed m
  Call.modify (fun s => { s with envelopes := s.envelopes ++ [envelope], accepted := s.accepted + 1 })

/-- `except ValueError` -/
def reject (m : IncomingMessage) (exc : Error) : PollCall Unit := do
  Call.modify (fun s => { s with rejected := s.rejected + 1, reasons := s.reasons ++ [.raised exc] })
  Call.modify (fun s => { s with receipts := s.receipts.record m.id none })
  labelRejected m

/-- One turn of the loop. -/
def handle (decode : List UInt8 → Except Error InboundSignal) (receivedAt : WireTime) (m : IncomingMessage) : PollCall Unit := do
  let s ← Call.read id
  if s.receipts.hasMessage m.id then do
    Call.modify (fun s => { s with duplicate := s.duplicate + 1 })
    labelProcessed m
    Call.modify (fun s => { s with handled := s.handled ++ [m.id] })
  else do
    let outcome ← Call.attempt (deliver decode receivedAt m)
    match outcome with
    | .ok () => pure ()
    | .error exc => if exc.isValueError then reject m exc else Call.raise exc
    Call.modify (fun s => { s with cursor := some m.id, handled := s.handled ++ [m.id] })

def handleAll (decode : List UInt8 → Except Error InboundSignal) (receivedAt : WireTime) : List IncomingMessage → PollCall Unit
  | [] => pure ()
  | m :: rest => do
      handle decode receivedAt m
      handleAll decode receivedAt rest

def result (s : Polling) : PollResult where
  accepted := s.accepted
  rejected := s.rejected
  duplicate := s.duplicate
  envelopes := s.envelopes
  reasonCodes := s.reasons
  cursor := s.cursor

end Polling

namespace GmailCollaborativeSignalConnector

def ordered (messages : List IncomingMessage) : List IncomingMessage := messages.insertionSort (fun a b => a.id ≤ b.id)

/-- The messages of the listing that a poll handles. -/
def pending (c : GmailCollaborativeSignalConnector) (messages : List IncomingMessage) : List IncomingMessage :=
  (ordered messages).take c.maxInflight

def pollOnce (decode : List UInt8 → Except Error InboundSignal) (c : GmailCollaborativeSignalConnector) (receivedAt : WireTime)
    (listing : Except Error (List IncomingMessage)) : Polling.PollCall PollResult :=
  if c.enabled then do
    let messages ← Call.lift listing
    Call.modify (fun s =>
      { s with reasons := if c.maxInflight < messages.length then [.code "MAX_INFLIGHT_BOUNDED"] else [] })
    Polling.handleAll decode receivedAt (c.pending messages)
    Call.read Polling.result
  else do
    Call.modify (fun s => { s with reasons := [.code "DISABLED"] })
    Call.read Polling.result

/-- The system when a poll of this connector starts. -/
def begin (c : GmailCollaborativeSignalConnector) (s : GmailSystem) : Polling := { s with cursor := c.cursor }

end GmailCollaborativeSignalConnector

end SentinelEdge.Collaboration
