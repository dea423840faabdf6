import Mathlib.Data.List.Sort
import SentinelEdge.Collaboration.Repository
import SentinelEdge.Foundation.Run

/-! # The durable repository

`SqliteCollaborationRepository` keeps the envelopes in a table. Beside the signal id
the transport message id is unique, the rows received first are the first to go, and
times are compared as texts.
-/

namespace SentinelEdge.Collaboration

open Foundation Domain

/-- A row of `collaborative_inbound_signals`, with the envelope that is serialized in it. -/
structure SignalRow where
  signalId : String
  transportMessageId : String
  receivedAt : String
  expiresAt : String
  envelope : CollaborativeSignalEnvelope

/-- The row of an envelope. -/
def rowOf (e : CollaborativeSignalEnvelope) : SignalRow where
  signalId := e.signalId
  transportMessageId := e.transportMessageId
  receivedAt := e.receivedAt.isoformat
  expiresAt := e.signal.expiresAt.isoformat
  envelope := e

structure SqliteCollaborationRepository where
  maxEnvelopes : Int := 4096
  rows : List SignalRow := []

namespace SqliteCollaborationRepository

abbrev DurableCall (α : Type) := Call SqliteCollaborationRepository Error α

/-- The insertion violates a key. -/
def clashes (s : SqliteCollaborationRepository) (row : SignalRow) : Bool :=
  s.rows.any (fun old => old.signalId = row.signalId ∨ old.transportMessageId = row.transportMessageId)

/-- `SELECT signal_id ... ORDER BY received_at ASC LIMIT ?` -/
def oldest (rows : List SignalRow) (limit : Nat) : List String :=
  ((rows.insertionSort (fun a b => a.receivedAt ≤ b.receivedAt)).take limit).map SignalRow.signalId

/-- The rows that are left when those in excess are deleted. -/
def bounded (s : SqliteCollaborationRepository) : List SignalRow :=
  let excess : Int := s.rows.length - s.maxEnvelopes
  if 0 < excess then s.rows.filter (fun row => row.signalId ∉ oldest s.rows excess.toNat) else s.rows

def addEnvelope (e : CollaborativeSignalEnvelope) : DurableCall Bool := do
  let clash ← Call.read (fun s => s.clashes (rowOf e))
  if clash then pure false
  else do
    Call.modify (fun s => { s with rows := s.rows ++ [rowOf e] })
    Call.modify (fun s => { s with rows := s.bounded })
    pure true

/-- `DELETE ... WHERE expires_at <= ?` -/
def purgeExpired (now : Timestamp) : DurableCall Nat := do
  let before ← Call.read (fun s => s.rows.length)
  Call.modify (fun s => { s with rows := s.rows.filter (fun row => ¬ row.expiresAt ≤ now.isoformat) })
  let after ← Call.read (fun s => s.rows.length)
  pure (before - after)

end SqliteCollaborationRepository

/-! ## Both repositories side by side -/

inductive RepositoryOperation where
  | add (e : CollaborativeSignalEnvelope)
  | purge (now : Timestamp)

/-- What a call returns. -/
inductive Answer where
  | added (new : Bool)
  | purged (count : Nat)
  deriving DecidableEq

abbrev Repositories := CollaborationRepository × SqliteCollaborationRepository

namespace Repositories

/-- Two empty repositories of one size. -/
def start (maxEnvelopes : Int) : Repositories := ({ maxEnvelopes := maxEnvelopes }, { maxEnvelopes := maxEnvelopes })

def step (s : Repositories) : RepositoryOperation → Repositories
  | .add e => ((CollaborationRepository.addEnvelope e s.1).2, (SqliteCollaborationRepository.addEnvelope e s.2).2)
  | .purge now => ((CollaborationRepository.purgeExpired now s.1).2, (SqliteCollaborationRepository.purgeExpired now s.2).2)

def answers (s : Repositories) : RepositoryOperation → Except Error Answer × Except Error Answer
  | .add e => ((CollaborationRepository.addEnvelope e s.1).1.map .added, (SqliteCollaborationRepository.addEnvelope e s.2).1.map .added)
  | .purge now =>
      ((CollaborationRepository.purgeExpired now s.1).1.map .purged, (SqliteCollaborationRepository.purgeExpired now s.2).1.map .purged)

/-- Both return the same and hold the same signal ids afterwards. -/
def Agree (s : Repositories) (op : RepositoryOperation) : Prop :=
  (∃ answer, s.answers op = (.ok answer, .ok answer)) ∧
    ∀ id, id ∈ (s.step op).1.signalIds ↔ id ∈ (s.step op).2.rows.map SignalRow.signalId

/-- The rows are those of the envelopes, in their order, and no more than fit. -/
structure Mirror (s : Repositories) : Prop where
  rows : s.2.rows = s.1.envelopes.map rowOf
  bound : s.2.maxEnvelopes = s.1.maxEnvelopes
  fits : s.1.envelopes = [] ∨ s.1.envelopes.length ≤ s.1.maxEnvelopes

/-- A new signal comes under a new transport message id, and when there is no room the
    first envelope is the one received first; texts tell the same signals to have
    expired as instants do. -/
def Alike (s : Repositories) : RepositoryOperation → Prop
  | .add e => e.signalId ∈ s.1.signalIds ∨
      0 < s.1.maxEnvelopes ∧ (∀ item ∈ s.1.envelopes, item.transportMessageId ≠ e.transportMessageId) ∧
      (s.1.envelopes.length = s.1.maxEnvelopes → ∀ first ∈ s.1.envelopes.head?, ∀ item ∈ s.1.envelopes ++ [e],
        first.receivedAt.isoformat ≤ item.receivedAt.isoformat)
  | .purge now => ∀ item ∈ s.1.envelopes,
      item.signal.expiresAt.instant ≤ now.instant ↔ item.signal.expiresAt.isoformat ≤ now.isoformat

instance (s : Repositories) : ∀ op, Decidable (Alike s op)
  | .add e => inferInstanceAs (Decidable (e.signalId ∈ s.1.signalIds ∨ _ ∧ _ ∧ (_ → ∀ first ∈ s.1.envelopes.head?,
      ∀ item ∈ s.1.envelopes ++ [e], first.receivedAt.isoformat ≤ item.receivedAt.isoformat)))
  | .purge now => inferInstanceAs (Decidable (∀ item ∈ s.1.envelopes,
      item.signal.expiresAt.instant ≤ now.instant ↔ item.signal.expiresAt.isoformat ≤ now.isoformat))

end Repositories

end SentinelEdge.Collaboration
