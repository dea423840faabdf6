import SentinelEdge.Storage.Conformance
import SentinelEdge.Foundation.Run
import Mathlib.Data.List.Induction

/-! # The authority journal as an append-only log

The abstract journal is a list of accepted mutations. `Represents` says that the
two authority tables and `sqlite_sequence` are what that list looks like on
disk. On a represented store `_append_authority` never raises and appends one
mutation; every write of the store either appends mutations or does nothing.
-/

namespace SentinelEdge.Storage

open Foundation Domain

variable {P : Platform}

/-- An accepted mutation, before it is given a position. -/
structure Mutation where
  kind : AuthorityMutationKind
  entityId : String
  acceptedAt : DateTime
  payload : Json

namespace Mutation

/-- The event row of the `k`-th mutation, counted from 1. -/
def event (m : Mutation) (k : Nat) : AuthorityEvent P where
  position := k
  epochId := authorityEpoch
  epochOrdinal := some k
  predecessorPosition := if k ≤ 1 then none else some (k - 1)
  kind := m.kind.value
  entityId := m.entityId
  acceptedAt := m.acceptedAt
  payloadSha256 := some (P.sha256 m.payload)
  payloadJson := P.dumps m.payload

def subtype (m : Mutation) (k : Nat) : AuthoritySubtype P := (m.event k).subtype m.payload

end Mutation

def eventsFrom (k : Nat) (log : List Mutation) : List (AuthorityEvent P) := (log.zipIdx k).map (fun item => item.1.event item.2)

def subtypesFrom (k : Nat) (log : List Mutation) : List (AuthoritySubtype P) :=
  (log.zipIdx k).map (fun item => item.1.subtype item.2)

structure Represents (s : Store P) (log : List Mutation) : Prop where
  sequence : s.authoritySequence = log.length
  events : s.authorityEvents = eventsFrom 1 log
  subtypes : s.authorityEventSubtypes = subtypesFrom 1 log

theorem represents_empty : Represents (Store.empty : Store P) [] := ⟨rfl, rfl, rfl⟩

@[simp] theorem length_eventsFrom (k : Nat) (log : List Mutation) :
    (eventsFrom k log : List (AuthorityEvent P)).length = log.length := by
  simp [eventsFrom]

theorem eventsFrom_append (k : Nat) (log more : List Mutation) :
    (eventsFrom k (log ++ more) : List (AuthorityEvent P)) = eventsFrom k log ++ eventsFrom (k + log.length) more := by
  simp [eventsFrom, List.zipIdx_append]

theorem subtypesFrom_append (k : Nat) (log more : List Mutation) :
    (subtypesFrom k (log ++ more) : List (AuthoritySubtype P)) =
      subtypesFrom k log ++ subtypesFrom (k + log.length) more := by
  simp [subtypesFrom, List.zipIdx_append]

theorem mem_eventsFrom {k : Nat} {log : List Mutation} {row : AuthorityEvent P} :
    row ∈ eventsFrom k log ↔ ∃ (i : Nat) (m : Mutation), log[i]? = some m ∧ row = m.event (k + i) := by
  simp only [eventsFrom, List.mem_map, Prod.exists, List.mk_mem_zipIdx_iff_le_and_getElem?_sub]
  constructor
  · rintro ⟨m, i, ⟨low, here⟩, rfl⟩
    exact ⟨i - k, m, here, by rw [Nat.add_sub_cancel' low]⟩
  · rintro ⟨i, m, here, rfl⟩
    exact ⟨m, k + i, ⟨by omega, by simpa using here⟩, rfl⟩

theorem mem_subtypesFrom {k : Nat} {log : List Mutation} {sub : AuthoritySubtype P} :
    sub ∈ subtypesFrom k log ↔ ∃ (i : Nat) (m : Mutation), log[i]? = some m ∧ sub = m.subtype (k + i) := by
  simp only [subtypesFrom, List.mem_map, Prod.exists, List.mk_mem_zipIdx_iff_le_and_getElem?_sub]
  constructor
  · rintro ⟨m, i, ⟨low, here⟩, rfl⟩
    exact ⟨i - k, m, here, by rw [Nat.add_sub_cancel' low]⟩
  · rintro ⟨i, m, here, rfl⟩
    exact ⟨m, k + i, ⟨by omega, by simpa using here⟩, rfl⟩

/-- The subtype row that a lookup finds at a position is the one written with it. -/
theorem subtypeAt_subtypesFrom {k i : Nat} {log : List Mutation} {m : Mutation} (here : log[i]? = some m) :
    subtypeAt (subtypesFrom k log : List (AuthoritySubtype P)) (k + i : Nat) = some (m.subtype (k + i)) := by
  induction log generalizing k i with
  | nil => simp at here
  | cons head rest ih =>
      cases i with
      | zero =>
          obtain rfl : head = m := by simpa using here
          simp [subtypeAt, subtypesFrom, Mutation.subtype, Mutation.event, AuthorityEvent.subtype]
      | succ i =>
          have later := ih (k := k + 1) (i := i) (by simpa using here)
          rw [show k + (i + 1) = k + 1 + i by omega]
          rw [← later]
          simp only [subtypeAt, subtypesFrom, List.zipIdx_cons, List.map_cons]
          rw [List.find?_cons_of_neg]
          intro same
          have same : (k : Int) = (k + 1 + i : Nat) := of_decide_eq_true same
          omega

/-! ## Appending -/

/-- The store after one more mutation. -/
def Store.journalled (s : Store P) (m : Mutation) : Store P :=
  { s with
    authoritySequence := s.authorityEvents.length + 1
    authorityEvents := s.authorityEvents ++ [m.event (s.authorityEvents.length + 1)]
    authorityEventSubtypes := s.authorityEventSubtypes ++ [m.subtype (s.authorityEvents.length + 1)] }

theorem Represents.length_events {s : Store P} {log : List Mutation} (rep : Represents s log) :
    s.authorityEvents.length = log.length := by
  rw [rep.events, length_eventsFrom]

theorem Represents.journalled {s : Store P} {log : List Mutation} (rep : Represents s log) (m : Mutation) :
    Represents (s.journalled m) (log ++ [m]) where
  sequence := by simp [Store.journalled, rep.length_events]
  events := by
    simp only [Store.journalled, rep.length_events, eventsFrom_append, ← rep.events]
    rw [Nat.add_comm]
    rfl
  subtypes := by
    simp only [Store.journalled, rep.length_events, subtypesFrom_append, ← rep.subtypes]
    rw [Nat.add_comm]
    rfl

theorem Represents.last {s : Store P} {log : List Mutation} (rep : Represents s log) :
    s.authorityEvents.getLast? = log.getLast?.map (fun m => m.event log.length) := by
  rw [rep.events]
  induction log using List.reverseRecOn with
  | nil => rfl
  | append_singleton log m _ =>
      rw [eventsFrom_append]
      simp [eventsFrom, Nat.add_comm]

theorem Represents.nextPosition {s : Store P} {log : List Mutation} (rep : Represents s log) :
    s.nextPosition = log.length + 1 := by
  rw [Store.nextPosition, rep.sequence, rep.last]
  cases log.getLast? with
  | none => simp
  | some m => simp [Mutation.event]

theorem Represents.event_fresh {s : Store P} {log : List Mutation} (rep : Represents s log) (m : Mutation) :
    (Tables.authorityEvents.rows s).any (Tables.authorityEvents.clash (m.event (log.length + 1))) = false := by
  rw [List.any_eq_false]
  intro row (member : row ∈ s.authorityEvents)
  rw [rep.events] at member
  obtain ⟨i, m', here, rfl⟩ := mem_eventsFrom.mp member
  have bound : i < log.length := (List.getElem?_eq_some_iff.mp here).1
  simp [Tables.authorityEvents, Mutation.event]
  omega

theorem Represents.subtype_fresh {s : Store P} {log : List Mutation} (rep : Represents s log) (m : Mutation) :
    (Tables.authorityEventSubtypes.rows s).any (Tables.authorityEventSubtypes.clash (m.subtype (log.length + 1)))
      = false := by
  rw [List.any_eq_false]
  intro sub (member : sub ∈ s.authorityEventSubtypes)
  rw [rep.subtypes] at member
  obtain ⟨i, m', here, rfl⟩ := mem_subtypesFrom.mp member
  have bound : i < log.length := (List.getElem?_eq_some_iff.mp here).1
  simp [Tables.authorityEventSubtypes, Mutation.subtype, Mutation.event, AuthorityEvent.subtype]
  omega

theorem insertAuthorityEvent_of_fresh {s : Store P} {row : AuthorityEvent P}
    (fresh : (Tables.authorityEvents.rows s).any (Tables.authorityEvents.clash row) = false) :
    insertAuthorityEvent row s =
      (.ok (), { s with authorityEvents := s.authorityEvents ++ [row], authoritySequence := row.position }) :=
  Call.bind_of_ok (Table.insert_of_fresh fresh)

/-- On a represented store `_append_authority` returns the next position. -/
theorem appendAuthority_of_represents {s : Store P} {log : List Mutation} (rep : Represents s log)
    (kind : AuthorityMutationKind) (entityId : String) (acceptedAt : DateTime) (payload : Json) :
    appendAuthority kind entityId acceptedAt payload s =
      (.ok ((log.length : Int) + 1), s.journalled ⟨kind, entityId, acceptedAt, payload⟩) := by
  have row : ({
      position := s.nextPosition
      epochId := authorityEpoch
      epochOrdinal := some (nextOrdinal s.authorityEvents.getLast?)
      predecessorPosition := s.authorityEvents.getLast?.map AuthorityEvent.position
      kind := kind.value
      entityId := entityId
      acceptedAt := acceptedAt
      payloadSha256 := some (P.sha256 payload)
      payloadJson := P.dumps payload } : AuthorityEvent P) =
      Mutation.event ⟨kind, entityId, acceptedAt, payload⟩ (log.length + 1) := by
    rw [rep.nextPosition, rep.last]
    rcases List.eq_nil_or_concat' log with rfl | ⟨front, m, rfl⟩
    · rfl
    · simp [Mutation.event, nextOrdinal]
  have sub : ({
      authorityPosition := s.nextPosition
      kind := kind.value
      subtypeId := entityId
      payloadSha256 := P.sha256 payload
      payloadJson := P.dumps payload } : AuthoritySubtype P) =
      Mutation.subtype ⟨kind, entityId, acceptedAt, payload⟩ (log.length + 1) := by
    rw [rep.nextPosition]
    rfl
  simp only [appendAuthority, Call.read_bind, row, sub]
  rw [Call.bind_of_ok (insertAuthorityEvent_of_fresh (rep.event_fresh _)),
    Call.bind_of_ok (Table.insert_of_fresh ?fresh)]
  case fresh => exact rep.subtype_fresh _
  simp [Store.journalled, rep.length_events, rep.nextPosition, Tables.authorityEventSubtypes, Mutation.event]

theorem appendAuthority_bind {α : Type} {s : Store P} {log : List Mutation} (rep : Represents s log)
    (kind : AuthorityMutationKind) (entityId : String) (acceptedAt : DateTime) (payload : Json)
    (f : Int → StoreCall P α) :
    (appendAuthority kind entityId acceptedAt payload >>= f) s =
      f ((log.length : Int) + 1) (s.journalled ⟨kind, entityId, acceptedAt, payload⟩) :=
  Call.bind_of_ok (appendAuthority_of_represents rep kind entityId acceptedAt payload)

end SentinelEdge.Storage
