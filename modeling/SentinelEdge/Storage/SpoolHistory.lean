import Mathlib.Data.List.TakeWhile
import SentinelEdge.Storage.Spool

/-! # What a spool has accepted, delivered and logged

A drain delivers the longest prefix of the pending rows that neither expire nor
fail. From this the queue is first-in first-out over any run, and the event log
counts every item that entered or left the queue, together with every rejection.
-/

namespace SentinelEdge.Storage

open Foundation Domain

namespace Spool

variable {C : SpoolCodec} {bounds : SpoolBounds}

def pendingIds (s : Spool C) : List UUID := s.pendingAnalysis.map PendingAnalysis.analysisId

/-- What every reachable spool satisfies: rows are those `enqueue` writes, one
    per analysis, and the queue is within its bounds. -/
structure Valid (bounds : SpoolBounds) (s : Spool C) : Prop where
  rows : ∀ row ∈ s.pendingAnalysis, ∃ analysis enqueuedAt, row = pendingRow bounds analysis enqueuedAt
  unique : s.pendingIds.Nodup
  items : s.counts.1 ≤ bounds.maxItems
  bytes : s.counts.2 ≤ bounds.maxBytes

/-! ## One call of `enqueue` -/

theorem insertEvent_apply (s : Spool C) (analysisId : UUID) (status : SpoolStatus) (recordedAt : DateTime)
    (reason : Option String) (bytes : Nat) :
    insertEvent analysisId status recordedAt reason bytes s =
      (.ok (), { s with spoolEvents := s.spoolEvents ++ [⟨analysisId, status, recordedAt, reason, bytes⟩] }) := by
  apply Table.insert_of_fresh
  simp [spoolEventsTable]

theorem find_none {s : Spool C} {id : UUID} (absent : s.find id = none) : id ∉ s.pendingIds := by
  intro member
  obtain ⟨row, inRows, rfl⟩ := List.mem_map.mp member
  have other := List.find?_eq_none.mp absent row inRows
  simp at other

theorem insertRow_apply {s : Spool C} {row : PendingAnalysis C} (absent : row.analysisId ∉ s.pendingIds) :
    pendingAnalysisTable.insert (.integrityError "pending_analysis") row s =
      ((.ok (), { s with pendingAnalysis := s.pendingAnalysis ++ [row] }) : Except Error Unit × Spool C) := by
  have fresh : (pendingAnalysisTable.rows s).any (pendingAnalysisTable.clash row) = false := by
    simp only [pendingAnalysisTable, List.any_eq_false, decide_eq_true_eq]
    intro old member same
    exact absent (List.mem_map.mpr ⟨old, member, same.symm⟩)
  exact Table.insert_of_fresh fresh

variable {s : Spool C} {analysis : AnalysisResult} {enqueuedAt : DateTime}

/-- The event `enqueue` logs about an analysis. -/
def eventFor (C : SpoolCodec) (analysis : AnalysisResult) (status : SpoolStatus) (enqueuedAt : DateTime)
    (reason : Option String) : SpoolEvent :=
  ⟨analysis.analysisId, status, enqueuedAt, reason, C.encodedLength (C.modelDumpJson analysis)⟩

/-- An analysis that is already pending changes nothing, whether or not its
    content is the stored one. -/
theorem enqueue_known {old : PendingAnalysis C} (found : s.find analysis.analysisId = some old) :
    enqueue bounds analysis enqueuedAt s =
      (if old.payloadJson ≠ C.modelDumpJson analysis then .error (.valueError "analysis spool identity conflict")
        else .ok false, s) := by
  have body : enqueueBody bounds analysis enqueuedAt s =
      (if old.payloadJson ≠ C.modelDumpJson analysis then .error (.valueError "analysis spool identity conflict")
        else .ok none, s) := by
    simp only [enqueueBody, Call.read_bind, found]
    by_cases conflict : old.payloadJson ≠ C.modelDumpJson analysis
    · simp [pendingRow, conflict]
    · simp [pendingRow, conflict]
  by_cases conflict : old.payloadJson ≠ C.modelDumpJson analysis
  · rw [if_pos conflict] at body ⊢
    exact Call.bind_of_error (Call.atomically_of_error body)
  · rw [if_neg conflict] at body ⊢
    exact Call.bind_of_ok (Call.atomically_of_ok body)

/-- A full spool logs the rejection, and then logs the analysis as enqueued. -/
theorem enqueue_exhausted (absent : s.find analysis.analysisId = none)
    (full : s.isFull bounds (C.encodedLength (C.modelDumpJson analysis)) = true) :
    enqueue bounds analysis enqueuedAt s =
      (.error (.spoolExhaustedError "critical analysis spool exhausted"),
        { s with spoolEvents := s.spoolEvents ++ [eventFor C analysis .rejected enqueuedAt (some "spool_exhausted"),
            eventFor C analysis .enqueued enqueuedAt none] }) := by
  have body : enqueueBody bounds analysis enqueuedAt s = (.ok (some true),
      { s with spoolEvents := s.spoolEvents ++ [eventFor C analysis .rejected enqueuedAt (some "spool_exhausted"),
          eventFor C analysis .enqueued enqueuedAt none] }) := by
    simp only [enqueueBody, Call.read_bind, absent, pendingRow, full, if_true]
    rw [Call.bind_of_ok (insertEvent_apply ..), Call.bind_of_ok (insertEvent_apply ..)]
    simp [eventFor]
  exact Call.bind_of_ok (Call.atomically_of_ok body)

theorem enqueue_accepted (absent : s.find analysis.analysisId = none)
    (room : s.isFull bounds (C.encodedLength (C.modelDumpJson analysis)) = false) :
    enqueue bounds analysis enqueuedAt s =
      (.ok true, { pendingAnalysis := s.pendingAnalysis ++ [pendingRow bounds analysis enqueuedAt]
                   spoolEvents := s.spoolEvents ++ [eventFor C analysis .enqueued enqueuedAt none] }) := by
  have body : enqueueBody bounds analysis enqueuedAt s =
      (.ok (some false), { pendingAnalysis := s.pendingAnalysis ++ [pendingRow bounds analysis enqueuedAt]
                           spoolEvents := s.spoolEvents ++ [eventFor C analysis .enqueued enqueuedAt none] }) := by
    have fresh : (pendingRow bounds analysis enqueuedAt : PendingAnalysis C).analysisId ∉ s.pendingIds := find_none absent
    simp only [pendingRow] at fresh
    simp only [enqueueBody, Call.read_bind, absent, pendingRow, room, Bool.false_eq_true, if_false]
    rw [Call.bind_of_ok (insertRow_apply fresh), Call.bind_of_ok (insertEvent_apply ..)]
    simp [eventFor]
  exact Call.bind_of_ok (Call.atomically_of_ok body)

/-! ## One call of `drain` -/

/-- Whether the loop of `drain` gets past a row: it has not expired and the
    handler returns. -/
def delivers (handler : AnalysisResult → HandlerOutcome) (now : DateTime) (row : PendingAnalysis C) : Bool :=
  match C.modelValidateJson row.payloadJson with
  | none => false
  | some analysis => now < row.expiresAt && handler analysis = .returned

/-- The event that reports why the loop stops at a row. -/
def stopEvent (handler : AnalysisResult → HandlerOutcome) (now : DateTime) (row : PendingAnalysis C) : SpoolEvent :=
  if row.expiresAt ≤ now then
    ⟨row.analysisId, .expired, now, some "maximum_age_exceeded", row.payloadBytes⟩
  else match (C.modelValidateJson row.payloadJson).map handler with
    | some (.raised typeName) => ⟨row.analysisId, .deliveryFailed, now, some typeName, row.payloadBytes⟩
    | _ => ⟨row.analysisId, .deliveryFailed, now, none, row.payloadBytes⟩

def deliveredEvent (now : DateTime) (row : PendingAnalysis C) : SpoolEvent :=
  ⟨row.analysisId, .delivered, now, none, row.payloadBytes⟩

/-- The events of one `drain` over the given rows. -/
def drainEvents (handler : AnalysisResult → HandlerOutcome) (now : DateTime) (rows : List (PendingAnalysis C)) :
    List SpoolEvent :=
  (rows.takeWhile (delivers handler now)).map (deliveredEvent now) ++
    ((rows.dropWhile (delivers handler now)).take 1).map (stopEvent handler now)

theorem removeDelivered_apply {row : PendingAnalysis C} {rows : List (PendingAnalysis C)} (now : DateTime)
    (queued : s.pendingAnalysis = row :: rows) (unique : s.pendingIds.Nodup) :
    removeDelivered row.analysisId now row.payloadBytes s =
      (.ok (), { pendingAnalysis := rows, spoolEvents := s.spoolEvents ++ [deliveredEvent now row] }) := by
  have others : ∀ old ∈ rows, old.analysisId ≠ row.analysisId := by
    intro old member same
    simp only [pendingIds, queued, List.map_cons, List.nodup_cons] at unique
    exact unique.1 (List.mem_map.mpr ⟨old, member, same⟩)
  apply Call.atomically_of_ok
  rw [Call.modify_bind, insertEvent_apply]
  simpa [queued, deliveredEvent] using others

/-- The loop of `drain`, started with exactly the rows that are pending. -/
theorem drainRows_apply (handler : AnalysisResult → HandlerOutcome) (now : DateTime)
    (rows : List (PendingAnalysis C)) (queued : s.pendingAnalysis = rows) (unique : s.pendingIds.Nodup)
    (written : ∀ row ∈ rows, ∃ analysis enqueuedAt, row = pendingRow bounds analysis enqueuedAt) :
    drainRows handler now rows s =
      (.ok ((rows.takeWhile (delivers handler now)).map PendingAnalysis.analysisId),
        { pendingAnalysis := rows.dropWhile (delivers handler now)
          spoolEvents := s.spoolEvents ++ drainEvents handler now rows }) := by
  induction rows generalizing s with
  | nil =>
      cases s
      simp_all [drainRows, drainEvents]
  | cons row rows ih =>
      obtain ⟨analysis, enqueuedAt, shape⟩ := written row List.mem_cons_self
      have decoded : C.modelValidateJson row.payloadJson = some analysis := by
        rw [shape]
        exact C.validate_dump analysis
      have id : analysis.analysisId = row.analysisId := by rw [shape]; rfl
      simp only [drainRows, decoded]
      by_cases expired : row.expiresAt ≤ now
      · have stops : delivers handler now row = false := by simp [delivers, decoded, expired]
        rw [if_pos expired, Call.bind_of_ok (Call.atomically_of_ok (insertEvent_apply ..))]
        simp [drainEvents, stops, stopEvent, expired, queued, id]
      · rw [if_neg expired]
        cases outcome : handler analysis with
        | raised typeName =>
            have stops : delivers handler now row = false := by simp [delivers, decoded, outcome]
            simp only
            rw [Call.bind_of_ok (Call.atomically_of_ok (insertEvent_apply ..))]
            simp [drainEvents, stops, stopEvent, expired, queued, id, decoded, outcome]
        | returned =>
            have passes : delivers handler now row = true := by
              simp [delivers, decoded, outcome, lt_of_not_ge expired]
            have rest : (Spool.mk rows (s.spoolEvents ++ [deliveredEvent now row])).pendingIds.Nodup := by
              simp only [pendingIds, queued, List.map_cons, List.nodup_cons] at unique
              exact unique.2
            simp only [id]
            rw [Call.bind_of_ok (removeDelivered_apply now queued unique),
              Call.bind_of_ok (ih rfl rest (fun old member => written old (List.mem_cons_of_mem _ member)))]
            simp [drainEvents, passes]

theorem drain_apply (valid : Valid bounds s) (handler : AnalysisResult → HandlerOutcome) (now : DateTime) :
    drain handler now s =
      (.ok ((s.pendingAnalysis.takeWhile (delivers handler now)).map PendingAnalysis.analysisId),
        { pendingAnalysis := s.pendingAnalysis.dropWhile (delivers handler now)
          spoolEvents := s.spoolEvents ++ drainEvents handler now s.pendingAnalysis }) := by
  simp only [drain, Call.read_bind]
  exact drainRows_apply handler now s.pendingAnalysis rfl valid.unique valid.rows

/-! ## What every call keeps -/

theorem Valid.empty : Valid bounds ({} : Spool C) where
  rows := nofun
  unique := List.nodup_nil
  items := Nat.zero_le _
  bytes := Nat.zero_le _

theorem Valid.accept (valid : Valid bounds s) (absent : s.find analysis.analysisId = none)
    (room : s.isFull bounds (C.encodedLength (C.modelDumpJson analysis)) = false) (events : List SpoolEvent) :
    Valid bounds (C := C) ⟨s.pendingAnalysis ++ [pendingRow bounds analysis enqueuedAt], events⟩ := by
  simp [isFull, counts] at room
  constructor
  · intro row member
    cases List.mem_append.mp member with
    | inl old => exact valid.rows row old
    | inr new => exact ⟨analysis, enqueuedAt, List.mem_singleton.mp new⟩
  · have fresh := find_none absent
    simp only [pendingIds, List.map_append, List.map_cons, List.map_nil] at fresh ⊢
    exact List.nodup_append.mpr ⟨valid.unique, List.nodup_singleton _, by
      intro id member other same
      rw [List.mem_singleton] at same
      grind [pendingRow]⟩
  · simp only [counts, List.length_append, List.length_singleton]
    omega
  · simp only [counts, List.map_append, List.sum_append, List.map_cons, List.map_nil, List.sum_singleton, pendingRow]
    omega

theorem Valid.dropped {rows : List (PendingAnalysis C)} (valid : Valid bounds s)
    (suffix : rows <:+ s.pendingAnalysis) (events : List SpoolEvent) : Valid bounds (C := C) ⟨rows, events⟩ := by
  constructor
  · intro row member
    exact valid.rows row (suffix.mem member)
  · exact valid.unique.sublist (suffix.sublist.map _)
  · exact suffix.length_le.trans valid.items
  · have total := valid.bytes
    obtain ⟨gone, split⟩ := suffix
    simp only [counts, ← split, List.map_append, List.sum_append] at total ⊢
    omega

/-! ## Runs -/

inductive Operation where
  | enqueue (analysis : AnalysisResult) (enqueuedAt : DateTime)
  | drain (handler : AnalysisResult → HandlerOutcome) (now : DateTime)

/-- A spool with what its callers have seen: the analyses `enqueue` returned
    `True` for, and the results of all drains in one list. -/
structure History (C : SpoolCodec) where
  spool : Spool C := {}
  accepted : List AnalysisResult := []
  delivered : List UUID := []

def History.step (bounds : SpoolBounds) (h : History C) : Operation → History C
  | .enqueue analysis enqueuedAt => match enqueue bounds analysis enqueuedAt h.spool with
      | (.ok true, s) => { h with spool := s, accepted := h.accepted ++ [analysis] }
      | (_, s) => { h with spool := s }
  | .drain handler now => match drain handler now h.spool with
      | (.ok ids, s) => { h with spool := s, delivered := h.delivered ++ ids }
      | (.error _, s) => { h with spool := s }

def History.run (bounds : SpoolBounds) (ops : List Operation) : History C := Foundation.run (History.step bounds) {} ops

/-- The analysis is new to the queue and does not fit into it. -/
def Exhausts (bounds : SpoolBounds) (s : Spool C) (analysis : AnalysisResult) : Prop :=
  s.find analysis.analysisId = none ∧ s.isFull bounds (C.encodedLength (C.modelDumpJson analysis)) = true

/-- What one step can do to a spool in a valid state. -/
theorem step_cases {h : History C} (valid : Valid bounds h.spool) (op : Operation) :
    (∃ analysis enqueuedAt, op = .enqueue analysis enqueuedAt ∧ (h.spool.find analysis.analysisId).isSome ∧ h.step bounds op = h) ∨
    (∃ analysis enqueuedAt, op = .enqueue analysis enqueuedAt ∧ Exhausts bounds h.spool analysis ∧
      h.step bounds op = { h with spool := { h.spool with spoolEvents := h.spool.spoolEvents ++
        [eventFor C analysis .rejected enqueuedAt (some "spool_exhausted"), eventFor C analysis .enqueued enqueuedAt none] } }) ∨
    (∃ analysis enqueuedAt, op = .enqueue analysis enqueuedAt ∧ h.spool.find analysis.analysisId = none ∧
      h.spool.isFull bounds (C.encodedLength (C.modelDumpJson analysis)) = false ∧
      h.step bounds op = { h with
        spool := { pendingAnalysis := h.spool.pendingAnalysis ++ [pendingRow bounds analysis enqueuedAt]
                   spoolEvents := h.spool.spoolEvents ++ [eventFor C analysis .enqueued enqueuedAt none] }
        accepted := h.accepted ++ [analysis] }) ∨
    (∃ handler now, op = .drain handler now ∧ h.step bounds op = { h with
      spool := { pendingAnalysis := h.spool.pendingAnalysis.dropWhile (delivers handler now)
                 spoolEvents := h.spool.spoolEvents ++ drainEvents handler now h.spool.pendingAnalysis }
      delivered := h.delivered ++
        (h.spool.pendingAnalysis.takeWhile (delivers handler now)).map PendingAnalysis.analysisId }) := by
  cases op with
  | drain handler now =>
      right; right; right
      exact ⟨handler, now, rfl, by simp only [History.step, drain_apply valid]⟩
  | enqueue analysis enqueuedAt =>
      cases known : h.spool.find analysis.analysisId with
      | some old =>
          left
          refine ⟨analysis, enqueuedAt, rfl, by simp [known], ?_⟩
          by_cases conflict : old.payloadJson ≠ C.modelDumpJson analysis
          · simp only [History.step, enqueue_known known, if_pos conflict]
          · simp only [History.step, enqueue_known known, if_neg conflict]
      | none =>
          right
          cases full : h.spool.isFull bounds (C.encodedLength (C.modelDumpJson analysis)) with
          | true =>
              left
              exact ⟨analysis, enqueuedAt, rfl, ⟨known, full⟩, by simp only [History.step, enqueue_exhausted known full]⟩
          | false =>
              right; left
              exact ⟨analysis, enqueuedAt, rfl, known, full, by simp only [History.step, enqueue_accepted known full]⟩

theorem Valid.step {h : History C} (valid : Valid bounds h.spool) (op : Operation) :
    Valid bounds (h.step bounds op).spool := by
  obtain ⟨_, _, _, _, same⟩ | ⟨_, _, _, _, after⟩ | ⟨_, _, _, absent, room, after⟩ | ⟨_, _, _, after⟩ :=
    step_cases valid op
  · rw [same]
    exact valid
  · rw [after]
    exact valid.dropped List.suffix_rfl _
  · rw [after]
    exact valid.accept absent room _
  · rw [after]
    exact valid.dropped (List.dropWhile_suffix _) _

theorem run_valid (bounds : SpoolBounds) (ops : List Operation) : Valid bounds (History.run bounds ops : History C).spool :=
  run_invariant (I := fun h : History C => Valid bounds h.spool) (fun _ op valid => valid.step op) Valid.empty ops

/-! ## First in, first out -/

/-- Accepted analyses are those delivered, in order, and then those pending. -/
structure Fifo (h : History C) : Prop where
  ids : h.accepted.map AnalysisResult.analysisId = h.delivered ++ h.spool.pendingIds
  analyses : h.spool.pending = some (h.accepted.drop h.delivered.length)

theorem pending_append {row : PendingAnalysis C} {before : List AnalysisResult} {last : AnalysisResult}
    (decoded : s.pending = some before) (new : C.modelValidateJson row.payloadJson = some last)
    (events : List SpoolEvent) : pending (C := C) ⟨s.pendingAnalysis ++ [row], events⟩ = some (before ++ [last]) := by
  simp only [pending] at decoded
  simp [pending, List.mapM_append, List.mapM_cons, decoded, new]

/-- Rows decode one by one, so what remains of the table decodes to what remains
    of the list. -/
theorem pending_drop {rows : List (PendingAnalysis C)} {analyses : List AnalysisResult} (n : Nat)
    (decoded : rows.mapM (fun row => C.modelValidateJson row.payloadJson) = some analyses) :
    (rows.drop n).mapM (fun row => C.modelValidateJson row.payloadJson) = some (analyses.drop n) := by
  induction rows generalizing n analyses with
  | nil => simp_all
  | cons row rows ih =>
      cases n with
      | zero => exact decoded
      | succ n =>
          simp only [List.mapM_cons, Option.bind_eq_bind, Option.bind_eq_some_iff] at decoded
          obtain ⟨first, _, later, rest, all⟩ := decoded
          cases all
          exact ih n rest

theorem dropWhile_eq_drop {α : Type} (p : α → Bool) (xs : List α) :
    xs.dropWhile p = xs.drop (xs.takeWhile p).length := by
  induction xs with
  | nil => rfl
  | cons x xs ih =>
      cases passes : p x with
      | true => simp [passes, ih]
      | false => simp [passes]

theorem Fifo.step {h : History C} (valid : Valid bounds h.spool) (fifo : Fifo h) (op : Operation) :
    Fifo (h.step bounds op) := by
  have lengths : h.accepted.length = h.delivered.length + h.spool.pendingAnalysis.length := by
    simpa [pendingIds] using congrArg List.length fifo.ids
  obtain ⟨_, _, _, _, same⟩ | ⟨_, _, _, _, after⟩ | ⟨analysis, enqueuedAt, _, _, _, after⟩ | ⟨handler, now, _, after⟩ :=
    step_cases valid op
  · rw [same]
    exact fifo
  · rw [after]
    exact ⟨fifo.ids, fifo.analyses⟩
  · rw [after]
    constructor
    · simp only [List.map_append, fifo.ids, pendingIds, List.append_assoc, List.map_cons, List.map_nil]
      rfl
    · have late : h.delivered.length ≤ h.accepted.length := by omega
      rw [List.drop_append_of_le_length late]
      exact pending_append fifo.analyses (C.validate_dump analysis) _
  · rw [after]
    constructor
    · simp only [fifo.ids, pendingIds, List.append_assoc, ← List.map_append, List.takeWhile_append_dropWhile]
    · have rest := pending_drop (h.spool.pendingAnalysis.takeWhile (delivers handler now)).length fifo.analyses
      rw [← dropWhile_eq_drop, List.drop_drop] at rest
      simpa [pending] using rest

theorem run_fifo (bounds : SpoolBounds) (ops : List Operation) : Fifo (History.run bounds ops : History C) := by
  have keeps : ∀ (h : History C) op, Valid bounds h.spool ∧ Fifo h →
      Valid bounds (h.step bounds op).spool ∧ Fifo (h.step bounds op) :=
    fun h op before => ⟨before.1.step op, before.2.step before.1 op⟩
  have start : Fifo ({} : History C) := ⟨rfl, rfl⟩
  exact (run_invariant keeps ⟨Valid.empty, start⟩ ops).2

def statusCount (s : Spool C) (status : SpoolStatus) : Nat := s.spoolEvents.countP (fun event => event.status = status)

/-- Every item is logged when it enters and when it leaves the queue, and every
    rejection is logged as an entry as well. -/
def Accounted (s : Spool C) : Prop :=
  s.statusCount .enqueued = s.statusCount .delivered + s.counts.1 + s.statusCount .rejected

theorem drainEvents_countP (handler : AnalysisResult → HandlerOutcome) (now : DateTime)
    (rows : List (PendingAnalysis C)) (status : SpoolStatus) (logged : status ≠ .expired ∧ status ≠ .deliveryFailed) :
    (drainEvents handler now rows).countP (fun event => event.status = status) =
      if status = .delivered then (rows.takeWhile (delivers handler now)).length else 0 := by
  have stop : ∀ row : PendingAnalysis C, (stopEvent handler now row).status ≠ status := by
    intro row
    unfold stopEvent
    split
    · exact logged.1.symm
    · split
      · exact logged.2.symm
      · exact logged.2.symm
  have stops : ∀ rest : List (PendingAnalysis C),
      (rest.map (stopEvent handler now)).countP (fun event => event.status = status) = 0 := by
    intro rest
    simp [List.countP_eq_zero, stop]
  simp only [drainEvents, List.countP_append, stops, List.countP_map]
  by_cases same : status = .delivered
  · simp [same, deliveredEvent, Function.comp_def]
  · simp [same, deliveredEvent, Function.comp_def, eq_comm]

theorem Accounted.step {h : History C} (valid : Valid bounds h.spool) (accounted : Accounted h.spool) (op : Operation) :
    Accounted (h.step bounds op).spool := by
  unfold Accounted statusCount counts at accounted ⊢
  obtain ⟨_, _, _, _, same⟩ | ⟨analysis, enqueuedAt, _, _, after⟩ | ⟨analysis, enqueuedAt, _, _, _, after⟩ |
    ⟨handler, now, _, after⟩ := step_cases valid op
  · rw [same]
    exact accounted
  · simp only [after, List.countP_append, List.countP_cons, List.countP_nil, eventFor]
    simp
    omega
  · simp only [after, List.countP_append, List.countP_cons, List.countP_nil, eventFor, List.length_append]
    simp
    omega
  · have split := congrArg List.length
      (List.takeWhile_append_dropWhile (p := delivers handler now) (l := h.spool.pendingAnalysis))
    rw [List.length_append] at split
    simp only [after, List.countP_append]
    rw [drainEvents_countP _ _ _ _ (by decide), drainEvents_countP _ _ _ _ (by decide),
      drainEvents_countP _ _ _ _ (by decide)]
    simp
    omega

theorem run_accounted (bounds : SpoolBounds) (ops : List Operation) :
    Accounted (History.run bounds ops : History C).spool := by
  have keeps : ∀ (h : History C) op, Valid bounds h.spool ∧ Accounted h.spool →
      Valid bounds (h.step bounds op).spool ∧ Accounted (h.step bounds op).spool :=
    fun h op before => ⟨before.1.step op, before.2.step before.1 op⟩
  have start : Accounted ({} : Spool C) := rfl
  exact (run_invariant keeps ⟨Valid.empty, start⟩ ops).2

theorem run_snoc (bounds : SpoolBounds) (ops : List Operation) (op : Operation) :
    (History.run bounds (ops ++ [op]) : History C) = (History.run bounds ops).step bounds op := by
  simp only [History.run, run_append]
  rfl

/-- The log balances along a run: entries minus deliveries are the pending items
    in every state, and a call that raises `SpoolExhaustedError` logs a rejection
    of its analysis and no entry. -/
structure LogBalances (C : SpoolCodec) (bounds : SpoolBounds) (ops : List Operation) : Prop where
  balance : ∀ n, let s := (History.run bounds (ops.take n) : History C).spool
    (s.statusCount .enqueued : Int) - s.statusCount .delivered = s.counts.1
  rejection : ∀ n analysis enqueuedAt, ops[n]? = some (.enqueue analysis enqueuedAt) →
    let s := (History.run bounds (ops.take n) : History C).spool
    ∀ message s', enqueue bounds analysis enqueuedAt s = (.error (.spoolExhaustedError message), s') →
      ∃ new, s'.spoolEvents = s.spoolEvents ++ new ∧
        (∃ event ∈ new, event.analysisId = analysis.analysisId ∧ event.status = .rejected) ∧
        ∀ event ∈ new, event.status ≠ .enqueued

/-- No call of `enqueue` in the run meets a spool that is too full for it. -/
def NeverExhausts (C : SpoolCodec) (bounds : SpoolBounds) (ops : List Operation) : Prop :=
  ∀ n analysis enqueuedAt, ops[n]? = some (.enqueue analysis enqueuedAt) →
    ¬ Exhausts bounds (History.run bounds (ops.take n) : History C).spool analysis

theorem take_succ_of_getElem? {α : Type} {xs : List α} {n : Nat} {x : α} (found : xs[n]? = some x) :
    xs.take (n + 1) = xs.take n ++ [x] := by
  rw [List.take_add_one, found]
  rfl

/-- Without an exhausted call nothing is ever logged as rejected. -/
theorem rejected_eq_zero {ops : List Operation} (room : NeverExhausts C bounds ops) (n : Nat) :
    (History.run bounds (ops.take n) : History C).spool.statusCount .rejected = 0 := by
  induction n with
  | zero => rfl
  | succ n ih =>
      cases next : ops[n]? with
      | none =>
          have short : ops.length ≤ n := List.getElem?_eq_none_iff.mp next
          rwa [List.take_of_length_le (by omega : ops.length ≤ n + 1), ← List.take_of_length_le short]
      | some op =>
          rw [take_succ_of_getElem? next, run_snoc]
          unfold statusCount at ih ⊢
          obtain ⟨_, _, _, _, same⟩ | ⟨analysis, enqueuedAt, rfl, exhausts, _⟩ | ⟨analysis, enqueuedAt, _, _, _, after⟩ |
            ⟨handler, now, _, after⟩ := step_cases (run_valid (C := C) bounds (ops.take n)) op
          · rw [same]
            exact ih
          · exact absurd exhausts (room n analysis enqueuedAt next)
          · rw [after, List.countP_append, ih]
            simp [eventFor]
          · rw [after, List.countP_append, ih, drainEvents_countP _ _ _ _ (by decide)]
            simp

/-- The log of a run balances exactly when no enqueue of a new analysis meets a
    full spool: the exhausted branch goes on to log the analysis as enqueued. -/
theorem logBalances_iff_neverExhausts (C : SpoolCodec) (bounds : SpoolBounds) (ops : List Operation) :
    LogBalances C bounds ops ↔ NeverExhausts C bounds ops := by
  constructor
  · intro balances n analysis enqueuedAt call exhausts
    obtain ⟨new, logged, _, clean⟩ := balances.rejection n analysis enqueuedAt call _ _
      (enqueue_exhausted exhausts.1 exhausts.2)
    obtain rfl := List.append_cancel_left logged
    exact clean (eventFor C analysis .enqueued enqueuedAt none) (by simp) rfl
  · intro room
    constructor
    · intro n s
      have accounted : Accounted s := run_accounted bounds (ops.take n)
      have none : s.statusCount .rejected = 0 := rejected_eq_zero room n
      unfold Accounted at accounted
      omega
    · intro n analysis enqueuedAt call s message s' raises
      cases known : s.find analysis.analysisId with
      | some old =>
          rw [enqueue_known known] at raises
          split at raises
          · cases raises
          · cases raises
      | none =>
          cases full : s.isFull bounds (C.encodedLength (C.modelDumpJson analysis)) with
          | true => exact absurd ⟨known, full⟩ (room n analysis enqueuedAt call)
          | false =>
              rw [enqueue_accepted known full] at raises
              cases raises

/-- A critical reading with the given identity. -/
def spooledReading (id : Nat) : AnalysisResult where
  analysisId := UUID.ofNat id
  observationId := UUID.ofNat id
  correlationId := UUID.ofNat id
  bootId := "fixture-boot-1"
  sourceMode := .fixture
  hazard := .flood
  score := 1
  stateHint := .confirmed
  features := []
  coverage := .sufficient
  abstained := false
  reasonCodes := []
  modelProfileId := "deterministic-v1"
  sourceLineage := "fixture-v1"
  configHashes := []
  incidentIdHint := none
  producedAt := 0
  eventTime := none

/-- A spool for one item gets two analyses: the log counts two entries, no
    delivery and one pending item. -/
theorem full_spool_logs_entry :
    ¬ LogBalances SpoolCodec.transparent { maxItems := 1 }
      [.enqueue (spooledReading 1) 0, .enqueue (spooledReading 2) 0] := by
  intro balances
  exact absurd (balances.balance 2) (by decide +kernel)

end Spool

end SentinelEdge.Storage
