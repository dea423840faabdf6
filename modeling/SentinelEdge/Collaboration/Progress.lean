import SentinelEdge.Collaboration.Delivery

/-! # Progress of the polls

A batch is cut from the sorted listing before the receipts are looked at. A poll gives
a new receipt exactly when the batch has a message without one, and the first such
message does not end the poll.
-/

namespace SentinelEdge.Collaboration

open Foundation Domain

namespace Polling

variable {decode : List UInt8 → Except Error InboundSignal} {receivedAt : WireTime} {m : IncomingMessage} {s t : Polling}

/-- Delivering a message that has no receipt raises something else than a `ValueError`. -/
def aborts (decode : List UInt8 → Except Error InboundSignal) (receivedAt : WireTime) (m : IncomingMessage) (s : Polling) : Bool :=
  match admitted decode receivedAt m s with
  | .error exc => !exc.isValueError
  | .ok _ => match m.emitted with
      | .error exc => !exc.isValueError
      | .ok _ => false

/-- No call of the client about the message raises. -/
def Answered (m : IncomingMessage) : Prop := (∃ raw, m.raw = .ok raw) ∧ m.processed = .returns ∧ m.rejected = .returns

/-- What is admitted depends on the receipts and on the envelopes of the poll. -/
theorem admitted_congr (receipts : t.receipts = s.receipts) (envelopes : t.envelopes = s.envelopes) :
    admitted decode receivedAt m t = admitted decode receivedAt m s := by
  have seen : t.seenSignalIds = s.seenSignalIds := by
    funext signal
    unfold seenSignalIds
    rw [receipts, envelopes]
  unfold admitted
  rw [seen]

theorem aborts_congr (receipts : t.receipts = s.receipts) (envelopes : t.envelopes = s.envelopes) :
    aborts decode receivedAt m t = aborts decode receivedAt m s := by
  unfold aborts
  rw [admitted_congr receipts envelopes]

theorem caught_ok {exc : Error} (value : exc.isValueError = true) (answered : m.rejected = .returns) :
    (caught m exc s).1 = .ok () := by
  unfold caught reject labelRejected
  rw [if_pos value, answered]
  rfl

/-- A message with a receipt is labelled again and changes nothing else. -/
theorem handle_known (decode : List UInt8 → Except Error InboundSignal) (receivedAt : WireTime) (answered : Answered m)
    (known : m.id ∈ s.receipts.messageIds) : (handle decode receivedAt m s).1 = .ok () ∧
    (handle decode receivedAt m s).2.receipts = s.receipts ∧ (handle decode receivedAt m s).2.envelopes = s.envelopes := by
  unfold handle labelProcessed
  rw [Call.read_bind, answered.2.1]
  simp only [GmailReceiptStore.hasMessage, id, decide_eq_true known, if_true]
  exact ⟨rfl, rfl, rfl⟩

theorem handle_abort (new : m.id ∉ s.receipts.messageIds) (stops : aborts decode receivedAt m s = true) :
    ∃ exc, handle decode receivedAt m s = (.error exc, s) := by
  unfold aborts at stops
  cases admits : admitted decode receivedAt m s with
  | error exc =>
      rw [admits] at stops
      refine ⟨exc, ?_⟩
      rw [handle_of_error new (deliver_of_error admits), caught, if_neg (by simpa using stops)]
      rfl
  | ok e =>
      rw [admits] at stops
      cases returns : m.emitted with
      | error exc =>
          rw [returns] at stops
          refine ⟨exc, ?_⟩
          rw [handle_of_error new (deliver_of_raise admits returns), caught, if_neg (by simpa using stops)]
          rfl
      | ok done =>
          rw [returns] at stops
          cases stops

theorem handle_new (answered : Answered m) (new : m.id ∉ s.receipts.messageIds) (goes : aborts decode receivedAt m s = false) :
    (handle decode receivedAt m s).1 = .ok () ∧ m.id ∈ (handle decode receivedAt m s).2.receipts.messageIds := by
  have returned : (handle decode receivedAt m s).1 = .ok () := by
    unfold aborts at goes
    cases admits : admitted decode receivedAt m s with
    | error exc =>
        rw [admits] at goes
        rw [handle_of_error new (deliver_of_error admits)]
        exact caught_ok (by simpa using goes) answered.2.2
    | ok e =>
        rw [admits] at goes
        cases returns : m.emitted with
        | error exc =>
            rw [returns] at goes
            rw [handle_of_error new (deliver_of_raise admits returns)]
            exact caught_ok (by simpa using goes) answered.2.2
        | ok done =>
            have delivers := deliver_of_ok admits returns
            unfold labelProcessed at delivers
            rw [answered.2.1] at delivers
            rw [handle_of_ok new delivers]
            rfl
  refine ⟨returned, ?_⟩
  have handles := handle_handles decode receivedAt m s
  rw [returned] at handles
  generalize (handle decode receivedAt m s).2 = s' at handles ⊢
  cases handles with
  | duplicate known receipts emitted marks => exact absurd known new
  | refused new receipts emitted marks =>
      rw [receipts]
      exact GmailReceiptStore.mem_messageIds_record.mpr (Or.inl rfl)
  | delivered e new message signal identified receipts emitted marks =>
      rw [receipts]
      exact GmailReceiptStore.mem_messageIds_record.mpr (Or.inl rfl)

/-- A turn gives a receipt to its own message at most, and takes none away. -/
theorem handle_receipts (decode : List UInt8 → Except Error InboundSignal) (receivedAt : WireTime) (m : IncomingMessage)
    (s : Polling) (id : String) :
    (id ∈ s.receipts.messageIds → id ∈ (handle decode receivedAt m s).2.receipts.messageIds) ∧
      (id ∈ (handle decode receivedAt m s).2.receipts.messageIds → id = m.id ∨ id ∈ s.receipts.messageIds) := by
  have handles := handle_handles decode receivedAt m s
  generalize (handle decode receivedAt m s).1 = r at handles
  generalize (handle decode receivedAt m s).2 = s' at handles ⊢
  cases handles with
  | duplicate known receipts emitted marks =>
      rw [receipts]
      exact ⟨fun old => old, Or.inr⟩
  | aborted new => exact ⟨fun old => old, Or.inr⟩
  | refused new receipts emitted marks =>
      rw [receipts, GmailReceiptStore.mem_messageIds_record]
      exact ⟨Or.inr, fun now => now⟩
  | delivered e new message signal identified receipts emitted marks =>
      rw [receipts, GmailReceiptStore.mem_messageIds_record]
      exact ⟨Or.inr, fun now => now⟩

/-! ## The loop -/

theorem handleAll_cons_ok {rest : List IncomingMessage} (returned : (handle decode receivedAt m s).1 = .ok ()) :
    handleAll decode receivedAt (m :: rest) s = handleAll decode receivedAt rest (handle decode receivedAt m s).2 := by
  rw [handleAll]
  exact Call.bind_of_ok (Prod.ext returned rfl)

theorem handleAll_cons_error {rest : List IncomingMessage} {exc : Error} (raised : handle decode receivedAt m s = (.error exc, t)) :
    handleAll decode receivedAt (m :: rest) s = (.error exc, t) := by
  rw [handleAll]
  exact Call.bind_of_error raised

theorem handleAll_receipts (batch : List IncomingMessage) : ∀ (s : Polling) {id : String},
    (id ∈ s.receipts.messageIds → id ∈ (handleAll decode receivedAt batch s).2.receipts.messageIds) ∧
      (id ∈ (handleAll decode receivedAt batch s).2.receipts.messageIds → id ∈ s.receipts.messageIds ∨ ∃ m ∈ batch, id = m.id) := by
  induction batch with
  | nil =>
      intro s id
      exact ⟨fun old => old, Or.inl⟩
  | cons m rest ih =>
      intro s id
      have turn := handle_receipts decode receivedAt m s id
      rcases ran : handle decode receivedAt m s with ⟨r, t⟩
      rw [ran] at turn
      cases r with
      | error exc =>
          rw [handleAll_cons_error ran]
          refine ⟨turn.1, fun now => ?_⟩
          cases turn.2 now with
          | inl same => exact Or.inr ⟨m, List.mem_cons_self, same⟩
          | inr old => exact Or.inl old
      | ok done =>
          rw [handleAll, Call.bind_of_ok ran]
          refine ⟨fun old => (ih t).1 (turn.1 old), fun now => ?_⟩
          cases (ih t).2 now with
          | inl between =>
              cases turn.2 between with
              | inl same => exact Or.inr ⟨m, List.mem_cons_self, same⟩
              | inr old => exact Or.inl old
          | inr later =>
              obtain ⟨other, among, same⟩ := later
              exact Or.inr ⟨other, List.mem_cons_of_mem _ among, same⟩

/-- The first message of the batch that has no receipt. -/
def firstNew (s : GmailReceiptStore) (batch : List IncomingMessage) : Option IncomingMessage :=
  batch.find? (fun m => !s.hasMessage m.id)

theorem firstNew_known {rest : List IncomingMessage} (known : m.id ∈ s.receipts.messageIds) :
    firstNew s.receipts (m :: rest) = firstNew s.receipts rest := by
  unfold firstNew
  rw [List.find?_cons_of_neg]
  simp [GmailReceiptStore.hasMessage, known]

theorem firstNew_new {rest : List IncomingMessage} (new : m.id ∉ s.receipts.messageIds) :
    firstNew s.receipts (m :: rest) = some m := by
  unfold firstNew
  rw [List.find?_cons_of_pos]
  simp [GmailReceiptStore.hasMessage, new]

/-- The loop gives a new receipt exactly when the first message that has none does not stop it. -/
theorem handleAll_gains_iff (decode : List UInt8 → Except Error InboundSignal) (receivedAt : WireTime) 
    (batch : List IncomingMessage) : ∀ s : Polling, (∀ m ∈ batch, Answered m) →
    ((∃ m ∈ batch, m.id ∉ s.receipts.messageIds ∧ m.id ∈ (handleAll decode receivedAt batch s).2.receipts.messageIds) ↔
      ∃ m, firstNew s.receipts batch = some m ∧ aborts decode receivedAt m s = false) := by
  induction batch with
  | nil =>
      intro s _
      constructor
      · rintro ⟨m, among, -⟩
        cases among
      · rintro ⟨m, none, -⟩
        cases none
  | cons m rest ih =>
      intro s answered
      have here := answered m List.mem_cons_self
      by_cases known : m.id ∈ s.receipts.messageIds
      · obtain ⟨returned, receipts, envelopes⟩ := handle_known decode receivedAt here known
        have later := ih (handle decode receivedAt m s).2 fun other among => answered other (List.mem_cons_of_mem _ among)
        rw [receipts] at later
        rw [firstNew_known known, handleAll_cons_ok returned]
        simp only [aborts_congr receipts envelopes] at later
        rw [← later]
        constructor
        · rintro ⟨other, among, new, now⟩
          cases among with
          | head => exact absurd known new
          | tail _ among => exact ⟨other, among, new, now⟩
        · rintro ⟨other, among, new, now⟩
          exact ⟨other, List.mem_cons_of_mem _ among, new, now⟩
      · rw [firstNew_new known]
        cases stops : aborts decode receivedAt m s with
        | true =>
            obtain ⟨exc, raised⟩ := handle_abort known stops
            rw [handleAll_cons_error raised]
            constructor
            · rintro ⟨other, -, new, now⟩
              exact absurd now new
            · rintro ⟨other, same, goes⟩
              cases same
              rw [stops] at goes
              cases goes
        | false =>
            obtain ⟨returned, recorded⟩ := handle_new here known stops
            constructor
            · intro _
              exact ⟨m, rfl, stops⟩
            · intro _
              rw [handleAll_cons_ok returned]
              exact ⟨m, List.mem_cons_self, known, (handleAll_receipts rest _).1 recorded⟩

/-- A loop that nothing stops gives a receipt to every message of its batch. -/
theorem handleAll_records (batch : List IncomingMessage) : ∀ s : Polling, (∀ m ∈ batch, Answered m) →
    (∀ m ∈ batch, ∀ s, aborts decode receivedAt m s = false) →
    ∀ m ∈ batch, m.id ∈ (handleAll decode receivedAt batch s).2.receipts.messageIds := by
  induction batch with
  | nil =>
      intro s _ _ m among
      cases among
  | cons m rest ih =>
      intro s answered goes other among
      have turn : (handle decode receivedAt m s).1 = .ok () ∧ m.id ∈ (handle decode receivedAt m s).2.receipts.messageIds := by
        by_cases known : m.id ∈ s.receipts.messageIds
        · obtain ⟨returned, receipts, -⟩ := handle_known decode receivedAt
            (answered m List.mem_cons_self) known
          exact ⟨returned, receipts ▸ known⟩
        · exact handle_new (answered m List.mem_cons_self) known (goes m List.mem_cons_self s)
      rw [handleAll_cons_ok turn.1]
      cases among with
      | head => exact (handleAll_receipts rest _).1 turn.2
      | tail _ among =>
          exact ih _ (fun m among => answered m (List.mem_cons_of_mem _ among))
            (fun m among => goes m (List.mem_cons_of_mem _ among)) other among

end Polling

/-! ## Polls -/

namespace GmailSystem

section

variable {decode : List UInt8 → Except Error InboundSignal} {c : GmailCollaborativeSignalConnector} {receivedAt : WireTime}
  {messages : List IncomingMessage} {s : GmailSystem}

/-- The poll gives a receipt to a listed message that had none. -/
def Progresses (decode : List UInt8 → Except Error InboundSignal) (c : GmailCollaborativeSignalConnector) (receivedAt : WireTime)
    (messages : List IncomingMessage) (s : GmailSystem) : Prop :=
  ∃ m ∈ messages, m.id ∉ s.receipts.messageIds ∧
    m.id ∈ (s.step decode (.poll c receivedAt (.ok messages))).receipts.messageIds

/-- The batch has a message without a receipt, and the first one does not end the poll. -/
def Unblocked (decode : List UInt8 → Except Error InboundSignal) (c : GmailCollaborativeSignalConnector) (receivedAt : WireTime)
    (messages : List IncomingMessage) (s : GmailSystem) : Prop :=
  c.enabled = true ∧ ∃ m, Polling.firstNew s.receipts (c.pending messages) = some m ∧
    Polling.aborts decode receivedAt m (c.begin s) = false

theorem mem_pending {m : IncomingMessage} (among : m ∈ c.pending messages) : m ∈ messages :=
  (List.mem_insertionSort _).mp (List.mem_of_mem_take among)

/-- Where a poll begins its loop. -/
def enter (c : GmailCollaborativeSignalConnector) (messages : List IncomingMessage) (s : GmailSystem) : Polling :=
  { c.begin s with reasons := if c.maxInflight < messages.length then [.code "MAX_INFLIGHT_BOUNDED"] else [] }

/-- A poll leaves what its loop leaves. -/
theorem pollOnce_state (enabled : c.enabled = true) : (c.pollOnce decode receivedAt (.ok messages) (c.begin s)).2 =
    (Polling.handleAll decode receivedAt (c.pending messages) (enter c messages s)).2 := by
  unfold GmailCollaborativeSignalConnector.pollOnce
  rw [if_pos enabled, Call.bind_of_ok (Call.lift_apply (.ok messages) _), Call.modify_bind]
  change ((Polling.handleAll decode receivedAt (c.pending messages) >>= fun _ => Call.read Polling.result) (enter c messages s)).2 = _
  rcases ran : Polling.handleAll decode receivedAt (c.pending messages) (enter c messages s) with ⟨r, t⟩
  cases r with
  | error exc => rw [Call.bind_of_error ran]
  | ok done =>
      rw [Call.bind_of_ok ran]
      rfl

theorem poll_receipts (enabled : c.enabled = true) : (s.step decode (.poll c receivedAt (.ok messages))).receipts =
    (Polling.handleAll decode receivedAt (c.pending messages) (enter c messages s)).2.receipts :=
  congrArg (fun s : Polling => s.receipts) (pollOnce_state enabled)

theorem poll_disabled (disabled : c.enabled = false) : (s.step decode (.poll c receivedAt (.ok messages))).receipts = s.receipts := by
  unfold step GmailCollaborativeSignalConnector.pollOnce
  dsimp only
  rw [if_neg (by rw [disabled]; decide)]
  rfl

theorem progresses_iff (answered : ∀ m ∈ messages, Polling.Answered m) :
    Progresses decode c receivedAt messages s ↔ Unblocked decode c receivedAt messages s := by
  unfold Progresses Unblocked
  cases enabled : c.enabled with
  | false =>
      rw [poll_disabled enabled]
      constructor
      · rintro ⟨m, -, new, now⟩
        exact absurd now new
      · rintro ⟨impossible, -⟩
        cases impossible
  | true =>
      have gains := Polling.handleAll_gains_iff decode receivedAt (c.pending messages)
        (enter c messages s) fun m among => answered m (mem_pending among)
      rw [poll_receipts enabled, and_iff_right rfl]
      apply Iff.trans _ gains
      constructor
      · rintro ⟨m, -, new, now⟩
        cases (Polling.handleAll_receipts _ _).2 now with
        | inl old => exact absurd old new
        | inr recorded =>
            obtain ⟨other, among, same⟩ := recorded
            rw [same] at new now
            exact ⟨other, among, new, now⟩
      · rintro ⟨m, among, new, now⟩
        exact ⟨m, mem_pending among, new, now⟩

/-- Polls of one listing at these times. -/
def polls (c : GmailCollaborativeSignalConnector) (messages : List IncomingMessage) (times : List WireTime) : List GmailOperation :=
  times.map fun receivedAt => .poll c receivedAt (.ok messages)

/-- Repeated polls consume a listing exactly when every message without a receipt is in the first batch. -/
theorem consumed_iff (enabled : c.enabled = true) (answered : ∀ m ∈ messages, Polling.Answered m)
    (goes : ∀ m ∈ messages, ∀ receivedAt t, Polling.aborts decode receivedAt m t = false) :
    (∃ times, ∀ m ∈ messages, m.id ∈ (run (step decode) s (polls c messages times)).receipts.messageIds) ↔
      ∀ m ∈ messages, m.id ∈ s.receipts.messageIds ∨ ∃ other ∈ c.pending messages, m.id = other.id := by
  have bounded : ∀ times (s : GmailSystem) {id : String}, id ∈ (run (step decode) s (polls c messages times)).receipts.messageIds →
      id ∈ s.receipts.messageIds ∨ ∃ other ∈ c.pending messages, id = other.id := by
    intro times
    induction times with
    | nil => exact fun s id now => Or.inl now
    | cons receivedAt times ih =>
        intro s id now
        cases ih _ now with
        | inl between =>
            rw [poll_receipts enabled] at between
            exact (Polling.handleAll_receipts _ _).2 between
        | inr later => exact Or.inr later
  constructor
  · rintro ⟨times, all⟩ m among
    exact bounded times s (all m among)
  · intro early
    refine ⟨[⟨⟨0, 0⟩, false⟩], fun m among => ?_⟩
    show m.id ∈ (s.step decode (.poll c ⟨⟨0, 0⟩, false⟩ (.ok messages))).receipts.messageIds
    rw [poll_receipts enabled]
    cases early m among with
    | inl old => exact (Polling.handleAll_receipts _ _).1 old
    | inr batched =>
        obtain ⟨other, among, same⟩ := batched
        rw [same]
        exact Polling.handleAll_records _ _ (fun m among => answered m (mem_pending among))
          (fun m among => goes m (mem_pending among) _) other among

end

def backlog : List IncomingMessage := [{ id := "gmail-1", raw := .ok [1] }, { id := "gmail-2", raw := .ok [] }]

def singleConnector : GmailCollaborativeSignalConnector := { enabled := true, maxInflight := 1 }

theorem backlog_answered : ∀ m ∈ backlog, Polling.Answered m := by
  intro m among
  simp only [backlog, List.mem_cons, List.not_mem_nil, or_false] at among
  rcases among with rfl | rfl
  · exact ⟨⟨[1], rfl⟩, rfl, rfl⟩
  · exact ⟨⟨[], rfl⟩, rfl, rfl⟩

end GmailSystem

end SentinelEdge.Collaboration
