import SentinelEdge.Collaboration.Progress

/-! # What the labels tell

A turn labels a message that has a receipt as processed, whether it was delivered or
rejected when it got the receipt. The labels of a poll tell the outcomes exactly when
no message comes again after it was rejected.
-/

namespace SentinelEdge.Collaboration

open Foundation Domain

namespace GmailSystem

/-- The messages whose envelope the sink has taken. -/
def emittedIds (s : GmailSystem) : List String := s.emitted.map CollaborativeSignalEnvelope.transportMessageId

/-- The message is labelled as processed if its envelope was emitted, and as rejected otherwise. -/
def Told (s : GmailSystem) (messageId : String) : Prop :=
  ((messageId, "sentinel/processed") ∈ s.mailbox ↔ messageId ∈ s.emittedIds) ∧
    ((messageId, "sentinel/rejected") ∈ s.mailbox ↔ messageId ∉ s.emittedIds)

/-- Only messages with a receipt have labels, and only they were emitted. -/
structure Traced (s : GmailSystem) : Prop where
  unlabelled : ∀ entry ∈ s.mailbox, entry.1 ∈ s.receipts.messageIds
  emitted : ∀ id ∈ s.emittedIds, id ∈ s.receipts.messageIds

end GmailSystem

namespace Polling

open GmailSystem

variable {decode : List UInt8 → Except Error InboundSignal} {receivedAt : WireTime} {m : IncomingMessage} {s s' : Polling}
  {r : Except Error Unit} {id : String}

/-- No message is handled after it was rejected: those of the batch that have a receipt
    when their turn comes were emitted. -/
def Unspoiled (decode : List UInt8 → Except Error InboundSignal) (receivedAt : WireTime) : List IncomingMessage → Polling → Prop
  | [], _ => True
  | m :: rest, s => (m.id ∈ s.receipts.messageIds → m.id ∈ s.emittedIds) ∧
      ((handle decode receivedAt m s).1 = .ok () → Unspoiled decode receivedAt rest (handle decode receivedAt m s).2)

def Unspoiled.decide (decode : List UInt8 → Except Error InboundSignal) (receivedAt : WireTime) :
    ∀ batch s, Decidable (Unspoiled decode receivedAt batch s)
  | [], _ => isTrue trivial
  | m :: rest, s =>
      have := Unspoiled.decide decode receivedAt rest (handle decode receivedAt m s).2
      inferInstanceAs (Decidable (_ ∧ ((handle decode receivedAt m s).1 = .ok () → _)))

instance (batch : List IncomingMessage) (s : Polling) : Decidable (Unspoiled decode receivedAt batch s) :=
  Unspoiled.decide decode receivedAt batch s

theorem emittedIds_concat {e : CollaborativeSignalEnvelope} (emitted : s'.emitted = s.emitted ++ [e]) :
    s'.emittedIds = s.emittedIds ++ [e.transportMessageId] := by
  unfold emittedIds
  rw [emitted, List.map_append, List.map_singleton]

theorem emittedIds_same (emitted : s'.emitted = s.emitted) : s'.emittedIds = s.emittedIds := by
  unfold emittedIds
  rw [emitted]

/-- A turn emits its own message at most. -/
theorem Handles.emittedIds_others (handles : Handles m s r s') (other : id ≠ m.id) : id ∈ s'.emittedIds ↔ id ∈ s.emittedIds := by
  cases handles with
  | duplicate known receipts emitted marks => rw [emittedIds_same emitted]
  | aborted new => exact Iff.rfl
  | refused new receipts emitted marks => rw [emittedIds_same emitted]
  | delivered e new message signal identified receipts emitted marks =>
      rw [emittedIds_concat emitted, message, List.mem_append, List.mem_singleton]
      exact or_iff_left other

theorem Handles.relabels (handles : Handles m s r s') : Relabels m.id s s' := by
  cases handles with
  | duplicate known receipts emitted marks => exact marks.toRelabels
  | aborted new => exact ⟨fun _ _ => Iff.rfl, fun all => all⟩
  | refused new receipts emitted marks => exact marks.toRelabels
  | delivered e new message signal identified receipts emitted marks => exact marks.toRelabels

/-- What is told about another message stays told. -/
theorem Handles.told_others (handles : Handles m s r s') (other : id ≠ m.id) : s'.Told id ↔ s.Told id := by
  unfold Told
  rw [handles.relabels.others (id, "sentinel/processed") other, handles.relabels.others (id, "sentinel/rejected") other,
    handles.emittedIds_others other]

/-- A turn that changes anything ends with the receipt of its message. -/
theorem Handles.recorded (handles : Handles m s r s') : s' = s ∨ m.id ∈ s'.receipts.messageIds := by
  cases handles with
  | duplicate known receipts emitted marks => exact Or.inr (receipts ▸ known)
  | aborted new => exact Or.inl rfl
  | refused new receipts emitted marks =>
      rw [receipts]
      exact Or.inr (GmailReceiptStore.mem_messageIds_record.mpr (Or.inl rfl))
  | delivered e new message signal identified receipts emitted marks =>
      rw [receipts]
      exact Or.inr (GmailReceiptStore.mem_messageIds_record.mpr (Or.inl rfl))

theorem Handles.grows (handles : Handles m s r s') (old : id ∈ s.receipts.messageIds) : id ∈ s'.receipts.messageIds := by
  cases handles with
  | duplicate known receipts emitted marks => exact receipts ▸ old
  | aborted new => exact old
  | refused new receipts emitted marks =>
      rw [receipts]
      exact GmailReceiptStore.mem_messageIds_record.mpr (Or.inr old)
  | delivered e new message signal identified receipts emitted marks =>
      rw [receipts]
      exact GmailReceiptStore.mem_messageIds_record.mpr (Or.inr old)

theorem Handles.traced (handles : Handles m s r s') (traced : s.Traced) : s'.Traced := by
  cases handles.recorded with
  | inl same => exact same ▸ traced
  | inr recorded =>
      constructor
      · intro entry member
        by_cases same : entry.1 = m.id
        · rw [same]
          exact recorded
        · exact handles.grows (traced.unlabelled entry ((handles.relabels.others entry same).mp member))
      · intro id member
        by_cases same : id = m.id
        · rw [same]
          exact recorded
        · exact handles.grows (traced.emitted id ((handles.emittedIds_others same).mp member))

/-- After its turn a message tells its outcome, unless it had its receipt from a rejection. -/
theorem Handles.tells (handles : Handles m s (.ok ()) s') (traced : s.Traced) (labelled : s'.labelled = true) :
    s'.Told m.id ↔ (m.id ∈ s.receipts.messageIds → m.id ∈ s.emittedIds) := by
  cases handles with
  | duplicate known receipts emitted marks =>
      unfold Told
      rw [marks.processed labelled, marks.rejected labelled, emittedIds_same emitted]
      constructor
      · intro told _
        exact told.1.mp trivial
      · intro once
        exact ⟨iff_of_true trivial (once known), iff_of_false not_false (not_not_intro (once known))⟩
  | refused new receipts emitted marks =>
      have silent : (m.id, "sentinel/processed") ∉ s.mailbox := fun member => new (traced.unlabelled _ member)
      have unsent : m.id ∉ s.emittedIds := fun member => new (traced.emitted _ member)
      unfold Told
      rw [marks.processed labelled, marks.rejected labelled, emittedIds_same emitted]
      constructor
      · intro _ known
        exact absurd known new
      · intro _
        exact ⟨iff_of_false silent unsent, iff_of_true trivial unsent⟩
  | delivered e new message signal identified receipts emitted marks =>
      have sent : m.id ∈ s'.emittedIds := by
        rw [emittedIds_concat emitted, message]
        exact List.mem_append_right _ (List.mem_singleton_self _)
      unfold Told
      rw [marks.processed labelled, marks.rejected labelled]
      constructor
      · intro _ known
        exact absurd known new
      · intro _
        exact ⟨iff_of_true trivial sent, iff_of_false not_false (not_not_intro sent)⟩

/-- A turn that returns has handled its message, and one that raises has handled none. -/
theorem Handles.handled_ok (handles : Handles m s (.ok ()) s') : s'.handled = s.handled ++ [m.id] := by
  have ended : ∀ {processed rejected : Prop}, Marks m.id (.ok ()) s s' processed rejected → s'.handled = s.handled ++ [m.id] := by
    intro processed rejected marks
    cases marks.ended with
    | inl returned => exact returned.2
    | inr raised =>
        obtain ⟨⟨exc, impossible⟩, -⟩ := raised
        cases impossible
  cases handles with
  | duplicate known receipts emitted marks => exact ended marks
  | refused new receipts emitted marks => exact ended marks
  | delivered e new message signal identified receipts emitted marks => exact ended marks

theorem Handles.stopped {exc : Error} (handles : Handles m s (.error exc) s') (labelled : s'.labelled = true) :
    s' = s ∧ m.id ∉ s.receipts.messageIds := by
  have impossible : ∀ {processed rejected : Prop}, ¬ Marks m.id (.error exc) s s' processed rejected := by
    intro processed rejected marks
    cases marks.ended with
    | inl returned => cases returned.1
    | inr raised =>
        rw [raised.2.2] at labelled
        cases labelled
  cases handles with
  | duplicate known receipts emitted marks => exact absurd marks impossible
  | aborted new => exact ⟨rfl, new⟩
  | refused new receipts emitted marks => exact absurd marks impossible
  | delivered e new message signal identified receipts emitted marks => exact absurd marks impossible

/-! ## The loop -/

theorem handleAll_cons {rest : List IncomingMessage} : handleAll decode receivedAt (m :: rest) s =
    match handle decode receivedAt m s with
    | (.ok _, t) => handleAll decode receivedAt rest t
    | (.error exc, t) => (.error exc, t) := by
  rcases ran : handle decode receivedAt m s with ⟨r, t⟩
  cases r with
  | ok done =>
      rw [handleAll]
      exact Call.bind_of_ok ran
  | error exc => exact handleAll_cons_error ran

theorem handleAll_labelled (batch : List IncomingMessage) : ∀ s : Polling,
    (handleAll decode receivedAt batch s).2.labelled = true → s.labelled = true := by
  induction batch with
  | nil => exact fun s labelled => labelled
  | cons m rest ih =>
      intro s labelled
      have handles := handle_handles decode receivedAt m s
      rw [handleAll_cons] at labelled
      rcases ran : handle decode receivedAt m s with ⟨r, t⟩
      rw [ran] at handles labelled
      cases r with
      | ok done => exact handles.relabels.labelled (ih t labelled)
      | error exc => exact handles.relabels.labelled labelled

/-- Where no message comes again after a rejection, all that are handled tell their outcome. -/
theorem told_of_unspoiled (batch : List IncomingMessage) : ∀ s : Polling, s.Traced →
    (handleAll decode receivedAt batch s).2.labelled = true → Unspoiled decode receivedAt batch s →
    (∀ id ∈ s.handled, s.Told id) →
    ∀ id ∈ (handleAll decode receivedAt batch s).2.handled, (handleAll decode receivedAt batch s).2.Told id := by
  induction batch with
  | nil => exact fun s _ _ _ told => told
  | cons m rest ih =>
      intro s traced labelled unspoiled told
      have handles := handle_handles decode receivedAt m s
      obtain ⟨here, later⟩ := unspoiled
      rw [handleAll_cons] at labelled ⊢
      rcases ran : handle decode receivedAt m s with ⟨r, t⟩
      rw [ran] at handles labelled later
      cases r with
      | error exc =>
          obtain ⟨same, -⟩ := handles.stopped labelled
          rw [same]
          exact told
      | ok done =>
          refine ih t (handles.traced traced) labelled (later rfl) ?_
          intro id member
          by_cases same : id = m.id
          · rw [same]
            exact (handles.tells traced (handleAll_labelled rest t labelled)).mpr here
          · rw [handles.handled_ok, List.mem_append, List.mem_singleton, or_iff_left same] at member
            exact (handles.told_others same).mpr (told id member)

/-- The message has been handled after it was rejected, and is labelled as processed. -/
structure Spoilt (s : Polling) (id : String) : Prop where
  handled : id ∈ s.handled
  known : id ∈ s.receipts.messageIds
  unsent : id ∉ s.emittedIds
  untold : ¬ s.Told id

theorem Handles.spoils (handles : Handles m s (.ok ()) s') (traced : s.Traced) (labelled : s'.labelled = true)
    (known : m.id ∈ s.receipts.messageIds) (unsent : m.id ∉ s.emittedIds) : Spoilt s' m.id where
  handled := by
    rw [handles.handled_ok]
    exact List.mem_append_right _ (List.mem_singleton_self _)
  known := handles.grows known
  unsent := by
    cases handles with
    | duplicate known receipts emitted marks => rwa [emittedIds_same emitted]
    | refused new receipts emitted marks => exact absurd known new
    | delivered e new message signal identified receipts emitted marks => exact absurd known new
  untold told := unsent ((handles.tells traced labelled).mp told known)

theorem spoilt_stays (batch : List IncomingMessage) : ∀ s : Polling, s.Traced →
    (handleAll decode receivedAt batch s).2.labelled = true → Spoilt s id → Spoilt (handleAll decode receivedAt batch s).2 id := by
  induction batch with
  | nil => exact fun s _ _ spoilt => spoilt
  | cons m rest ih =>
      intro s traced labelled spoilt
      have handles := handle_handles decode receivedAt m s
      rw [handleAll_cons] at labelled ⊢
      rcases ran : handle decode receivedAt m s with ⟨r, t⟩
      rw [ran] at handles labelled
      cases r with
      | error exc =>
          obtain ⟨same, -⟩ := handles.stopped labelled
          rw [same]
          exact spoilt
      | ok done =>
          refine ih t (handles.traced traced) labelled ?_
          by_cases same : id = m.id
          · rw [same] at spoilt ⊢
            exact handles.spoils traced (handleAll_labelled rest t labelled) spoilt.known spoilt.unsent
          · exact
              { handled := by
                  rw [handles.handled_ok]
                  exact List.mem_append_left _ spoilt.handled
                known := handles.grows spoilt.known
                unsent := mt (handles.emittedIds_others same).mp spoilt.unsent
                untold := mt (handles.told_others same).mp spoilt.untold }

theorem unspoiled_of_told (batch : List IncomingMessage) : ∀ s : Polling, s.Traced →
    (handleAll decode receivedAt batch s).2.labelled = true →
    (∀ id ∈ (handleAll decode receivedAt batch s).2.handled, (handleAll decode receivedAt batch s).2.Told id) →
    Unspoiled decode receivedAt batch s := by
  induction batch with
  | nil => exact fun s _ _ _ => trivial
  | cons m rest ih =>
      intro s traced labelled told
      have handles := handle_handles decode receivedAt m s
      rw [handleAll_cons] at labelled told
      rw [Unspoiled]
      rcases ran : handle decode receivedAt m s with ⟨r, t⟩
      rw [ran] at handles labelled told
      cases r with
      | error exc =>
          constructor
          · intro known
            exact absurd known (handles.stopped labelled).2
          · intro impossible
            cases impossible
      | ok done =>
          constructor
          · intro known
            by_contra unsent
            have spoilt := handles.spoils traced (handleAll_labelled rest t labelled) known unsent
            have stays := spoilt_stays rest t (handles.traced traced) labelled spoilt
            exact stays.untold (told m.id stays.handled)
          · intro _
            exact ih t (handles.traced traced) labelled told

theorem told_iff_unspoiled {batch : List IncomingMessage} (traced : s.Traced) (fresh : s.handled = [])
    (labelled : (handleAll decode receivedAt batch s).2.labelled = true) :
    (∀ id ∈ (handleAll decode receivedAt batch s).2.handled, (handleAll decode receivedAt batch s).2.Told id) ↔
      Unspoiled decode receivedAt batch s := by
  constructor
  · exact unspoiled_of_told batch s traced labelled
  · intro unspoiled
    refine told_of_unspoiled batch s traced labelled unspoiled ?_
    rw [fresh]
    exact fun id member => nomatch member

end Polling

/-! ## Polls and runs -/

namespace GmailSystem

section

variable {decode : List UInt8 → Except Error InboundSignal}

theorem handleAll_traced (receivedAt : WireTime) (batch : List IncomingMessage) :
    Call.Preserves (fun s : Polling => s.Traced) (Polling.handleAll decode receivedAt batch) := by
  induction batch with
  | nil => exact .pure ()
  | cons m rest ih => exact Call.Preserves.bind (fun s traced => (Polling.handle_handles decode receivedAt m s).traced traced) fun _ => ih

theorem pollOnce_traced (c : GmailCollaborativeSignalConnector) (receivedAt : WireTime)
    (listing : Except Error (List IncomingMessage)) :
    Call.Preserves (fun s : Polling => s.Traced) (c.pollOnce decode receivedAt listing) := by
  unfold GmailCollaborativeSignalConnector.pollOnce
  split
  · refine Call.Preserves.bind (.lift listing) fun messages => ?_
    refine Call.Preserves.bind (.modify fun s traced => ⟨traced.unlabelled, traced.emitted⟩) fun _ => ?_
    exact (handleAll_traced receivedAt _).bind fun _ => .read _
  · exact Call.Preserves.bind (.modify fun s traced => ⟨traced.unlabelled, traced.emitted⟩) fun _ => .read _

theorem traced_throughout {durable : Bool} {file : Option ReceiptFile} {ops : List GmailOperation}
    (reloads : Meets (step decode) Reloads (start durable file) ops) :
    (run (step decode) (start durable file) ops).Traced := by
  have both : Kept (run (step decode) (start durable file) ops) ∧ (run (step decode) (start durable file) ops).Traced := by
    have init : (start durable file).Traced := ⟨(fun _ member => nomatch member), (fun _ member => nomatch member)⟩
    refine Meets.invariant (I := fun s => Kept s ∧ s.Traced) ?_ ⟨start_kept durable file, init⟩ reloads
    rintro s op reload ⟨kept, traced⟩
    cases op with
    | poll c receivedAt listing =>
        have starts : (c.begin s).Traced := ⟨traced.unlabelled, traced.emitted⟩
        exact ⟨pollOnce_kept decode c receivedAt listing (c.begin s) kept, pollOnce_traced c receivedAt listing (c.begin s) starts⟩
    | restart =>
        have reloaded : (s.step decode .restart).receipts = GmailReceiptStore.load true s.receipts.file := by
          rw [← (show s.receipts.durable = true from reload)]
          rfl
        refine ⟨restart_kept kept reload, ?_, ?_⟩
        · intro entry member
          rw [reloaded]
          exact ((kept.2 reload _).1).mpr (traced.unlabelled entry member)
        · intro id member
          rw [reloaded]
          exact ((kept.2 reload _).1).mpr (traced.emitted id member)
  exact both.2

/-- The poll after these operations. -/
def lastPoll (decode : List UInt8 → Except Error InboundSignal) (durable : Bool) (file : Option ReceiptFile) (ops : List GmailOperation)
    (c : GmailCollaborativeSignalConnector) (receivedAt : WireTime) (listing : Except Error (List IncomingMessage)) : Polling :=
  (c.pollOnce decode receivedAt listing (c.begin (run (step decode) (start durable file) ops))).2

/-- In no turn of the poll comes a message that has been rejected. -/
def NoneReturns (decode : List UInt8 → Except Error InboundSignal) (c : GmailCollaborativeSignalConnector) (receivedAt : WireTime)
    (listing : Except Error (List IncomingMessage)) (s : GmailSystem) : Prop :=
  c.enabled = true → ∀ messages, listing = .ok messages →
    Polling.Unspoiled decode receivedAt (c.pending messages) (enter c messages s)

theorem labels_tell_iff {durable : Bool} (file : Option ReceiptFile) {ops : List GmailOperation}
    (reloads : durable = true ∨ GmailOperation.restart ∉ ops) (c : GmailCollaborativeSignalConnector) (receivedAt : WireTime)
    (listing : Except Error (List IncomingMessage)) (labelled : (lastPoll decode durable file ops c receivedAt listing).labelled = true) :
    (∀ id ∈ (lastPoll decode durable file ops c receivedAt listing).handled,
      (lastPoll decode durable file ops c receivedAt listing).Told id) ↔
      NoneReturns decode c receivedAt listing (run (step decode) (start durable file) ops) := by
  have reloads : (start durable file).receipts.durable = true ∨ GmailOperation.restart ∉ ops :=
    reloads.imp (fun on => (load_durable durable file).trans on) id
  have traced := traced_throughout (meets_reloads decode reloads)
  unfold lastPoll NoneReturns at *
  generalize run (step decode) (start durable file) ops = s at traced labelled ⊢
  cases enabled : c.enabled with
  | false =>
      have idle : (c.pollOnce decode receivedAt listing (c.begin s)).2.handled = [] := by
        unfold GmailCollaborativeSignalConnector.pollOnce
        rw [if_neg (by rw [enabled]; decide)]
        rfl
      rw [idle]
      constructor
      · intro _ impossible
        cases impossible
      · exact fun _ id member => nomatch member
  | true =>
      cases listing with
      | error exc =>
          have idle : (c.pollOnce decode receivedAt (.error exc) (c.begin s)).2.handled = [] := by
            unfold GmailCollaborativeSignalConnector.pollOnce
            rw [if_pos enabled]
            rfl
          rw [idle]
          constructor
          · intro _ _ messages impossible
            cases impossible
          · exact fun _ id member => nomatch member
      | ok messages =>
          have starts : (enter c messages s).Traced := ⟨traced.unlabelled, traced.emitted⟩
          rw [pollOnce_state enabled] at labelled ⊢
          rw [Polling.told_iff_unspoiled starts rfl labelled]
          constructor
          · intro unspoiled _ other same
            cases same
            exact unspoiled
          · intro unspoiled
            exact unspoiled rfl messages rfl

end

/-- The report of the backlog is delivered, and its other message rejected. -/
theorem first_labels_tell : let p := lastPoll decodeReport false none [] demoConnector ⟨⟨0, 0⟩, false⟩ (.ok backlog)
    p.handled = ["gmail-1", "gmail-2"] ∧ ∀ id ∈ p.handled, p.Told id :=
  ⟨by decide +kernel, (labels_tell_iff none (Or.inr (by simp)) demoConnector ⟨⟨0, 0⟩, false⟩ (.ok backlog) (by decide +kernel)).mpr (by
    intro _ messages same
    cases same
    decide +kernel)⟩

/-- One poll later the rejected message is labelled as processed. -/
theorem rejection_is_forgotten :
    let p := lastPoll decodeReport false none [demoPoll backlog] demoConnector ⟨⟨0, 0⟩, false⟩ (.ok backlog)
    p.labelled = true ∧ ¬ ∀ id ∈ p.handled, p.Told id := by
  unfold Told
  decide +kernel

end GmailSystem

end SentinelEdge.Collaboration
