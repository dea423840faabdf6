import Mathlib.Data.List.Dedup
import SentinelEdge.Collaboration.Gmail
import SentinelEdge.Foundation.Checks

/-! # Delivery at most once

What one turn of a poll does, and from it what polls and restarts do: no message and
no signal is given to the sink twice.
-/

namespace SentinelEdge.Collaboration

open Foundation Foundation.Checks Domain

theorem Mailbox.mem_relabel {box : Mailbox} {messageId : String} {add remove : List String} {entry : String × String} :
    entry ∈ box.relabel messageId add remove ↔
      (entry ∈ box ∧ ¬ (entry.1 = messageId ∧ entry.2 ∈ remove)) ∨ entry.1 = messageId ∧ entry.2 ∈ add := by
  unfold Mailbox.relabel
  rw [List.mem_append, List.mem_filter, decide_eq_true_eq]
  apply or_congr Iff.rfl
  constructor
  · intro among
    obtain ⟨label, member, rfl⟩ := List.mem_map.mp among
    exact ⟨rfl, member⟩
  · rintro ⟨same, member⟩
    exact List.mem_map.mpr ⟨entry.2, member, by rw [← same]⟩

namespace GmailReceiptStore

variable {s : GmailReceiptStore} {messageId : String} {signalId : Option String}

theorem record_eq (messageId : String) (signalId : Option String) (s : GmailReceiptStore) : record messageId signalId s =
    written { s with
      messageIds := s.messageIds.insert messageId
      signalIds := match signalId with
        | none => s.signalIds
        | some id => if id = "" then s.signalIds else s.signalIds.insert id } := by
  unfold record
  cases signalId with
  | none => rfl
  | some id =>
      by_cases empty : id = ""
      · simp only [if_pos empty]
      · simp only [if_neg empty]

theorem written_messageIds : (written s).messageIds = s.messageIds := by
  unfold written
  split
  · rfl
  · rfl

theorem written_signalIds : (written s).signalIds = s.signalIds := by
  unfold written
  split
  · rfl
  · rfl

theorem written_durable : (written s).durable = s.durable := by
  unfold written
  split
  · rfl
  · rfl

theorem written_again : written (written s) = written s := by
  cases durable : s.durable with
  | true => simp [written, durable]
  | false => simp [written, durable]

theorem mem_messageIds_record {id : String} : id ∈ (record messageId signalId s).messageIds ↔ id = messageId ∨ id ∈ s.messageIds := by
  rw [record_eq, written_messageIds]
  exact List.mem_insert_iff

theorem mem_signalIds_record {id : String} (identified : id ≠ "") :
    id ∈ (record messageId signalId s).signalIds ↔ signalId = some id ∨ id ∈ s.signalIds := by
  rw [record_eq, written_signalIds]
  cases signalId with
  | none => simp
  | some other =>
      dsimp only
      split
      · next empty =>
          constructor
          · exact Or.inr
          · rintro (same | old)
            · cases same
              exact absurd empty identified
            · exact old
      · rw [List.mem_insert_iff, Option.some.injEq, eq_comm]

/-- A message that has its receipt gets no other. -/
theorem record_again : record messageId none (record messageId signalId s) = record messageId signalId s := by
  have known : messageId ∈ (record messageId signalId s).messageIds := mem_messageIds_record.mpr (Or.inl rfl)
  rw [record_eq messageId none]
  dsimp only
  rw [List.insert_of_mem known]
  show written (record messageId signalId s) = record messageId signalId s
  rw [record_eq, written_again]

end GmailReceiptStore

namespace Polling

variable {decode : List UInt8 → Except Error InboundSignal} {receivedAt : WireTime} {m : IncomingMessage} {s : Polling}

/-! ## One turn -/

/-- The labels of the other messages stay, and a failed call is not forgotten. -/
structure Relabels (messageId : String) (s s' : Polling) : Prop where
  others : ∀ entry : String × String, entry.1 ≠ messageId → (entry ∈ s'.mailbox ↔ entry ∈ s.mailbox)
  labelled : s'.labelled = true → s.labelled = true

/-- A turn ends with the message handled and these labels on it, unless a call of
    `modify_labels` raises. -/
structure Marks (messageId : String) (r : Except Error Unit) (s s' : Polling) (processed rejected : Prop) : Prop
    extends Relabels messageId s s' where
  ended : (r = .ok () ∧ s'.handled = s.handled ++ [messageId]) ∨
    (∃ exc, r = .error exc) ∧ s'.handled = s.handled ∧ s'.labelled = false
  processed : s'.labelled = true → ((messageId, "sentinel/processed") ∈ s'.mailbox ↔ processed)
  rejected : s'.labelled = true → ((messageId, "sentinel/rejected") ∈ s'.mailbox ↔ rejected)

/-- The ways a turn can end. -/
inductive Handles (m : IncomingMessage) (s : Polling) : Except Error Unit → Polling → Prop where
  | duplicate {r : Except Error Unit} {s' : Polling} (known : m.id ∈ s.receipts.messageIds) (receipts : s'.receipts = s.receipts)
      (emitted : s'.emitted = s.emitted) (marks : Marks m.id r s s' True False) : Handles m s r s'
  | aborted {exc : Error} (new : m.id ∉ s.receipts.messageIds) : Handles m s (.error exc) s
  | refused {r : Except Error Unit} {s' : Polling} (new : m.id ∉ s.receipts.messageIds)
      (receipts : s'.receipts = s.receipts.record m.id none) (emitted : s'.emitted = s.emitted)
      (marks : Marks m.id r s s' ((m.id, "sentinel/processed") ∈ s.mailbox) True) : Handles m s r s'
  | delivered {r : Except Error Unit} {s' : Polling} (e : CollaborativeSignalEnvelope) (new : m.id ∉ s.receipts.messageIds)
      (message : e.transportMessageId = m.id) (signal : e.signalId ∉ s.receipts.signalIds) (identified : e.signalId ≠ "")
      (receipts : s'.receipts = s.receipts.record m.id (some e.signalId)) (emitted : s'.emitted = s.emitted ++ [e])
      (marks : Marks m.id r s s' True False) : Handles m s r s'

/-- What a call of `modify_labels` changes. -/
structure Modifies (messageId : String) (add remove : List String) (r : Except Error Unit) (s s' : Polling) : Prop
    extends Relabels messageId s s' where
  receipts : s'.receipts = s.receipts
  emitted : s'.emitted = s.emitted
  handled : s'.handled = s.handled
  ended : (r = .ok () ∧ s'.mailbox = s.mailbox.relabel messageId add remove) ∨ (∃ exc, r = .error exc) ∧ s'.labelled = false

theorem relabel_others {box : Mailbox} {messageId : String} {add remove : List String} {entry : String × String}
    (other : entry.1 ≠ messageId) : entry ∈ box.relabel messageId add remove ↔ entry ∈ box := by
  rw [Mailbox.mem_relabel]
  constructor
  · rintro (⟨old, -⟩ | ⟨same, -⟩)
    · exact old
    · exact absurd same other
  · intro old
    exact Or.inl ⟨old, fun same => other same.1⟩

theorem modifyLabels_modifies (messageId : String) (add remove : List String) (call : LabelCall) (s : Polling) :
    Modifies messageId add remove (modifyLabels messageId add remove call s).1 s (modifyLabels messageId add remove call s).2 := by
  cases call with
  | returns =>
      exact
        { others := fun entry other => relabel_others other
          labelled := id
          receipts := rfl
          emitted := rfl
          handled := rfl
          ended := Or.inl ⟨rfl, rfl⟩ }
  | raises exc applied =>
      cases applied with
      | false =>
          exact
            { others := fun entry other => Iff.rfl
              labelled := fun failed => nomatch failed
              receipts := rfl
              emitted := rfl
              handled := rfl
              ended := Or.inr ⟨⟨exc, rfl⟩, rfl⟩ }
      | true =>
          exact
            { others := fun entry other => relabel_others other
              labelled := fun failed => nomatch failed
              receipts := rfl
              emitted := rfl
              handled := rfl
              ended := Or.inr ⟨⟨exc, rfl⟩, rfl⟩ }

section

variable {s' t : Polling} {r : Except Error Unit} {add remove : List String}

/-- The message is handled when the call of `modify_labels` returns. -/
theorem Modifies.marks_ok (modifies : Modifies m.id add remove (.ok ()) s t) (s' : Polling) (mailbox : s'.mailbox = t.mailbox)
    (handled : s'.handled = t.handled ++ [m.id]) (labelled : s'.labelled = t.labelled) :
    Marks m.id (.ok ()) s s'
      (("sentinel/processed" ∈ add) ∨ (m.id, "sentinel/processed") ∈ s.mailbox ∧ "sentinel/processed" ∉ remove)
      (("sentinel/rejected" ∈ add) ∨ (m.id, "sentinel/rejected") ∈ s.mailbox ∧ "sentinel/rejected" ∉ remove) := by
  have ended := modifies.ended
  have relabelled : t.mailbox = s.mailbox.relabel m.id add remove := by
    cases ended with
    | inl returned => exact returned.2
    | inr raised =>
        obtain ⟨⟨exc, impossible⟩, -⟩ := raised
        cases impossible
  have label : ∀ name, (m.id, name) ∈ s'.mailbox ↔ name ∈ add ∨ (m.id, name) ∈ s.mailbox ∧ name ∉ remove := by
    intro name
    rw [mailbox, relabelled, Mailbox.mem_relabel]
    simp [or_comm]
  exact
    { others := fun entry other => by rw [mailbox, modifies.others entry other]
      labelled := fun all => modifies.labelled (labelled ▸ all)
      ended := Or.inl ⟨rfl, by rw [handled, modifies.handled]⟩
      processed := fun _ => label _
      rejected := fun _ => label _ }

/-- Where a call of `modify_labels` has raised, nothing is said about the labels. -/
theorem Relabels.marks_failed (relabels : Relabels m.id s s') (processed rejected : Prop) (failed : s'.labelled = false)
    (ended : (r = .ok () ∧ s'.handled = s.handled ++ [m.id]) ∨ (∃ exc, r = .error exc) ∧ s'.handled = s.handled) :
    Marks m.id r s s' processed rejected :=
  { relabels with
    ended := ended.imp id fun raised => ⟨raised.1, raised.2, failed⟩
    processed := fun all => absurd all (by rw [failed]; decide)
    rejected := fun all => absurd all (by rw [failed]; decide) }

theorem Marks.of_same {processed rejected processed' rejected' : Prop} (marks : Marks m.id r t s' processed rejected)
    (mailbox : t.mailbox = s.mailbox) (handled : t.handled = s.handled) (labelled : t.labelled = true → s.labelled = true)
    (same : processed ↔ processed') (same' : rejected ↔ rejected') : Marks m.id r s s' processed' rejected' where
  others entry other := by rw [marks.others entry other, mailbox]
  labelled all := labelled (marks.labelled all)
  ended := by
    have ended := marks.ended
    rw [handled] at ended
    exact ended
  processed all := (marks.processed all).trans same
  rejected all := (marks.rejected all).trans same'

theorem handles_known (known : m.id ∈ s.receipts.messageIds) :
    Handles m s (handle decode receivedAt m s).1 (handle decode receivedAt m s).2 := by
  have modifies := modifyLabels_modifies m.id ["sentinel/processed"] ["sentinel/rejected"] m.processed
    { s with duplicate := s.duplicate + 1 }
  have unfolds : handle decode receivedAt m s =
      (labelProcessed m >>= fun _ => Call.modify (fun s => { s with handled := s.handled ++ [m.id] }))
        { s with duplicate := s.duplicate + 1 } := by
    unfold handle
    rw [Call.read_bind]
    simp only [GmailReceiptStore.hasMessage, id, decide_eq_true known, if_true, Call.modify_bind]
  rw [unfolds]
  change Modifies _ _ _ (labelProcessed m _).1 _ (labelProcessed m _).2 at modifies
  rcases ran : labelProcessed m { s with duplicate := s.duplicate + 1 } with ⟨r, t⟩
  rw [ran] at modifies
  cases modifies.ended with
  | inl returned =>
      obtain ⟨rfl, -⟩ := returned
      rw [Call.bind_of_ok ran]
      have marks := modifies.marks_ok { t with handled := t.handled ++ [m.id] } rfl rfl rfl
      exact .duplicate known modifies.receipts modifies.emitted (marks.of_same rfl rfl id (by simp) (by simp))
  | inr raised =>
      obtain ⟨⟨exc, rfl⟩, failed⟩ := raised
      rw [Call.bind_of_error ran]
      have marks := modifies.toRelabels.marks_failed (m := m) (r := .error exc) True False failed
        (Or.inr ⟨⟨exc, rfl⟩, modifies.handled⟩)
      exact .duplicate known modifies.receipts modifies.emitted (marks.of_same rfl rfl id Iff.rfl Iff.rfl)

/-- What comes after the `try` statement of a turn. -/
def finish (m : IncomingMessage) : PollCall Unit :=
  Call.modify (fun s => { s with cursor := some m.id, handled := s.handled ++ [m.id] })

/-- The handler records the message before it labels it. -/
theorem reject_spec (m : IncomingMessage) (exc : Error) (s : Polling) : ∃ r s',
    (reject m exc >>= fun _ => finish m) s = (r, s') ∧ s'.receipts = s.receipts.record m.id none ∧ s'.emitted = s.emitted ∧
      Marks m.id r s s' ((m.id, "sentinel/processed") ∈ s.mailbox) True := by
  have modifies := modifyLabels_modifies m.id ["sentinel/rejected"] [] m.rejected
    { s with rejected := s.rejected + 1, reasons := s.reasons ++ [.raised exc], receipts := s.receipts.record m.id none }
  have unfolds : (reject m exc >>= fun _ => finish m) s = (labelRejected m >>= fun _ => finish m)
      { s with rejected := s.rejected + 1, reasons := s.reasons ++ [.raised exc], receipts := s.receipts.record m.id none } := by
    unfold reject
    rw [bind_assoc, Call.modify_bind, bind_assoc, Call.modify_bind]
  rw [unfolds]
  change Modifies _ _ _ (labelRejected m _).1 _ (labelRejected m _).2 at modifies
  generalize ran : labelRejected m _ = after at modifies
  obtain ⟨r, t⟩ := after
  cases modifies.ended with
  | inl returned =>
      obtain ⟨rfl, -⟩ := returned
      rw [Call.bind_of_ok ran]
      have marks := modifies.marks_ok { t with cursor := some m.id, handled := t.handled ++ [m.id] } rfl rfl rfl
      exact ⟨_, _, rfl, modifies.receipts, modifies.emitted, marks.of_same rfl rfl id (by simp) (by simp)⟩
  | inr raised =>
      obtain ⟨⟨exc, rfl⟩, failed⟩ := raised
      rw [Call.bind_of_error ran]
      have marks := modifies.toRelabels.marks_failed (m := m) (r := .error exc)
        ((m.id, "sentinel/processed") ∈ s.mailbox) True failed (Or.inr ⟨⟨exc, rfl⟩, modifies.handled⟩)
      exact ⟨_, _, rfl, modifies.receipts, modifies.emitted, marks.of_same rfl rfl id Iff.rfl Iff.rfl⟩

/-- The end of a turn whose `try` raised. -/
def caught (m : IncomingMessage) (exc : Error) : PollCall Unit :=
  if exc.isValueError then reject m exc >>= fun _ => finish m else Call.raise exc

theorem handle_of_error {exc : Error} {t : Polling} (new : m.id ∉ s.receipts.messageIds)
    (raised : deliver decode receivedAt m s = (.error exc, t)) : handle decode receivedAt m s = caught m exc t := by
  have tried : Call.attempt (deliver decode receivedAt m) s = (.ok (.error exc), t) := by rw [Call.attempt_apply, raised]
  unfold handle caught
  rw [Call.read_bind]
  simp only [GmailReceiptStore.hasMessage, id, decide_eq_false new, Bool.false_eq_true, if_false]
  rw [Call.bind_of_ok tried]
  by_cases value : exc.isValueError
  · simp only [if_pos value]
    rfl
  · simp only [if_neg value]
    rfl

theorem handle_of_ok {t : Polling} (new : m.id ∉ s.receipts.messageIds)
    (returned : deliver decode receivedAt m s = (.ok (), t)) : handle decode receivedAt m s = finish m t := by
  have tried : Call.attempt (deliver decode receivedAt m) s = (.ok (.ok ()), t) := by rw [Call.attempt_apply, returned]
  unfold handle
  rw [Call.read_bind]
  simp only [GmailReceiptStore.hasMessage, id, decide_eq_false new, Bool.false_eq_true, if_false]
  rw [Call.bind_of_ok tried]
  rfl

/-- The `try` raised before the sink returned. -/
theorem caught_handles (new : m.id ∉ s.receipts.messageIds) (exc : Error) :
    Handles m s (caught m exc s).1 (caught m exc s).2 := by
  unfold caught
  by_cases value : exc.isValueError
  · rw [if_pos value]
    obtain ⟨r, s', ran, receipts, emitted, marks⟩ := reject_spec m exc s
    rw [ran]
    exact .refused new receipts emitted marks
  · rw [if_neg value]
    exact .aborted new

/-- The state in which the sink has returned and the message has its receipt. -/
def received (m : IncomingMessage) (e : CollaborativeSignalEnvelope) (s : Polling) : Polling :=
  { s with emitted := s.emitted ++ [e], receipts := s.receipts.record m.id (some e.signalId) }

theorem deliver_of_error {exc : Error} (refused : admitted decode receivedAt m s = .error exc) :
    deliver decode receivedAt m s = (.error exc, s) := by
  unfold deliver
  rw [Call.read_bind, id, refused]
  rfl

theorem deliver_of_raise {e : CollaborativeSignalEnvelope} {exc : Error} (admits : admitted decode receivedAt m s = .ok e)
    (raises : m.emitted = .error exc) : deliver decode receivedAt m s = (.error exc, s) := by
  unfold deliver
  rw [Call.read_bind, id, admits, raises]
  rfl

theorem deliver_of_ok {e : CollaborativeSignalEnvelope} (admits : admitted decode receivedAt m s = .ok e) (returns : m.emitted = .ok ()) :
    deliver decode receivedAt m s =
      (labelProcessed m >>= fun _ => Call.modify (fun s => { s with envelopes := s.envelopes ++ [e], accepted := s.accepted + 1 }))
        (received m e s) := by
  unfold deliver
  rw [Call.read_bind, id, admits, returns]
  rfl

theorem envelopeOf_ok {messageId : String} {signal : InboundSignal} {decision : ValidationDecision} {e : CollaborativeSignalEnvelope}
    (built : envelopeOf messageId receivedAt signal decision = .ok e) :
    e.transportMessageId = messageId ∧ e.signal = signal.toCollaborativeSignal := by
  unfold envelopeOf at built
  split at built
  · cases built
  · cases built
    exact ⟨rfl, rfl⟩

theorem mem_seenSignalIds {signal : InboundSignal} (known : signal.signalId ∈ s.receipts.signalIds) :
    signal.signalId ∈ s.seenSignalIds signal := by
  unfold seenSignalIds GmailReceiptStore.hasSignal
  simp only [decide_eq_true known, if_true]
  exact List.mem_insert_self

/-- An envelope that is admitted is that of the message, with a signal that has no receipt. -/
theorem admitted_ok {e : CollaborativeSignalEnvelope} (admits : admitted decode receivedAt m s = .ok e) :
    e.transportMessageId = m.id ∧ e.signalId ∉ s.receipts.signalIds ∧ e.signalId ≠ "" := by
  obtain ⟨raw, -, admits⟩ := bind_eq_ok.mp admits
  obtain ⟨signal, -, admits⟩ := bind_eq_ok.mp admits
  obtain ⟨decision, validated, admits⟩ := bind_eq_ok.mp admits
  split at admits
  · next accepted =>
      obtain ⟨message, same⟩ := envelopeOf_ok admits
      have unseen := CollaborativeInboundValidator.validate_accepted validated accepted
      have id : e.signalId = signal.signalId := congrArg CollaborativeSignal.signalId same
      rw [id]
      exact ⟨message, fun known => unseen (mem_seenSignalIds known), signal.identified⟩
  · cases admits

theorem received_handles {e : CollaborativeSignalEnvelope} (new : m.id ∉ s.receipts.messageIds)
    (admits : admitted decode receivedAt m s = .ok e) (returns : m.emitted = .ok ()) :
    Handles m s (handle decode receivedAt m s).1 (handle decode receivedAt m s).2 := by
  obtain ⟨message, signal, identified⟩ := admitted_ok admits
  have modifies := modifyLabels_modifies m.id ["sentinel/processed"] ["sentinel/rejected"] m.processed (received m e s)
  have delivers := deliver_of_ok admits returns
  change Modifies _ _ _ (labelProcessed m _).1 _ (labelProcessed m _).2 at modifies
  generalize ran : labelProcessed m (received m e s) = after at modifies
  obtain ⟨r, t⟩ := after
  cases modifies.ended with
  | inl returned =>
      obtain ⟨rfl, -⟩ := returned
      rw [Call.bind_of_ok ran] at delivers
      rw [handle_of_ok new delivers]
      have marks := modifies.marks_ok { t with
        envelopes := t.envelopes ++ [e], accepted := t.accepted + 1, cursor := some m.id, handled := t.handled ++ [m.id] } rfl rfl rfl
      exact .delivered e new message signal identified modifies.receipts modifies.emitted
        (marks.of_same rfl rfl id (by simp) (by simp))
  | inr raised =>
      obtain ⟨⟨exc, rfl⟩, failed⟩ := raised
      rw [Call.bind_of_error ran] at delivers
      rw [handle_of_error new delivers]
      unfold caught
      by_cases value : exc.isValueError
      · rw [if_pos value]
        obtain ⟨r, s', ran, receipts, emitted, marks⟩ := reject_spec m exc t
        rw [ran]
        have still : s'.labelled = false := by
          cases all : s'.labelled with
          | false => rfl
          | true => exact absurd (marks.labelled all) (by rw [failed]; decide)
        have ended : (r = .ok () ∧ s'.handled = s.handled ++ [m.id]) ∨ (∃ exc, r = .error exc) ∧ s'.handled = s.handled := by
          cases marks.ended with
          | inl returned => exact Or.inl ⟨returned.1, returned.2.trans (congrArg (· ++ [m.id]) modifies.handled)⟩
          | inr raised => exact Or.inr ⟨raised.1, raised.2.1.trans modifies.handled⟩
        have relabels : Relabels m.id s s' :=
          ⟨fun entry other => (marks.others entry other).trans (modifies.others entry other),
            fun all => modifies.labelled (marks.labelled all)⟩
        refine .delivered e new message signal identified ?_ (emitted.trans modifies.emitted) (relabels.marks_failed _ _ still ended)
        rw [receipts, modifies.receipts]
        exact GmailReceiptStore.record_again
      · rw [if_neg value]
        have marks := modifies.toRelabels.marks_failed (m := m) (r := .error exc) True False failed
          (Or.inr ⟨⟨exc, rfl⟩, modifies.handled⟩)
        exact .delivered e new message signal identified modifies.receipts modifies.emitted (marks.of_same rfl rfl id Iff.rfl Iff.rfl)

theorem handle_handles (decode : List UInt8 → Except Error InboundSignal) (receivedAt : WireTime) (m : IncomingMessage) (s : Polling) :
    Handles m s (handle decode receivedAt m s).1 (handle decode receivedAt m s).2 := by
  by_cases known : m.id ∈ s.receipts.messageIds
  · exact handles_known known
  · cases admits : admitted decode receivedAt m s with
    | error exc =>
        rw [handle_of_error known (deliver_of_error admits)]
        exact caught_handles known exc
    | ok e =>
        cases returns : m.emitted with
        | error exc =>
            rw [handle_of_error known (deliver_of_raise admits returns)]
            exact caught_handles known exc
        | ok done => exact received_handles known admits returns

end

end Polling

/-! ## Whole polls -/

namespace GmailSystem

/-- All that was given to the sink has its receipts, and nothing was given twice. -/
structure Delivered (s : GmailSystem) : Prop where
  messages : (s.emitted.map CollaborativeSignalEnvelope.transportMessageId).Nodup
  signals : (s.emitted.map CollaborativeSignalEnvelope.signalId).Nodup
  receipted : ∀ e ∈ s.emitted, e.transportMessageId ∈ s.receipts.messageIds ∧ e.signalId ∈ s.receipts.signalIds ∧ e.signalId ≠ ""

/-- The file of a store that has one holds the ids that are in memory. -/
def Saved (s : GmailReceiptStore) : Prop :=
  s.durable = true → ∀ id, (id ∈ (GmailReceiptStore.load true s.file).messageIds ↔ id ∈ s.messageIds) ∧
    (id ∈ (GmailReceiptStore.load true s.file).signalIds ↔ id ∈ s.signalIds)

theorem nodup_map_concat {α : Type} {f : α → String} {items : List α} {item : α} (distinct : (items.map f).Nodup)
    (new : ∀ old ∈ items, f old ≠ f item) : ((items ++ [item]).map f).Nodup := by
  rw [List.map_append, List.map_singleton]
  refine List.nodup_append.mpr ⟨distinct, List.nodup_singleton _, ?_⟩
  rintro a old b same rfl
  obtain ⟨other, among, rfl⟩ := List.mem_map.mp old
  exact new other among (List.mem_singleton.mp same)

theorem delivered_of_record {s s' : GmailSystem} {messageId : String} (delivered : Delivered s)
    (receipts : s'.receipts = s.receipts.record messageId none) (emitted : s'.emitted = s.emitted) : Delivered s' where
  messages := emitted ▸ delivered.messages
  signals := emitted ▸ delivered.signals
  receipted e member := by
    rw [emitted] at member
    obtain ⟨message, signal, identified⟩ := delivered.receipted e member
    rw [receipts]
    exact ⟨GmailReceiptStore.mem_messageIds_record.mpr (Or.inr message),
      (GmailReceiptStore.mem_signalIds_record identified).mpr (Or.inr signal), identified⟩

theorem delivered_of_emit {s s' : GmailSystem} {e : CollaborativeSignalEnvelope} (delivered : Delivered s)
    (message : e.transportMessageId ∉ s.receipts.messageIds) (signal : e.signalId ∉ s.receipts.signalIds) (identified : e.signalId ≠ "")
    (receipts : s'.receipts = s.receipts.record e.transportMessageId (some e.signalId)) (emitted : s'.emitted = s.emitted ++ [e]) :
    Delivered s' where
  messages := by
    rw [emitted]
    exact nodup_map_concat delivered.messages fun old member same => message (same ▸ (delivered.receipted old member).1)
  signals := by
    rw [emitted]
    exact nodup_map_concat delivered.signals fun old member same => signal (same ▸ (delivered.receipted old member).2.1)
  receipted old member := by
    rw [emitted] at member
    rw [receipts]
    cases List.mem_append.mp member with
    | inl before =>
        obtain ⟨known, seen, named⟩ := delivered.receipted old before
        exact ⟨GmailReceiptStore.mem_messageIds_record.mpr (Or.inr known),
          (GmailReceiptStore.mem_signalIds_record named).mpr (Or.inr seen), named⟩
    | inr now =>
        rw [List.mem_singleton.mp now]
        exact ⟨GmailReceiptStore.mem_messageIds_record.mpr (Or.inl rfl),
          (GmailReceiptStore.mem_signalIds_record identified).mpr (Or.inl rfl), identified⟩

theorem saved_record {s : GmailReceiptStore} (messageId : String) (signalId : Option String) : Saved (s.record messageId signalId) := by
  intro durable id
  rw [GmailReceiptStore.record_eq] at durable ⊢
  rw [GmailReceiptStore.written_durable] at durable
  dsimp only at durable
  unfold GmailReceiptStore.written
  simp only [durable, if_true, GmailReceiptStore.load, List.mem_dedup, List.mem_insertionSort, and_self]

theorem saved_load (durable : Bool) (file : Option ReceiptFile) : Saved (GmailReceiptStore.load durable file) := by
  intro durable' id
  cases durable with
  | false =>
      cases file with
      | none => cases durable'
      | some payload => cases durable'
  | true =>
      cases file with
      | none => exact ⟨Iff.rfl, Iff.rfl⟩
      | some payload => exact ⟨Iff.rfl, Iff.rfl⟩

/-- What every turn, and so every poll, keeps. -/
def Kept (s : GmailSystem) : Prop := Delivered s ∧ Saved s.receipts

theorem handle_kept (decode : List UInt8 → Except Error InboundSignal) (receivedAt : WireTime) (m : IncomingMessage) :
    Call.Preserves (fun s : Polling => Kept s.toGmailSystem) (Polling.handle decode receivedAt m) := by
  rintro s ⟨delivered, saved⟩
  have handles := Polling.handle_handles decode receivedAt m s
  generalize (Polling.handle decode receivedAt m s).1 = r at handles
  generalize (Polling.handle decode receivedAt m s).2 = s' at handles ⊢
  cases handles with
  | duplicate known receipts emitted marks =>
      constructor
      · exact
          { messages := emitted ▸ delivered.messages
            signals := emitted ▸ delivered.signals
            receipted := by
              rw [emitted, receipts]
              exact delivered.receipted }
      · rw [receipts]
        exact saved
  | aborted new => exact ⟨delivered, saved⟩
  | refused new receipts emitted marks =>
      refine ⟨delivered_of_record delivered receipts emitted, ?_⟩
      rw [receipts]
      exact saved_record _ _
  | delivered e new message signal identified receipts emitted marks =>
      rw [← message] at new receipts
      refine ⟨delivered_of_emit delivered new signal identified receipts emitted, ?_⟩
      rw [receipts]
      exact saved_record _ _

theorem handleAll_kept (decode : List UInt8 → Except Error InboundSignal) (receivedAt : WireTime) (messages : List IncomingMessage) :
    Call.Preserves (fun s : Polling => Kept s.toGmailSystem) (Polling.handleAll decode receivedAt messages) := by
  induction messages with
  | nil => exact .pure ()
  | cons m rest ih => exact (handle_kept decode receivedAt m).bind fun _ => ih

theorem pollOnce_kept (decode : List UInt8 → Except Error InboundSignal) (c : GmailCollaborativeSignalConnector)
    (receivedAt : WireTime) (listing : Except Error (List IncomingMessage)) :
    Call.Preserves (fun s : Polling => Kept s.toGmailSystem) (c.pollOnce decode receivedAt listing) := by
  unfold GmailCollaborativeSignalConnector.pollOnce
  split
  · refine Call.Preserves.bind (.lift listing) fun messages => ?_
    refine Call.Preserves.bind (.modify fun s kept => kept) fun _ => ?_
    exact (handleAll_kept decode receivedAt _).bind fun _ => .read _
  · exact Call.Preserves.bind (.modify fun s kept => kept) fun _ => .read _

end GmailSystem

/-! ## Runs with restarts -/

inductive GmailOperation where
  | poll (c : GmailCollaborativeSignalConnector) (receivedAt : WireTime) (listing : Except Error (List IncomingMessage))
  /-- A new process makes the store anew. -/
  | restart

namespace GmailSystem

def step (decode : List UInt8 → Except Error InboundSignal) (s : GmailSystem) : GmailOperation → GmailSystem
  | .poll c receivedAt listing => (c.pollOnce decode receivedAt listing (c.begin s)).2.toGmailSystem
  | .restart => { s with receipts := GmailReceiptStore.load s.receipts.durable s.receipts.file }

/-- A store over that path, with nothing given to the sink. -/
def start (durable : Bool) (file : Option ReceiptFile) : GmailSystem := { receipts := GmailReceiptStore.load durable file }

theorem start_kept (durable : Bool) (file : Option ReceiptFile) : Kept (start durable file) :=
  ⟨⟨List.nodup_nil, List.nodup_nil, fun _ member => nomatch member⟩, saved_load durable file⟩

theorem restart_kept {decode : List UInt8 → Except Error InboundSignal} {s : GmailSystem} (kept : Kept s)
    (durable : s.receipts.durable = true) : Kept (s.step decode .restart) := by
  obtain ⟨delivered, saved⟩ := kept
  have reloads : (s.step decode .restart).receipts = GmailReceiptStore.load true s.receipts.file := by
    rw [← durable]
    rfl
  refine ⟨⟨delivered.messages, delivered.signals, fun e member => ?_⟩, saved_load _ _⟩
  obtain ⟨message, signal, identified⟩ := delivered.receipted e member
  rw [reloads]
  exact ⟨((saved durable _).1).mpr message, ((saved durable _).2).mpr signal, identified⟩

theorem handle_durable (decode : List UInt8 → Except Error InboundSignal) (receivedAt : WireTime) (m : IncomingMessage) :
    Call.Keeps (fun s : Polling => s.receipts.durable) (Polling.handle decode receivedAt m) := by
  intro s
  have handles := Polling.handle_handles decode receivedAt m s
  generalize (Polling.handle decode receivedAt m s).1 = r at handles
  dsimp only
  generalize (Polling.handle decode receivedAt m s).2 = s' at handles ⊢
  cases handles with
  | duplicate known receipts emitted marks => rw [receipts]
  | aborted new => rfl
  | refused new receipts emitted marks => rw [receipts, GmailReceiptStore.record_eq, GmailReceiptStore.written_durable]
  | delivered e new message signal identified receipts emitted marks =>
      rw [receipts, GmailReceiptStore.record_eq, GmailReceiptStore.written_durable]

theorem handleAll_durable (decode : List UInt8 → Except Error InboundSignal) (receivedAt : WireTime) (messages : List IncomingMessage) :
    Call.Keeps (fun s : Polling => s.receipts.durable) (Polling.handleAll decode receivedAt messages) := by
  induction messages with
  | nil => exact .pure ()
  | cons m rest ih => exact (handle_durable decode receivedAt m).bind fun _ => ih

theorem load_durable (durable : Bool) (file : Option ReceiptFile) : (GmailReceiptStore.load durable file).durable = durable := by
  unfold GmailReceiptStore.load
  split
  · rfl
  · rfl

theorem step_durable (decode : List UInt8 → Except Error InboundSignal) (s : GmailSystem) (op : GmailOperation) :
    (s.step decode op).receipts.durable = s.receipts.durable := by
  cases op with
  | poll c receivedAt listing =>
      have kept : Call.Keeps (fun s : Polling => s.receipts.durable) (c.pollOnce decode receivedAt listing) := by
        unfold GmailCollaborativeSignalConnector.pollOnce
        split
        · refine Call.Keeps.bind (.lift listing) fun messages => Call.Keeps.bind (.modify fun s => rfl) fun _ => ?_
          exact (handleAll_durable decode receivedAt _).bind fun _ => .read _
        · exact Call.Keeps.bind (.modify fun s => rfl) fun _ => .read _
      exact kept (c.begin s)
  | restart => exact load_durable _ _

/-- A restart of a store without a file would forget everything. -/
def Reloads (s : GmailSystem) : GmailOperation → Prop
  | .poll _ _ _ => True
  | .restart => s.receipts.durable = true

theorem kept_throughout {decode : List UInt8 → Except Error InboundSignal} {durable : Bool} {file : Option ReceiptFile}
    {ops : List GmailOperation} (reloads : Meets (step decode) Reloads (start durable file) ops) :
    Kept (run (step decode) (start durable file) ops) := by
  refine Meets.invariant ?_ (start_kept durable file) reloads
  intro s op reload kept
  cases op with
  | poll c receivedAt listing => exact pollOnce_kept decode c receivedAt listing (c.begin s) kept
  | restart => exact restart_kept kept reload

theorem meets_reloads (decode : List UInt8 → Except Error InboundSignal) {ops : List GmailOperation} {s : GmailSystem}
    (reloads : s.receipts.durable = true ∨ GmailOperation.restart ∉ ops) : Meets (step decode) Reloads s ops := by
  induction ops generalizing s with
  | nil => trivial
  | cons op ops ih =>
      constructor
      · cases op with
        | poll c receivedAt listing => trivial
        | restart =>
            cases reloads with
            | inl durable => exact durable
            | inr none => exact absurd List.mem_cons_self none
      · apply ih
        cases reloads with
        | inl durable => exact Or.inl ((step_durable decode s op).trans durable)
        | inr none => exact Or.inr fun later => none (List.mem_cons_of_mem _ later)

/-- The envelopes that the sink has taken have different message ids and different signal ids. -/
theorem delivered_at_most_once (decode : List UInt8 → Except Error InboundSignal) {durable : Bool} (file : Option ReceiptFile)
    {ops : List GmailOperation} (reloads : durable = true ∨ GmailOperation.restart ∉ ops) :
    ((run (step decode) (start durable file) ops).emitted.map CollaborativeSignalEnvelope.transportMessageId).Nodup ∧
      ((run (step decode) (start durable file) ops).emitted.map CollaborativeSignalEnvelope.signalId).Nodup := by
  have reloads : (start durable file).receipts.durable = true ∨ GmailOperation.restart ∉ ops :=
    reloads.imp (fun on => (load_durable durable file).trans on) id
  have kept := kept_throughout (meets_reloads decode reloads)
  exact ⟨kept.1.messages, kept.1.signals⟩

/-- A wildfire report under the first id, for a message that is not empty. -/
def decodeReport (raw : List UInt8) : Except Error InboundSignal :=
  match raw with
  | [] => .error (.valueError "MIME_UNSUPPORTED")
  | _ => .ok
    { signalId := "signal_1234567890123456"
      nodePseudonym := "peer_1234567890123456"
      hazard := .wildfire
      observation := "possible_smoke"
      correlationDomain := ⟨.observationArea, "area:demo"⟩
      eventTimeBucket := ⟨0, 0⟩
      clockUncertaintyBand := .low
      sourceMode := .live
      expiresAt := ⟨60000000, 0⟩
      bounded := by decide }

def demoConnector : GmailCollaborativeSignalConnector := { enabled := true }

/-- A poll of all that, a minute before the reports expire. -/
def demoPoll (messages : List IncomingMessage) : GmailOperation := .poll demoConnector ⟨⟨0, 0⟩, false⟩ (.ok messages)

/-- One report comes in two messages, the labels of the first fail, and all comes again after a restart. -/
theorem report_survives_restart :
    let messages : List IncomingMessage :=
      [{ id := "gmail-2", raw := .ok [1] },
        { id := "gmail-1", raw := .ok [1], processed := .raises (.valueError "quota") false }]
    let emitted := (run (step decodeReport) (start true none) [demoPoll messages, .restart, demoPoll messages]).emitted
    emitted.length = 1 ∧ (emitted.map CollaborativeSignalEnvelope.transportMessageId).Nodup ∧
      (emitted.map CollaborativeSignalEnvelope.signalId).Nodup :=
  ⟨by decide +kernel, delivered_at_most_once decodeReport none (Or.inl rfl)⟩

end GmailSystem

end SentinelEdge.Collaboration
