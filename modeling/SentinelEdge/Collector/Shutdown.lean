import Mathlib.Tactic.Common
import SentinelEdge.Collector.Connectors

/-! # What a shutdown accounts for

A receipt in state STOPPED is right if the three parties kept apart: no submitter was
between its check and its count when it mattered, and the handler did not raise once
the drain had begun.
-/

namespace SentinelEdge.Collector

open Foundation Domain

def SubmitterAt.isEnqueued {ι : Type} : SubmitterAt ι → Bool
  | .enqueued => true
  | _ => false

/-- The items the worker has taken and not yet counted. -/
def WorkerAt.inHand {α : Type} : WorkerAt α → Nat
  | .handling _ | .counting => 1
  | _ => 0

/-- Whether the worker has left its loop. -/
def WorkerAt.past {α : Type} : WorkerAt α → Bool
  | .leaving | .ending | .dead => true
  | _ => false

namespace DrainAt

/-- Whether the call has passed its checks. -/
def begun : DrainAt → Bool
  | .idle | .returned (.error _) => false
  | _ => true

/-- Whether the call has found the worker alive after the join. -/
def gaveUp : DrainAt → Bool
  | .judging _ _ threadAlive => threadAlive
  | .returned (.ok receipt) => receipt.state = .failed
  | _ => false

end DrainAt

namespace BoundedBackgroundConnector

variable {ι α : Type} {c : BoundedBackgroundConnector ι α}

/-- The calls of `submit` between their `put` and their count. -/
def uncounted (c : BoundedBackgroundConnector ι α) : Nat := c.submitters.countP SubmitterAt.isEnqueued

/-- No item is enqueued once the worker has left its loop, unless the drain has given up
    on it; the handler does not raise once the drain has begun; the drain does not begin
    before a failure is recorded; and no submitter is about to count when the receipt of a
    stopped worker is written. -/
def Orderly (c : BoundedBackgroundConnector ι α) : Operation ι → Prop
  | .put _ => c.stop = true → c.worker.past = true → c.drain.gaveUp = true
  | .work returns => returns = true ∨ c.drain.begun = false
  | .drainAndStop _ _ => c.worker ≠ .failing
  | .drainNext _ _ => ∀ deadline reasons, c.drain = .judging deadline reasons false → c.uncounted = 0
  | _ => True

/-- What holds in a run of orderly steps. -/
structure Sound (c : BoundedBackgroundConnector ι α) : Prop where
  balance : c.raised = false →
    c.accepted + c.uncounted = c.processed + c.cancelled + c.queue.length + c.worker.inHand
  raised : c.raised = true → c.drain.begun = false ∧ (c.worker = .failing ∨ c.state = .failed)
  failing : c.worker = .failing → c.raised = true
  past : c.raised = false → c.worker.past = true → c.stop = true ∧ (c.queue = [] ∨ c.drain.gaveUp = true)
  stopped : c.stop = true → c.drain.begun = true
  quiet : c.drain.begun = false → c.state ≠ .stopped
  unstarted : c.worker = .unstarted ↔ c.state = .created
  begun : c.drain.begun = true → c.state ≠ .created
  judged : ∀ deadline reasons, c.drain = .judging deadline reasons false → c.worker = .dead
  receipt : ∀ r, c.drain = .returned (.ok r) → r.state = .stopped →
    r.acceptedItems = r.processedItems + r.cancelledItems ∧ c.worker = .dead

theorem start_sound (sound : Sound c) : Sound c.start := by
  unfold start
  split
  · next created =>
      have fresh := sound.unstarted.mpr created
      have idle : c.drain.begun = false := by
        cases begun : c.drain.begun with
        | false => rfl
        | true => exact absurd created (sound.begun begun)
      obtain ⟨balance, raised, failing, past, stopped, quiet, unstarted, begun, judged, receipt⟩ := sound
      constructor <;> grind -ring -linarith -order [WorkerAt.inHand, WorkerAt.past, uncounted]
  · exact sound

/-! ## Submitters -/

theorem uncounted_move {submitter : Nat} {old : SubmitterAt ι} (there : c.submitters[submitter]? = some old)
    (place : SubmitterAt ι) : (c.move submitter place).uncounted + old.isEnqueued.toNat =
      c.uncounted + place.isEnqueued.toNat := by
  obtain ⟨bound, here⟩ := List.getElem?_eq_some_iff.mp there
  have some : old.isEnqueued = true → 0 < c.submitters.countP SubmitterAt.isEnqueued := by
    intro enqueued
    exact List.countP_pos_iff.mpr ⟨old, List.mem_of_getElem? there, enqueued⟩
  simp only [move, uncounted, List.countP_set bound, here]
  cases held : old.isEnqueued <;> cases sets : place.isEnqueued <;> simp_all

theorem submit_sound (sound : Sound c) (item : ι) : Sound (c.submit item) := by
  have same : (c.submit item).uncounted = c.uncounted := by
    unfold submit uncounted
    split <;> simp [SubmitterAt.isEnqueued]
  obtain ⟨balance, raised, failing, past, stopped, quiet, unstarted, begun, judged, receipt⟩ := sound
  refine ⟨?_, raised, failing, past, stopped, quiet, unstarted, begun, judged, receipt⟩
  rw [same]
  exact balance

theorem giveUp_sound (sound : Sound c) (submitter : Nat) : Sound (c.giveUp submitter) := by
  unfold giveUp
  split
  · next item there =>
      have same := uncounted_move there (.returned (.error .full))
      obtain ⟨balance, raised, failing, past, stopped, quiet, unstarted, begun, judged, receipt⟩ := sound
      refine ⟨?_, raised, failing, past, stopped, quiet, unstarted, begun, judged, receipt⟩
      intro calm
      have before := balance calm
      simp only [SubmitterAt.isEnqueued, Bool.toNat_false, Nat.add_zero] at same
      rw [same]
      exact before
  · exact sound

theorem count_sound (sound : Sound c) (submitter : Nat) : Sound (c.count submitter) := by
  unfold count
  split
  · next there =>
      have same := uncounted_move there (.returned (.ok ()))
      obtain ⟨balance, raised, failing, past, stopped, quiet, unstarted, begun, judged, receipt⟩ := sound
      refine ⟨?_, raised, failing, past, stopped, quiet, unstarted, begun, judged, receipt⟩
      intro calm
      have before := balance calm
      simp only [SubmitterAt.isEnqueued, Bool.toNat_false, Bool.toNat_true, Nat.add_zero] at same
      have moved : ({ c.move submitter (.returned (.ok ())) with accepted := c.accepted + 1 } :
        BoundedBackgroundConnector ι α).uncounted = (c.move submitter (.returned (.ok ()))).uncounted := rfl
      rw [moved]
      simp only [move] at *
      omega
  · exact sound

theorem put_sound (sound : Sound c) (submitter : Nat) (orderly : Orderly c (.put submitter)) : Sound (c.put submitter) := by
  unfold put
  split
  · next item there =>
      split
      · have same := uncounted_move there
          (.returned (.error (.raised (.valueError "connector normalization rejected input"))))
        obtain ⟨balance, raised, failing, past, stopped, quiet, unstarted, begun, judged, receipt⟩ := sound
        refine ⟨?_, raised, failing, past, stopped, quiet, unstarted, begun, judged, receipt⟩
        intro calm
        have before := balance calm
        simp only [SubmitterAt.isEnqueued, Bool.toNat_false, Nat.add_zero] at same
        rw [same]
        exact before
      · split
        · next normalized accepted room =>
            have same := uncounted_move there .enqueued
            obtain ⟨balance, raised, failing, past, stopped, quiet, unstarted, begun, judged, receipt⟩ := sound
            refine ⟨?_, raised, failing, ?_, stopped, quiet, unstarted, begun, judged, receipt⟩
            · intro calm
              have before := balance calm
              simp only [SubmitterAt.isEnqueued, Bool.toNat_false, Bool.toNat_true, Nat.add_zero] at same
              have moved : ({ c.move submitter .enqueued with queue := c.queue ++ [normalized] } :
                BoundedBackgroundConnector ι α).uncounted = (c.move submitter .enqueued).uncounted := rfl
              rw [moved, List.length_append, List.length_singleton]
              simp only [move] at *
              omega
            · intro calm left
              have held := (past calm left).1
              exact ⟨held, Or.inr (orderly held left)⟩
        · exact sound
  · exact sound

/-! ## The worker -/

theorem work_sound (sound : Sound c) (returns : Bool) (orderly : Orderly c (.work returns)) : Sound (c.work returns) := by
  obtain ⟨balance, raised, failing, past, stopped, quiet, unstarted, begun, judged, receipt⟩ := sound
  unfold Orderly at orderly
  unfold work
  cases place : c.worker with
  | unstarted => exact ⟨balance, raised, failing, past, stopped, quiet, unstarted, begun, judged, receipt⟩
  | testing => constructor <;> grind -ring -linarith -order [WorkerAt.inHand, WorkerAt.past, uncounted]
  | getting =>
      cases waiting : c.queue with
      | nil => constructor <;> grind -ring -linarith -order [WorkerAt.inHand, WorkerAt.past, uncounted]
      | cons item rest => constructor <;> grind -ring -linarith -order [WorkerAt.inHand, WorkerAt.past, uncounted]
  | handling item => constructor <;> grind -ring -linarith -order [WorkerAt.inHand, WorkerAt.past, uncounted]
  | counting => constructor <;> grind -ring -linarith -order [WorkerAt.inHand, WorkerAt.past, uncounted]
  | failing => constructor <;> grind -ring -linarith -order [WorkerAt.inHand, WorkerAt.past, uncounted]
  | leaving => constructor <;> grind -ring -linarith -order [WorkerAt.inHand, WorkerAt.past, uncounted]
  | ending => constructor <;> grind -ring -linarith -order [WorkerAt.inHand, WorkerAt.past, uncounted]
  | dead => exact ⟨balance, raised, failing, past, stopped, quiet, unstarted, begun, judged, receipt⟩

/-! ## The drain -/

theorem drainAndStop_sound (sound : Sound c) (deadlineSeconds : ℚ) (now : DateTime)
    (orderly : Orderly c (.drainAndStop deadlineSeconds now)) : Sound (c.drainAndStop deadlineSeconds now) := by
  obtain ⟨balance, raised, failing, past, stopped, quiet, unstarted, begun, judged, receipt⟩ := sound
  unfold Orderly at orderly
  unfold drainAndStop
  cases place : c.drain with
  | idle =>
      dsimp only
      split
      · constructor <;> grind -ring -linarith -order [DrainAt.begun, DrainAt.gaveUp, uncounted]
      · cases state : c.state <;> constructor <;> grind -ring -linarith -order [DrainAt.begun, DrainAt.gaveUp, uncounted]
  | _ => exact ⟨balance, raised, failing, past, stopped, quiet, unstarted, begun, judged, receipt⟩

theorem drainNext_sound (sound : Sound c) (elapsed : Bool) (now : DateTime) (orderly : Orderly c (.drainNext elapsed now)) :
    Sound (c.drainNext elapsed now) := by
  obtain ⟨balance, raised, failing, past, stopped, quiet, unstarted, begun, judged, receipt⟩ := sound
  unfold Orderly at orderly
  unfold drainNext
  cases place : c.drain with
  | idle => exact ⟨balance, raised, failing, past, stopped, quiet, unstarted, begun, judged, receipt⟩
  | waiting deadline =>
      dsimp only
      split <;> constructor <;> grind -ring -linarith -order [DrainAt.begun, DrainAt.gaveUp, uncounted]
  | choosing deadline => constructor <;> grind -ring -linarith -order [DrainAt.begun, DrainAt.gaveUp, uncounted]
  | cancelling deadline =>
      cases waiting : c.queue with
      | nil => constructor <;> grind -ring -linarith -order [DrainAt.begun, DrainAt.gaveUp, uncounted]
      | cons item rest => constructor <;> grind -ring -linarith -order [DrainAt.begun, DrainAt.gaveUp, uncounted]
  | stopping deadline reasons => constructor <;> grind -ring -linarith -order [DrainAt.begun, DrainAt.gaveUp, uncounted]
  | joining deadline reasons =>
      dsimp only
      split <;> constructor <;> grind -ring -linarith -order [DrainAt.begun, DrainAt.gaveUp, uncounted, WorkerAt.isAlive]
  | judging deadline reasons threadAlive =>
      cases threadAlive with
      | true =>
          constructor <;> grind -ring -linarith -order [DrainAt.begun, DrainAt.gaveUp, uncounted,
            BoundedBackgroundConnector.receipt]
      | false =>
          constructor <;> grind -ring -linarith -order [DrainAt.begun, DrainAt.gaveUp, uncounted,
            BoundedBackgroundConnector.receipt, WorkerAt.inHand, WorkerAt.past]
  | returned result => exact ⟨balance, raised, failing, past, stopped, quiet, unstarted, begun, judged, receipt⟩

/-! ## Every run -/

theorem step_sound (sound : Sound c) (op : Operation ι) (orderly : Orderly c op) : Sound (c.step op) := by
  cases op with
  | start => exact start_sound sound
  | submit item => exact submit_sound sound item
  | put submitter => exact put_sound sound submitter orderly
  | giveUp submitter => exact giveUp_sound sound submitter
  | count submitter => exact count_sound sound submitter
  | work returns => exact work_sound sound returns orderly
  | drainAndStop deadlineSeconds now => exact drainAndStop_sound sound deadlineSeconds now orderly
  | drainNext elapsed now => exact drainNext_sound sound elapsed now orderly

/-- A receipt in state STOPPED accounts for every item: nothing is left, nothing will be
    handled, and the handler has not raised. -/
def Accounted (c : BoundedBackgroundConnector ι α) : Prop :=
  ∀ receipt, c.drain = .returned (.ok receipt) → receipt.state = .stopped →
    receipt.acceptedItems = receipt.processedItems + receipt.cancelledItems ∧ c.queue = [] ∧ c.worker = .dead ∧
      c.raised = false

theorem Sound.accounted (sound : Sound c) : Accounted c := by
  intro receipt returned state
  obtain ⟨adds, ended⟩ := sound.receipt receipt returned state
  have begun : c.drain.begun = true := by rw [returned]; rfl
  have calm : c.raised = false := by
    cases raised : c.raised with
    | false => rfl
    | true => exact absurd ((sound.raised raised).1.symm.trans begun) Bool.false_ne_true
  have left : c.worker.past = true := by rw [ended]; rfl
  refine ⟨adds, ?_, ended, calm⟩
  cases (sound.past calm left).2 with
  | inl empty => exact empty
  | inr gaveUp => simp [returned, DrainAt.gaveUp, state] at gaveUp

/-- In every interleaving whose steps are orderly, a receipt in state STOPPED accounts for
    every item, from its writing on. -/
theorem stopped_receipt_accounts (config : ConnectorConfig ι α) (ops : List (Operation ι))
    (orderly : Meets step Orderly { config := config } ops) (n : Nat) : Accounted (run config (ops.take n)) := by
  have initially : Sound ({ config := config } : BoundedBackgroundConnector ι α) := by
    constructor <;> simp [uncounted, WorkerAt.inHand, WorkerAt.past, DrainAt.begun]
  exact (Meets.invariant (I := Sound) (fun _ op orderly sound => step_sound sound op orderly) initially
    (orderly.take n)).accounted

/-! ## Small interleavings -/

def fixture : ConnectorConfig Nat Nat := ⟨"seismic", 2, some, by decide⟩

/-- The drain of an idle connector, up to its receipt. -/
def quietDrain : List (Operation Nat) :=
  [.drainAndStop 1 0, .drainNext false 0, .drainNext false 0, .drainNext false 0, .work true, .work true, .work true,
    .drainNext false 0, .drainNext false 0]

/-- One item is submitted and handled, then the connector is drained. -/
def handledFirst : List (Operation Nat) :=
  [.start, .submit 7, .put 0, .count 0, .work true, .work true, .work true, .work true] ++ quietDrain

theorem handledFirst_accounts :
    (∀ n, Accounted (run fixture (handledFirst.take n))) ∧
      ∃ receipt, (run fixture handledFirst).drain = .returned (.ok receipt) ∧ receipt.state = .stopped ∧
        receipt.acceptedItems = 1 := by
  refine ⟨?_, _, rfl, rfl, rfl⟩
  have counted : ∀ c : BoundedBackgroundConnector Nat Nat, c.uncounted = 0 → ∀ elapsed now,
      Orderly c (.drainNext elapsed now) := fun _ none _ _ _ _ _ => none
  apply stopped_receipt_accounts
  exact ⟨trivial, trivial, nofun, trivial, .inl rfl, .inl rfl, .inl rfl, .inl rfl, nofun, counted _ rfl _ _, counted _ rfl _ _,
    counted _ rfl _ _, .inl rfl, .inl rfl, .inl rfl, counted _ rfl _ _, counted _ rfl _ _, trivial⟩

/-- A submitter that has passed its check enqueues behind the receipt; another has not
    counted yet; and a handler raises while the connector drains. -/
theorem stopped_receipts_miscount :
    ¬ Accounted (run fixture ([.start, .submit 7] ++ quietDrain ++ [.put 0, .count 0])) ∧
    ¬ Accounted (run fixture ([.start, .submit 7, .put 0, .work true, .work true, .work true, .work true] ++ quietDrain)) ∧
    ¬ Accounted (run fixture [.start, .submit 7, .put 0, .count 0, .work true, .work true, .drainAndStop 1 0,
      .drainNext false 0, .drainNext false 0, .drainNext false 0, .work false, .work true, .work true, .work true,
      .drainNext false 0, .drainNext false 0]) := by
  refine ⟨?_, ?_, ?_⟩
  · intro accounted
    have left := (accounted _ rfl rfl).2.1
    cases left
  · intro accounted
    have adds := (accounted _ rfl rfl).1
    cases adds
  · intro accounted
    have calm := (accounted _ rfl rfl).2.2.2
    cases calm

end BoundedBackgroundConnector

end SentinelEdge.Collector
