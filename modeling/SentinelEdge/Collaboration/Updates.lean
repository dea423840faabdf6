import SentinelEdge.Collaboration.RetryQueue

/-! # Updates that are lost

A signal is suppressed when it says the same as the last one sent, or as any one that
waits, also when the newest one that waits says something else. Where this does not
happen, the last signal sent says what the last one published says once the queue is
empty.
-/

namespace SentinelEdge.Collaboration

open Foundation Domain

namespace SmtpEmailCollaborativeSignalPublisher

variable {P : Platform} {encode : OutboundSignal → Except Error (List UInt8)}
  {p p' : SmtpEmailCollaborativeSignalPublisher P}

/-- What the last of the signals of an episode says. -/
def lastOf (P : Platform) (signals : List OutboundSignal) (episodeId : String) : Option P.Digest :=
  ((signals.filter fun signal => signal.episodeId = episodeId).getLast?).map (semanticFingerprint P)

/-- The signals of the mails that were sent. -/
def sentSignals (p : SmtpEmailCollaborativeSignalPublisher P) : List OutboundSignal :=
  (p.handed.filter Handing.returned).map fun handing => handing.item.signal

/-- The newest signal of an episode, among those sent and those that wait. -/
def newest (p : SmtpEmailCollaborativeSignalPublisher P) (episodeId : String) : Option P.Digest :=
  lastOf P (p.sentSignals ++ p.queue.map QueuedEmail.signal) episodeId

/-- The signals that an operation publishes: `publish` has taken them, or found them unchanged. -/
def published (encode : OutboundSignal → Except Error (List UInt8)) (p : SmtpEmailCollaborativeSignalPublisher P) :
    PublisherOperation → List OutboundSignal
  | .publish signal now => match (publish encode signal now p).1 with
      | .ok .queued | .ok .suppressedUnchanged => [signal]
      | _ => []
  | .drainOnce _ _ _ => []

/-- Nothing expires in the queue, becomes a dead letter or meets a full queue. -/
def Smooth (encode : OutboundSignal → Except Error (List UInt8)) (p : SmtpEmailCollaborativeSignalPublisher P) :
    PublisherOperation → Prop
  | .publish signal now => (publish encode signal now p).1 ≠ .ok .queueFull
  | .drainOnce now sendBytes random =>
      (drainOnce now sendBytes random p).1 ≠ .ok .expired ∧ (drainOnce now sendBytes random p).1 ≠ .ok .deadLetter

/-- A signal that was sent lately or waits says what the newest of its episode says. -/
def Settled (p : SmtpEmailCollaborativeSignalPublisher P) : PublisherOperation → Prop
  | .publish signal now => now.instant < signal.expiresAt.instant → p.sentLately signal now = true ∨ p.waits signal = true →
      p.newest signal.episodeId = some (semanticFingerprint P signal)
  | .drainOnce _ _ _ => True

instance (p : SmtpEmailCollaborativeSignalPublisher P) : ∀ op, Decidable (Smooth encode p op)
  | .publish signal now => inferInstanceAs (Decidable ((publish encode signal now p).1 ≠ .ok .queueFull))
  | .drainOnce now sendBytes random => inferInstanceAs (Decidable
      ((drainOnce now sendBytes random p).1 ≠ .ok .expired ∧ (drainOnce now sendBytes random p).1 ≠ .ok .deadLetter))

instance (p : SmtpEmailCollaborativeSignalPublisher P) : ∀ op, Decidable (Settled p op)
  | .publish signal now => inferInstanceAs (Decidable (now.instant < signal.expiresAt.instant →
      p.sentLately signal now = true ∨ p.waits signal = true → p.newest signal.episodeId = some (semanticFingerprint P signal)))
  | .drainOnce _ _ _ => inferInstanceAs (Decidable True)

theorem lastOf_concat (signals : List OutboundSignal) (signal : OutboundSignal) (episodeId : String) :
    lastOf P (signals ++ [signal]) episodeId =
      if signal.episodeId = episodeId then some (semanticFingerprint P signal) else lastOf P signals episodeId := by
  unfold lastOf
  rw [List.filter_append]
  by_cases same : signal.episodeId = episodeId
  · rw [if_pos same, List.filter_cons_of_pos (by simpa using same), List.filter_nil, List.getLast?_concat]
    rfl
  · rw [if_neg same, List.filter_cons_of_neg (by simpa using same), List.filter_nil, List.append_nil]

/-- Handing over the head moves its signal from the queue to those sent, or leaves it. -/
theorem drainOnce_newest {now : Timestamp} {sendBytes : List UInt8 → Except Error Unit} {random : ℚ}
    (smooth : Smooth encode p (.drainOnce now sendBytes random)) :
    (drainOnce now sendBytes random p).2.newest = p.newest := by
  obtain ⟨kept, alive⟩ := smooth
  have drains := drainOnce_drains now sendBytes random p
  generalize (drainOnce now sendBytes random p).1 = r at drains kept alive
  generalize (drainOnce now sendBytes random p).2 = p' at drains ⊢
  have stays : ∀ {item kept : QueuedEmail} {rest : List QueuedEmail}, p.queue = item :: rest → kept.signal = item.signal →
      newest { p with queue := kept :: rest, handed := p.handed ++ [⟨item, now, false⟩] } = p.newest := by
    intro item kept rest shape same
    funext episodeId
    unfold newest sentSignals
    rw [shape, List.filter_append, List.map_cons, List.map_cons, same]
    simp
  cases drains with
  | empty none => rfl
  | notDue shape early => rfl
  | expired shape gone => exact absurd rfl kept
  | deadLetter shape due raised last => exact absurd rfl alive
  | unscheduled shape due raised more => exact stays shape rfl
  | retryScheduled shape due raised more => exact stays shape rfl
  | sent shape due returned =>
      funext episodeId
      unfold newest sentSignals
      rw [shape, List.filter_append, List.map_cons]
      simp

/-- The publisher with the signals published so far. -/
abbrev Publishing (P : Platform) := SmtpEmailCollaborativeSignalPublisher P × List OutboundSignal

abbrev publishing (encode : OutboundSignal → Except Error (List UInt8)) : Publishing P → PublisherOperation → Publishing P :=
  traced (step encode) (published encode)

/-- The newest signal of each episode says what the last one published says. -/
def Current (x : Publishing P) : Prop := x.1.newest = lastOf P x.2

theorem publish_current_iff {x : Publishing P} {signal : OutboundSignal} {now : Timestamp} (current : Current x)
    (smooth : Smooth encode x.1 (.publish signal now)) :
    Current (publishing encode x (.publish signal now)) ↔ Settled x.1 (.publish signal now) := by
  have publishes := publish_publishes encode signal now x.1
  unfold Current publishing traced step published Settled
  have smooth : (publish encode signal now x.1).1 ≠ .ok .queueFull := smooth
  have unforced : x.1.sentLately signal now = false → x.1.waits signal = false →
      x.1.sentLately signal now = true ∨ x.1.waits signal = true → x.1.newest signal.episodeId = some (semanticFingerprint P signal) := by
    intro unsent new same
    rw [unsent, new] at same
    cases same with
    | inl impossible => cases impossible
    | inr impossible => cases impossible
  dsimp only
  generalize (publish encode signal now x.1).1 = r at publishes smooth ⊢
  generalize (publish encode signal now x.1).2 = p' at publishes ⊢
  cases publishes with
  | expired expired =>
      rw [List.append_nil]
      exact iff_of_true current fun unexpired => absurd expired (Int.not_le.mpr unexpired)
  | suppressed unexpired same =>
      constructor
      · intro still _ _
        have told := congrFun still signal.episodeId
        rw [lastOf_concat, if_pos rfl] at told
        exact told
      · intro settled
        funext episodeId
        rw [lastOf_concat, ← settled unexpired same, ← current]
        split
        · next episode => rw [episode]
        · rfl
  | unencoded unexpired unsent new refused =>
      rw [List.append_nil]
      exact iff_of_true current fun _ => unforced unsent new
  | full unexpired unsent new full => exact absurd rfl smooth
  | @queued raw unexpired unsent new room =>
      have waiting : newest { x.1 with
          queue := x.1.queue ++ [⟨x.1.queuedSoFar, signal, raw, now, now, 0⟩], queuedSoFar := x.1.queuedSoFar + 1 } =
          lastOf P (x.2 ++ [signal]) := by
        funext episodeId
        have before := congrFun current episodeId
        unfold newest sentSignals at before ⊢
        rw [List.map_append, ← List.append_assoc, List.map_singleton, lastOf_concat, lastOf_concat, before]
      exact iff_of_true waiting fun _ => unforced unsent new

theorem drainOnce_current_iff {x : Publishing P} {now : Timestamp} {sendBytes : List UInt8 → Except Error Unit} {random : ℚ}
    (smooth : Smooth encode x.1 (.drainOnce now sendBytes random)) :
    Current (publishing encode x (.drainOnce now sendBytes random)) ↔ Current x := by
  have kept := drainOnce_newest smooth
  unfold Current publishing traced step published
  rw [List.append_nil]
  dsimp only
  rw [kept]

/-- One smooth step keeps all episodes current exactly when it is settled. -/
theorem current_step_iff {x : Publishing P} {op : PublisherOperation} (current : Current x) (smooth : Smooth encode x.1 op) :
    Current (publishing encode x op) ↔ Settled x.1 op := by
  cases op with
  | publish signal now => exact publish_current_iff current smooth
  | drainOnce now sendBytes random => exact (drainOnce_current_iff smooth).trans (iff_of_true current trivial)

/-- With nothing left in the queue the newest signals are those last sent. -/
theorem newest_of_empty (empty : p.queue = []) : p.newest = lastOf P p.sentSignals := by
  unfold newest
  rw [empty, List.map_nil, List.append_nil]

/-- Once it is drained, a publisher with an episode that is not current has last sent
    something else than was last published. -/
theorem outdated_when_drained {x : Publishing P} {drains : List PublisherOperation} (outdated : ¬ Current x)
    (only : ∀ op ∈ drains, ∃ now sendBytes random, op = .drainOnce now sendBytes random)
    (smooth : Meets (publishing encode) (fun x op => Smooth encode x.1 op) x drains)
    (empty : (run (publishing encode) x drains).1.queue = []) :
    lastOf P (run (publishing encode) x drains).1.sentSignals ≠ lastOf P (run (publishing encode) x drains).2 := by
  have stays : ¬ Current (run (publishing encode) x drains) := by
    clear empty
    induction drains generalizing x with
    | nil => exact outdated
    | cons op drains ih =>
        obtain ⟨now, sendBytes, random, rfl⟩ := only op List.mem_cons_self
        refine ih (mt (drainOnce_current_iff smooth.1).mp outdated) (fun op member => only op (List.mem_cons_of_mem _ member)) smooth.2
  rw [← newest_of_empty empty]
  exact stays

/-- In a smooth and settled run no update is lost: once the queue is empty the last
    signal sent of each episode says what the last one published says. -/
theorem no_update_lost (encode : OutboundSignal → Except Error (List UInt8)) (config : SmtpQueueConfig) {ops : List PublisherOperation}
    (meets : Meets (step encode) (fun p op => Smooth encode p op ∧ Settled p op) (fresh P config) ops) :
    let x := run (publishing encode) (fresh P config, []) ops
    x.1.queue = [] → ∀ episodeId, lastOf P x.1.sentSignals episodeId = lastOf P x.2 episodeId := by
  intro x empty episodeId
  have traces : Meets (publishing encode) (fun x op => Smooth encode x.1 op ∧ Settled x.1 op) (fresh P config, []) ops :=
    (meets_traced_iff (C := fun p op => Smooth encode p op ∧ Settled p op) ops).mpr meets
  have init : Current (fresh P config, []) := rfl
  have current : Current x :=
    Meets.invariant (I := Current) (fun x op both current => (current_step_iff current both.1).mpr both.2) init traces
  rw [← newest_of_empty empty]
  exact congrFun current episodeId

/-- An episode that becomes persistent after its first mail is sent. -/
theorem change_is_sent :
    let ops : List PublisherOperation := [.publish (update "episode-1" "possible_smoke" 90) ⟨0, 0⟩, .drainOnce ⟨0, 0⟩ (fun _ => .ok ()) 0,
      .publish (update "episode-1" "persistent_smoke" 90) ⟨1000000, 0⟩, .drainOnce ⟨1000000, 0⟩ (fun _ => .ok ()) 0]
    let x := run (publishing encodeObservation) (fresh Platform.transparent {}, []) ops
    lastOf Platform.transparent x.1.sentSignals "episode-1" = lastOf Platform.transparent x.2 "episode-1" :=
  no_update_lost encodeObservation {} (by decide +kernel) (by decide +kernel) "episode-1"

/-- The smoke was reported as possible and sent, becomes persistent, and is possible
    again before that is sent. -/
theorem change_back_is_suppressed :
    let ops : List PublisherOperation := [.publish (update "episode-1" "possible_smoke" 90) ⟨0, 0⟩, .drainOnce ⟨0, 0⟩ (fun _ => .ok ()) 0,
      .publish (update "episode-1" "persistent_smoke" 90) ⟨10000000, 0⟩,
      .publish (update "episode-1" "possible_smoke" 90) ⟨20000000, 0⟩, .drainOnce ⟨30000000, 0⟩ (fun _ => .ok ()) 0]
    let x := run (publishing encodeObservation) (fresh Platform.transparent {}, []) ops
    Meets (step encodeObservation) (Smooth encodeObservation) (fresh Platform.transparent {}) ops ∧ x.1.queue = [] ∧
      lastOf Platform.transparent x.1.sentSignals "episode-1" ≠ lastOf Platform.transparent x.2 "episode-1" := by
  decide +kernel

end SmtpEmailCollaborativeSignalPublisher

end SentinelEdge.Collaboration
