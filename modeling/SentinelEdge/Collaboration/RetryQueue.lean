import SentinelEdge.Collaboration.Publisher
import SentinelEdge.Foundation.Run

/-! # The retry queue

The queue is bounded and holds no two signals that say the same. Its head alone is
handed to the sender, so that what was handed over comes before all that waits.
-/

namespace SentinelEdge.Collaboration

open Foundation Domain

inductive PublisherOperation where
  | publish (signal : OutboundSignal) (now : Timestamp)
  | drainOnce (now : Timestamp) (sendBytes : List UInt8 → Except Error Unit) (random : ℚ)

namespace SmtpEmailCollaborativeSignalPublisher

variable {P : Platform} {encode : OutboundSignal → Except Error (List UInt8)}

def step (encode : OutboundSignal → Except Error (List UInt8)) (p : SmtpEmailCollaborativeSignalPublisher P) :
    PublisherOperation → SmtpEmailCollaborativeSignalPublisher P
  | .publish signal now => (publish encode signal now p).2
  | .drainOnce now sendBytes random => (drainOnce now sendBytes random p).2

/-- One episode, one fingerprint. -/
def SaysTheSame (P : Platform) (a b : QueuedEmail) : Prop :=
  a.signal.episodeId = b.signal.episodeId ∧ semanticFingerprint P a.signal = semanticFingerprint P b.signal

/-- How often an entry was handed to the sender. -/
def handings (p : SmtpEmailCollaborativeSignalPublisher P) (number : Nat) : Nat :=
  p.handed.countP fun handing => handing.item.number = number

/-- The queue holds no more than fit, and nothing twice. -/
structure Tidy (p : SmtpEmailCollaborativeSignalPublisher P) : Prop where
  bounded : (p.queue.length : Int) ≤ max p.config.maxItems 0
  distinct : p.queue.Pairwise fun a b => ¬ SaysTheSame P a b

/-- What was handed over comes before what waits, in the order of queueing. -/
structure InOrder (p : SmtpEmailCollaborativeSignalPublisher P) : Prop where
  numbered : p.queue.Pairwise fun a b => a.number < b.number
  below : ∀ item ∈ p.queue, item.number < p.queuedSoFar
  behind : ∀ handing ∈ p.handed, ∀ item ∈ p.queue,
    handing.item.number ≤ item.number ∧ (handing.returned = true → handing.item.number < item.number)
  handedBelow : ∀ handing ∈ p.handed, handing.item.number < p.queuedSoFar
  ordered : p.handed.Pairwise fun a b => a.item.number ≤ b.item.number ∧ (a.returned = true → a.item.number < b.item.number)

/-- The attempts are counted, and what waits has one left. -/
structure Limited (p : SmtpEmailCollaborativeSignalPublisher P) : Prop where
  counted : ∀ item ∈ p.queue, item.attempts = p.handings item.number
  left : ∀ item ∈ p.queue, (item.attempts : Int) < p.config.maxAttempts
  limit : ∀ number, (p.handings number : Int) ≤ p.config.maxAttempts

/-- The sender gets a mail when it is due, and before its signal expires. -/
def Timely (p : SmtpEmailCollaborativeSignalPublisher P) : Prop :=
  ∀ handing ∈ p.handed, handing.item.nextAttemptAt.instant ≤ handing.now.instant ∧
    handing.now.instant < handing.item.signal.expiresAt.instant

/-! ## One step -/

/-- What a call of `drain_once` does to the queue and to the log. -/
inductive Takes (p p' : SmtpEmailCollaborativeSignalPublisher P) : Prop where
  | stays (same : p' = p)
  /-- The head is dropped. -/
  | drops (item : QueuedEmail) (rest : List QueuedEmail) (shape : p.queue = item :: rest) (queue : p'.queue = rest)
      (handed : p'.handed = p.handed)
  /-- The head is handed over and dropped. -/
  | finishes (item : QueuedEmail) (rest : List QueuedEmail) (now : Timestamp) (returned : Bool) (shape : p.queue = item :: rest)
      (due : Due p now item) (queue : p'.queue = rest) (handed : p'.handed = p.handed ++ [⟨item, now, returned⟩])
  /-- The head is handed over and stays, for another attempt. -/
  | keeps (item : QueuedEmail) (rest : List QueuedEmail) (now : Timestamp) (next : Timestamp) (shape : p.queue = item :: rest)
      (due : Due p now item) (more : ((item.attempts + 1 : Nat) : Int) < p.config.maxAttempts)
      (queue : p'.queue = { item with attempts := item.attempts + 1, nextAttemptAt := next } :: rest)
      (handed : p'.handed = p.handed ++ [⟨item, now, false⟩])

theorem drainOnce_takes (now : Timestamp) (sendBytes : List UInt8 → Except Error Unit) (random : ℚ)
    (p : SmtpEmailCollaborativeSignalPublisher P) :
    Takes p (drainOnce now sendBytes random p).2 ∧ (drainOnce now sendBytes random p).2.config = p.config ∧
      (drainOnce now sendBytes random p).2.queuedSoFar = p.queuedSoFar := by
  have drains := drainOnce_drains now sendBytes random p
  generalize (drainOnce now sendBytes random p).1 = r at drains
  generalize (drainOnce now sendBytes random p).2 = p' at drains ⊢
  cases drains with
  | empty none => exact ⟨.stays rfl, rfl, rfl⟩
  | notDue shape early => exact ⟨.stays rfl, rfl, rfl⟩
  | expired shape gone => exact ⟨.drops _ _ shape rfl rfl, rfl, rfl⟩
  | deadLetter shape due raised last => exact ⟨.finishes _ _ now false shape due rfl rfl, rfl, rfl⟩
  | unscheduled shape due raised more => exact ⟨.keeps _ _ now _ shape due more rfl rfl, rfl, rfl⟩
  | retryScheduled shape due raised more => exact ⟨.keeps _ _ now _ shape due more rfl rfl, rfl, rfl⟩
  | sent shape due returned => exact ⟨.finishes _ _ now true shape due rfl rfl, rfl, rfl⟩

variable {p p' : SmtpEmailCollaborativeSignalPublisher P}

theorem Takes.tidy (takes : Takes p p') (config : p'.config = p.config) (tidy : Tidy p) : Tidy p' := by
  have shrinks : ∀ {item : QueuedEmail} {rest : List QueuedEmail}, p.queue = item :: rest → p'.queue = rest → Tidy p' := by
    intro item rest shape queue
    have bounded := tidy.bounded
    have distinct := tidy.distinct
    rw [shape] at bounded distinct
    constructor
    · rw [queue, config]
      rw [List.length_cons] at bounded
      omega
    · rw [queue]
      exact (List.pairwise_cons.mp distinct).2
  cases takes with
  | stays same => exact same ▸ tidy
  | drops item rest shape queue handed => exact shrinks shape queue
  | finishes item rest now returned shape due queue handed => exact shrinks shape queue
  | keeps item rest now next shape due more queue handed =>
      have bounded := tidy.bounded
      have distinct := tidy.distinct
      rw [shape] at bounded distinct
      constructor
      · rw [queue, config]
        exact bounded
      · rw [queue]
        exact List.pairwise_cons.mpr (List.pairwise_cons.mp distinct)

/-- The head goes to the end of the log, and no item gets a new number. -/
theorem InOrder.handing {item : QueuedEmail} {rest : List QueuedEmail} {now : Timestamp} {returned : Bool} (inOrder : InOrder p)
    (shape : p.queue = item :: rest) (handed : p'.handed = p.handed ++ [⟨item, now, returned⟩]) (soFar : p'.queuedSoFar = p.queuedSoFar)
    (numbered : p'.queue.Pairwise fun a b => a.number < b.number)
    (old : ∀ other ∈ p'.queue, ∃ before ∈ p.queue, before.number = other.number)
    (later : ∀ other ∈ p'.queue, item.number ≤ other.number ∧ (returned = true → item.number < other.number)) : InOrder p' := by
  have head : item ∈ p.queue := shape ▸ List.mem_cons_self
  constructor
  · exact numbered
  · intro other member
    obtain ⟨before, among, same⟩ := old other member
    rw [soFar, ← same]
    exact inOrder.below before among
  · intro handing among other member
    rw [handed, List.mem_append, List.mem_singleton] at among
    rcases among with among | rfl
    · obtain ⟨before, here, same⟩ := old other member
      rw [← same]
      exact inOrder.behind handing among before here
    · exact later other member
  · intro handing among
    rw [handed, List.mem_append, List.mem_singleton] at among
    rw [soFar]
    rcases among with among | rfl
    · exact inOrder.handedBelow handing among
    · exact inOrder.below item head
  · rw [handed]
    refine List.pairwise_append.mpr ⟨inOrder.ordered, List.pairwise_singleton _ _, ?_⟩
    intro earlier among last same
    rw [List.mem_singleton.mp same]
    exact inOrder.behind earlier among item head

theorem Takes.inOrder (takes : Takes p p') (soFar : p'.queuedSoFar = p.queuedSoFar) (inOrder : InOrder p) : InOrder p' := by
  cases takes with
  | stays same => exact same ▸ inOrder
  | drops item rest shape queue handed =>
      have numbered := inOrder.numbered
      rw [shape] at numbered
      have old : ∀ other ∈ p'.queue, other ∈ p.queue := by
        intro other member
        rw [queue] at member
        rw [shape]
        exact List.mem_cons_of_mem _ member
      exact
        { numbered := queue ▸ (List.pairwise_cons.mp numbered).2
          below := fun other member => soFar ▸ inOrder.below other (old other member)
          behind := fun handing among other member => inOrder.behind handing (handed ▸ among) other (old other member)
          handedBelow := fun handing among => soFar ▸ inOrder.handedBelow handing (handed ▸ among)
          ordered := handed ▸ inOrder.ordered }
  | finishes item rest now returned shape due queue handed =>
      have numbered := inOrder.numbered
      rw [shape] at numbered
      obtain ⟨first, numbered⟩ := List.pairwise_cons.mp numbered
      rw [← queue] at first numbered
      refine inOrder.handing shape handed soFar numbered ?_ ?_
      · intro other member
        rw [queue] at member
        exact ⟨other, shape ▸ List.mem_cons_of_mem _ member, rfl⟩
      · intro other member
        exact ⟨Nat.le_of_lt (first other member), fun _ => first other member⟩
  | keeps item rest now next shape due more queue handed =>
      have numbered := inOrder.numbered
      rw [shape] at numbered
      obtain ⟨first, numbered⟩ := List.pairwise_cons.mp numbered
      refine inOrder.handing shape handed soFar ?_ ?_ ?_
      · rw [queue]
        exact List.pairwise_cons.mpr ⟨first, numbered⟩
      · intro other member
        rw [queue] at member
        cases member with
        | head => exact ⟨item, shape ▸ List.mem_cons_self, rfl⟩
        | tail _ member => exact ⟨other, shape ▸ List.mem_cons_of_mem _ member, rfl⟩
      · intro other member
        rw [queue] at member
        cases member with
        | head => exact ⟨Nat.le_refl _, fun impossible => nomatch impossible⟩
        | tail _ member => exact ⟨Nat.le_of_lt (first other member), fun _ => first other member⟩

theorem handings_concat {item : QueuedEmail} {now : Timestamp} {returned : Bool} (handed : p'.handed = p.handed ++ [⟨item, now, returned⟩])
    (number : Nat) : p'.handings number = p.handings number + if item.number = number then 1 else 0 := by
  unfold handings
  rw [handed, List.countP_append, List.countP_singleton]
  simp only [decide_eq_true_eq]

theorem handings_same (handed : p'.handed = p.handed) : p'.handings = p.handings := by
  unfold handings
  rw [handed]

/-- The head has used one attempt more, and nothing else has. -/
theorem Limited.handing {item : QueuedEmail} {rest : List QueuedEmail} {now : Timestamp} {returned : Bool} (limited : Limited p)
    (shape : p.queue = item :: rest) (handed : p'.handed = p.handed ++ [⟨item, now, returned⟩]) (number : Nat) :
    (p'.handings number : Int) ≤ p.config.maxAttempts := by
  have head : item ∈ p.queue := shape ▸ List.mem_cons_self
  rw [handings_concat handed]
  by_cases same : item.number = number
  · have counted := limited.counted item head
    have left := limited.left item head
    rw [same] at counted
    rw [if_pos same]
    omega
  · rw [if_neg same]
    exact limited.limit number

theorem Takes.limited (takes : Takes p p') (config : p'.config = p.config) (inOrder : InOrder p) (limited : Limited p) : Limited p' := by
  have numbered := inOrder.numbered
  cases takes with
  | stays same => exact same ▸ limited
  | drops item rest shape queue handed =>
      have old : ∀ other ∈ p'.queue, other ∈ p.queue := by
        intro other member
        rw [queue] at member
        rw [shape]
        exact List.mem_cons_of_mem _ member
      exact
        { counted := fun other member => (handings_same handed) ▸ limited.counted other (old other member)
          left := fun other member => config ▸ limited.left other (old other member)
          limit := fun number => config ▸ (handings_same handed) ▸ limited.limit number }
  | finishes item rest now returned shape due queue handed =>
      rw [shape] at numbered
      obtain ⟨first, -⟩ := List.pairwise_cons.mp numbered
      constructor
      · intro other member
        rw [queue] at member
        have apart := first other member
        rw [handings_concat handed, if_neg (by omega)]
        exact limited.counted other (shape ▸ List.mem_cons_of_mem _ member)
      · intro other member
        rw [queue] at member
        rw [config]
        exact limited.left other (shape ▸ List.mem_cons_of_mem _ member)
      · rw [config]
        exact limited.handing shape handed
  | keeps item rest now next shape due more queue handed =>
      rw [shape] at numbered
      obtain ⟨first, -⟩ := List.pairwise_cons.mp numbered
      constructor
      · intro other member
        rw [queue] at member
        rw [handings_concat handed]
        cases member with
        | head =>
            rw [if_pos rfl]
            exact congrArg (· + 1) (limited.counted item (shape ▸ List.mem_cons_self))
        | tail _ member =>
            have apart := first other member
            rw [if_neg (by omega)]
            exact limited.counted other (shape ▸ List.mem_cons_of_mem _ member)
      · intro other member
        rw [queue] at member
        rw [config]
        cases member with
        | head => exact more
        | tail _ member => exact limited.left other (shape ▸ List.mem_cons_of_mem _ member)
      · rw [config]
        exact limited.handing shape handed

theorem Takes.timely (takes : Takes p p') (timely : Timely p) : Timely p' := by
  have more : ∀ {item : QueuedEmail} {now : Timestamp} {returned : Bool}, Due p now item →
      p'.handed = p.handed ++ [⟨item, now, returned⟩] → Timely p' := by
    intro item now returned due handed handing among
    rw [handed, List.mem_append, List.mem_singleton] at among
    rcases among with among | rfl
    · exact timely handing among
    · exact ⟨due.due, due.current⟩
  cases takes with
  | stays same => exact same ▸ timely
  | drops item rest shape queue handed => exact fun handing among => timely handing (handed ▸ among)
  | finishes item rest now returned shape due queue handed => exact more due handed
  | keeps item rest now next shape due more' queue handed => exact more due handed

structure Sound (p : SmtpEmailCollaborativeSignalPublisher P) : Prop where
  positive : 1 ≤ p.config.maxAttempts
  tidy : Tidy p
  inOrder : InOrder p
  limited : Limited p
  timely : Timely p

theorem Takes.sound (takes : Takes p p') (config : p'.config = p.config) (soFar : p'.queuedSoFar = p.queuedSoFar) (sound : Sound p) :
    Sound p' where
  positive := config ▸ sound.positive
  tidy := takes.tidy config sound.tidy
  inOrder := takes.inOrder soFar sound.inOrder
  limited := takes.limited config sound.inOrder sound.limited
  timely := takes.timely sound.timely

section

variable {signal : OutboundSignal} {now : Timestamp} {raw : List UInt8}

theorem queued_tidy (tidy : Tidy p) (new : p.waits signal = false) (room : p.queue.length < p.config.maxItems) :
    Tidy { p with queue := p.queue ++ [⟨p.queuedSoFar, signal, raw, now, now, 0⟩], queuedSoFar := p.queuedSoFar + 1 } where
  bounded := by
    show (((p.queue ++ [_]).length : Nat) : Int) ≤ max p.config.maxItems 0
    rw [List.length_append, List.length_singleton]
    omega
  distinct := by
    refine List.pairwise_append.mpr ⟨tidy.distinct, List.pairwise_singleton _ _, ?_⟩
    rintro queued member last same ⟨episode, fingerprint⟩
    rw [List.mem_singleton.mp same] at episode fingerprint
    have waiting : p.waits signal = true := List.any_eq_true.mpr ⟨queued, member, by simp [episode, fingerprint]⟩
    rw [waiting] at new
    cases new

theorem queued_inOrder (inOrder : InOrder p) :
    InOrder { p with queue := p.queue ++ [⟨p.queuedSoFar, signal, raw, now, now, 0⟩], queuedSoFar := p.queuedSoFar + 1 } where
  numbered := by
    refine List.pairwise_append.mpr ⟨inOrder.numbered, List.pairwise_singleton _ _, ?_⟩
    intro queued member last same
    rw [List.mem_singleton.mp same]
    exact inOrder.below queued member
  below := by
    intro queued member
    rcases List.mem_append.mp member with member | same
    · exact Nat.lt_succ_of_lt (inOrder.below queued member)
    · rw [List.mem_singleton.mp same]
      exact Nat.lt_succ_self _
  behind := by
    intro handing among queued member
    rcases List.mem_append.mp member with member | same
    · exact inOrder.behind handing among queued member
    · rw [List.mem_singleton.mp same]
      have before := inOrder.handedBelow handing among
      exact ⟨Nat.le_of_lt before, fun _ => before⟩
  handedBelow := fun handing among => Nat.lt_succ_of_lt (inOrder.handedBelow handing among)
  ordered := inOrder.ordered

/-- A number that is not given yet has not been handed over. -/
theorem handings_new (inOrder : InOrder p) : p.handings p.queuedSoFar = 0 := by
  apply List.countP_eq_zero.mpr
  intro handing among same
  have before := inOrder.handedBelow handing among
  rw [of_decide_eq_true same] at before
  exact absurd before (Nat.lt_irrefl _)

theorem queued_limited (positive : 1 ≤ p.config.maxAttempts) (inOrder : InOrder p) (limited : Limited p) :
    Limited { p with queue := p.queue ++ [⟨p.queuedSoFar, signal, raw, now, now, 0⟩], queuedSoFar := p.queuedSoFar + 1 } where
  counted := by
    intro queued member
    rcases List.mem_append.mp member with member | same
    · exact limited.counted queued member
    · rw [List.mem_singleton.mp same]
      exact (handings_new inOrder).symm
  left := by
    intro queued member
    rcases List.mem_append.mp member with member | same
    · exact limited.left queued member
    · rw [List.mem_singleton.mp same]
      exact positive
  limit := limited.limit

end

theorem step_sound (op : PublisherOperation) (sound : Sound p) : Sound (step encode p op) := by
  cases op with
  | publish signal now =>
      have publishes := publish_publishes encode signal now p
      show Sound (publish encode signal now p).2
      generalize (publish encode signal now p).1 = r at publishes
      generalize (publish encode signal now p).2 = p' at publishes ⊢
      cases publishes with
      | expired expired => exact sound
      | suppressed current same => exact sound
      | unencoded current unsent new refused => exact sound
      | full current unsent new full => exact sound
      | queued current unsent new room =>
          exact
            { positive := sound.positive
              tidy := queued_tidy sound.tidy new room
              inOrder := queued_inOrder sound.inOrder
              limited := queued_limited sound.positive sound.inOrder sound.limited
              timely := sound.timely }
  | drainOnce now sendBytes random =>
      obtain ⟨takes, config, soFar⟩ := drainOnce_takes now sendBytes random p
      exact takes.sound config soFar sound

/-- A publisher that has done nothing yet. -/
def fresh (P : Platform) (config : SmtpQueueConfig) : SmtpEmailCollaborativeSignalPublisher P := { config := config }

theorem fresh_sound {config : SmtpQueueConfig} (positive : 1 ≤ config.maxAttempts) : Sound (fresh P config) where
  positive := positive
  tidy := ⟨Int.le_max_right _ _, List.Pairwise.nil⟩
  inOrder :=
    { numbered := .nil
      below := fun _ member => nomatch member
      behind := fun _ member => nomatch member
      handedBelow := fun _ member => nomatch member
      ordered := .nil }
  limited :=
    { counted := fun _ member => nomatch member
      left := fun _ member => nomatch member
      limit := fun _ => Int.le_trans Int.one_nonneg positive }
  timely := fun _ member => nomatch member

theorem step_config (encode : OutboundSignal → Except Error (List UInt8)) (p : SmtpEmailCollaborativeSignalPublisher P)
    (op : PublisherOperation) : (step encode p op).config = p.config := by
  cases op with
  | publish signal now =>
      have publishes := publish_publishes encode signal now p
      show (publish encode signal now p).2.config = p.config
      generalize (publish encode signal now p).1 = r at publishes
      generalize (publish encode signal now p).2 = p' at publishes ⊢
      cases publishes with
      | expired expired => rfl
      | suppressed current same => rfl
      | unencoded current unsent new refused => rfl
      | full current unsent new full => rfl
      | queued current unsent new room => rfl
  | drainOnce now sendBytes random => exact (drainOnce_takes now sendBytes random p).2.1

theorem run_config (p : SmtpEmailCollaborativeSignalPublisher P) (ops : List PublisherOperation) :
    (run (step encode) p ops).config = p.config := by
  refine run_invariant (I := fun q : SmtpEmailCollaborativeSignalPublisher P => q.config = p.config) ?_ rfl ops
  intro q op same
  exact (step_config encode q op).trans same

/-- The queue after any run is bounded, holds nothing twice, and has been handed over in order. -/
theorem retry_queue_orderly (encode : OutboundSignal → Except Error (List UInt8)) {config : SmtpQueueConfig}
    (positive : 1 ≤ config.maxAttempts) (ops : List PublisherOperation) :
    let p := run (step encode) (fresh P config) ops
    (p.queue.length : Int) ≤ max config.maxItems 0 ∧
      p.queue.Pairwise (fun a b => ¬ SaysTheSame P a b) ∧
      (∀ number, (p.handings number : Int) ≤ config.maxAttempts) ∧
      (∀ handing ∈ p.handed, handing.item.nextAttemptAt.instant ≤ handing.now.instant ∧
        handing.now.instant < handing.item.signal.expiresAt.instant) ∧
      p.handed.Pairwise (fun a b => a.returned = true → a.item.number ≠ b.item.number) ∧
      (p.handed.filter Handing.returned).Pairwise (fun a b => a.item.number < b.item.number) := by
  have sound : Sound (run (step encode) (fresh P config) ops) :=
    run_invariant (fun p op sound => step_sound op sound) (fresh_sound positive) ops
  have same : (run (step encode) (fresh P config) ops).config = config := run_config _ ops
  have limit := sound.limited.limit
  have bounded := sound.tidy.bounded
  rw [same] at limit bounded
  refine ⟨bounded, sound.tidy.distinct, limit, sound.timely, ?_, ?_⟩
  · exact sound.inOrder.ordered.imp fun before returned => Nat.ne_of_lt (before.2 returned)
  · exact (sound.inOrder.ordered.filter _).imp_of_mem fun among _ before => before.2 (List.mem_filter.mp among).2

/-- A report of an episode, that expires at that second. -/
def update (episodeId observation : String) (expiry : Int) : OutboundSignal where
  signalId := "signal_1234567890123456"
  nodePseudonym := "peer_1234567890123456"
  hazard := .wildfire
  observation := observation
  correlationDomain := ⟨.observationArea, "area:demo"⟩
  eventTimeBucket := ⟨0, 0⟩
  clockUncertaintyBand := .low
  sourceMode := .live
  expiresAt := ⟨expiry * 1000000, 0⟩
  episodeId := episodeId
  confidenceBand := .high
  coverageBand := .good
  sensorHealth := .healthy
  sharingPolicyVersion := "v1"
  researchUseAllowed := false

/-- The mail is the observation. -/
def encodeObservation (signal : OutboundSignal) : Except Error (List UInt8) :=
  .ok (signal.observation.toList.map fun c => UInt8.ofNat c.toNat)

/-- A sender that is offline twice makes a dead letter of the first signal, and the second is sent. -/
theorem dead_letter_makes_way :
    let config : SmtpQueueConfig := { maxAttempts := 2, initialBackoffSeconds := 0 }
    let offline := fun _ : List UInt8 => Except.error (Error.osError "offline")
    let p := run (step encodeObservation) (fresh Platform.transparent config)
      [.publish (update "episode-1" "possible_smoke" 90) ⟨0, 0⟩, .publish (update "episode-2" "possible_smoke" 90) ⟨0, 0⟩,
        .drainOnce ⟨1000000, 0⟩ offline 0, .drainOnce ⟨2000000, 0⟩ offline 0, .drainOnce ⟨3000000, 0⟩ (fun _ => .ok ()) 0]
    p.handed.map (fun handing => (handing.item.number, handing.returned)) = [(0, false), (0, false), (1, true)] ∧
      (p.handed.filter Handing.returned).Pairwise (fun a b => a.item.number < b.item.number) :=
  ⟨by decide +kernel, (retry_queue_orderly encodeObservation (by decide) _).2.2.2.2.2⟩

/-- A bound below zero is exceeded by an empty queue. -/
theorem negative_bound_is_exceeded : ¬ ∀ config : SmtpQueueConfig, 1 ≤ config.maxAttempts →
    ((run (step encodeObservation) (fresh Platform.transparent config) []).queue.length : Int) ≤ config.maxItems := by
  intro bounded
  exact absurd (bounded { maxItems := -1 } (by decide)) (by decide +kernel)

end SmtpEmailCollaborativeSignalPublisher

end SentinelEdge.Collaboration
