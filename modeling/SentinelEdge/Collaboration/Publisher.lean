import Mathlib.Algebra.Order.Floor.Ring
import Mathlib.Data.Rat.Floor
import SentinelEdge.Collaboration.Signals
import SentinelEdge.Foundation.Call
import SentinelEdge.Foundation.Dict

/-! # The mail publisher

Signals wait in a queue until a mail with them has been sent. A signal that says the
same as the last one sent, or as one that waits, is suppressed.
-/

namespace SentinelEdge.Collaboration

open Foundation Domain

inductive CoverageBand where
  | good | partialCoverage | degraded | blind | unknown
  deriving DecidableEq, Repr

def CoverageBand.value : CoverageBand → String
  | .good => "good"
  | .partialCoverage => "partial"
  | .degraded => "degraded"
  | .blind => "blind"
  | .unknown => "unknown"

inductive SensorHealth where
  | healthy | degraded | failed | unknown
  deriving DecidableEq, Repr

def SensorHealth.value : SensorHealth → String
  | .healthy => "healthy"
  | .degraded => "degraded"
  | .failed => "failed"
  | .unknown => "unknown"

/-- The bands of confidence and of clock uncertainty have the same names. -/
def ClockBand.value : ClockBand → String
  | .low => "low"
  | .medium => "medium"
  | .high => "high"
  | .unknown => "unknown"

def SignalSourceMode.value : SignalSourceMode → String
  | .live => "live"
  | .fixture => "fixture"
  | .simulated => "simulated"
  | .replayed => "replayed"

/-- A signal with the fields that its fingerprint covers. -/
structure OutboundSignal extends CollaborativeSignal where
  episodeId : String
  domainPolicyId : Option String := none
  confidenceBand : ClockBand
  coverageBand : CoverageBand
  sensorHealth : SensorHealth
  sharingPolicyVersion : String
  researchUseAllowed : Bool
  deriving DecidableEq

/-- `model_dump` without the fields that may change while the signal says the same. -/
def OutboundSignal.payload (signal : OutboundSignal) : Json :=
  .obj [("clock_uncertainty_band", .str signal.clockUncertaintyBand.value),
    ("confidence_band", .str signal.confidenceBand.value),
    ("correlation_domain", .obj [("domain_policy_id", Json.optional .str signal.domainPolicyId),
      ("id", .str signal.correlationDomain.id), ("kind", .str signal.correlationDomain.kind.value)]),
    ("coverage_band", .str signal.coverageBand.value), ("episode_id", .str signal.episodeId),
    ("hazard", .str signal.hazard.value), ("node_pseudonym", .str signal.nodePseudonym),
    ("observation", .str signal.observation), ("research_use_allowed", .bool signal.researchUseAllowed),
    ("schema_version", .str "1.0"), ("sensor_health", .str signal.sensorHealth.value),
    ("sharing_policy_version", .str signal.sharingPolicyVersion), ("source_mode", .str signal.sourceMode.value)]

structure SmtpQueueConfig where
  maxItems : Int := 64
  maxAgeSeconds : Int := 3600
  initialBackoffSeconds : ℚ := 5
  maxBackoffSeconds : ℚ := 300
  maxAttempts : Int := 8
  ordinaryUpdateMinIntervalSeconds : ℚ := 60

structure QueuedEmail where
  /-- Which one it is, in the order of queueing. -/
  number : Nat
  signal : OutboundSignal
  raw : List UInt8
  enqueuedAt : Timestamp
  nextAttemptAt : Timestamp
  attempts : Nat := 0

/-- What one `publish` or `drain_once` answers. -/
inductive PublisherAnswer where
  | expired | suppressedUnchanged | queueFull | queued | empty | notDue | deadLetter | retryScheduled | sent
  deriving DecidableEq, Repr

/-- A mail that was handed to the sender, and whether the sender returned. -/
structure Handing where
  item : QueuedEmail
  now : Timestamp
  returned : Bool

structure SmtpEmailCollaborativeSignalPublisher (P : Platform) where
  config : SmtpQueueConfig := {}
  queue : List QueuedEmail := []
  sentByEpisode : Dict String (P.Digest × Timestamp) := .empty
  /-- How many have been queued so far. -/
  queuedSoFar : Nat := 0
  /-- What the sender has been given so far. -/
  handed : List Handing := []

/-- `timedelta(seconds=...)`, rounded half to even. -/
def microseconds (seconds : ℚ) : Int :=
  let whole := ⌊seconds * 1000000⌋
  let rest := seconds * 1000000 - whole
  if rest < 1 / 2 then whole
  else if 1 / 2 < rest then whole + 1
  else if whole % 2 = 0 then whole else whole + 1

namespace SmtpEmailCollaborativeSignalPublisher

variable {P : Platform}

abbrev PublisherCall (P : Platform) (α : Type) := Call (SmtpEmailCollaborativeSignalPublisher P) Error α

def semanticFingerprint (P : Platform) (signal : OutboundSignal) : P.Digest := P.sha256 signal.payload

/-- The last signal sent for the episode says the same and was sent lately. -/
def sentLately (p : SmtpEmailCollaborativeSignalPublisher P) (signal : OutboundSignal) (now : Timestamp) : Bool :=
  match p.sentByEpisode.get? signal.episodeId with
  | none => false
  | some previous => previous.1 = semanticFingerprint P signal &&
      ((now.instant - previous.2.instant : Int) : ℚ) / 1000000 < p.config.ordinaryUpdateMinIntervalSeconds

/-- A signal that waits says the same. -/
def waits (p : SmtpEmailCollaborativeSignalPublisher P) (signal : OutboundSignal) : Bool :=
  p.queue.any fun queued => queued.signal.episodeId = signal.episodeId &&
    semanticFingerprint P queued.signal = semanticFingerprint P signal

/-- `encode` is `encode_email` with the sender and the recipient. -/
def publish (encode : OutboundSignal → Except Error (List UInt8)) (signal : OutboundSignal) (now : Timestamp) :
    PublisherCall P PublisherAnswer := do
  let p ← Call.read id
  if signal.expiresAt.instant ≤ now.instant then pure .expired
  else if p.sentLately signal now || p.waits signal then pure .suppressedUnchanged
  else do
    let raw ← Call.lift (encode signal)
    if p.config.maxItems ≤ p.queue.length then pure .queueFull
    else do
      Call.modify (fun p =>
        { p with queue := p.queue ++ [⟨p.queuedSoFar, signal, raw, now, now, 0⟩], queuedSoFar := p.queuedSoFar + 1 })
      pure .queued

/-- The time of the next attempt, with a random number of the unit interval for the
    jitter. From 2^1024 on a power of two does not fit a float. -/
def retryAt (config : SmtpQueueConfig) (attempts : Nat) (random : ℚ) (now : Timestamp) : Except Error Timestamp :=
  if 1024 < attempts then .error .overflowError
  else
    let delay := min config.maxBackoffSeconds (config.initialBackoffSeconds * 2 ^ (attempts - 1))
    now.add (microseconds (delay + delay * (1 / 10) * random))

def drainOnce (now : Timestamp) (sendBytes : List UInt8 → Except Error Unit) (random : ℚ) : PublisherCall P PublisherAnswer := do
  let p ← Call.read id
  match p.queue with
  | [] => pure .empty
  | item :: rest =>
      if now.instant < item.nextAttemptAt.instant then pure .notDue
      else if item.signal.expiresAt.instant ≤ now.instant ∨
          p.config.maxAgeSeconds * 1000000 < now.instant - item.enqueuedAt.instant then do
        Call.modify (fun p => { p with queue := rest })
        pure .expired
      else do
        Call.modify (fun p => { p with handed := p.handed ++ [⟨item, now, (sendBytes item.raw).isOk⟩] })
        match sendBytes item.raw with
        | .error _ => do
            let failed := { item with attempts := item.attempts + 1 }
            Call.modify (fun p => { p with queue := failed :: rest })
            if p.config.maxAttempts ≤ failed.attempts then do
              Call.modify (fun p => { p with queue := rest })
              pure .deadLetter
            else do
              let next ← Call.lift (retryAt p.config failed.attempts random now)
              Call.modify (fun p => { p with queue := { failed with nextAttemptAt := next } :: rest })
              pure .retryScheduled
        | .ok _ => do
            Call.modify (fun p =>
              { p with
                queue := rest
                sentByEpisode := p.sentByEpisode.insert item.signal.episodeId (semanticFingerprint P item.signal, now) })
            pure .sent

/-! ## What the calls do -/

/-- The ways a call of `publish` can end. -/
inductive Publishes (encode : OutboundSignal → Except Error (List UInt8)) (signal : OutboundSignal) (now : Timestamp)
    (p : SmtpEmailCollaborativeSignalPublisher P) :
    Except Error PublisherAnswer → SmtpEmailCollaborativeSignalPublisher P → Prop where
  | expired (expired : signal.expiresAt.instant ≤ now.instant) : Publishes encode signal now p (.ok .expired) p
  | suppressed (current : now.instant < signal.expiresAt.instant) (same : p.sentLately signal now = true ∨ p.waits signal = true) :
      Publishes encode signal now p (.ok .suppressedUnchanged) p
  | unencoded {exc : Error} (current : now.instant < signal.expiresAt.instant) (unsent : p.sentLately signal now = false)
      (new : p.waits signal = false) (refused : encode signal = .error exc) : Publishes encode signal now p (.error exc) p
  | full (current : now.instant < signal.expiresAt.instant) (unsent : p.sentLately signal now = false)
      (new : p.waits signal = false) (full : p.config.maxItems ≤ p.queue.length) :
      Publishes encode signal now p (.ok .queueFull) p
  | queued {raw : List UInt8} (current : now.instant < signal.expiresAt.instant) (unsent : p.sentLately signal now = false)
      (new : p.waits signal = false) (room : p.queue.length < p.config.maxItems) :
      Publishes encode signal now p (.ok .queued)
        { p with queue := p.queue ++ [⟨p.queuedSoFar, signal, raw, now, now, 0⟩], queuedSoFar := p.queuedSoFar + 1 }

theorem publish_publishes (encode : OutboundSignal → Except Error (List UInt8)) (signal : OutboundSignal) (now : Timestamp)
    (p : SmtpEmailCollaborativeSignalPublisher P) :
    Publishes encode signal now p (publish encode signal now p).1 (publish encode signal now p).2 := by
  unfold publish
  rw [Call.read_bind]
  by_cases expired : signal.expiresAt.instant ≤ now.instant
  · simp only [id, if_pos expired]
    exact .expired expired
  · have current : now.instant < signal.expiresAt.instant := Int.not_le.mp expired
    simp only [id, if_neg expired]
    cases same : p.sentLately signal now || p.waits signal with
    | true =>
        simp only [if_true]
        exact .suppressed current ((Bool.or_eq_true _ _).mp same)
    | false =>
        obtain ⟨unsent, new⟩ := (Bool.or_eq_false_iff).mp same
        simp only [Bool.false_eq_true, if_false]
        cases encoded : encode signal with
        | error exc => exact .unencoded current unsent new encoded
        | ok raw =>
            rw [Call.bind_of_ok (Call.lift_apply (.ok raw) p)]
            by_cases full : p.config.maxItems ≤ p.queue.length
            · rw [if_pos full]
              exact .full current unsent new full
            · rw [if_neg full, Call.modify_bind]
              exact .queued current unsent new (Int.not_le.mp full)

/-- An item may be handed to the sender. -/
structure Due (p : SmtpEmailCollaborativeSignalPublisher P) (now : Timestamp) (item : QueuedEmail) : Prop where
  due : item.nextAttemptAt.instant ≤ now.instant
  current : now.instant < item.signal.expiresAt.instant
  young : now.instant - item.enqueuedAt.instant ≤ p.config.maxAgeSeconds * 1000000

/-- The ways a call of `drain_once` can end. -/
inductive Drains (now : Timestamp) (sendBytes : List UInt8 → Except Error Unit) (random : ℚ)
    (p : SmtpEmailCollaborativeSignalPublisher P) :
    Except Error PublisherAnswer → SmtpEmailCollaborativeSignalPublisher P → Prop where
  | empty (none : p.queue = []) : Drains now sendBytes random p (.ok .empty) p
  | notDue {item : QueuedEmail} {rest : List QueuedEmail} (shape : p.queue = item :: rest)
      (early : now.instant < item.nextAttemptAt.instant) : Drains now sendBytes random p (.ok .notDue) p
  | expired {item : QueuedEmail} {rest : List QueuedEmail} (shape : p.queue = item :: rest)
      (gone : ¬ Due p now item) : Drains now sendBytes random p (.ok .expired) { p with queue := rest }
  | deadLetter {item : QueuedEmail} {rest : List QueuedEmail} {exc : Error} (shape : p.queue = item :: rest) (due : Due p now item)
      (raised : sendBytes item.raw = .error exc) (last : p.config.maxAttempts ≤ (item.attempts + 1 : Nat)) :
      Drains now sendBytes random p (.ok .deadLetter) { p with queue := rest, handed := p.handed ++ [⟨item, now, false⟩] }
  | unscheduled {item : QueuedEmail} {rest : List QueuedEmail} {exc exc' : Error} (shape : p.queue = item :: rest)
      (due : Due p now item) (raised : sendBytes item.raw = .error exc) (more : ((item.attempts + 1 : Nat) : Int) < p.config.maxAttempts) :
      Drains now sendBytes random p (.error exc')
        { p with
          queue := { item with attempts := item.attempts + 1 } :: rest
          handed := p.handed ++ [⟨item, now, false⟩] }
  | retryScheduled {item : QueuedEmail} {rest : List QueuedEmail} {exc : Error} {next : Timestamp} (shape : p.queue = item :: rest)
      (due : Due p now item) (raised : sendBytes item.raw = .error exc) (more : ((item.attempts + 1 : Nat) : Int) < p.config.maxAttempts) :
      Drains now sendBytes random p (.ok .retryScheduled)
        { p with
          queue := { item with attempts := item.attempts + 1, nextAttemptAt := next } :: rest
          handed := p.handed ++ [⟨item, now, false⟩] }
  | sent {item : QueuedEmail} {rest : List QueuedEmail} (shape : p.queue = item :: rest) (due : Due p now item)
      (returned : sendBytes item.raw = .ok ()) :
      Drains now sendBytes random p (.ok .sent)
        { p with
          queue := rest
          sentByEpisode := p.sentByEpisode.insert item.signal.episodeId (semanticFingerprint P item.signal, now)
          handed := p.handed ++ [⟨item, now, true⟩] }

theorem drainOnce_drains (now : Timestamp) (sendBytes : List UInt8 → Except Error Unit) (random : ℚ)
    (p : SmtpEmailCollaborativeSignalPublisher P) :
    Drains now sendBytes random p (drainOnce now sendBytes random p).1 (drainOnce now sendBytes random p).2 := by
  unfold drainOnce
  rw [Call.read_bind]
  cases shape : p.queue with
  | nil =>
      simp only [id, shape]
      exact .empty shape
  | cons item rest =>
      simp only [id, shape]
      by_cases early : now.instant < item.nextAttemptAt.instant
      · rw [if_pos early]
        exact .notDue shape early
      · rw [if_neg early]
        by_cases gone : item.signal.expiresAt.instant ≤ now.instant ∨
            p.config.maxAgeSeconds * 1000000 < now.instant - item.enqueuedAt.instant
        · rw [if_pos gone]
          refine .expired shape fun due => ?_
          cases gone with
          | inl expired => exact Int.not_le.mpr due.current expired
          | inr old => exact Int.not_le.mpr old due.young
        · rw [if_neg gone]
          obtain ⟨current, young⟩ := not_or.mp gone
          have due : Due p now item := ⟨Int.not_lt.mp early, Int.not_le.mp current, Int.not_lt.mp young⟩
          rw [Call.modify_bind]
          cases sends : sendBytes item.raw with
          | ok done => exact .sent shape due sends
          | error exc =>
              simp only [Call.modify_bind]
              by_cases last : p.config.maxAttempts ≤ (item.attempts + 1 : Nat)
              · rw [if_pos last]
                exact .deadLetter shape due sends last
              · rw [if_neg last]
                cases scheduled : retryAt p.config (item.attempts + 1) random now with
                | error exc' => exact .unscheduled shape due sends (by omega)
                | ok next => exact .retryScheduled shape due sends (by omega)

end SmtpEmailCollaborativeSignalPublisher

end SentinelEdge.Collaboration
