import Mathlib.Data.List.Dedup
import Mathlib.Data.List.Sort
import Mathlib.Data.Rat.Cast.Order
import SentinelEdge.Collaboration.Signals
import SentinelEdge.Foundation.Call
import SentinelEdge.Foundation.Checks
import SentinelEdge.Foundation.Dict

/-! # Trusted time

The manager of time sources. It keeps the latest reading of each source, selects one
of them, and answers with a snapshot of what the clock may be used for. A reading that
does not follow from the one before it starts a new clock epoch.
-/

namespace SentinelEdge.Runtime

open Collaboration (WireTime)
open Domain Foundation

inductive TimeOrigin where
  | rtc | manual | gnss | ntp | nts | fixture
  deriving DecidableEq, Repr

inductive TimeTrustState where
  | trusted | displayOnly | degraded | unusable
  deriving DecidableEq, Repr

@[ext]
structure TimeSourceObservation where
  sourceId : String
  origin : TimeOrigin
  authenticated : Bool
  observedUtc : WireTime
  observedMonotonicNs : Nat
  uncertaintyMs : ℚ
  ageMs : ℚ
  stratum : Option Nat := none
  referenceId : Option String := none
  continuityId : String
  clockEpoch : Nat := 0
  clockUncertaintyMs : ℚ := 0
  certificateBootstrapValid : Option Bool := none
  notBlank : isBlank sourceId = false ∧ isBlank continuityId = false := by decide
  bounded : 0 ≤ uncertaintyMs ∧ 0 ≤ ageMs ∧ 0 ≤ clockUncertaintyMs ∧ ∀ n ∈ stratum, n ≤ 16 := by decide

instance : DecidableEq TimeSourceObservation := fun _ _ => decidable_of_iff _ TimeSourceObservation.ext_iff.symm

structure TimeTrustPolicy where
  maxTrustedUncertaintyMs : ℚ := 250
  maxDisplayUncertaintyMs : ℚ := 10000
  maxSourceAgeMs : ℚ := 60000
  disagreementThresholdMs : ℚ := 1000
  authenticatedOrigins : List TimeOrigin := [.nts]
  locallyTrustedOrigins : List TimeOrigin := [.fixture]

structure TimeTrustSnapshot where
  state : TimeTrustState
  selectedSourceId : Option String
  selectedOrigin : Option TimeOrigin
  authenticated : Bool
  uncertaintyMs : Option ℚ
  clockEpoch : Nat
  displayTimeAllowed : Bool
  securityValidityAllowed : Bool
  remoteFreshnessAllowed : Bool
  peerCorrelationAllowed : Bool
  reasonCodes : List String
  sources : List TimeSourceObservation
  deriving DecidableEq

/-- Nothing is selected and nothing allowed. -/
def TimeTrustSnapshot.unusable (clockEpoch : Nat) (reasonCodes : List String) (sources : List TimeSourceObservation) :
    TimeTrustSnapshot where
  state := .unusable
  selectedSourceId := none
  selectedOrigin := none
  authenticated := false
  uncertaintyMs := none
  clockEpoch := clockEpoch
  displayTimeAllowed := false
  securityValidityAllowed := false
  remoteFreshnessAllowed := false
  peerCorrelationAllowed := false
  reasonCodes := reasonCodes
  sources := sources

/-- `tuple(sorted(set(reasons)))` -/
def sortedSet (reasons : List String) : List String := reasons.dedup.insertionSort (· ≤ ·)

@[simp] theorem mem_sortedSet {reason : String} {reasons : List String} : reason ∈ sortedSet reasons ↔ reason ∈ reasons := by
  rw [sortedSet, List.mem_insertionSort, List.mem_dedup]

/-- `_utc_ms`, which raises on a wall clock without an offset and on one that shows an
    instant outside the years of UTC. -/
def utcMs (value : WireTime) : Except Error ℚ :=
  if value.naive then .error (.valueError "time source must carry timezone")
  else if value.time.instant < Timestamp.earliest ∨ DateTime.max < value.time.instant then .error .overflowError
  else .ok ((value.time.instant : ℚ) / 1000)

namespace TimeTrustPolicy

variable (policy : TimeTrustPolicy)

/-- What the two readings of a source that claims to be continuous give away. -/
def stepReasons (observedDeltaMs expectedDeltaMs : ℚ) : List String :=
  if observedDeltaMs < -policy.disagreementThresholdMs then ["utc_rollback_detected"]
  else if policy.disagreementThresholdMs < |observedDeltaMs - expectedDeltaMs| then ["utc_step_detected"]
  else []

/-- How the reading goes on from the previous one of its source. -/
def continuation (previous observation : TimeSourceObservation) : Except Error (List String) :=
  if observation.continuityId = previous.continuityId then do
    let observed ← utcMs observation.observedUtc
    let before ← utcMs previous.observedUtc
    Checks.refuse (observation.observedMonotonicNs < previous.observedMonotonicNs)
      (.valueError "time source monotonic rollback")
    pure (policy.stepReasons (observed - before)
      (((observation.observedMonotonicNs : ℚ) - previous.observedMonotonicNs) / 1000000))
  else pure ["time_source_continuity_changed"]

/-- The readings of one source, set beside each other. -/
def discontinuities (previous observation : TimeSourceObservation) : Except Error (List String) := do
  Checks.refuse (observation.clockEpoch < previous.clockEpoch) (.valueError "time source clock epoch rollback")
  let stepped ← policy.continuation previous observation
  pure (stepped ++ if observation.authenticated ≠ previous.authenticated then ["time_authentication_changed"] else [])

def candidates (sources : List TimeSourceObservation) : List TimeSourceObservation :=
  sources.filter (fun item => item.ageMs ≤ policy.maxSourceAgeMs)

/-- The origin is one that is trusted, authenticated where it has to be. -/
def trusts (item : TimeSourceObservation) : Bool :=
  item.origin ∈ policy.authenticatedOrigins && item.authenticated || item.origin ∈ policy.locallyTrustedOrigins

def trustedCandidates (candidates : List TimeSourceObservation) : List TimeSourceObservation :=
  candidates.filter (fun item => policy.trusts item && item.uncertaintyMs ≤ policy.maxTrustedUncertaintyMs)

def displayCandidates (candidates : List TimeSourceObservation) : List TimeSourceObservation :=
  candidates.filter (fun item => item.uncertaintyMs ≤ policy.maxDisplayUncertaintyMs)

end TimeTrustPolicy

/-- `(uncertainty_ms, age_ms, source_id)` of one is less than that of the other. -/
def TimeSourceObservation.precedes (a b : TimeSourceObservation) : Bool :=
  a.uncertaintyMs < b.uncertaintyMs || a.uncertaintyMs = b.uncertaintyMs &&
    (a.ageMs < b.ageMs || a.ageMs = b.ageMs && a.sourceId < b.sourceId)

/-- `min(pool, key=...)` of a pool that is not empty. -/
def least (first : TimeSourceObservation) (rest : List TimeSourceObservation) : TimeSourceObservation :=
  rest.foldl (fun best item => if item.precedes best then item else best) first

theorem least_mem (first : TimeSourceObservation) (rest : List TimeSourceObservation) : least first rest ∈ first :: rest := by
  unfold least
  induction rest generalizing first with
  | nil => exact List.mem_singleton_self first
  | cons item rest ih =>
      rw [List.foldl_cons]
      split
      · exact List.mem_cons_of_mem first (ih item)
      · cases List.mem_cons.mp (ih first) with
        | inl here => rw [here]; exact List.mem_cons_self
        | inr later => exact List.mem_cons_of_mem _ (List.mem_cons_of_mem item later)

namespace TimeTrustPolicy

variable (policy : TimeTrustPolicy)

/-- The least uncertain of the trusted candidates, else of those fit for display, else
    of all. -/
def selected (first : TimeSourceObservation) (rest : List TimeSourceObservation) : TimeSourceObservation :=
  match policy.trustedCandidates (first :: rest) with
  | item :: later => least item later
  | [] =>
      match policy.displayCandidates (first :: rest) with
      | item :: later => least item later
      | [] => least first rest

/-- The trusted candidates show times that are too far apart. -/
def disagree : List TimeSourceObservation → Except Error Bool
  | [] => .ok false
  | [_] => .ok false
  | first :: rest => do
      let time ← utcMs first.observedUtc
      let times ← rest.mapM (fun item => utcMs item.observedUtc)
      pure (policy.disagreementThresholdMs < times.foldl max time - times.foldl min time)

end TimeTrustPolicy

def selectionChanges : Option TimeSourceObservation → TimeSourceObservation → List String
  | none, _ => []
  | some last, chosen =>
      (if chosen.sourceId ≠ last.sourceId then ["selected_time_source_changed"] else []) ++
      (if chosen.authenticated ≠ last.authenticated then ["selected_time_authentication_changed"] else []) ++
      (if chosen.continuityId ≠ last.continuityId then ["selected_time_continuity_changed"] else [])

/-- The codes that start a new clock epoch. -/
def epochCodes : List String :=
  ["trusted_sources_disagree", "utc_rollback_detected", "utc_step_detected", "selected_time_authentication_changed",
    "selected_time_continuity_changed", "time_authentication_changed", "time_source_continuity_changed"]

def advances (reasons : List String) : Bool := epochCodes.any (fun code => code ∈ reasons)

/-- What the selected source may be used for; the security, freshness and correlation of
    a snapshot are allowed together. -/
structure Standing where
  state : TimeTrustState
  allowed : Bool
  reasons : List String

/-- The standing by the pool the source was selected from. -/
def Standing.ofPool (trusted displayed : Bool) : Standing :=
  if trusted then ⟨.trusted, true, ["trusted_time_selected"]⟩
  else if displayed then ⟨.displayOnly, false, ["unauthenticated_or_uncertain_time_display_only"]⟩
  else ⟨.degraded, false, ["time_uncertainty_exceeds_display_policy"]⟩

def Standing.checkNtp (chosen : TimeSourceObservation) (standing : Standing) : Standing :=
  if chosen.origin = .ntp ∧ chosen.authenticated = false then
    ⟨if standing.state = .trusted then .displayOnly else standing.state, false,
      standing.reasons ++ ["unauthenticated_ntp_cannot_strengthen_security"]⟩
  else standing

def Standing.checkBootstrap (chosen : TimeSourceObservation) (standing : Standing) : Standing :=
  if chosen.certificateBootstrapValid = some false then
    ⟨.degraded, false, standing.reasons ++ ["certificate_bootstrap_invalid"]⟩
  else standing

structure TrustedTimeManager where
  policy : TimeTrustPolicy := {}
  sources : Dict String TimeSourceObservation := .empty
  clockEpoch : Nat := 0
  lastSelected : Option TimeSourceObservation := none
  lastSnapshot : TimeTrustSnapshot := .unusable 0 ["no_time_source"] []

namespace TrustedTimeManager

/-- The readings, sorted by their source. -/
def ordered (m : TrustedTimeManager) : List TimeSourceObservation :=
  m.sources.values.insertionSort (fun a b => a.sourceId ≤ b.sourceId)

/-- The reasons a source is selected with. -/
def reasonsFor (m : TrustedTimeManager) (extraReasons : List String) (disagreed : Bool) (chosen : TimeSourceObservation) :
    List String :=
  extraReasons ++ (if disagreed then ["trusted_sources_disagree"] else []) ++ selectionChanges m.lastSelected chosen

def standing (m : TrustedTimeManager) (reasons : List String) (fresh : List TimeSourceObservation)
    (chosen : TimeSourceObservation) : Standing :=
  ((Standing.ofPool (chosen ∈ m.policy.trustedCandidates fresh && "trusted_sources_disagree" ∉ reasons)
    (chosen ∈ m.policy.displayCandidates fresh)).checkNtp chosen).checkBootstrap chosen

/-- The epoch once these reasons are known. -/
def epochAfter (m : TrustedTimeManager) (reasons : List String) : Nat :=
  if advances reasons then m.clockEpoch + 1 else m.clockEpoch

/-- The snapshot of a selected source. -/
def snapshotOf (m : TrustedTimeManager) (reasons : List String) (fresh : List TimeSourceObservation)
    (chosen : TimeSourceObservation) : TimeTrustSnapshot where
  state := (m.standing reasons fresh chosen).state
  selectedSourceId := some chosen.sourceId
  selectedOrigin := some chosen.origin
  authenticated := chosen.authenticated
  uncertaintyMs := some chosen.uncertaintyMs
  clockEpoch := m.epochAfter reasons
  displayTimeAllowed := (m.standing reasons fresh chosen).state ≠ .unusable
  securityValidityAllowed := (m.standing reasons fresh chosen).allowed
  remoteFreshnessAllowed := (m.standing reasons fresh chosen).allowed
  peerCorrelationAllowed := (m.standing reasons fresh chosen).allowed
  reasonCodes := sortedSet (reasons ++ (m.standing reasons fresh chosen).reasons)
  sources := m.ordered

/-- A stale snapshot is returned before the epoch is advanced. -/
def evaluate (extraReasons : List String) : Call TrustedTimeManager Error TimeTrustSnapshot := fun m =>
  match m.policy.candidates m.ordered with
  | [] =>
      (.ok (.unusable m.clockEpoch
        (sortedSet (extraReasons ++ [if m.ordered = [] then "no_time_source" else "all_time_sources_stale"])) m.ordered), m)
  | first :: rest =>
      match m.policy.disagree (m.policy.trustedCandidates (first :: rest)) with
      | .error e => (.error e, m)
      | .ok disagreed =>
          let chosen := m.policy.selected first rest
          let reasons := m.reasonsFor extraReasons disagreed chosen
          (.ok (m.snapshotOf reasons (first :: rest) chosen),
            { m with clockEpoch := m.epochAfter reasons, lastSelected := some chosen })

/-- The discontinuities between a reading and the previous one of its source. -/
def detected (m : TrustedTimeManager) (observation : TimeSourceObservation) : Except Error (List String) :=
  match m.sources.get? observation.sourceId with
  | none => .ok []
  | some previous => m.policy.discontinuities previous observation

/-- `self._sources[observation.source_id] = observation` -/
def stored (m : TrustedTimeManager) (observation : TimeSourceObservation) : TrustedTimeManager :=
  { m with sources := m.sources.insert observation.sourceId observation }

def update (observation : TimeSourceObservation) : Call TrustedTimeManager Error TimeTrustSnapshot := do
  let detected ← Call.read (fun m => m.detected observation)
  let discontinuityReasons ← Call.lift detected
  Call.modify (fun m => m.stored observation)
  let snapshot ← evaluate discontinuityReasons
  Call.modify (fun m => { m with lastSnapshot := snapshot })
  pure snapshot

/-! ## How a call ends -/

inductive Evaluates (m : TrustedTimeManager) (extraReasons : List String) :
    Except Error TimeTrustSnapshot → TrustedTimeManager → Prop where
  | stale {last : String} (old : m.policy.candidates m.ordered = [])
      (named : last ∈ ["no_time_source", "all_time_sources_stale"]) :
      Evaluates m extraReasons (.ok (.unusable m.clockEpoch (sortedSet (extraReasons ++ [last])) m.ordered)) m
  | undated {first : TimeSourceObservation} {rest : List TimeSourceObservation} {e : Error}
      (fresh : m.policy.candidates m.ordered = first :: rest)
      (raised : m.policy.disagree (m.policy.trustedCandidates (first :: rest)) = .error e) :
      Evaluates m extraReasons (.error e) m
  | chosen {first : TimeSourceObservation} {rest : List TimeSourceObservation} {disagreed : Bool} {reasons : List String}
      (fresh : m.policy.candidates m.ordered = first :: rest)
      (compared : m.policy.disagree (m.policy.trustedCandidates (first :: rest)) = .ok disagreed)
      (known : reasons = m.reasonsFor extraReasons disagreed (m.policy.selected first rest)) :
      Evaluates m extraReasons (.ok (m.snapshotOf reasons (first :: rest) (m.policy.selected first rest)))
        { m with clockEpoch := m.epochAfter reasons, lastSelected := some (m.policy.selected first rest) }

theorem evaluate_ends (m : TrustedTimeManager) (extraReasons : List String) :
    Evaluates m extraReasons (evaluate extraReasons m).1 (evaluate extraReasons m).2 := by
  unfold evaluate
  cases fresh : m.policy.candidates m.ordered with
  | nil =>
      refine .stale fresh ?_
      split <;> decide
  | cons first rest =>
      dsimp only
      cases compared : m.policy.disagree (m.policy.trustedCandidates (first :: rest)) with
      | error e => exact .undated fresh compared
      | ok disagreed => exact .chosen fresh compared rfl

/-- The manager once the result of `evaluate` is known. -/
def recording (result : Except Error TimeTrustSnapshot) (m : TrustedTimeManager) : TrustedTimeManager :=
  match result with
  | .ok snapshot => { m with lastSnapshot := snapshot }
  | .error _ => m

inductive Updates (m : TrustedTimeManager) (observation : TimeSourceObservation) :
    Except Error TimeTrustSnapshot → TrustedTimeManager → Prop where
  | refused {e : Error} (raised : m.detected observation = .error e) : Updates m observation (.error e) m
  | evaluated {reasons : List String} {result : Except Error TimeTrustSnapshot} {n : TrustedTimeManager}
      (found : m.detected observation = .ok reasons) (ends : Evaluates (m.stored observation) reasons result n) :
      Updates m observation result (recording result n)

theorem update_ends (m : TrustedTimeManager) (observation : TimeSourceObservation) :
    Updates m observation (update observation m).1 (update observation m).2 := by
  rw [update, Call.read_bind]
  cases found : m.detected observation with
  | error e =>
      rw [Call.bind_of_error (Call.lift_apply _ _)]
      exact .refused found
  | ok reasons =>
      rw [Call.bind_of_ok (Call.lift_apply _ _), Call.modify_bind]
      have ends := evaluate_ends (m.stored observation) reasons
      rcases returned : evaluate reasons (m.stored observation) with ⟨result, n⟩
      rw [returned] at ends
      cases result with
      | error e =>
          rw [Call.bind_of_error returned]
          exact .evaluated found ends
      | ok snapshot =>
          rw [Call.bind_of_ok returned, Call.modify_bind, Call.pure_apply]
          exact .evaluated found ends

/-- Both ends of `evaluate` keep what `update` stored. -/
theorem Evaluates.keeps {m n : TrustedTimeManager} {extraReasons : List String} {result : Except Error TimeTrustSnapshot}
    (ends : Evaluates m extraReasons result n) : n.policy = m.policy ∧ n.sources = m.sources ∧ n.lastSnapshot = m.lastSnapshot := by
  cases ends with
  | stale => exact ⟨rfl, rfl, rfl⟩
  | undated => exact ⟨rfl, rfl, rfl⟩
  | chosen => exact ⟨rfl, rfl, rfl⟩

@[simp] theorem recording_policy (result : Except Error TimeTrustSnapshot) (m : TrustedTimeManager) :
    (recording result m).policy = m.policy := by cases result <;> rfl

@[simp] theorem recording_sources (result : Except Error TimeTrustSnapshot) (m : TrustedTimeManager) :
    (recording result m).sources = m.sources := by cases result <;> rfl

@[simp] theorem recording_clockEpoch (result : Except Error TimeTrustSnapshot) (m : TrustedTimeManager) :
    (recording result m).clockEpoch = m.clockEpoch := by cases result <;> rfl

@[simp] theorem recording_lastSelected (result : Except Error TimeTrustSnapshot) (m : TrustedTimeManager) :
    (recording result m).lastSelected = m.lastSelected := by cases result <;> rfl

/-- One turn of a run. -/
def step (m : TrustedTimeManager) (observation : TimeSourceObservation) : TrustedTimeManager := (update observation m).2

@[simp] theorem step_policy (m : TrustedTimeManager) (observation : TimeSourceObservation) :
    (m.step observation).policy = m.policy := by
  have ends := update_ends m observation
  unfold step
  generalize (update observation m).1 = result at ends
  generalize (update observation m).2 = n at ends
  cases ends with
  | refused => rfl
  | evaluated _ ends => exact (recording_policy _ _).trans ends.keeps.1

end TrustedTimeManager

end SentinelEdge.Runtime
