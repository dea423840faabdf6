import SentinelEdge.Foundation.Run
import SentinelEdge.Runtime.TrustedTime

/-! # Clock epochs

A discontinuity is found when a reading is set beside the previous one of its source;
the epoch is advanced when a source is selected. In between stands the early return for
sources that are all stale, and with it a discontinuity passes without a new epoch.
-/

namespace SentinelEdge.Runtime

open Domain Foundation

/-- The codes `update` itself can find. -/
def discontinuityCodes : List String :=
  ["utc_rollback_detected", "utc_step_detected", "time_source_continuity_changed", "time_authentication_changed"]

theorem advances_of_discontinuity {reasons : List String} {code : String} (found : code ∈ discontinuityCodes)
    (among : code ∈ reasons) : advances reasons = true := by
  have advancing : ∀ code ∈ discontinuityCodes, code ∈ epochCodes := by decide
  rw [advances, List.any_eq_true]
  exact ⟨code, advancing code found, decide_eq_true among⟩

namespace TimeTrustPolicy

variable {policy : TimeTrustPolicy}

theorem stepReasons_codes (observedDeltaMs expectedDeltaMs : ℚ) :
    ∀ code ∈ policy.stepReasons observedDeltaMs expectedDeltaMs, code ∈ discontinuityCodes := by
  unfold stepReasons
  split
  · decide
  · split
    · decide
    · exact nofun

theorem continuation_codes {previous observation : TimeSourceObservation} {reasons : List String}
    (found : policy.continuation previous observation = .ok reasons) : ∀ code ∈ reasons, code ∈ discontinuityCodes := by
  unfold continuation at found
  split at found
  · simp only [Checks.bind_eq_ok, Checks.pure_eq_ok] at found
    obtain ⟨_, -, _, -, _, -, rfl⟩ := found
    exact stepReasons_codes _ _
  · cases found
    decide

theorem discontinuities_codes {previous observation : TimeSourceObservation} {reasons : List String}
    (found : policy.discontinuities previous observation = .ok reasons) : ∀ code ∈ reasons, code ∈ discontinuityCodes := by
  simp only [discontinuities, Checks.bind_eq_ok, Checks.pure_eq_ok] at found
  obtain ⟨_, -, stepped, continued, rfl⟩ := found
  intro code among
  cases List.mem_append.mp among with
  | inl early => exact continuation_codes continued code early
  | inr late =>
      split at late
      · rw [List.mem_singleton.mp late]
        decide
      · cases late

end TimeTrustPolicy

theorem selectionChanges_codes (last : Option TimeSourceObservation) (chosen : TimeSourceObservation) :
    ∀ code ∈ selectionChanges last chosen, code ∈ ["selected_time_source_changed", "selected_time_authentication_changed",
      "selected_time_continuity_changed"] := by
  cases last with
  | none => exact nofun
  | some last =>
      intro code among
      simp only [selectionChanges, List.mem_append, List.mem_ite_nil_right, List.mem_singleton] at among
      obtain (⟨-, rfl⟩ | ⟨-, rfl⟩) | ⟨-, rfl⟩ := among <;> decide

/-- The codes that come with the standing of a source. -/
def standingCodes : List String :=
  ["trusted_time_selected", "unauthenticated_or_uncertain_time_display_only", "time_uncertainty_exceeds_display_policy",
    "unauthenticated_ntp_cannot_strengthen_security", "certificate_bootstrap_invalid"]

namespace TimeTrustSnapshot

/-- One of the codes of a discontinuity is among the reasons. -/
def Reports (s : TimeTrustSnapshot) : Prop := ∃ code ∈ discontinuityCodes, code ∈ s.reasonCodes

instance (s : TimeTrustSnapshot) : Decidable s.Reports := inferInstanceAs (Decidable (∃ _ ∈ _, _))

/-- A snapshot and the one after it: the epoch does not go back, and grows with a
    discontinuity. -/
def EpochBegins (pair : TimeTrustSnapshot × TimeTrustSnapshot) : Prop :=
  pair.1.clockEpoch ≤ pair.2.clockEpoch ∧ (pair.2.Reports → pair.1.clockEpoch < pair.2.clockEpoch)

instance (pair : TimeTrustSnapshot × TimeTrustSnapshot) : Decidable (EpochBegins pair) := inferInstanceAs (Decidable (_ ∧ _))

/-- The snapshot with the one a call returned. -/
def followedBy (before : TimeTrustSnapshot) : Except Error TimeTrustSnapshot → List (TimeTrustSnapshot × TimeTrustSnapshot)
  | .ok snapshot => [(before, snapshot)]
  | .error _ => []

theorem forall_followedBy_ok {before snapshot : TimeTrustSnapshot} {Q : TimeTrustSnapshot × TimeTrustSnapshot → Prop} :
    (∀ pair ∈ before.followedBy (.ok snapshot), Q pair) ↔ Q (before, snapshot) :=
  List.forall_mem_singleton

theorem forall_followedBy_error {before : TimeTrustSnapshot} {e : Error}
    {Q : TimeTrustSnapshot × TimeTrustSnapshot → Prop} : ∀ pair ∈ before.followedBy (.error e), Q pair :=
  List.forall_mem_nil Q

end TimeTrustSnapshot

namespace TrustedTimeManager

open TimeTrustSnapshot

theorem standing_codes (m : TrustedTimeManager) (reasons : List String) (fresh : List TimeSourceObservation)
    (chosen : TimeSourceObservation) : ∀ code ∈ (m.standing reasons fresh chosen).reasons, code ∈ standingCodes := by
  have pools : ∀ trusted displayed, ∀ code ∈ (Standing.ofPool trusted displayed).reasons, code ∈ standingCodes := by
    decide
  have ntp : ∀ standing : Standing, (∀ code ∈ standing.reasons, code ∈ standingCodes) →
      ∀ code ∈ (standing.checkNtp chosen).reasons, code ∈ standingCodes := by
    intro standing known code among
    unfold Standing.checkNtp at among
    split at among
    · cases List.mem_append.mp among with
      | inl before => exact known code before
      | inr added =>
          rw [List.mem_singleton.mp added]
          decide
    · exact known code among
  unfold standing Standing.checkBootstrap
  intro code among
  split at among
  · cases List.mem_append.mp among with
    | inl before => exact ntp _ (pools _ _) code before
    | inr added =>
        rw [List.mem_singleton.mp added]
        decide
  · exact ntp _ (pools _ _) code among

/-- The snapshot of a selected source reports what `update` has found. -/
theorem snapshotOf_reports_iff {m : TrustedTimeManager} {found : List String} {disagreed : Bool}
    {fresh : List TimeSourceObservation} {chosen : TimeSourceObservation} (codes : ∀ code ∈ found, code ∈ discontinuityCodes) :
    (m.snapshotOf (m.reasonsFor found disagreed chosen) fresh chosen).Reports ↔ found ≠ [] := by
  constructor
  · rintro ⟨code, discontinuity, among⟩ rfl
    simp only [snapshotOf, mem_sortedSet, List.mem_append, reasonsFor] at among
    obtain ((none | disagree) | change) | standing := among
    · cases none
    · split at disagree
      · rw [List.mem_singleton.mp disagree] at discontinuity
        revert discontinuity
        decide
      · cases disagree
    · have other : ∀ code ∈ ["selected_time_source_changed", "selected_time_authentication_changed",
          "selected_time_continuity_changed"], code ∉ discontinuityCodes := by decide
      exact other code (selectionChanges_codes _ _ code change) discontinuity
    · have other : ∀ code ∈ standingCodes, code ∉ discontinuityCodes := by decide
      exact other code (standing_codes _ _ _ _ code standing) discontinuity
  · intro some
    obtain ⟨code, among⟩ := List.exists_mem_of_ne_nil found some
    exact ⟨code, codes code among, by simp [snapshotOf, reasonsFor, among]⟩

theorem unusable_reports_iff {epoch : Nat} {found : List String} {last : String} {sources : List TimeSourceObservation}
    (codes : ∀ code ∈ found, code ∈ discontinuityCodes) (other : last ∉ discontinuityCodes) :
    (TimeTrustSnapshot.unusable epoch (sortedSet (found ++ [last])) sources).Reports ↔ found ≠ [] := by
  constructor
  · rintro ⟨code, discontinuity, among⟩ rfl
    rw [unusable, mem_sortedSet, List.nil_append, List.mem_singleton] at among
    exact other (among ▸ discontinuity)
  · intro some
    obtain ⟨code, among⟩ := List.exists_mem_of_ne_nil found some
    exact ⟨code, codes code among, by simp [unusable, among]⟩

theorem detected_codes {m : TrustedTimeManager} {observation : TimeSourceObservation} {reasons : List String}
    (found : m.detected observation = .ok reasons) : ∀ code ∈ reasons, code ∈ discontinuityCodes := by
  unfold detected at found
  split at found
  · cases found
    exact nofun
  · exact TimeTrustPolicy.discontinuities_codes found

/-- The snapshot an update returns, behind the one before it. -/
def followed (m : TrustedTimeManager) (observation : TimeSourceObservation) : List (TimeTrustSnapshot × TimeTrustSnapshot) :=
  m.lastSnapshot.followedBy (update observation m).1

/-- Where the reading is found to be discontinuous, some source is not stale. -/
def SomeFresh (m : TrustedTimeManager) (observation : TimeSourceObservation) : Prop :=
  ∀ reasons, m.detected observation = .ok reasons → reasons ≠ [] →
    ∃ item ∈ (m.stored observation).sources.values, item.ageMs ≤ m.policy.maxSourceAgeMs

theorem candidates_ne_nil_iff (m : TrustedTimeManager) :
    m.policy.candidates m.ordered ≠ [] ↔ ∃ item ∈ m.sources.values, item.ageMs ≤ m.policy.maxSourceAgeMs := by
  simp only [ne_eq, TimeTrustPolicy.candidates, List.filter_eq_nil_iff, ordered, List.mem_insertionSort, decide_eq_true_eq,
    not_forall, not_not, exists_prop]

theorem someFresh_iff {m : TrustedTimeManager} {observation : TimeSourceObservation} {reasons : List String}
    (found : m.detected observation = .ok reasons) : m.SomeFresh observation ↔
      (reasons ≠ [] → (m.stored observation).policy.candidates (m.stored observation).ordered ≠ []) := by
  rw [candidates_ne_nil_iff, SomeFresh]
  constructor
  · intro fresh
    exact fresh reasons found
  · intro fresh reasons' found'
    cases found.symm.trans found'
    exact fresh

theorem epochAfter_ge (m : TrustedTimeManager) (reasons : List String) : m.clockEpoch ≤ m.epochAfter reasons := by
  unfold epochAfter
  split
  · exact Nat.le_succ _
  · exact Nat.le_refl _

theorem epochAfter_gt {m : TrustedTimeManager} {found reasons : List String} (codes : ∀ code ∈ found, code ∈ discontinuityCodes)
    (some : found ≠ []) (among : ∀ code ∈ found, code ∈ reasons) : m.clockEpoch < m.epochAfter reasons := by
  obtain ⟨code, here⟩ := List.exists_mem_of_ne_nil found some
  rw [epochAfter, if_pos (advances_of_discontinuity (codes code here) (among code here))]
  exact Nat.lt_succ_self _

/-- A discontinuity is reported with a new epoch exactly when a source is selected. -/
theorem epochBegins_iff {m : TrustedTimeManager} (current : m.lastSnapshot.clockEpoch = m.clockEpoch)
    (observation : TimeSourceObservation) :
    (∀ pair ∈ m.followed observation, EpochBegins pair) ↔ m.SomeFresh observation := by
  have ends := update_ends m observation
  unfold followed
  generalize (update observation m).1 = result at ends
  generalize (update observation m).2 = n at ends
  cases ends with
  | refused raised =>
      refine iff_of_true forall_followedBy_error ?_
      intro reasons found
      rw [raised] at found
      cases found
  | evaluated found ends =>
      have codes := detected_codes found
      rw [someFresh_iff found]
      cases ends with
      | stale old named =>
          have other : ∀ last ∈ ["no_time_source", "all_time_sources_stale"], last ∉ discontinuityCodes := by decide
          rw [forall_followedBy_ok, EpochBegins, unusable_reports_iff codes (other _ named), old]
          constructor
          · rintro ⟨-, grown⟩ some
            exact absurd (grown some) (current ▸ Nat.lt_irrefl _)
          · intro fresh
            refine ⟨current.le, ?_⟩
            intro some
            exact absurd rfl (fresh some)
      | undated fresh raised =>
          refine iff_of_true forall_followedBy_error ?_
          intro _
          rw [fresh]
          exact List.cons_ne_nil _ _
      | chosen fresh compared known =>
          subst known
          refine iff_of_true ?_ ?_
          · rw [forall_followedBy_ok, EpochBegins, snapshotOf_reports_iff codes]
            refine ⟨current.le.trans (epochAfter_ge _ _), ?_⟩
            intro some
            refine current.le.trans_lt (epochAfter_gt codes some ?_)
            intro code among
            simp [reasonsFor, among]
          · intro _
            rw [fresh]
            exact List.cons_ne_nil _ _

theorem step_current {m : TrustedTimeManager} (current : m.lastSnapshot.clockEpoch = m.clockEpoch)
    (observation : TimeSourceObservation) :
    (m.step observation).lastSnapshot.clockEpoch = (m.step observation).clockEpoch := by
  have ends := update_ends m observation
  unfold step
  generalize (update observation m).1 = result at ends
  generalize (update observation m).2 = n at ends
  cases ends with
  | refused => exact current
  | evaluated _ ends =>
      cases ends with
      | stale => rfl
      | undated => exact current
      | chosen => rfl

/-- Every discontinuity that is reported starts a new clock epoch exactly when none of them
    comes while all sources are stale. -/
theorem discontinuities_begin_epochs_iff (policy : TimeTrustPolicy) (observations : List TimeSourceObservation) :
    (∀ pair ∈ (run (traced step followed) ({ policy := policy }, []) observations).2, EpochBegins pair) ↔
      Meets step SomeFresh { policy := policy } observations := by
  rw [forall_trace_iff]
  have init : (TimeTrustSnapshot.unusable 0 ["no_time_source"] []).clockEpoch = 0 := rfl
  have each := Meets.congr (I := fun m : TrustedTimeManager => m.lastSnapshot.clockEpoch = m.clockEpoch)
    (fun _ observation current => epochBegins_iff current observation)
    (fun _ observation current _ => step_current current observation) (s := { policy := policy }) init observations
  constructor
  · rintro ⟨-, all⟩
    exact each.mp all
  · intro fresh
    exact ⟨List.forall_mem_nil _, each.mpr fresh⟩

/-- A clock that is read for the first time after a day, with another continuity. -/
def dayOld (continuity : String) (valid : isBlank continuity = false := by decide) : TimeSourceObservation where
  sourceId := "gnss-0"
  origin := .gnss
  authenticated := false
  observedUtc := ⟨⟨1767225600000000, 0⟩, false⟩
  observedMonotonicNs := 0
  uncertaintyMs := 5
  ageMs := 86400000
  continuityId := continuity
  notBlank := ⟨by decide, valid⟩

/-- The change of continuity is reported in the epoch before it. -/
theorem stale_discontinuity_keeps_epoch :
    ¬ ∀ pair ∈ (run (traced step followed) ({}, []) [dayOld "boot-1", dayOld "boot-2"]).2, EpochBegins pair := by
  decide +kernel

end TrustedTimeManager

end SentinelEdge.Runtime
