import Mathlib.Tactic.Linarith
import Mathlib.Tactic.Ring
import SentinelEdge.Runtime.TimeBlindness

/-! # Honest clocks

The exact readings of one clock, taken from several trusted sources at different moments.
The stored readings are compared as they are, without the time that has passed between
them, so that it depends on the polling whether an alarm is raised.
-/

namespace SentinelEdge.Runtime

open Domain Foundation

theorem lt_foldl_max {a c : ℚ} {l : List ℚ} : c < l.foldl max a ↔ ∃ b ∈ a :: l, c < b := by
  induction l generalizing a with
  | nil => simp
  | cons x l ih =>
      rw [List.foldl_cons, ih]
      simp [or_assoc]

theorem foldl_min_lt {a c : ℚ} {l : List ℚ} : l.foldl min a < c ↔ ∃ b ∈ a :: l, b < c := by
  induction l generalizing a with
  | nil => simp
  | cons x l ih =>
      rw [List.foldl_cons, ih]
      simp [or_assoc]

/-- The spread of some numbers passes a bound where two of them lie that far apart. -/
theorem lt_spread_iff {first threshold : ℚ} {rest : List ℚ} :
    threshold < rest.foldl max first - rest.foldl min first ↔
      ∃ late ∈ first :: rest, ∃ early ∈ first :: rest, threshold < late - early := by
  rw [lt_sub_iff_add_lt, lt_foldl_max]
  refine exists_congr fun late => and_congr_right fun _ => ?_
  rw [← lt_sub_iff_add_lt', foldl_min_lt]
  simp only [lt_sub_comm]

/-- What a clock shows that stood at `zero` when the monotonic one did. -/
def shown (zero : ℚ) (item : TimeSourceObservation) : ℚ := zero + item.observedMonotonicNs / 1000000

/-- The exact reading of the clock that stood at `zero` when the monotonic one did, from a
    trusted source. -/
structure Honest (policy : TimeTrustPolicy) (zero : ℚ) (continuity : String) (item : TimeSourceObservation) : Prop where
  precise : utcMs item.observedUtc = .ok (shown zero item)
  fresh : item.ageMs = 0
  shared : item.continuityId = continuity
  trusted : policy.trusts item = true
  certain : item.uncertaintyMs ≤ policy.maxTrustedUncertaintyMs

/-- Honest readings, polled in the order of the monotonic clock, of sources that keep
    their authentication. -/
structure HonestRun (policy : TimeTrustPolicy) (zero : ℚ) (continuity : String)
    (observations : List TimeSourceObservation) : Prop where
  honest : ∀ item ∈ observations, Honest policy zero continuity item
  onwards : observations.Pairwise (fun a b => a.observedMonotonicNs ≤ b.observedMonotonicNs)
  constant : observations.Pairwise (fun a b => a.sourceId = b.sourceId → a.authenticated = b.authenticated)

/-- The milliseconds of the monotonic clock between two readings. -/
def elapsedMs (late early : TimeSourceObservation) : ℚ :=
  ((late.observedMonotonicNs : ℚ) - early.observedMonotonicNs) / 1000000

theorem elapsedMs_nonneg {late early : TimeSourceObservation} (onwards : early.observedMonotonicNs ≤ late.observedMonotonicNs) :
    0 ≤ elapsedMs late early := by
  have later : (early.observedMonotonicNs : ℚ) ≤ late.observedMonotonicNs := by exact_mod_cast onwards
  exact div_nonneg (sub_nonneg.mpr later) (by norm_num)

theorem elapsedMs_mono {late early latest earliest : TimeSourceObservation}
    (onwards : late.observedMonotonicNs ≤ latest.observedMonotonicNs)
    (before : earliest.observedMonotonicNs ≤ early.observedMonotonicNs) : elapsedMs late early ≤ elapsedMs latest earliest := by
  have later : (late.observedMonotonicNs : ℚ) ≤ latest.observedMonotonicNs := by exact_mod_cast onwards
  have earlier : (earliest.observedMonotonicNs : ℚ) ≤ early.observedMonotonicNs := by exact_mod_cast before
  unfold elapsedMs
  linarith

variable {policy : TimeTrustPolicy} {zero : ℚ} {continuity : String}

/-- Exact readings lie as far apart as the monotonic ones. -/
theorem shown_sub (late early : TimeSourceObservation) : shown zero late - shown zero early = elapsedMs late early := by
  unfold shown elapsedMs
  ring

namespace TimeTrustPolicy

theorem stepReasons_of_exact {delta : ℚ} (onwards : 0 ≤ delta) :
    policy.stepReasons delta delta = [] ↔ 0 ≤ policy.disagreementThresholdMs := by
  unfold stepReasons
  rw [sub_self, abs_zero]
  constructor
  · intro none
    by_contra negative
    split at none
    · cases none
    · rw [if_pos (not_le.mp negative)] at none
      cases none
  · intro threshold
    rw [if_neg (by linarith), if_neg (by linarith)]

/-- Exact readings of one source pass for continuous unless no difference is tolerated. -/
theorem discontinuities_honest {previous observation : TimeSourceObservation}
    (honest : Honest policy zero continuity previous) (honest' : Honest policy zero continuity observation)
    (onwards : previous.observedMonotonicNs ≤ observation.observedMonotonicNs)
    (constant : observation.authenticated = previous.authenticated)
    (epoch : previous.clockEpoch ≤ observation.clockEpoch) :
    policy.discontinuities previous observation =
      .ok (policy.stepReasons (elapsedMs observation previous) (elapsedMs observation previous)) := by
  have continued : policy.continuation previous observation =
      .ok (policy.stepReasons (elapsedMs observation previous) (elapsedMs observation previous)) := by
    rw [continuation, if_pos (honest'.shared.trans honest.shared.symm), honest'.precise, honest.precise]
    simp only [Checks.ok_bind, Checks.refuse, Nat.not_lt.mpr onwards, decide_false, Bool.false_eq_true, if_false, shown_sub]
    rfl
  rw [discontinuities, continued]
  simp [Checks.refuse, Nat.not_lt.mpr epoch, constant, Checks.ok_bind, pure, Except.pure]

/-- Exact readings disagree where two of them lie further apart than the threshold. -/
theorem disagree_honest {items : List TimeSourceObservation} (honest : ∀ item ∈ items, Honest policy zero continuity item) :
    ∃ disagreed, policy.disagree items = .ok disagreed ∧ (disagreed = true ↔ 2 ≤ items.length ∧
      ∃ late ∈ items, ∃ early ∈ items, policy.disagreementThresholdMs < elapsedMs late early) := by
  cases items with
  | nil => exact ⟨false, rfl, by simp⟩
  | cons first rest =>
      cases rest with
      | nil => exact ⟨false, rfl, by simp⟩
      | cons second rest =>
          have read : (second :: rest).mapM (fun item => utcMs item.observedUtc) = .ok ((second :: rest).map (shown zero)) := by
            rw [Checks.mapM_eq_ok, List.forall₂_map_right_iff, List.forall₂_same]
            intro item member
            exact (honest item (List.mem_cons_of_mem first member)).precise
          have compared : policy.disagree (first :: second :: rest) = .ok (decide (policy.disagreementThresholdMs <
              ((second :: rest).map (shown zero)).foldl max (shown zero first) -
              ((second :: rest).map (shown zero)).foldl min (shown zero first))) := by
            rw [disagree, (honest first List.mem_cons_self).precise, read]
            · rfl
            · simp
          refine ⟨_, compared, ?_⟩
          rw [decide_eq_true_iff, lt_spread_iff, ← List.map_cons]
          simp only [List.mem_map, exists_exists_and_eq_and, shown_sub]
          exact (and_iff_right (by simp)).symm

end TimeTrustPolicy

/-! ## When reasons advance the epoch -/

theorem advances_append (reasons more : List String) : advances (reasons ++ more) = (advances reasons || advances more) := by
  rw [Bool.eq_iff_iff, Bool.or_eq_true]
  simp only [advances, List.any_eq_true, decide_eq_true_eq, List.mem_append, and_or_left, exists_or]

theorem advances_found {found : List String} (codes : ∀ code ∈ found, code ∈ discontinuityCodes) :
    advances found = false ↔ found = [] := by
  constructor
  · intro still
    by_contra some
    obtain ⟨code, among⟩ := List.exists_mem_of_ne_nil found some
    rw [advances_of_discontinuity (codes code among) among] at still
    cases still
  · rintro rfl
    decide

theorem advances_selectionChanges {last : Option TimeSourceObservation} {chosen : TimeSourceObservation}
    (shared : ∀ item ∈ last, chosen.continuityId = item.continuityId) :
    advances (selectionChanges last chosen) = false ↔ ∀ item ∈ last, chosen.authenticated = item.authenticated := by
  cases last with
  | none =>
      refine iff_of_true (by rw [selectionChanges]; decide) ?_
      intro _ none
      cases none
  | some item =>
      have continued := shared item rfl
      simp only [selectionChanges, advances_append, continued, ne_eq, not_true, if_false, Option.mem_some_iff, forall_eq']
      by_cases moved : chosen.sourceId = item.sourceId
      · by_cases same : chosen.authenticated = item.authenticated
        · simp only [moved, same, not_true, if_false]
          decide
        · simp only [moved, same, not_true, not_false_eq_true, if_false, if_true]
          decide
      · by_cases same : chosen.authenticated = item.authenticated
        · simp only [moved, same, not_true, not_false_eq_true, if_false, if_true]
          decide
        · simp only [moved, same, not_false_eq_true, if_true]
          decide

namespace TrustedTimeManager

variable {m : TrustedTimeManager} {observation : TimeSourceObservation}

/-- Under these reasons the epoch stays and the sources agree. -/
theorem advances_reasonsFor {found : List String} {disagreed : Bool} {chosen : TimeSourceObservation}
    (codes : ∀ code ∈ found, code ∈ discontinuityCodes)
    (shared : ∀ item ∈ m.lastSelected, chosen.continuityId = item.continuityId) :
    advances (m.reasonsFor found disagreed chosen) = false ↔
      found = [] ∧ disagreed = false ∧ ∀ item ∈ m.lastSelected, chosen.authenticated = item.authenticated := by
  have disagreement : advances (if disagreed then ["trusted_sources_disagree"] else []) = disagreed := by
    cases disagreed <;> decide
  rw [reasonsFor, advances_append, advances_append, disagreement, Bool.or_eq_false_iff, Bool.or_eq_false_iff,
    advances_found codes, advances_selectionChanges shared, and_assoc]

/-- No disagreement is reported, the epoch is the first one, and the time is good for
    security. -/
structure Quiet (m : TrustedTimeManager) : Prop where
  agreed : "trusted_sources_disagree" ∉ m.lastSnapshot.reasonCodes
  epoch : m.clockEpoch = 0
  allowed : m.lastSnapshot.securityValidityAllowed = true

/-- The source that `evaluate` selects. -/
def choice (m : TrustedTimeManager) : Option TimeSourceObservation :=
  match m.policy.candidates m.ordered with
  | [] => none
  | first :: rest => some (m.policy.selected first rest)

/-- The reading comes soon enough after those of the other sources, and the source that is
    then selected is as good as the one before. -/
structure Undisturbed (m : TrustedTimeManager) (observation : TimeSourceObservation) : Prop where
  aging : 0 ≤ m.policy.maxSourceAgeMs
  tolerant : (m.sources.get? observation.sourceId).isSome → 0 ≤ m.policy.disagreementThresholdMs
  together : ∀ other ∈ m.sources.values, other.sourceId ≠ observation.sourceId →
    elapsedMs observation other ≤ m.policy.disagreementThresholdMs
  constant : ∀ chosen ∈ (m.stored observation).choice, ∀ last ∈ m.lastSelected, chosen.authenticated = last.authenticated
  creditable : ∀ chosen ∈ (m.stored observation).choice, chosen.creditable = true

/-- Undisturbed, or refused for a clock epoch of the source that goes back. -/
def Calm (m : TrustedTimeManager) (observation : TimeSourceObservation) : Prop :=
  (∃ previous ∈ m.sources.get? observation.sourceId, observation.clockEpoch < previous.clockEpoch) ∨
    m.Undisturbed observation

instance (m : TrustedTimeManager) (observation : TimeSourceObservation) : Decidable (m.Undisturbed observation) :=
  decidable_of_iff (0 ≤ m.policy.maxSourceAgeMs ∧
      ((m.sources.get? observation.sourceId).isSome → 0 ≤ m.policy.disagreementThresholdMs) ∧
      (∀ other ∈ m.sources.values, other.sourceId ≠ observation.sourceId →
        elapsedMs observation other ≤ m.policy.disagreementThresholdMs) ∧
      (∀ chosen ∈ (m.stored observation).choice, ∀ last ∈ m.lastSelected, chosen.authenticated = last.authenticated) ∧
      ∀ chosen ∈ (m.stored observation).choice, chosen.creditable = true)
    ⟨fun ⟨a, b, c, d, e⟩ => ⟨a, b, c, d, e⟩, fun ⟨a, b, c, d, e⟩ => ⟨a, b, c, d, e⟩⟩

instance (m : TrustedTimeManager) (observation : TimeSourceObservation) : Decidable (m.Calm observation) :=
  inferInstanceAs (Decidable (_ ∨ _))

/-- What holds between the updates of an honest run. -/
structure Steady (policy : TimeTrustPolicy) (zero : ℚ) (continuity : String) (m : TrustedTimeManager) : Prop where
  governed : m.policy = policy
  filed : ∀ id item, m.sources.get? id = some item → item.sourceId = id
  honest : ∀ item ∈ m.sources.values, Honest policy zero continuity item
  selected : ∀ last ∈ m.lastSelected, last.continuityId = continuity
  epoch : m.clockEpoch = 0
  quiet : m.sources.values ≠ [] → m.Quiet

/-- The reading may follow those the manager holds. -/
structure Follows (policy : TimeTrustPolicy) (zero : ℚ) (continuity : String) (m : TrustedTimeManager)
    (observation : TimeSourceObservation) : Prop where
  honest : Honest policy zero continuity observation
  onwards : ∀ item ∈ m.sources.values, item.observedMonotonicNs ≤ observation.observedMonotonicNs
  constant : ∀ item ∈ m.sources.values, item.sourceId = observation.sourceId →
    observation.authenticated = item.authenticated

theorem Steady.mem_stored (steady : Steady policy zero continuity m) {item : TimeSourceObservation} :
    item ∈ (m.stored observation).sources.values ↔
      item = observation ∨ item ∈ m.sources.values ∧ item.sourceId ≠ observation.sourceId := by
  simp only [stored, Dict.mem_values_iff, Dict.get?_insert]
  constructor
  · rintro ⟨id, read⟩
    split at read
    · exact Or.inl (Option.some.inj read).symm
    · next other => exact Or.inr ⟨⟨id, read⟩, steady.filed id item read ▸ other⟩
  · rintro (rfl | ⟨⟨id, read⟩, other⟩)
    · exact ⟨item.sourceId, by rw [if_pos rfl]⟩
    · refine ⟨id, ?_⟩
      rw [if_neg (steady.filed id item read ▸ other), read]

/-- A reading that is not refused is set beside the previous one without fault. -/
theorem Steady.detected (steady : Steady policy zero continuity m) (follows : Follows policy zero continuity m observation)
    (epoch : ∀ previous ∈ m.sources.get? observation.sourceId, previous.clockEpoch ≤ observation.clockEpoch) :
    ∃ reasons, m.detected observation = .ok reasons ∧
      (reasons = [] ↔ ((m.sources.get? observation.sourceId).isSome → 0 ≤ policy.disagreementThresholdMs)) := by
  unfold TrustedTimeManager.detected
  cases read : m.sources.get? observation.sourceId with
  | none => exact ⟨[], rfl, by simp⟩
  | some previous =>
      have held : previous ∈ m.sources.values := Dict.mem_values_iff.mpr ⟨_, read⟩
      have onwards := follows.onwards previous held
      have same := follows.constant previous held (steady.filed _ _ read)
      dsimp only
      rw [steady.governed, TimeTrustPolicy.discontinuities_honest (steady.honest previous held) follows.honest onwards same
        (epoch previous read)]
      refine ⟨_, rfl, ?_⟩
      rw [TimeTrustPolicy.stepReasons_of_exact (elapsedMs_nonneg onwards)]
      simp

theorem not_mem_of_still {reasons : List String} (still : advances reasons = false) :
    "trusted_sources_disagree" ∉ reasons := by
  intro among
  have code : "trusted_sources_disagree" ∈ epochCodes := by decide
  rw [advances, List.any_eq_false] at still
  exact still _ code (decide_eq_true among)

/-- A selected source that is trusted leaves the manager quiet exactly when its reasons do
    not advance the epoch. -/
theorem quiet_chosen_iff {reasons : List String} {fresh : List TimeSourceObservation} {chosen : TimeSourceObservation}
    (epoch : m.clockEpoch = 0) (among : chosen ∈ m.policy.trustedCandidates fresh) :
    (recording (.ok (m.snapshotOf reasons fresh chosen))
      { m with clockEpoch := m.epochAfter reasons, lastSelected := some chosen }).Quiet ↔
      advances reasons = false ∧ chosen.creditable = true := by
  have clearance := congrArg Prod.fst (snapshotOf_clearance (m := m) reasons fresh chosen)
  rw [decide_eq_true among, Bool.true_and] at clearance
  constructor
  · rintro ⟨-, first, allowed⟩
    constructor
    · cases advanced : advances reasons with
      | false => rfl
      | true =>
          have second : m.epochAfter reasons = 0 := first
          rw [epochAfter, if_pos advanced] at second
          cases second
    · exact (Bool.and_eq_true_iff.mp (clearance.symm.trans allowed)).2
  · rintro ⟨still, creditable⟩
    have agreed := not_mem_of_still still
    constructor
    · have other : "trusted_sources_disagree" ∉ standingCodes := by decide
      intro reported
      cases List.mem_append.mp (mem_sortedSet.mp reported) with
      | inl reason => exact agreed reason
      | inr standing => exact other (standing_codes m reasons fresh chosen _ standing)
    · show m.epochAfter reasons = 0
      rw [epochAfter, still, if_neg Bool.false_ne_true, epoch]
    · exact clearance.trans (by simp [thrice, agreed, creditable])

theorem candidates_honest {items : List TimeSourceObservation} (honest : ∀ item ∈ items, Honest policy zero continuity item)
    (aging : 0 ≤ policy.maxSourceAgeMs) : policy.candidates items = items := by
  rw [TimeTrustPolicy.candidates, List.filter_eq_self]
  intro item member
  rw [(honest item member).fresh]
  exact decide_eq_true aging

theorem aging_of_candidates {items : List TimeSourceObservation} (honest : ∀ item ∈ items, Honest policy zero continuity item)
    {first : TimeSourceObservation} {rest : List TimeSourceObservation} (fresh : policy.candidates items = first :: rest) :
    0 ≤ policy.maxSourceAgeMs := by
  have member : first ∈ policy.candidates items := fresh ▸ List.mem_cons_self
  obtain ⟨held, young⟩ := List.mem_filter.mp member
  rw [(honest first held).fresh] at young
  exact of_decide_eq_true young

theorem trustedCandidates_honest {items : List TimeSourceObservation}
    (honest : ∀ item ∈ items, Honest policy zero continuity item) : policy.trustedCandidates items = items := by
  rw [TimeTrustPolicy.trustedCandidates, List.filter_eq_self]
  intro item member
  rw [(honest item member).trusted, decide_eq_true (honest item member).certain]
  rfl

theorem mem_ordered {item : TimeSourceObservation} : item ∈ m.ordered ↔ item ∈ m.sources.values := List.mem_insertionSort _

theorem Steady.honest_stored (steady : Steady policy zero continuity m) (follows : Follows policy zero continuity m observation) :
    ∀ item ∈ (m.stored observation).ordered, Honest policy zero continuity item := by
  intro item member
  cases steady.mem_stored.mp (mem_ordered.mp member) with
  | inl new => exact new ▸ follows.honest
  | inr old => exact steady.honest item old.1

theorem Steady.filed_stored (steady : Steady policy zero continuity m) {id : String} {item : TimeSourceObservation}
    (read : (m.stored observation).sources.get? id = some item) : item.sourceId = id := by
  rw [stored, Dict.get?_insert] at read
  split at read
  · next here => rw [← Option.some.inj read, here]
  · exact steady.filed id item read

theorem Steady.two_le_iff (steady : Steady policy zero continuity m) :
    2 ≤ (m.stored observation).ordered.length ↔ ∃ other ∈ m.sources.values, other.sourceId ≠ observation.sourceId := by
  have count : (m.stored observation).ordered.length = (m.stored observation).sources.items.length := by
    rw [ordered, List.length_insertionSort, Dict.values, List.length_map]
  have other : ∀ {item : TimeSourceObservation}, item ∈ (m.stored observation).sources.values →
      item.sourceId ≠ observation.sourceId → item ∈ m.sources.values := by
    intro item member apart
    cases steady.mem_stored.mp member with
    | inl new => exact absurd (congrArg TimeSourceObservation.sourceId new) apart
    | inr old => exact old.1
  rw [count, Dict.two_le_length_iff]
  constructor
  · rintro ⟨a, hereA, b, hereB, apart⟩
    have readA := Dict.get?_eq_some_iff.mpr hereA
    have readB := Dict.get?_eq_some_iff.mpr hereB
    by_cases same : a.2.sourceId = observation.sourceId
    · refine ⟨b.2, other (Dict.mem_values_iff.mpr ⟨b.1, readB⟩) ?_, ?_⟩ <;>
      · intro same'
        exact apart ((steady.filed_stored readA).symm.trans ((same.trans same'.symm).trans (steady.filed_stored readB)))
    · exact ⟨a.2, other (Dict.mem_values_iff.mpr ⟨a.1, readA⟩) same, same⟩
  · rintro ⟨item, member, apart⟩
    obtain ⟨id, read⟩ := Dict.mem_values_iff.mp (steady.mem_stored.mpr (Or.inr ⟨member, apart⟩))
    have new : (m.stored observation).sources.get? observation.sourceId = some observation := Dict.get?_insert_self _ _ _
    refine ⟨_, Dict.get?_eq_some_iff.mp read, _, Dict.get?_eq_some_iff.mp new, ?_⟩
    rwa [steady.filed_stored read] at apart

/-- The readings disagree exactly when the new one comes too long after another. -/
theorem Steady.agree_iff (steady : Steady policy zero continuity m) (follows : Follows policy zero continuity m observation)
    {disagreed : Bool} (compared : policy.disagree (m.stored observation).ordered = .ok disagreed) :
    disagreed = false ↔ ∀ other ∈ m.sources.values, other.sourceId ≠ observation.sourceId →
      elapsedMs observation other ≤ policy.disagreementThresholdMs := by
  obtain ⟨disagreed', compared', apart⟩ := TimeTrustPolicy.disagree_honest (steady.honest_stored follows)
  cases compared.symm.trans compared'
  have latest : ∀ item ∈ (m.stored observation).ordered, item.observedMonotonicNs ≤ observation.observedMonotonicNs := by
    intro item member
    cases steady.mem_stored.mp (mem_ordered.mp member) with
    | inl new => rw [new]
    | inr old => exact follows.onwards item old.1
  rw [← Bool.not_eq_true, apart, steady.two_le_iff]
  constructor
  · intro together other member different
    by_contra far
    refine together ⟨⟨other, member, different⟩, observation, ?_, other, ?_, not_le.mp far⟩
    · exact mem_ordered.mpr (steady.mem_stored.mpr (Or.inl rfl))
    · exact mem_ordered.mpr (steady.mem_stored.mpr (Or.inr ⟨member, different⟩))
  · rintro together ⟨⟨other, member, different⟩, late, hereLate, early, hereEarly, far⟩
    cases steady.mem_stored.mp (mem_ordered.mp hereEarly) with
    | inl new =>
        -- the new reading is the last one, so only a negative threshold is passed here
        have back : elapsedMs late early ≤ elapsedMs observation observation :=
          elapsedMs_mono (latest late hereLate) (new ▸ Nat.le_refl _)
        have zero : elapsedMs observation observation = 0 := by simp [elapsedMs]
        have onwards := elapsedMs_nonneg (follows.onwards other member)
        have near := together other member different
        linarith
    | inr old =>
        have longer : elapsedMs late early ≤ elapsedMs observation early := elapsedMs_mono (latest late hereLate) (Nat.le_refl _)
        have near := together early old.1 old.2
        linarith

theorem detected_back {previous : TimeSourceObservation} (read : m.sources.get? observation.sourceId = some previous)
    (back : observation.clockEpoch < previous.clockEpoch) :
    m.detected observation = .error (.valueError "time source clock epoch rollback") := by
  simp only [detected, read, TimeTrustPolicy.discontinuities, Checks.refuse, back, decide_true, if_true]
  rfl

theorem selected_mem (policy : TimeTrustPolicy) (first : TimeSourceObservation) (rest : List TimeSourceObservation) :
    policy.selected first rest ∈ first :: rest := by
  unfold TimeTrustPolicy.selected
  split
  · next item later among => exact List.mem_of_mem_filter (among ▸ least_mem item later)
  · split
    · next item later among => exact List.mem_of_mem_filter (among ▸ least_mem item later)
    · exact least_mem first rest

/-- Among honest readings the selected one is among the trusted. -/
theorem selected_honest {first : TimeSourceObservation} {rest : List TimeSourceObservation}
    (honest : ∀ item ∈ first :: rest, Honest policy zero continuity item) :
    policy.selected first rest ∈ policy.trustedCandidates (first :: rest) := by
  rw [TimeTrustPolicy.selected, trustedCandidates_honest honest]
  exact least_mem first rest

/-- One update of an honest run leaves the manager quiet exactly when it is calm. -/
theorem Steady.quiet_iff (steady : Steady policy zero continuity m) (follows : Follows policy zero continuity m observation) :
    (m.step observation).Quiet ↔ m.Calm observation := by
  have ends := update_ends m observation
  unfold step
  generalize (update observation m).1 = result at ends
  generalize (update observation m).2 = n at ends
  by_cases back : ∃ previous ∈ m.sources.get? observation.sourceId, observation.clockEpoch < previous.clockEpoch
  · obtain ⟨previous, read, less⟩ := back
    have raised := detected_back read less
    cases ends with
    | refused =>
        have some : m.sources.values ≠ [] := List.ne_nil_of_mem (Dict.mem_values_iff.mpr ⟨_, read⟩)
        exact iff_of_true (steady.quiet some) (Or.inl ⟨previous, read, less⟩)
    | evaluated found =>
        rw [raised] at found
        cases found
  · have forth : ∀ previous ∈ m.sources.get? observation.sourceId, previous.clockEpoch ≤ observation.clockEpoch :=
      fun previous read => Nat.not_lt.mp fun less => back ⟨previous, read, less⟩
    obtain ⟨reasons, found, continuous⟩ := steady.detected follows forth
    rw [Calm, or_iff_right back]
    cases ends with
    | refused raised =>
        rw [found] at raised
        cases raised
    | evaluated found' ends =>
        cases found.symm.trans found'
        have honest := steady.honest_stored follows
        have held : observation ∈ (m.stored observation).ordered := mem_ordered.mpr (steady.mem_stored.mpr (Or.inl rfl))
        have governed : (m.stored observation).policy = policy := steady.governed
        cases ends with
        | stale old named =>
            refine iff_of_false ?_ ?_
            · rintro ⟨-, -, allowed⟩
              cases allowed
            · intro undisturbed
              have aging := undisturbed.aging
              rw [steady.governed] at aging
              rw [governed, candidates_honest honest aging] at old
              exact List.ne_nil_of_mem held old
        | undated fresh raised =>
            have aging := aging_of_candidates honest (governed ▸ fresh)
            rw [governed, candidates_honest honest aging] at fresh
            obtain ⟨disagreed, compared, -⟩ := TimeTrustPolicy.disagree_honest honest
            rw [governed, ← fresh, trustedCandidates_honest honest, compared] at raised
            cases raised
        | @chosen first rest disagreed reasons fresh compared known =>
            have aging := aging_of_candidates honest (governed ▸ fresh)
            have choice : (m.stored observation).choice = some ((m.stored observation).policy.selected first rest) := by
              rw [TrustedTimeManager.choice, fresh]
            rw [governed, candidates_honest honest aging] at fresh
            rw [fresh] at honest
            rw [governed, trustedCandidates_honest honest, ← fresh] at compared
            have among := selected_honest honest
            rw [← governed] at among
            refine (quiet_chosen_iff (m := m.stored observation) steady.epoch among).trans ?_
            rw [governed, trustedCandidates_honest honest, ← governed] at among
            have shared : ∀ last ∈ (m.stored observation).lastSelected,
                ((m.stored observation).policy.selected first rest).continuityId = last.continuityId := by
              intro last selected
              rw [(honest _ among).shared, steady.selected last selected]
            rw [known, advances_reasonsFor (detected_codes found) shared, continuous, steady.agree_iff follows compared,
              ← steady.governed]
            constructor
            · rintro ⟨⟨tolerant, together, constant⟩, creditable⟩
              rw [← steady.governed] at aging
              refine ⟨aging, tolerant, together, ?_, ?_⟩
              · intro chosen chose
                cases choice.symm.trans chose
                exact constant
              · intro chosen chose
                cases choice.symm.trans chose
                exact creditable
            · rintro ⟨-, tolerant, together, constant, creditable⟩
              exact ⟨⟨tolerant, together, constant _ choice⟩, creditable _ choice⟩

/-- A quiet update keeps the run steady. -/
theorem Steady.step (steady : Steady policy zero continuity m) (follows : Follows policy zero continuity m observation)
    (quiet : (m.step observation).Quiet) : Steady policy zero continuity (m.step observation) := by
  have ends := update_ends m observation
  unfold TrustedTimeManager.step at quiet ⊢
  generalize (update observation m).1 = result at ends
  generalize (update observation m).2 = n at ends quiet ⊢
  cases ends with
  | refused => exact steady
  | evaluated found ends =>
      obtain ⟨governed, sources, -⟩ := ends.keeps
      constructor
      · rw [recording_policy, governed]
        exact steady.governed
      · intro id item read
        rw [recording_sources, sources] at read
        exact steady.filed_stored read
      · intro item member
        rw [recording_sources, sources] at member
        exact steady.honest_stored follows item (mem_ordered.mpr member)
      · rw [recording_lastSelected]
        cases ends with
        | stale => exact steady.selected
        | undated => exact steady.selected
        | @chosen first rest disagreed reasons fresh compared known =>
            have held : ∀ item ∈ first :: rest, item ∈ (m.stored observation).ordered := by
              intro item member
              rw [← fresh] at member
              exact List.mem_of_mem_filter member
            rintro last ⟨⟩
            exact (steady.honest_stored follows _ (held _ (selected_mem _ first rest))).shared
      · exact quiet.epoch
      · intro _
        exact quiet

theorem step_sources (m : TrustedTimeManager) (observation : TimeSourceObservation) :
    (m.step observation).sources = m.sources ∨ (m.step observation).sources = (m.stored observation).sources := by
  have ends := update_ends m observation
  unfold step
  generalize (update observation m).1 = result at ends
  generalize (update observation m).2 = n at ends
  cases ends with
  | refused => exact Or.inl rfl
  | evaluated _ ends => exact Or.inr ((recording_sources _ _).trans ends.keeps.2.1)

theorem Steady.mem_step (steady : Steady policy zero continuity m) {item : TimeSourceObservation}
    (member : item ∈ (m.step observation).sources.values) : item = observation ∨ item ∈ m.sources.values := by
  cases step_sources m observation with
  | inl same =>
      rw [same] at member
      exact Or.inr member
  | inr new =>
      rw [new] at member
      exact (steady.mem_stored.mp member).imp_right And.left

/-- What may follow before an update may follow after it, unless the new reading forbids it. -/
theorem Follows.step {later : TimeSourceObservation} (steady : Steady policy zero continuity m)
    (follows : Follows policy zero continuity m later)
    (onwards : observation.observedMonotonicNs ≤ later.observedMonotonicNs)
    (constant : observation.sourceId = later.sourceId → observation.authenticated = later.authenticated) :
    Follows policy zero continuity (m.step observation) later where
  honest := follows.honest
  onwards := by
    intro item member
    cases steady.mem_step member with
    | inl new => exact new ▸ onwards
    | inr old => exact follows.onwards item old
  constant := by
    intro item member same
    cases steady.mem_step member with
    | inl new => rw [new] at same ⊢; exact (constant same).symm
    | inr old => exact follows.constant item old same

theorem Steady.run_quiet_iff (steady : Steady policy zero continuity m) {observations : List TimeSourceObservation}
    (honest : HonestRun policy zero continuity observations)
    (follows : ∀ item ∈ observations, Follows policy zero continuity m item) :
    Meets TrustedTimeManager.step (fun m observation => (m.step observation).Quiet) m observations ↔
      Meets TrustedTimeManager.step Calm m observations := by
  induction observations generalizing m with
  | nil => exact Iff.rfl
  | cons first rest ih =>
      have follow := follows first List.mem_cons_self
      obtain ⟨onwards, onwards'⟩ := List.pairwise_cons.mp honest.onwards
      obtain ⟨constant, constant'⟩ := List.pairwise_cons.mp honest.constant
      have later : HonestRun policy zero continuity rest :=
        ⟨fun item member => honest.honest item (List.mem_cons_of_mem first member), onwards', constant'⟩
      refine (and_congr_left' (steady.quiet_iff follow)).trans (and_congr_right ?_)
      intro calm
      refine ih (steady.step follow ((steady.quiet_iff follow).mpr calm)) later ?_
      intro item member
      exact (follows item (List.mem_cons_of_mem first member)).step steady (onwards item member) (constant item member)

theorem Steady.start (policy : TimeTrustPolicy) (zero : ℚ) (continuity : String) :
    Steady policy zero continuity { policy := policy } where
  governed := rfl
  filed := fun _ _ read => absurd read (Option.some_ne_none _).symm
  honest := List.forall_mem_nil _
  selected := fun _ read => absurd read (Option.some_ne_none _).symm
  epoch := rfl
  quiet := fun some => absurd rfl some

/-- Honest clocks raise no alarm exactly as long as every update is calm. -/
theorem honest_clocks_quiet_iff {observations : List TimeSourceObservation}
    (honest : HonestRun policy zero continuity observations) :
    Meets step (fun m observation => (m.step observation).Quiet) { policy := policy } observations ↔
      Meets step Calm { policy := policy } observations := by
  refine (Steady.start policy zero continuity).run_quiet_iff honest ?_
  intro item member
  exact ⟨honest.honest item member, List.forall_mem_nil _, List.forall_mem_nil _⟩

/-- A fixture clock, read so many seconds after the start. -/
def polled (sourceId : String) (seconds : Nat) (valid : isBlank sourceId = false := by decide) : TimeSourceObservation where
  sourceId := sourceId
  origin := .fixture
  authenticated := false
  observedUtc := ⟨⟨1767225600000000 + seconds * 1000000, 0⟩, false⟩
  observedMonotonicNs := seconds * 1000000000
  uncertaintyMs := 0
  ageMs := 0
  continuityId := "fixture-continuity-v1"
  certificateBootstrapValid := some true
  notBlank := ⟨valid, by decide⟩

theorem honest_polled (sourceId : String) {seconds : Nat} (valid : isBlank sourceId = false) (early : seconds ≤ 1000000) :
    Honest {} 1767225600000 "fixture-continuity-v1" (polled sourceId seconds valid) where
  precise := by
    have inRange : ¬ ((1767225600000000 + seconds * 1000000 : Int) < -62135596800000000 ∨
        (253402300799999999 : Int) < 1767225600000000 + seconds * 1000000) := by omega
    unfold utcMs shown
    refine (if_neg Bool.false_ne_true).trans ((if_neg inRange).trans (congrArg Except.ok ?_))
    unfold polled
    push_cast
    ring
  fresh := rfl
  shared := rfl
  trusted := rfl
  certain := (by norm_num : (0 : ℚ) ≤ 250)

theorem honest_pair {seconds : Nat} (early : seconds ≤ 1000000) :
    HonestRun {} 1767225600000 "fixture-continuity-v1" [polled "clock-a" 0, polled "clock-b" seconds] where
  honest := by
    intro item member
    simp only [List.mem_cons, List.not_mem_nil, or_false] at member
    obtain rfl | rfl := member
    · exact honest_polled _ (by decide) (by decide)
    · exact honest_polled _ (by decide) early
  onwards := by simp [polled]
  constant := by simp [polled]

/-- Two clocks that agree, one of them polled a second after the other. -/
theorem prompt_poll_quiet :
    Meets step (fun m observation => (m.step observation).Quiet) {} [polled "clock-a" 0, polled "clock-b" 1] :=
  (honest_clocks_quiet_iff (honest_pair (by decide))).mpr (by decide +kernel)

/-- The same clocks, polled two seconds after each other. -/
theorem late_poll_alarms :
    ¬ (HonestRun {} 1767225600000 "fixture-continuity-v1" [polled "clock-a" 0, polled "clock-b" 2] →
      Meets step (fun m observation => (m.step observation).Quiet) {} [polled "clock-a" 0, polled "clock-b" 2]) := by
  intro quiet
  have epoch := (quiet (honest_pair (by decide))).2.1.epoch
  revert epoch
  decide +kernel

end TrustedTimeManager

end SentinelEdge.Runtime
