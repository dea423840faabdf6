import SentinelEdge.Runtime.ClockEpochs

/-! # What untrusted clocks can change

What a snapshot allows is a function of the trusted candidates alone. Two managers that
were given the same trusted readings therefore allow the same, whatever else one of them
has read, and also when a call has raised in between.
-/

namespace SentinelEdge.Runtime

open Domain Foundation

def TimeTrustSnapshot.clearance (s : TimeTrustSnapshot) : Bool × Bool × Bool :=
  (s.securityValidityAllowed, s.remoteFreshnessAllowed, s.peerCorrelationAllowed)

/-- Neither an unauthenticated NTP source nor one with a bad bootstrap certificate. -/
def TimeSourceObservation.creditable (chosen : TimeSourceObservation) : Bool :=
  ! (chosen.origin = .ntp && chosen.authenticated = false) && chosen.certificateBootstrapValid ≠ some false

namespace Standing

theorem ofPool_allowed (trusted displayed : Bool) : (ofPool trusted displayed).allowed = trusted := by
  cases trusted <;> cases displayed <;> rfl

theorem checks_allowed (chosen : TimeSourceObservation) (standing : Standing) :
    ((standing.checkNtp chosen).checkBootstrap chosen).allowed = (standing.allowed && chosen.creditable) := by
  unfold checkBootstrap checkNtp TimeSourceObservation.creditable
  by_cases bootstrap : chosen.certificateBootstrapValid = some false
  · simp [bootstrap]
  · by_cases ntp : chosen.origin = .ntp ∧ chosen.authenticated = false
    · simp [ntp, bootstrap]
    · rw [not_and_or] at ntp
      rcases ntp with origin | authenticated
      · simp [origin, bootstrap]
      · simp [authenticated, bootstrap]

end Standing

namespace TimeTrustPolicy

variable (policy : TimeTrustPolicy)

/-- The readings that are fresh, of a trusted origin and certain enough. -/
def eligible (item : TimeSourceObservation) : Bool :=
  (policy.trusts item && item.uncertaintyMs ≤ policy.maxTrustedUncertaintyMs) && item.ageMs ≤ policy.maxSourceAgeMs

theorem trustedCandidates_candidates (sources : List TimeSourceObservation) :
    policy.trustedCandidates (policy.candidates sources) = sources.filter policy.eligible := by
  rw [trustedCandidates, candidates, List.filter_filter]
  rfl

/-- What the trusted candidates allow. -/
def allowance : List TimeSourceObservation → Except Error Bool
  | [] => .ok false
  | first :: rest => do
      let disagreed ← policy.disagree (first :: rest)
      pure (! disagreed && (least first rest).creditable)

end TimeTrustPolicy

namespace TrustedTimeManager

variable {m n : TrustedTimeManager} {extraReasons : List String} {result : Except Error TimeTrustSnapshot}

/-- The trusted candidates among all sources. -/
def eligible (m : TrustedTimeManager) : List TimeSourceObservation := m.ordered.filter m.policy.eligible

def allowance (m : TrustedTimeManager) : Except Error Bool := m.policy.allowance m.eligible

/-- `(allowed, allowed, allowed)` -/
def thrice (allowed : Bool) : Bool × Bool × Bool := (allowed, allowed, allowed)

theorem disagreement_among_reasons (clean : "trusted_sources_disagree" ∉ extraReasons) (disagreed : Bool)
    (chosen : TimeSourceObservation) :
    "trusted_sources_disagree" ∈ m.reasonsFor extraReasons disagreed chosen ↔ disagreed = true := by
  have other : "trusted_sources_disagree" ∉ selectionChanges m.lastSelected chosen := by
    cases m.lastSelected with
    | none => exact nofun
    | some last => simp [selectionChanges]
  rw [reasonsFor, List.mem_append, List.mem_append]
  cases disagreed with
  | false => simp [clean, other]
  | true => simp

theorem snapshotOf_clearance (reasons : List String) (fresh : List TimeSourceObservation) (chosen : TimeSourceObservation) :
    (m.snapshotOf reasons fresh chosen).clearance =
      thrice ((chosen ∈ m.policy.trustedCandidates fresh && "trusted_sources_disagree" ∉ reasons) && chosen.creditable) := by
  have allowed : (m.standing reasons fresh chosen).allowed = _ := Standing.checks_allowed chosen _
  rw [Standing.ofPool_allowed] at allowed
  rw [← allowed]
  rfl

/-- `evaluate` allows what the trusted candidates allow, and raises where they do. -/
theorem Evaluates.clearance (clean : "trusted_sources_disagree" ∉ extraReasons) (ends : Evaluates m extraReasons result n) :
    result.map TimeTrustSnapshot.clearance = m.allowance.map thrice := by
  have pool := m.policy.trustedCandidates_candidates m.ordered
  unfold allowance eligible
  rw [← pool]
  cases ends with
  | stale old => rw [old]; rfl
  | undated fresh raised =>
      rw [fresh]
      cases among : m.policy.trustedCandidates (_ :: _) with
      | nil => rw [among] at raised; cases raised
      | cons a later => rw [among] at raised; rw [TimeTrustPolicy.allowance, raised]; rfl
  | @chosen first rest disagreed reasons fresh compared known =>
      have noted : decide ("trusted_sources_disagree" ∈ reasons) = disagreed := by
        rw [known, Bool.decide_congr (disagreement_among_reasons clean disagreed _), Bool.decide_eq_true]
      rw [fresh, Except.map, snapshotOf_clearance, decide_not, noted]
      cases among : m.policy.trustedCandidates (first :: rest) with
      | nil => simp [TimeTrustPolicy.allowance, Except.map]
      | cons a later =>
          have selected : m.policy.selected first rest = least a later := by rw [TimeTrustPolicy.selected, among]
          rw [among] at compared
          rw [TimeTrustPolicy.allowance, compared, selected, decide_eq_true (least_mem a later)]
          simp [Except.map, Checks.ok_bind, pure, Except.pure]

/-! ## Beside each other -/

/-- `n` has read what `m` has read from the sources to be kept, and the others of `m` are
    not trusted. -/
structure SameTrusted (keep : String → Bool) (m n : TrustedTimeManager) : Prop where
  policy : n.policy = m.policy
  sources : n.sources = m.sources.restrict keep
  filed : ∀ id item, m.sources.get? id = some item → item.sourceId = id
  untrusted : ∀ id item, m.sources.get? id = some item → keep id = false → m.policy.trusts item = false

/-- The last snapshots agree, and allow what the sources still allow. -/
structure Beside (keep : String → Bool) (m n : TrustedTimeManager) : Prop extends SameTrusted keep m n where
  clearance : m.lastSnapshot.clearance = n.lastSnapshot.clearance
  settled : ∀ allowed, m.allowance = .ok allowed → m.lastSnapshot.clearance = thrice allowed

variable {keep : String → Bool}

theorem eligible_pairwise (m : TrustedTimeManager) : m.eligible.Pairwise (fun a b => a.sourceId ≤ b.sourceId) :=
  (List.pairwise_insertionSort (fun a b : TimeSourceObservation => a.sourceId ≤ b.sourceId) _).filter _

theorem mem_eligible {m : TrustedTimeManager} {item : TimeSourceObservation} :
    item ∈ m.eligible ↔ (∃ id, m.sources.get? id = some item) ∧ m.policy.eligible item = true := by
  rw [eligible, List.mem_filter, ordered, List.mem_insertionSort, Dict.mem_values_iff]

/-- The same sources are eligible in both. -/
theorem SameTrusted.eligible (same : SameTrusted keep m n) : n.eligible = m.eligible := by
  have kept : ∀ item ∈ m.sources.items, m.policy.eligible item.2 = true → keep item.1 = true := by
    intro item member trusted
    by_contra out
    have distrusted := same.untrusted item.1 item.2 (Dict.get?_eq_some_iff.mpr member) (by simpa using out)
    simp [TimeTrustPolicy.eligible, distrusted] at trusted
  have permuted : n.eligible.Perm m.eligible := by
    unfold TrustedTimeManager.eligible ordered
    rw [same.policy, same.sources]
    refine ((List.perm_insertionSort _ _).filter _).trans (List.Perm.trans ?_ ((List.perm_insertionSort _ _).filter _).symm)
    rw [Dict.values, Dict.values, Dict.restrict, List.filter_map, List.filter_map, List.filter_filter]
    refine List.Perm.of_eq (congrArg (List.map Prod.snd) (List.filter_congr ?_))
    intro item member
    cases trusted : m.policy.eligible item.2 with
    | false => simp [trusted]
    | true => simp [trusted, kept item member trusted]
  refine permuted.eq_of_pairwise ?_ n.eligible_pairwise m.eligible_pairwise
  intro a b hereA hereB le ge
  obtain ⟨⟨id, readA⟩, -⟩ := mem_eligible.mp (permuted.mem_iff.mp hereA)
  obtain ⟨⟨id', readB⟩, -⟩ := mem_eligible.mp hereB
  have ids : id = id' := by
    rw [← same.filed id a readA, ← same.filed id' b readB]
    exact String.le_antisymm le ge
  rw [ids, readB] at readA
  exact (Option.some.inj readA).symm

theorem SameTrusted.allowance (same : SameTrusted keep m n) : n.allowance = m.allowance := by
  unfold TrustedTimeManager.allowance
  rw [same.eligible, same.policy]

/-- A reading of a source that is left out. -/
theorem SameTrusted.skip (same : SameTrusted keep m n) {observation : TimeSourceObservation}
    (out : keep observation.sourceId = false) (untrusted : m.policy.trusts observation = false) :
    SameTrusted keep (m.stored observation) n where
  policy := same.policy
  sources := same.sources.trans (Dict.restrict_insert_of_out out observation).symm
  filed := by
    intro id item read
    rw [stored, Dict.get?_insert] at read
    split at read
    · next here => rw [← Option.some.inj read, here]
    · exact same.filed id item read
  untrusted := by
    intro id item read left
    rw [stored, Dict.get?_insert] at read
    split at read
    · rw [← Option.some.inj read]
      exact untrusted
    · exact same.untrusted id item read left

/-- A reading that both are given. -/
theorem SameTrusted.both (same : SameTrusted keep m n) {observation : TimeSourceObservation}
    (kept : keep observation.sourceId = true) : SameTrusted keep (m.stored observation) (n.stored observation) where
  policy := same.policy
  sources := by
    rw [stored, stored, Dict.restrict_insert kept, same.sources]
  filed := by
    intro id item read
    rw [stored, Dict.get?_insert] at read
    split at read
    · next here => rw [← Option.some.inj read, here]
    · exact same.filed id item read
  untrusted := by
    intro id item read left
    rw [stored, Dict.get?_insert] at read
    split at read
    · next here => rw [here, kept] at left; cases left
    · exact same.untrusted id item read left

theorem SameTrusted.detected (same : SameTrusted keep m n) {observation : TimeSourceObservation}
    (kept : keep observation.sourceId = true) : n.detected observation = m.detected observation := by
  unfold TrustedTimeManager.detected
  rw [same.sources, Dict.get?_restrict, if_pos kept, same.policy]

theorem detected_clean {observation : TimeSourceObservation} (found : m.detected observation = .ok extraReasons) :
    "trusted_sources_disagree" ∉ extraReasons := by
  intro among
  have other : "trusted_sources_disagree" ∉ discontinuityCodes := by decide
  exact other (detected_codes found _ among)

/-- The snapshot after `evaluate` allows what the sources allow, if they do not raise. -/
theorem Evaluates.settled (clean : "trusted_sources_disagree" ∉ extraReasons) (ends : Evaluates m extraReasons result n)
    {allowed : Bool} (allows : m.allowance = .ok allowed) : (recording result n).lastSnapshot.clearance = thrice allowed := by
  have clearance := ends.clearance clean
  rw [allows] at clearance
  cases result with
  | error e => cases clearance
  | ok snapshot => exact Except.ok.inj clearance

theorem Evaluates.unsettled (clean : "trusted_sources_disagree" ∉ extraReasons) (ends : Evaluates m extraReasons result n)
    {e : Error} (raises : m.allowance = .error e) : (recording result n).lastSnapshot = m.lastSnapshot := by
  have clearance := ends.clearance clean
  rw [raises] at clearance
  cases result with
  | error e => exact ends.keeps.2.2
  | ok snapshot => cases clearance

theorem Evaluates.allowance (ends : Evaluates m extraReasons result n) : (recording result n).allowance = m.allowance := by
  obtain ⟨policy, sources, -⟩ := ends.keeps
  simp only [TrustedTimeManager.allowance, TrustedTimeManager.eligible, ordered, recording_policy, recording_sources, policy,
    sources]

theorem SameTrusted.congr {m' n' : TrustedTimeManager} (same : SameTrusted keep m n) (policy : m'.policy = m.policy)
    (sources : m'.sources = m.sources) (policy' : n'.policy = n.policy) (sources' : n'.sources = n.sources) :
    SameTrusted keep m' n' where
  policy := by rw [policy, policy', same.policy]
  sources := by rw [sources, sources', same.sources]
  filed := by rw [sources]; exact same.filed
  untrusted := by rw [sources, policy]; exact same.untrusted

theorem Beside.skip (beside : Beside keep m n) {observation : TimeSourceObservation}
    (out : keep observation.sourceId = false) (untrusted : m.policy.trusts observation = false) :
    Beside keep (m.step observation) n := by
  have ends := update_ends m observation
  unfold step
  generalize (update observation m).1 = result at ends
  generalize (update observation m).2 = after at ends
  cases ends with
  | refused => exact beside
  | evaluated found ends =>
      have clean := detected_clean found
      have same := beside.toSameTrusted.skip out untrusted
      have allowance : (m.stored observation).allowance = m.allowance :=
        same.allowance.symm.trans beside.toSameTrusted.allowance
      have keeps := ends.keeps
      constructor
      · exact same.congr ((recording_policy _ _).trans keeps.1) ((recording_sources _ _).trans keeps.2.1) rfl rfl
      · cases allows : m.allowance with
        | error e =>
            rw [ends.unsettled clean (allowance.trans allows)]
            exact beside.clearance
        | ok allowed =>
            rw [ends.settled clean (allowance.trans allows), ← beside.settled allowed allows]
            exact beside.clearance
      · intro allowed allows
        rw [ends.allowance] at allows
        exact ends.settled clean allows

theorem Beside.both (beside : Beside keep m n) {observation : TimeSourceObservation}
    (kept : keep observation.sourceId = true) : Beside keep (m.step observation) (n.step observation) := by
  have ends := update_ends m observation
  have ends' := update_ends n observation
  have detected := beside.toSameTrusted.detected kept
  unfold step
  generalize (update observation m).1 = result at ends
  generalize (update observation m).2 = after at ends
  generalize (update observation n).1 = result' at ends'
  generalize (update observation n).2 = after' at ends'
  cases ends with
  | refused raised =>
      cases ends' with
      | refused => exact beside
      | evaluated found' =>
          rw [detected, raised] at found'
          cases found'
  | evaluated found ends =>
      cases ends' with
      | refused raised' =>
          rw [detected, found] at raised'
          cases raised'
      | evaluated found' ends' =>
          have clean := detected_clean found
          have clean' := detected_clean found'
          have same := beside.toSameTrusted.both kept
          have keeps := ends.keeps
          have keeps' := ends'.keeps
          constructor
          · exact same.congr ((recording_policy _ _).trans keeps.1) ((recording_sources _ _).trans keeps.2.1)
              ((recording_policy _ _).trans keeps'.1) ((recording_sources _ _).trans keeps'.2.1)
          · cases allows : (m.stored observation).allowance with
            | error e =>
                rw [ends.unsettled clean allows, ends'.unsettled clean' (same.allowance.trans allows)]
                exact beside.clearance
            | ok allowed => rw [ends.settled clean allows, ends'.settled clean' (same.allowance.trans allows)]
          · intro allowed allows
            rw [ends.allowance] at allows
            exact ends.settled clean allows

theorem Beside.run (beside : Beside keep m n) (observations : List TimeSourceObservation)
    (untrusted : ∀ item ∈ observations, keep item.sourceId = false → m.policy.trusts item = false) :
    Beside keep (Foundation.run step m observations)
      (Foundation.run step n (observations.filter (fun item => keep item.sourceId))) := by
  induction observations generalizing m n with
  | nil => exact beside
  | cons first later ih =>
      have others : ∀ item ∈ later, keep item.sourceId = false → (m.step first).policy.trusts item = false := by
        intro item member
        rw [step_policy]
        exact untrusted item (List.mem_cons_of_mem first member)
      cases kept : keep first.sourceId with
      | true =>
          rw [List.filter_cons_of_pos (by simpa using kept)]
          exact ih (beside.both kept) others
      | false =>
          rw [List.filter_cons_of_neg (by simp [kept])]
          exact ih (beside.skip kept (untrusted first List.mem_cons_self kept)) others

theorem Beside.start (keep : String → Bool) (policy : TimeTrustPolicy) : Beside keep { policy := policy } { policy := policy } where
  policy := rfl
  sources := rfl
  filed := fun _ _ read => absurd read (Option.some_ne_none _).symm
  untrusted := fun _ _ read => absurd read (Option.some_ne_none _).symm
  clearance := rfl
  settled := by
    intro allowed allows
    cases allows
    rfl

/-- The clearance after a run does not depend on the updates of further sources that are
    not trusted. -/
theorem untrusted_without_influence (policy : TimeTrustPolicy) (keep : String → Bool)
    (observations : List TimeSourceObservation)
    (untrusted : ∀ item ∈ observations, keep item.sourceId = false → policy.trusts item = false) :
    (run step { policy := policy } observations).lastSnapshot.clearance =
      (run step { policy := policy } (observations.filter (fun item => keep item.sourceId))).lastSnapshot.clearance :=
  ((Beside.start keep policy).run observations untrusted).clearance

/-- A reading of a source that is up to date. -/
def current (sourceId : String) (origin : TimeOrigin) (authenticated : Bool) (instant : DateTime)
    (valid : isBlank sourceId = false := by decide) : TimeSourceObservation where
  sourceId := sourceId
  origin := origin
  authenticated := authenticated
  observedUtc := ⟨⟨instant, 0⟩, false⟩
  observedMonotonicNs := 0
  uncertaintyMs := 5
  ageMs := 0
  continuityId := "boot-1"
  notBlank := ⟨valid, by decide⟩

/-- An NTP server a year ahead, beside an NTS server. -/
def mixedClocks : List TimeSourceObservation :=
  [current "ntp-0" .ntp false 1798761600000000, current "nts-0" .nts true 1767225600000000,
    current "ntp-0" .ntp false 1830297600000000]

theorem ntp_without_influence :
    (run step {} mixedClocks).lastSnapshot.clearance =
      (run step {} (mixedClocks.filter (fun item => item.sourceId ≠ "ntp-0"))).lastSnapshot.clearance :=
  untrusted_without_influence {} (fun id => id ≠ "ntp-0") mixedClocks (by decide +kernel)

end TrustedTimeManager

end SentinelEdge.Runtime
