import SentinelEdge.Collaboration.Service

/-! # What a correlation finds

The signals of an episode have one hazard and one correlation domain. Going through
them then fails for none or for all, and what it finds is the signals filtered by
the reasons against them.
-/

namespace SentinelEdge.Collaboration

open Foundation Foundation.Checks Domain

variable {policy : CollaborationPolicy} {hp : HazardCorrelationPolicy} {now : Timestamp} {window : Window}
  {signal : CollaborativeSignal} {signals : List CollaborativeSignal}

namespace HazardCorrelationPolicy

/-- The band that the hazard requires is one of the four. -/
def Ranked (hp : HazardCorrelationPolicy) : Prop :=
  ∀ band ∈ hp.requireClockBandAtMost, ∃ rank, clockRank band = .ok rank

def unsafeClock (hp : HazardCorrelationPolicy) (signal : CollaborativeSignal) : Bool :=
  (hp.clockUnsafe signal).toOption.getD false

theorem clockUnsafe_of_ranked (ranked : hp.Ranked) (signal : CollaborativeSignal) :
    hp.clockUnsafe signal = .ok (hp.unsafeClock signal) := by
  unfold unsafeClock clockUnsafe
  cases required : hp.requireClockBandAtMost with
  | none => rfl
  | some band =>
      obtain ⟨rank, known⟩ := ranked band required
      simp only [known]
      rfl

theorem clockUnsafe_of_unranked (unranked : ¬ hp.Ranked) (signal : CollaborativeSignal) : ∃ e, hp.clockUnsafe signal = .error e := by
  unfold clockUnsafe
  cases required : hp.requireClockBandAtMost with
  | none =>
      refine absurd ?_ unranked
      intro band none
      rw [required] at none
      cases none
  | some band =>
      cases known : clockRank band with
      | error e =>
          simp only [known]
          exact ⟨e, rfl⟩
      | ok rank =>
          refine absurd ?_ unranked
          intro other same
          rw [required] at same
          cases same
          exact ⟨rank, known⟩

theorem unsafeClock_eq_false (ranked : hp.Ranked) (safeClock : hp.unsafeClock signal = false) {band : String}
    (required : hp.requireClockBandAtMost = some band) :
    ∃ rank, clockRank band = .ok rank ∧ signal.clockUncertaintyBand.rank ≤ rank := by
  obtain ⟨rank, known⟩ := ranked band required
  refine ⟨rank, known, ?_⟩
  unfold unsafeClock clockUnsafe at safeClock
  rw [required] at safeClock
  simp only [known] at safeClock
  exact not_lt.mp (of_decide_eq_false safeClock)

theorem objections_eq_nil : hp.objections now signal = [] ↔
    now.instant < signal.expiresAt.instant ∧ signal.sourceMode ≠ .replayed ∧ signal.correlationDomain.kind ≠ .unknown ∧
      signal.correlationDomain.kind ∈ hp.domainKinds ∧ signal.observation ∈ hp.allowedObservations := by
  unfold objections
  rw [List.append_eq_nil_iff, List.append_eq_nil_iff, List.append_eq_nil_iff]
  constructor
  · rintro ⟨⟨⟨current, live⟩, kind⟩, allowed⟩
    refine ⟨?_, ?_, ?_, ?_, ?_⟩
    · by_contra expired
      simp [not_lt.mp expired] at current
    · intro replayed
      simp [replayed] at live
    · intro unknown
      simp [unknown] at kind
    · by_contra other
      by_cases unknown : signal.correlationDomain.kind = .unknown
      · simp [unknown] at kind
      · simp [unknown, other] at kind
    · by_contra other
      simp [other] at allowed
  · rintro ⟨current, live, known, kind, allowed⟩
    simp [not_le.mpr current, live, known, kind, allowed]

theorem clock_not_mem_objections : "CLOCK_UNSAFE" ∉ hp.objections now signal := by
  unfold objections
  simp only [List.mem_append, not_or]
  refine ⟨⟨⟨?_, ?_⟩, ?_⟩, ?_⟩
  all_goals
    repeat' split
    all_goals decide

/-- The reasons against a signal of an episode. -/
def reasonsIn (hp : HazardCorrelationPolicy) (now : Timestamp) (window : Window) (signal : CollaborativeSignal) : List String :=
  hp.objections now signal ++ (if hp.unsafeClock signal then ["CLOCK_UNSAFE"] else []) ++
    (if window.mismatch signal then ["CORRELATION_KEY_MISMATCH"] else []) ++
    if window.inWindow signal then [] else ["OUTSIDE_POLICY_WINDOW"]

/-- Nothing but its clock speaks against the signal. -/
def candidate (hp : HazardCorrelationPolicy) (now : Timestamp) (window : Window) (signal : CollaborativeSignal) : Bool :=
  (hp.objections now signal).isEmpty && !window.mismatch signal && window.inWindow signal

theorem clock_mem_reasonsIn : "CLOCK_UNSAFE" ∈ hp.reasonsIn now window signal ↔ hp.unsafeClock signal = true := by
  unfold reasonsIn
  cases hp.unsafeClock signal <;> cases window.mismatch signal <;> cases window.inWindow signal <;>
    simp [clock_not_mem_objections]

theorem reasonsIn_isEmpty : (hp.reasonsIn now window signal).isEmpty = (hp.candidate now window signal && !hp.unsafeClock signal) := by
  unfold reasonsIn candidate
  cases hp.objections now signal <;> cases hp.unsafeClock signal <;> cases window.mismatch signal <;>
    cases window.inWindow signal <;> rfl

theorem candidate_eq : ((hp.reasonsIn now window signal).filter (fun reason => reason ≠ "CLOCK_UNSAFE")).isEmpty =
    hp.candidate now window signal := by
  have kept : (hp.objections now signal).filter (fun reason => reason ≠ "CLOCK_UNSAFE") = hp.objections now signal := by
    apply List.filter_eq_self.mpr
    intro reason member
    apply decide_eq_true
    rintro rfl
    exact clock_not_mem_objections member
  unfold reasonsIn candidate
  rw [List.filter_append, List.filter_append, List.filter_append, kept]
  cases hp.objections now signal <;> cases hp.unsafeClock signal <;> cases window.mismatch signal <;>
    cases window.inWindow signal <;> rfl

/-- What the loop finds. -/
def findings (hp : HazardCorrelationPolicy) (now : Timestamp) (window : Window) (signals : List CollaborativeSignal) : Tally where
  accepted := signals.filter (fun signal => (hp.reasonsIn now window signal).isEmpty)
  rejected := signals.filter (fun signal => !(hp.reasonsIn now window signal).isEmpty)
  peerCandidates := signals.filter (hp.candidate now window)
  blocking := signals.flatMap (hp.reasonsIn now window)

/-- The action that is selected. -/
theorem select_action (hp : HazardCorrelationPolicy) (kind : DomainKind) (trust : TransportTrust) (peers : Nat)
    (blocking : List String) : (hp.select kind trust peers blocking).action =
      if kind = .unknown then .contextOnly else if hp.meets peers blocking then hp.actionFor trust else .noAction := by
  unfold select
  by_cases enough : hp.minIndependentPeers ≤ peers
  · simp only [if_pos enough]
    split
    · rfl
    · split
      · rfl
      · rfl
  · have short (blocking : List String) : hp.meets peers blocking = false := by
      rw [meets, decide_eq_false enough, Bool.false_and]
    simp only [if_neg enough, short]
    split
    · rfl
    · rfl

end HazardCorrelationPolicy

theorem reasons_of_ranked (known : policy.hazards.get? signal.hazard = some hp) (ranked : hp.Ranked) :
    window.reasons policy now signal = .ok (hp.reasonsIn now window signal) := by
  unfold Window.reasons validateSignal CollaborationPolicy.hazard
  rw [known]
  show (hp.clockUnsafe signal >>= _) >>= _ = _
  rw [hp.clockUnsafe_of_ranked ranked]
  rfl

theorem tally_of_ranked {hazard : HazardKind} (known : policy.hazards.get? hazard = some hp) (ranked : hp.Ranked)
    (same : ∀ signal ∈ signals, signal.hazard = hazard) (found : Tally) :
    window.tally policy now signals found = .ok {
      accepted := found.accepted ++ (hp.findings now window signals).accepted
      rejected := found.rejected ++ (hp.findings now window signals).rejected
      peerCandidates := found.peerCandidates ++ (hp.findings now window signals).peerCandidates
      blocking := found.blocking ++ (hp.findings now window signals).blocking } := by
  induction signals generalizing found with
  | nil => simp [Window.tally, HazardCorrelationPolicy.findings]
  | cons signal signals ih =>
      have here : policy.hazards.get? signal.hazard = some hp := same signal List.mem_cons_self ▸ known
      rw [Window.tally, reasons_of_ranked here ranked]
      show window.tally policy now signals (found.add signal (hp.reasonsIn now window signal)) = _
      rw [ih (fun other member => same other (List.mem_cons_of_mem _ member))]
      simp only [HazardCorrelationPolicy.findings, Tally.add, hp.candidate_eq, List.filter_cons, List.flatMap_cons]
      cases (hp.reasonsIn now window signal).isEmpty <;> cases hp.candidate now window signal <;>
        simp only [Bool.not_true, Bool.not_false, Bool.false_eq_true, if_true, if_false, List.append_assoc, List.singleton_append]

theorem tally_of_unranked (known : policy.hazards.get? signal.hazard = some hp) (unranked : ¬ hp.Ranked) (found : Tally) :
    ∃ e, window.tally policy now (signal :: signals) found = .error e := by
  obtain ⟨e, raised⟩ := hp.clockUnsafe_of_unranked unranked signal
  refine ⟨e, ?_⟩
  unfold Window.tally Window.reasons validateSignal CollaborationPolicy.hazard
  rw [known]
  show ((hp.clockUnsafe signal >>= _) >>= _) >>= _ = _
  rw [raised]
  rfl

/-! ## The decision -/

variable {P : Platform} {trust : TransportTrust} {anchor : CollaborativeSignal} {d : CorrelationDecisionRecord}

theorem validated_eq_ok {d' : CorrelationDecisionRecord} (valid : d.validated = .ok d') : d' = d := by
  unfold CorrelationDecisionRecord.validated at valid
  repeat' split at valid
  all_goals cases valid
  rfl

theorem hazard_of_known {hazard : HazardKind} (known : policy.hazards.get? hazard = some hp) : policy.hazard hazard = .ok hp := by
  unfold CollaborationPolicy.hazard
  rw [known]

theorem evaluate_cons (P : Platform) (policy : CollaborationPolicy) (now : Timestamp) (trust : TransportTrust)
    (anchor : CollaborativeSignal) (signals : List CollaborativeSignal) :
    evaluateCorrelation P policy now trust (anchor :: signals) = (do
      let hp ← policy.hazard anchor.hazard
      let window ← hp.window anchor
      let found ← window.tally policy now (anchor :: signals) {}
      (window.decision P policy hp now trust (anchor :: signals) found).validated) := rfl

theorem validated_isOk : (∃ d', d.validated = .ok d') ↔ (8 ≤ d.decisionId.length ∧ d.decisionId.length ≤ 96) ∧
    (1 ≤ d.policyId.length ∧ d.policyId.length ≤ 96) ∧ 1 ≤ d.domainId.length ∧ d.domainId.length ≤ 96 := by
  constructor
  · rintro ⟨d', valid⟩
    unfold CorrelationDecisionRecord.validated at valid
    repeat' split at valid
    all_goals cases valid
    omega
  · rintro ⟨decision, policy, domain⟩
    unfold CorrelationDecisionRecord.validated
    rw [if_neg (by omega), if_neg (by omega), if_neg (by omega)]
    exact ⟨d, rfl⟩

theorem evaluate_of_ranked (known : policy.hazards.get? anchor.hazard = some hp) (ranked : hp.Ranked)
    (same : ∀ signal ∈ signals, signal.hazard = anchor.hazard) :
    evaluateCorrelation P policy now trust (anchor :: signals) = (do
      let window ← hp.window anchor
      (window.decision P policy hp now trust (anchor :: signals) (hp.findings now window (anchor :: signals))).validated) := by
  have all : ∀ signal ∈ anchor :: signals, signal.hazard = anchor.hazard := by
    intro signal member
    cases member with
    | head => rfl
    | tail _ later => exact same signal later
  have gone (window : Window) : window.tally policy now (anchor :: signals) {} =
      .ok (hp.findings now window (anchor :: signals)) := by
    rw [tally_of_ranked known ranked all]
    rfl
  rw [evaluate_cons, hazard_of_known known, ok_bind]
  simp only [gone, ok_bind]

/-- A decision is made by a known hazard policy, around a window, from what the loop
    has found. -/
theorem evaluate_eq_ok (same : ∀ signal ∈ signals, signal.hazard = anchor.hazard)
    (decided : evaluateCorrelation P policy now trust (anchor :: signals) = .ok d) :
    ∃ hp window, policy.hazards.get? anchor.hazard = some hp ∧ hp.Ranked ∧ hp.window anchor = .ok window ∧
      d = window.decision P policy hp now trust (anchor :: signals) (hp.findings now window (anchor :: signals)) := by
  cases known : policy.hazards.get? anchor.hazard with
  | none =>
      rw [evaluate_cons, CollaborationPolicy.hazard, known] at decided
      cases decided
  | some hp =>
      by_cases ranked : hp.Ranked
      · rw [evaluate_of_ranked known ranked same] at decided
        obtain ⟨window, framed, valid⟩ := bind_eq_ok.mp decided
        exact ⟨hp, window, rfl, ranked, framed, validated_eq_ok valid⟩
      · rw [evaluate_cons, hazard_of_known known] at decided
        obtain ⟨hp', here, decided⟩ := bind_eq_ok.mp decided
        cases here
        obtain ⟨window, framed, decided⟩ := bind_eq_ok.mp decided
        obtain ⟨found, gone, -⟩ := bind_eq_ok.mp decided
        obtain ⟨e, raised⟩ := @tally_of_unranked _ _ now window anchor signals known ranked {}
        rw [raised] at gone
        cases gone

theorem window_eq_ok (framed : hp.window anchor = .ok window) : window.anchor = anchor ∧
    window.windowStart.instant = anchor.eventTimeBucket.instant - hp.windowSeconds * 1000000 ∧
      window.windowEnd.instant = anchor.eventTimeBucket.instant + hp.windowSeconds * 1000000 := by
  obtain ⟨first, begins, framed⟩ := bind_eq_ok.mp framed
  obtain ⟨last, ends, framed⟩ := bind_eq_ok.mp framed
  cases framed
  exact ⟨rfl, Timestamp.add_eq_ok begins, Timestamp.add_eq_ok ends⟩

/-! ## The episode -/

namespace CollaborativeCorrelationService

variable {r : CollaborationRepository} {e : CollaborativeSignalEnvelope}

theorem sameEpisode_iff {item : CollaborativeSignalEnvelope} : e.sameEpisode item = true ↔
    item.signal.hazard = e.signal.hazard ∧ item.signal.correlationDomain = e.signal.correlationDomain := by
  unfold CollaborativeSignalEnvelope.sameEpisode
  rw [Bool.and_eq_true, Bool.and_eq_true, decide_eq_true_eq, decide_eq_true_eq, decide_eq_true_eq, and_assoc]
  refine and_congr_right fun _ => ?_
  constructor
  · rintro ⟨kind, id⟩
    cases here : item.signal.correlationDomain
    cases there : e.signal.correlationDomain
    rw [here, there] at kind id
    cases kind
    cases id
    rfl
  · intro same
    rw [same]
    exact ⟨rfl, rfl⟩

/-- The admitted envelopes of the episode. -/
def admittedEpisode (r : CollaborationRepository) (e : CollaborativeSignalEnvelope) : List CollaborativeSignalEnvelope :=
  (r.episodeEnvelopes e).filter (fun item => item.validationState = .admitted)

theorem mem_admittedEpisode {item : CollaborativeSignalEnvelope} : item ∈ admittedEpisode r e ↔
    item ∈ r.envelopes ∧ e.sameEpisode item = true ∧ item.validationState = .admitted := by
  unfold admittedEpisode CollaborationRepository.episodeEnvelopes
  rw [List.mem_filter, List.mem_filter, decide_eq_true_eq, and_assoc]

/-- The envelope is there, so the admitted ones are what is correlated. -/
theorem correlatedSignals_of_stored (stored : e ∈ r.envelopes) (admitted : e.validationState = .admitted) :
    correlatedSignals r e = (admittedEpisode r e).map CollaborativeSignalEnvelope.signal := by
  have among : e ∈ admittedEpisode r e := mem_admittedEpisode.mpr ⟨stored, sameEpisode_iff.mpr ⟨rfl, rfl⟩, admitted⟩
  unfold correlatedSignals
  cases shape : admittedEpisode r e with
  | nil =>
      rw [shape] at among
      cases among
  | cons first rest =>
      unfold admittedEpisode at shape
      simp [shape]

theorem correlatedSignals_same {signal : CollaborativeSignal} (member : signal ∈ correlatedSignals r e) :
    signal.hazard = e.signal.hazard ∧ signal.correlationDomain = e.signal.correlationDomain := by
  unfold correlatedSignals at member
  dsimp only at member
  split at member
  · rw [List.mem_singleton.mp member]
    exact ⟨rfl, rfl⟩
  · obtain ⟨item, among, rfl⟩ := List.mem_map.mp member
    exact sameEpisode_iff.mp (mem_admittedEpisode.mp among).2.1

theorem correlatedSignals_cons (r : CollaborationRepository) (e : CollaborativeSignalEnvelope) :
    ∃ anchor rest, correlatedSignals r e = anchor :: rest := by
  cases shape : correlatedSignals r e with
  | cons anchor rest => exact ⟨anchor, rest, rfl⟩
  | nil =>
      unfold correlatedSignals at shape
      dsimp only at shape
      split at shape
      · cases shape
      · next some =>
          rw [shape] at some
          exact absurd rfl some

/-! ## When a decision is made -/

/-- The policy knows the hazard and its clock band, and the texts it gives the record
    have their lengths. -/
def Decides (policy : CollaborationPolicy) (e : CollaborativeSignalEnvelope) : Prop :=
  (∃ hp, policy.hazards.get? e.signal.hazard = some hp ∧ hp.Ranked) ∧
    (1 ≤ policy.policyVersion.length ∧ policy.policyVersion.length ≤ 96) ∧
    1 ≤ e.signal.correlationDomain.id.length ∧ e.signal.correlationDomain.id.length ≤ 96

/-- The signal the episode is measured by. -/
def anchorOf (r : CollaborationRepository) (e : CollaborativeSignalEnvelope) : CollaborativeSignal :=
  (correlatedSignals r e).headD e.signal

/-- The window around the anchor does not leave the calendar. -/
def Fits (policy : CollaborationPolicy) (r : CollaborationRepository) (e : CollaborativeSignalEnvelope) : Prop :=
  ∃ hp window, policy.hazards.get? e.signal.hazard = some hp ∧ hp.window (anchorOf r e) = .ok window

theorem anchorOf_same (r : CollaborationRepository) (e : CollaborativeSignalEnvelope) :
    (anchorOf r e).hazard = e.signal.hazard ∧ (anchorOf r e).correlationDomain = e.signal.correlationDomain := by
  obtain ⟨anchor, rest, shape⟩ := correlatedSignals_cons r e
  unfold anchorOf
  rw [shape]
  exact correlatedSignals_same (shape ▸ List.mem_cons_self)

theorem decisionIdOf_length (P : Platform) (policyId : String) (hazard : HazardKind) (domainId : String) (now : Timestamp)
    (ids : List String) : 8 ≤ (decisionIdOf P policyId hazard domainId now ids).length ∧
      (decisionIdOf P policyId hazard domainId now ids).length ≤ 96 := by
  have head : "corrdec_".length = 8 := rfl
  unfold decisionIdOf
  generalize (P.sha256Text _).toList = digest
  have cut : (digest.take 24).length ≤ 24 := List.length_take_le 24 digest
  rw [String.length_append, head, String.length_ofList]
  omega

theorem decision_validated (P : Platform) (policy : CollaborationPolicy) (hp : HazardCorrelationPolicy) (now : Timestamp)
    (trust : TransportTrust) (window : Window) (signals : List CollaborativeSignal) (found : Tally) :
    (∃ d, (window.decision P policy hp now trust signals found).validated = .ok d) ↔
      (1 ≤ policy.policyVersion.length ∧ policy.policyVersion.length ≤ 96) ∧
        1 ≤ window.anchor.correlationDomain.id.length ∧ window.anchor.correlationDomain.id.length ≤ 96 := by
  rw [validated_isOk]
  exact and_iff_right (decisionIdOf_length P policy.policyVersion window.anchor.hazard window.anchor.correlationDomain.id now
    (signals.map CollaborativeSignal.signalId))

theorem evaluate_isOk {signals : List CollaborativeSignal} {anchor : CollaborativeSignal}
    (same : ∀ signal ∈ signals, signal.hazard = anchor.hazard) :
    (∃ d, evaluateCorrelation P policy now trust (anchor :: signals) = .ok d) ↔
      (∃ hp window, policy.hazards.get? anchor.hazard = some hp ∧ hp.Ranked ∧ hp.window anchor = .ok window) ∧
        (1 ≤ policy.policyVersion.length ∧ policy.policyVersion.length ≤ 96) ∧
        1 ≤ anchor.correlationDomain.id.length ∧ anchor.correlationDomain.id.length ≤ 96 := by
  constructor
  · rintro ⟨d, decided⟩
    obtain ⟨hp, window, known, ranked, framed, -⟩ := evaluate_eq_ok same decided
    rw [evaluate_of_ranked known ranked same, framed, ok_bind] at decided
    have lengths := (decision_validated P policy hp now trust window (anchor :: signals) _).mp ⟨d, decided⟩
    rw [(window_eq_ok framed).1] at lengths
    exact ⟨⟨hp, window, known, ranked, framed⟩, lengths⟩
  · rintro ⟨⟨hp, window, known, ranked, framed⟩, lengths⟩
    rw [evaluate_of_ranked known ranked same, framed, ok_bind]
    rw [← (window_eq_ok framed).1] at lengths
    exact (decision_validated P policy hp now trust window (anchor :: signals) _).mpr lengths

/-- Correlating a stored envelope returns exactly when the policy decides on it and the
    window of its episode fits. -/
theorem correlated_isOk (P : Platform) (policy : CollaborationPolicy) (e : CollaborativeSignalEnvelope) (now : Timestamp)
    (r : CollaborationRepository) : (∃ d, correlated P policy e now r = .ok d) ↔ Decides policy e ∧ Fits policy r e := by
  have returns : (∃ d, correlated P policy e now r = .ok d) ↔
      ∃ d, evaluateCorrelation P policy now (episodeTrust r e) (correlatedSignals r e) = .ok d := by
    unfold correlated
    constructor
    · rintro ⟨d, decided⟩
      obtain ⟨d', evaluated, -⟩ := bind_eq_ok.mp decided
      exact ⟨d', evaluated⟩
    · rintro ⟨d, evaluated⟩
      rw [evaluated]
      exact ⟨_, rfl⟩
  obtain ⟨anchor, rest, shape⟩ := correlatedSignals_cons r e
  have first : anchorOf r e = anchor := by
    unfold anchorOf
    rw [shape]
    rfl
  obtain ⟨hazard, domain⟩ := anchorOf_same r e
  rw [first] at hazard domain
  have same : ∀ signal ∈ rest, signal.hazard = anchor.hazard := fun signal member =>
    (correlatedSignals_same (shape ▸ List.mem_cons_of_mem _ member)).1.trans hazard.symm
  rw [returns, shape, evaluate_isOk same, hazard, domain, Decides, Fits, first]
  constructor
  · rintro ⟨⟨hp, window, known, ranked, framed⟩, lengths⟩
    exact ⟨⟨⟨hp, known, ranked⟩, lengths⟩, hp, window, known, framed⟩
  · rintro ⟨⟨⟨hp, known, ranked⟩, lengths⟩, hp', window, known', framed⟩
    rw [known] at known'
    cases known'
    exact ⟨⟨hp, window, known, ranked, framed⟩, lengths⟩

end CollaborativeCorrelationService

end SentinelEdge.Collaboration
