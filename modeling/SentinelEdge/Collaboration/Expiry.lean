import SentinelEdge.Collaboration.Trust

/-! # What expired envelopes do

An expired signal is itself rejected. Its envelope still anchors the window if it
is the first, still counts as email or as an unsafe clock, and still takes up room.
-/

namespace SentinelEdge.Collaboration

open Foundation Foundation.Checks Domain

variable {P : Platform} {ω : Type} {policy : CollaborationPolicy} {hp : HazardCorrelationPolicy} {now : Timestamp}
  {window : Window} {e : CollaborativeSignalEnvelope} {r r' : CollaborationRepository} {d : CorrelationDecisionRecord}

/-- The signals give enough peers and no unsafe clock. -/
def HazardCorrelationPolicy.carries (hp : HazardCorrelationPolicy) (now : Timestamp) (window : Window)
    (signals : List CollaborativeSignal) : Bool :=
  hp.meets (independentPeers (hp.findings now window signals).peerCandidates) (hp.findings now window signals).blocking

namespace CollaborativeCorrelationService

variable {s : CollaborativeCorrelationService ω}

/-- The action that is selected on the envelope. -/
def selected (P : Platform) (e : CollaborativeSignalEnvelope) (now : Timestamp) (s : CollaborativeCorrelationService ω) :
    Option Action := (received P e now s).1.toOption.map CorrelationDecisionRecord.selectedAction

/-- The service without the envelopes whose signal has expired. -/
def withoutExpired (now : Timestamp) (s : CollaborativeCorrelationService ω) : CollaborativeCorrelationService ω :=
  { s with repository := s.repository.unexpired now }

theorem stored_of_room (r : CollaborationRepository) (e : CollaborativeSignalEnvelope) (positive : 0 < r.maxEnvelopes)
    (new : e.signalId ∉ r.signalIds) : CollaborationRepository.addEnvelope e r = (.ok true, stored r e) ∧
      (stored r e).Holds r (r.envelopes.drop r.surplus ++ [e]) := by
  have adds := CollaborationRepository.addEnvelope_adds r e
  unfold stored
  cases added : CollaborationRepository.addEnvelope e r with
  | mk a r' =>
      rw [added] at adds
      cases adds with
      | duplicate taken => exact absurd taken new
      | raises _ unbounded _ => omega
      | adds _ _ holds => exact ⟨rfl, holds⟩

theorem selected_of_stored (P : Platform) (now : Timestamp) (positive : 0 < s.repository.maxEnvelopes)
    (new : e.signalId ∉ s.repository.signalIds) : selected P e now s =
      (correlated P s.policy e now (stored s.repository e)).toOption.map CorrelationDecisionRecord.selectedAction := by
  unfold selected
  rw [received_of_stored (stored_of_room s.repository e positive new).1]

/-- What `ingest` decides is what is selected. -/
theorem ingest_selected (P : Platform) (s : CollaborativeCorrelationService ω) (e : CollaborativeSignalEnvelope)
    (now : Timestamp) {d : CorrelationDecisionRecord} (returned : (ingest P e now s).1 = .ok d) :
    selected P e now s = some d.selectedAction := by
  have ingests := ingest_ingests P s e now
  rw [returned] at ingests
  generalize (ingest P e now s).2 = s' at ingests
  cases ingests with
  | decides welcome stores made applies kept bounded =>
      obtain ⟨incidentId, rfl⟩ := applies.withIncident
      rw [selected_of_stored P now stores.positive stores.new, ← stores.eq_stored, made, withIncident_action]
      rfl

/-- The action that the episode of the stored envelope stands for: the window around
    its anchor has enough peers, no admitted clock is unsafe, and the policy gives its
    trust that action. -/
def Stands (policy : CollaborationPolicy) (now : Timestamp) (r : CollaborationRepository) (e : CollaborativeSignalEnvelope)
    (action : Action) : Prop :=
  action ≠ .noAction ∧ ∃ hp window, policy.hazards.get? e.signal.hazard = some hp ∧ hp.window (anchorOf r e) = .ok window ∧
    hp.carries now window (correlatedSignals r e) = true ∧ hp.actionFor (episodeTrust r e) = action

/-- With the expired envelopes and without them the window of the episode fits, or does
    not, and the episode stands for the same action. -/
def Undisturbed (s : CollaborativeCorrelationService ω) (e : CollaborativeSignalEnvelope) (now : Timestamp) : Prop :=
  s.repository.maxEnvelopes ≤ 0 ∨ ¬ Decides s.policy e ∨
    (Fits s.policy (stored s.repository e) e ↔ Fits s.policy (stored (s.repository.unexpired now) e) e) ∧
      (Fits s.policy (stored s.repository e) e → e.signal.correlationDomain.kind = .unknown ∨
        ∀ action, Stands s.policy now (stored s.repository e) e action ↔
          Stands s.policy now (stored (s.repository.unexpired now) e) e action)

/-- The action of the decision on a stored envelope. -/
theorem correlated_action (admitted : e.validationState = .admitted)
    (decided : correlated P policy e now r = .ok d) : ∃ hp window, policy.hazards.get? e.signal.hazard = some hp ∧
      hp.window (anchorOf r e) = .ok window ∧ d.selectedAction =
        if e.signal.correlationDomain.kind = .unknown then .contextOnly
        else if hp.carries now window (correlatedSignals r e) then hp.actionFor (episodeTrust r e) else .noAction := by
  obtain ⟨d', evaluated, same⟩ := bind_eq_ok.mp decided
  rw [if_neg (by rw [admitted]; decide)] at same
  cases same
  obtain ⟨anchor, rest, shape⟩ := correlatedSignals_cons r e
  have first : anchorOf r e = anchor := by
    unfold anchorOf
    rw [shape]
    rfl
  obtain ⟨hazard, domain⟩ := anchorOf_same r e
  rw [first] at hazard domain ⊢
  rw [shape] at evaluated ⊢
  obtain ⟨hp, window, known, ranked, framed, rfl⟩ := evaluate_eq_ok (fun signal member =>
    (correlatedSignals_same (shape ▸ List.mem_cons_of_mem _ member)).1.trans hazard.symm) evaluated
  refine ⟨hp, window, hazard ▸ known, framed, ?_⟩
  show (hp.select window.anchor.correlationDomain.kind _ _ _).action = _
  rw [hp.select_action, (window_eq_ok framed).1, domain]
  rfl

/-- The action of an episode is no other than the one it stands for. -/
theorem selected_iff_stands (admitted : e.validationState = .admitted) (decides : Decides policy e) (fits : Fits policy r e)
    (known : e.signal.correlationDomain.kind ≠ .unknown) {action : Action} (acts : action ≠ .noAction) :
    (correlated P policy e now r).toOption.map CorrelationDecisionRecord.selectedAction = some action ↔
      Stands policy now r e action := by
  obtain ⟨d, decided⟩ := (correlated_isOk P policy e now r).mpr ⟨decides, fits⟩
  obtain ⟨hp, window, listed, framed, selects⟩ := correlated_action admitted decided
  rw [if_neg known] at selects
  have same : (correlated P policy e now r).toOption.map CorrelationDecisionRecord.selectedAction = some d.selectedAction := by
    rw [decided]
    rfl
  rw [same, Option.some_inj, selects]
  constructor
  · intro chosen
    split at chosen
    · next carries => exact ⟨acts, hp, window, listed, framed, carries, chosen⟩
    · exact absurd chosen.symm acts
  · rintro ⟨-, hp', window', listed', framed', carries, chosen⟩
    rw [listed] at listed'
    cases listed'
    rw [framed] at framed'
    cases framed'
    rw [if_pos carries, chosen]

theorem same_action_iff (admitted : e.validationState = .admitted) (decides : Decides policy e) (fits : Fits policy r e)
    (fits' : Fits policy r' e) : (correlated P policy e now r).toOption.map CorrelationDecisionRecord.selectedAction =
      (correlated P policy e now r').toOption.map CorrelationDecisionRecord.selectedAction ↔
        e.signal.correlationDomain.kind = .unknown ∨ ∀ action, Stands policy now r e action ↔ Stands policy now r' e action := by
  obtain ⟨d, decided⟩ := (correlated_isOk P policy e now r).mpr ⟨decides, fits⟩
  obtain ⟨d', decided'⟩ := (correlated_isOk P policy e now r').mpr ⟨decides, fits'⟩
  by_cases known : e.signal.correlationDomain.kind = .unknown
  · refine iff_of_true ?_ (Or.inl known)
    obtain ⟨_, _, _, _, selects⟩ := correlated_action admitted decided
    obtain ⟨_, _, _, _, selects'⟩ := correlated_action admitted decided'
    rw [if_pos known] at selects selects'
    rw [decided, decided']
    show some d.selectedAction = some d'.selectedAction
    rw [selects, selects']
  · have stands (action : Action) (acts : action ≠ .noAction) :=
      @selected_iff_stands P policy now e r admitted decides fits known action acts
    have stands' (action : Action) (acts : action ≠ .noAction) :=
      @selected_iff_stands P policy now e r' admitted decides fits' known action acts
    rw [decided] at stands ⊢
    rw [decided'] at stands' ⊢
    constructor
    · intro same
      refine Or.inr fun action => ?_
      by_cases acts : action = .noAction
      · exact iff_of_false (fun stands => stands.1 acts) (fun stands => stands.1 acts)
      · rw [← stands action acts, ← stands' action acts, same]
    · rintro (unknown | agree)
      · exact absurd unknown known
      · by_cases acts : d.selectedAction = .noAction
        · by_cases acts' : d'.selectedAction = .noAction
          · show some d.selectedAction = some d'.selectedAction
            rw [acts, acts']
          · exact (stands _ acts').mpr ((agree _).mpr ((stands' _ acts').mp rfl))
        · exact ((stands' _ acts).mpr ((agree _).mp ((stands _ acts).mp rfl))).symm

theorem raises_of_unfit (P : Platform) (now : Timestamp) (unfit : ¬ (Decides policy e ∧ Fits policy r e)) :
    (correlated P policy e now r).toOption.map CorrelationDecisionRecord.selectedAction = none := by
  cases decided : correlated P policy e now r with
  | error err => rfl
  | ok d => exact absurd ((correlated_isOk P policy e now r).mp ⟨d, decided⟩) unfit

theorem selects_of_fit (P : Platform) (now : Timestamp) (decides : Decides policy e) (fits : Fits policy r e) :
    (correlated P policy e now r).toOption.map CorrelationDecisionRecord.selectedAction ≠ none := by
  obtain ⟨d, decided⟩ := (correlated_isOk P policy e now r).mpr ⟨decides, fits⟩
  rw [decided]
  exact Option.some_ne_none _

theorem selected_of_unbounded (P : Platform) (now : Timestamp) (unbounded : s.repository.maxEnvelopes ≤ 0)
    (new : e.signalId ∉ s.repository.signalIds) : selected P e now s = none := by
  have adds := CollaborationRepository.addEnvelope_adds s.repository e
  unfold selected received
  cases added : CollaborationRepository.addEnvelope e s.repository with
  | mk a r =>
      rw [added] at adds
      cases adds with
      | duplicate taken => exact absurd taken new
      | adds _ positive _ => omega
      | raises _ _ emptied =>
          rw [Call.bind_of_error (onRepository_of_eq added)]
          rfl

theorem not_mem_unexpired (new : e.signalId ∉ r.signalIds) (now : Timestamp) : e.signalId ∉ (r.unexpired now).signalIds := by
  rw [r.indexed] at new
  intro among
  exact new ((List.filter_sublist.map _).subset among)

/-- An admitted envelope with a new signal selects the same action with the expired
    envelopes and without them exactly when these do not disturb its episode. -/
theorem expired_without_influence_iff (P : Platform) (s : CollaborativeCorrelationService ω) (e : CollaborativeSignalEnvelope)
    (now : Timestamp) (admitted : e.validationState = .admitted) (new : e.signalId ∉ s.repository.signalIds) :
    selected P e now s = selected P e now (s.withoutExpired now) ↔ Undisturbed s e now := by
  have new' : e.signalId ∉ (s.withoutExpired now).repository.signalIds := not_mem_unexpired new now
  by_cases positive : 0 < s.repository.maxEnvelopes
  · rw [selected_of_stored P now positive new, @selected_of_stored _ e (s.withoutExpired now) P now positive new']
    show (correlated P s.policy e now (stored s.repository e)).toOption.map _ =
      (correlated P s.policy e now (stored (s.repository.unexpired now) e)).toOption.map _ ↔ _
    by_cases decides : Decides s.policy e
    · by_cases fits : Fits s.policy (stored s.repository e) e
      · by_cases fits' : Fits s.policy (stored (s.repository.unexpired now) e) e
        · rw [same_action_iff admitted decides fits fits']
          constructor
          · intro agree
            exact Or.inr (Or.inr ⟨iff_of_true fits fits', fun _ => agree⟩)
          · rintro (unbounded | undecided | ⟨-, agree⟩)
            · omega
            · exact absurd decides undecided
            · exact agree fits
        · rw [raises_of_unfit P now (fun both => fits' both.2)]
          refine iff_of_false (selects_of_fit P now decides fits) ?_
          rintro (unbounded | undecided | ⟨alike, -⟩)
          · omega
          · exact undecided decides
          · exact fits' (alike.mp fits)
      · rw [raises_of_unfit P now (fun both => fits both.2)]
        by_cases fits' : Fits s.policy (stored (s.repository.unexpired now) e) e
        · refine iff_of_false (selects_of_fit P now decides fits').symm ?_
          rintro (unbounded | undecided | ⟨alike, -⟩)
          · omega
          · exact undecided decides
          · exact fits (alike.mpr fits')
        · rw [raises_of_unfit P now (fun both => fits' both.2)]
          exact iff_of_true rfl (Or.inr (Or.inr ⟨iff_of_false fits fits', fun fit => absurd fit fits⟩))
    · rw [raises_of_unfit P now (fun both => decides both.1), raises_of_unfit P now (fun both => decides both.1)]
      exact iff_of_true rfl (Or.inr (Or.inl decides))
  · have unbounded : s.repository.maxEnvelopes ≤ 0 := by omega
    refine iff_of_true ?_ (Or.inl unbounded)
    rw [selected_of_unbounded P now unbounded new, @selected_of_unbounded _ e (s.withoutExpired now) P now unbounded new']

/-! ## The ways to disturb an episode

With room for one more envelope, expired envelopes disturb an episode only as its
anchor, as its only email or with its only unsafe clock.
-/

/-- The signal has not expired. -/
def isCurrent (now : Timestamp) (item : CollaborativeSignalEnvelope) : Bool := now.instant < item.signal.expiresAt.instant

/-- What an expired envelope of the episode would do by itself, another one does too. -/
structure Inert (r : CollaborationRepository) (e : CollaborativeSignalEnvelope) (now : Timestamp) : Prop where
  anchor : ∀ first ∈ (admittedEpisode r e).head?, isCurrent now first = true
  email : ∀ item ∈ r.episodeEnvelopes e, item.transportTrust = .emailUnverified →
    ∃ other ∈ r.episodeEnvelopes e, isCurrent now other = true ∧ other.transportTrust = .emailUnverified
  clock : ∀ hp : HazardCorrelationPolicy, ∀ item ∈ admittedEpisode r e, hp.unsafeClock item.signal = true →
    ∃ other ∈ admittedEpisode r e, isCurrent now other = true ∧ hp.unsafeClock other.signal = true

section

variable (current : r'.envelopes = r.envelopes.filter (isCurrent now))
include current

theorem episodeEnvelopes_current : r'.episodeEnvelopes e = (r.episodeEnvelopes e).filter (isCurrent now) := by
  unfold CollaborationRepository.episodeEnvelopes
  rw [current, List.filter_filter, List.filter_filter]
  simp only [Bool.and_comm]

theorem admittedEpisode_current : admittedEpisode r' e = (admittedEpisode r e).filter (isCurrent now) := by
  unfold admittedEpisode
  rw [episodeEnvelopes_current current, List.filter_filter, List.filter_filter]
  simp only [Bool.and_comm]

theorem episodeTrust_current (inert : Inert r e now) : episodeTrust r' e = episodeTrust r e := by
  have same : (r'.episodeEnvelopes e).any (fun item => item.transportTrust = .emailUnverified) =
      (r.episodeEnvelopes e).any (fun item => item.transportTrust = .emailUnverified) := by
    rw [episodeEnvelopes_current current, Bool.eq_iff_iff, List.any_eq_true, List.any_eq_true]
    constructor
    · rintro ⟨item, member, email⟩
      exact ⟨item, List.mem_of_mem_filter member, email⟩
    · rintro ⟨item, member, email⟩
      obtain ⟨other, among, lasting, email⟩ := inert.email item member (of_decide_eq_true email)
      exact ⟨other, List.mem_filter.mpr ⟨among, lasting⟩, decide_eq_true email⟩
  unfold episodeTrust
  rw [same]

theorem carries_current (inert : Inert r e now) (hp : HazardCorrelationPolicy) (window : Window) :
    hp.carries now window ((admittedEpisode r' e).map CollaborativeSignalEnvelope.signal) =
      hp.carries now window ((admittedEpisode r e).map CollaborativeSignalEnvelope.signal) := by
  have peers : (hp.findings now window ((admittedEpisode r' e).map CollaborativeSignalEnvelope.signal)).peerCandidates =
      (hp.findings now window ((admittedEpisode r e).map CollaborativeSignalEnvelope.signal)).peerCandidates := by
    show ((admittedEpisode r' e).map _).filter _ = ((admittedEpisode r e).map _).filter _
    rw [admittedEpisode_current current, List.filter_map, List.filter_map, List.filter_filter]
    congr 1
    apply List.filter_congr
    intro item _
    cases fit : hp.candidate now window item.signal with
    | false => simp [fit]
    | true =>
        have candidate := fit
        unfold HazardCorrelationPolicy.candidate at candidate
        rw [Bool.and_eq_true, Bool.and_eq_true, List.isEmpty_iff, HazardCorrelationPolicy.objections_eq_nil] at candidate
        simp [fit, isCurrent, candidate.1.1.1]
  have clocks : "CLOCK_UNSAFE" ∈ (hp.findings now window ((admittedEpisode r' e).map
      CollaborativeSignalEnvelope.signal)).blocking ↔ "CLOCK_UNSAFE" ∈ (hp.findings now window
      ((admittedEpisode r e).map CollaborativeSignalEnvelope.signal)).blocking := by
    show "CLOCK_UNSAFE" ∈ ((admittedEpisode r' e).map _).flatMap _ ↔ "CLOCK_UNSAFE" ∈ ((admittedEpisode r e).map _).flatMap _
    rw [admittedEpisode_current current]
    simp only [List.mem_flatMap, List.mem_map, hp.clock_mem_reasonsIn]
    constructor
    · rintro ⟨_, ⟨item, member, rfl⟩, unsafely⟩
      exact ⟨_, ⟨item, List.mem_of_mem_filter member, rfl⟩, unsafely⟩
    · rintro ⟨_, ⟨item, member, rfl⟩, unsafely⟩
      obtain ⟨other, among, lasting, unsafely⟩ := inert.clock hp item member unsafely
      exact ⟨_, ⟨other, List.mem_filter.mpr ⟨among, lasting⟩, rfl⟩, unsafely⟩
  unfold HazardCorrelationPolicy.carries HazardCorrelationPolicy.meets
  rw [peers]
  congr 1
  rw [decide_eq_decide, not_iff_not]
  exact clocks

end

theorem undisturbed_of_inert (admitted : e.validationState = .admitted) (lasting : isCurrent now e = true)
    (new : e.signalId ∉ s.repository.signalIds) (room : s.repository.envelopes.length < s.repository.maxEnvelopes)
    (inert : Inert (stored s.repository e) e now) : Undisturbed s e now := by
  have positive : 0 < s.repository.maxEnvelopes := by omega
  have held := (stored_of_room s.repository e positive new).2.1
  have held' := (stored_of_room (s.repository.unexpired now) e positive (not_mem_unexpired new now)).2.1
  have kept : (s.repository.unexpired now).envelopes = s.repository.envelopes.filter (isCurrent now) := rfl
  have fewer : (s.repository.envelopes.filter (isCurrent now)).length ≤ s.repository.envelopes.length :=
    List.length_filter_le _ _
  have none : s.repository.surplus = 0 := by
    unfold CollaborationRepository.surplus
    omega
  have none' : (s.repository.unexpired now).surplus = 0 := by
    show ((s.repository.unexpired now).envelopes.length + 1 - s.repository.maxEnvelopes).toNat = 0
    rw [kept]
    omega
  rw [none, List.drop_zero] at held
  rw [none', List.drop_zero, kept] at held'
  have current : (stored (s.repository.unexpired now) e).envelopes = (stored s.repository e).envelopes.filter (isCurrent now) := by
    rw [held, held', List.filter_append, List.filter_singleton, lasting]
    rfl
  have among : e ∈ (stored s.repository e).envelopes := by
    rw [held]
    exact List.mem_append_right _ (List.mem_singleton.mpr rfl)
  have among' : e ∈ (stored (s.repository.unexpired now) e).envelopes := by
    rw [held']
    exact List.mem_append_right _ (List.mem_singleton.mpr rfl)
  have signals := correlatedSignals_of_stored among admitted
  have signals' := correlatedSignals_of_stored among' admitted
  have anchor : anchorOf (stored (s.repository.unexpired now) e) e = anchorOf (stored s.repository e) e := by
    unfold anchorOf
    rw [signals, signals', admittedEpisode_current current]
    cases shape : admittedEpisode (stored s.repository e) e with
    | nil => rfl
    | cons first rest =>
        have lasts := inert.anchor first (by rw [shape]; rfl)
        rw [List.filter_cons_of_pos lasts]
        rfl
  have carries := carries_current current inert
  refine Or.inr (Or.inr ⟨?_, fun _ => Or.inr fun action => ?_⟩)
  · unfold Fits
    rw [anchor]
  · unfold Stands
    rw [anchor, signals, signals', episodeTrust_current current inert]
    simp only [carries]

/-- A service with room for so many envelopes, after these have been stored. -/
def holding (room : Int) (items : List CollaborativeSignalEnvelope) : CollaborativeCorrelationService Unit :=
  { demoService with repository := items.foldl stored { maxEnvelopes := room } }

def reportB : CollaborativeSignalEnvelope := delivered .fixtureQualified (shaking "node-b" 15 90)

def reportC : CollaborativeSignalEnvelope := delivered .fixtureQualified (shaking "node-c" 16 90)

/-- An expired report beside a current one changes nothing. -/
theorem later_report_is_inert :
    Undisturbed (holding 512 [reportB, delivered .fixtureQualified (shaking "node-a" 15 18)]) reportC ⟨20000000, 0⟩ :=
  (expired_without_influence_iff Platform.hexadecimal (holding 512 [reportB, delivered .fixtureQualified (shaking "node-a" 15 18)])
    reportC ⟨20000000, 0⟩ rfl (by decide +kernel)).mp (by decide +kernel)

/-- An expired report anchors the window, counts as email, vetoes with its clock, or
    takes the room of a current one. -/
theorem expired_reports_influence : ¬ ∃ s ∈ [
      holding 512 [delivered .fixtureQualified (shaking "node-a" 0 5), reportB],
      holding 512 [delivered .emailUnverified (shaking "node-a" 14 18), reportB],
      holding 512 [delivered .fixtureQualified { shaking "node-a" 14 18 with clockUncertaintyBand := .high }, reportB],
      holding 2 [reportB, delivered .fixtureQualified (shaking "node-a" 14 18)]],
    selected Platform.hexadecimal reportC ⟨20000000, 0⟩ s =
      selected Platform.hexadecimal reportC ⟨20000000, 0⟩ (withoutExpired ⟨20000000, 0⟩ s) := by
  decide +kernel

end CollaborativeCorrelationService

end SentinelEdge.Collaboration
