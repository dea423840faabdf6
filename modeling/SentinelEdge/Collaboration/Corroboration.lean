import SentinelEdge.Collaboration.Ingestion

/-! # What stands behind a decision

Peers are counted among the signals that nothing but their clock speaks against. A
decision that touches an incident has no unsafe clock among its reasons, so those
signals are the accepted ones.
-/

namespace SentinelEdge.Collaboration

open Foundation Foundation.Checks Domain

/-- The accepted signals of the decision are admitted, current and fit, and come from
    enough peers. -/
def Corroborated (policy : CollaborationPolicy) (r : CollaborationRepository) (now : Timestamp)
    (d : CorrelationDecisionRecord) : Prop :=
  ∃ (hp : HazardCorrelationPolicy) (anchor : CollaborativeSignal) (accepted : List CollaborativeSignal),
    policy.hazards.get? d.hazard = some hp ∧
    (∃ first ∈ r.envelopes, first.signal = anchor ∧ first.validationState = .admitted) ∧
    d.windowStart.instant = anchor.eventTimeBucket.instant - hp.windowSeconds * 1000000 ∧
    d.windowEnd.instant = anchor.eventTimeBucket.instant + hp.windowSeconds * 1000000 ∧
    d.acceptedSignalIds = accepted.map CollaborativeSignal.signalId ∧
    hp.minIndependentPeers ≤ independentPeers accepted ∧
    ∀ signal ∈ accepted,
      (∃ item ∈ r.envelopes, item.signal = signal ∧ item.validationState = .admitted) ∧
      now.instant < signal.expiresAt.instant ∧ signal.sourceMode ≠ .replayed ∧
      signal.hazard = d.hazard ∧ signal.correlationDomain.kind = d.domainKind ∧ signal.correlationDomain.id = d.domainId ∧
      signal.correlationDomain.kind ∈ hp.domainKinds ∧ signal.observation ∈ hp.allowedObservations ∧
      d.windowStart.instant ≤ signal.eventTimeBucket.instant ∧ signal.eventTimeBucket.instant ≤ d.windowEnd.instant ∧
      ∀ band, hp.requireClockBandAtMost = some band →
        ∃ rank, clockRank band = .ok rank ∧ signal.clockUncertaintyBand.rank ≤ rank

variable {policy : CollaborationPolicy} {hp : HazardCorrelationPolicy} {now : Timestamp} {window : Window} {P : Platform}
  {trust : TransportTrust} {signals : List CollaborativeSignal} {d : CorrelationDecisionRecord} {r r' : CollaborationRepository}
  {e : CollaborativeSignalEnvelope}

/-- An action on an incident needs enough peers and safe clocks. -/
theorem select_touches {kind : DomainKind} {peers : Nat} {blocking : List String}
    (touches : (hp.select kind trust peers blocking).action.touchesIncident = true) :
    hp.minIndependentPeers ≤ peers ∧ "CLOCK_UNSAFE" ∉ blocking := by
  rw [hp.select_action] at touches
  split at touches
  · cases touches
  · split at touches
    · next meets =>
        unfold HazardCorrelationPolicy.meets at meets
        rw [Bool.and_eq_true, decide_eq_true_eq, decide_eq_true_eq] at meets
        exact meets
    · cases touches

theorem accepted_eq_peers (safeClocks : "CLOCK_UNSAFE" ∉ (hp.findings now window signals).blocking) :
    (hp.findings now window signals).accepted = (hp.findings now window signals).peerCandidates := by
  apply List.filter_congr
  intro signal member
  have safeClock : hp.unsafeClock signal = false := by
    cases unsafely : hp.unsafeClock signal with
    | false => rfl
    | true => exact absurd (List.mem_flatMap.mpr ⟨signal, member, hp.clock_mem_reasonsIn.mpr unsafely⟩) safeClocks
  rw [hp.reasonsIn_isEmpty, safeClock, Bool.not_false, Bool.and_true]

theorem touches_admitted (welcome : e.validationState ≠ .rejected)
    (decided : CollaborativeCorrelationService.correlated P policy e now r = .ok d)
    (touches : d.selectedAction.touchesIncident = true) : e.validationState = .admitted ∧
      evaluateCorrelation P policy now (CollaborativeCorrelationService.episodeTrust r e)
        (CollaborativeCorrelationService.correlatedSignals r e) = .ok d := by
  obtain ⟨d', evaluated, same⟩ := bind_eq_ok.mp decided
  cases state : e.validationState with
  | admitted =>
      rw [state] at same
      cases same
      exact ⟨rfl, evaluated⟩
  | contextOnly =>
      rw [state] at same
      cases same
      cases touches
  | rejected => exact absurd state welcome

theorem corroborated_of_decided (welcome : e.validationState ≠ .rejected) (stored : e ∈ r.envelopes)
    (decided : CollaborativeCorrelationService.correlated P policy e now r = .ok d)
    (touches : d.selectedAction.touchesIncident = true) : Corroborated policy r now d := by
  obtain ⟨admitted, evaluated⟩ := touches_admitted welcome decided touches
  have same := @CollaborativeCorrelationService.correlatedSignals_same r e
  have origin : ∀ signal ∈ CollaborativeCorrelationService.correlatedSignals r e,
      ∃ item ∈ r.envelopes, item.signal = signal ∧ item.validationState = .admitted := by
    intro signal member
    rw [CollaborativeCorrelationService.correlatedSignals_of_stored stored admitted] at member
    obtain ⟨item, among, rfl⟩ := List.mem_map.mp member
    obtain ⟨inside, -, state⟩ := CollaborativeCorrelationService.mem_admittedEpisode.mp among
    exact ⟨item, inside, rfl, state⟩
  obtain ⟨anchor, rest, shape⟩ := CollaborativeCorrelationService.correlatedSignals_cons r e
  rw [shape] at evaluated
  have here := @same anchor (shape ▸ List.mem_cons_self)
  obtain ⟨hp, window, known, ranked, framed, rfl⟩ := evaluate_eq_ok (fun signal member =>
    (@same signal (shape ▸ List.mem_cons_of_mem _ member)).1.trans here.1.symm) evaluated
  obtain ⟨anchored, begins, ends⟩ := window_eq_ok framed
  obtain ⟨enough, safeClocks⟩ := select_touches touches
  have peers := accepted_eq_peers safeClocks
  refine ⟨hp, anchor, (hp.findings now window (anchor :: rest)).accepted, ?_, origin anchor (shape ▸ List.mem_cons_self),
    begins, ends, rfl, ?_, ?_⟩
  · rw [← known, ← anchored]
    rfl
  · rw [peers]
    exact enough
  · intro signal member
    obtain ⟨inside, fit⟩ := List.mem_filter.mp member
    rw [hp.reasonsIn_isEmpty, Bool.and_eq_true, Bool.not_eq_true'] at fit
    obtain ⟨candidate, safeClock⟩ := fit
    unfold HazardCorrelationPolicy.candidate at candidate
    rw [Bool.and_eq_true, Bool.and_eq_true, List.isEmpty_iff, HazardCorrelationPolicy.objections_eq_nil] at candidate
    obtain ⟨⟨⟨current, live, -, kind, allowed⟩, -⟩, timely⟩ := candidate
    unfold Window.inWindow at timely
    rw [Bool.and_eq_true, decide_eq_true_eq, decide_eq_true_eq] at timely
    obtain ⟨hazard, domain⟩ := @same signal (shape ▸ inside)
    have sameDomain : signal.correlationDomain = window.anchor.correlationDomain := by
      rw [anchored, domain, here.2]
    refine ⟨origin signal (shape ▸ inside), current, live, ?_, ?_, ?_, kind, allowed, timely.1, timely.2, fun band required =>
      HazardCorrelationPolicy.unsafeClock_eq_false ranked safeClock required⟩
    · show signal.hazard = window.anchor.hazard
      rw [anchored, hazard, here.1]
    · exact congrArg CorrelationDomain.kind sameDomain
    · exact congrArg CorrelationDomain.id sameDomain

/-- The id of the incident and the decisions beside the envelopes do not matter. -/
theorem Corroborated.congr (corroborated : Corroborated policy r now d) (kept : r'.envelopes = r.envelopes)
    (incidentId : Option String) : Corroborated policy r' now (CollaborativeCorrelationService.withIncident d incidentId) := by
  obtain ⟨hp, anchor, accepted, facts⟩ := corroborated
  refine ⟨hp, anchor, accepted, ?_⟩
  rw [kept]
  unfold CollaborativeCorrelationService.withIncident
  cases incidentId with
  | none => exact facts
  | some id =>
      dsimp only
      split
      · exact facts
      · exact facts

theorem withIncident_action (d : CorrelationDecisionRecord) (incidentId : Option String) :
    (CollaborativeCorrelationService.withIncident d incidentId).selectedAction = d.selectedAction := by
  unfold CollaborativeCorrelationService.withIncident
  cases incidentId with
  | none => rfl
  | some id =>
      dsimp only
      split
      · rfl
      · rfl

namespace CollaborativeCorrelationService

variable {ω : Type}

/-- What touches no incident comes from context only and has no incident. -/
theorem context_only_decision (context : e.validationState = .contextOnly) (decided : correlated P policy e now r = .ok d) :
    d.selectedAction = .contextOnly ∧ d.createdOrUpdatedIncidentId = none := by
  obtain ⟨d', -, same⟩ := bind_eq_ok.mp decided
  rw [if_pos context] at same
  cases same
  exact ⟨rfl, rfl⟩

theorem Applies.incidents {s : CollaborativeCorrelationService ω} {d' : CorrelationDecisionRecord} {incidents : ω}
    (applies : Applies s d d' incidents) (welcome : e.validationState ≠ .rejected) (stores : Stores s e r)
    (decided : correlated P s.policy e now r = .ok d) (kept : r'.envelopes = r.envelopes) :
    incidents = s.incidents ∨ ∃ apply d, s.incidentWriter = some apply ∧ d.selectedAction.touchesIncident = true ∧
      Corroborated s.policy r' now d ∧ incidents = (apply d s.incidents).2 := by
  cases applies with
  | skips untouched => exact Or.inl rfl
  | @writes apply incidentId _ writer touches wrote =>
      have behind := (corroborated_of_decided welcome stores.mem decided touches).congr kept none
      exact Or.inr ⟨apply, d, writer, touches, behind, by rw [wrote]⟩

/-- A decision on what is not admitted is not given to the writer. -/
theorem Applies.unadmitted {s : CollaborativeCorrelationService ω} {d' : CorrelationDecisionRecord} {incidents : ω}
    (applies : Applies s d d' incidents) (welcome : e.validationState ≠ .rejected)
    (decided : correlated P policy e now r = .ok d) (other : e.validationState ≠ .admitted) :
    d' = d ∧ incidents = s.incidents := by
  cases applies with
  | skips untouched => exact ⟨rfl, rfl⟩
  | writes writer touches wrote => exact absurd (touches_admitted welcome decided touches).1 other

/-- The decision that is returned is the one that was made, with an incident or not. -/
theorem Applies.withIncident {s : CollaborativeCorrelationService ω} {d' : CorrelationDecisionRecord} {incidents : ω}
    (applies : Applies s d d' incidents) : ∃ incidentId, d' = CollaborativeCorrelationService.withIncident d incidentId := by
  cases applies with
  | skips untouched => exact ⟨none, rfl⟩
  | @writes _ incidentId _ writer touches wrote => exact ⟨incidentId, rfl⟩

/-- Whatever the service holds: a decision that touches an incident is corroborated by
    the envelopes stored with it, the writer acts on no other decision, and an envelope
    that is not admitted touches no incident. -/
theorem decisions_corroborated (P : Platform) (s : CollaborativeCorrelationService ω) (e : CollaborativeSignalEnvelope)
    (now : Timestamp) :
    (∀ d, (ingest P e now s).1 = .ok d → d.selectedAction.touchesIncident = true →
      Corroborated s.policy (ingest P e now s).2.repository now d) ∧
    ((ingest P e now s).2.incidents = s.incidents ∨ ∃ apply d, s.incidentWriter = some apply ∧
      d.selectedAction.touchesIncident = true ∧ Corroborated s.policy (ingest P e now s).2.repository now d ∧
      (ingest P e now s).2.incidents = (apply d s.incidents).2) ∧
    (e.validationState ≠ .admitted → (ingest P e now s).2.incidents = s.incidents ∧
      ∀ d, (ingest P e now s).1 = .ok d → d.selectedAction = .contextOnly ∧ d.createdOrUpdatedIncidentId = none) := by
  have ingests := ingest_ingests P s e now
  generalize (ingest P e now s).1 = a at ingests ⊢
  generalize (ingest P e now s).2 = s' at ingests ⊢
  cases ingests with
  | refuses why =>
      refine ⟨?_, Or.inl rfl, fun _ => ⟨rfl, ?_⟩⟩
      · rintro d ⟨⟩
      · rintro d ⟨⟩
  | overflows welcome new unbounded emptied =>
      refine ⟨?_, Or.inl rfl, fun _ => ⟨rfl, ?_⟩⟩
      · rintro d ⟨⟩
      · rintro d ⟨⟩
  | uncorrelated welcome stores raised =>
      refine ⟨?_, Or.inl rfl, fun _ => ⟨rfl, ?_⟩⟩
      · rintro d ⟨⟩
      · rintro d ⟨⟩
  | @unwritten _ r d apply incidents welcome stores decided writer touches raised =>
      have behind := corroborated_of_decided welcome stores.mem decided touches
      refine ⟨?_, Or.inr ⟨apply, d, writer, touches, behind, ?_⟩, fun other => absurd (touches_admitted welcome decided touches).1 other⟩
      · rintro d ⟨⟩
      · rw [raised]
  | @unrecorded _ incidents r r' d d' welcome stores decided applies kept unbounded =>
      refine ⟨?_, ?_, fun other => ⟨?_, ?_⟩⟩
      · rintro d ⟨⟩
      · exact applies.incidents welcome stores decided kept
      · exact (applies.unadmitted welcome decided other).2
      · rintro d ⟨⟩
  | @decides incidents r r' d d' welcome stores decided applies kept bounded =>
      refine ⟨?_, ?_, fun other => ⟨?_, ?_⟩⟩
      · rintro _ ⟨⟩ touches
        obtain ⟨incidentId, rfl⟩ := applies.withIncident
        rw [withIncident_action] at touches
        exact (corroborated_of_decided welcome stores.mem decided touches).congr kept incidentId
      · exact applies.incidents welcome stores decided kept
      · exact (applies.unadmitted welcome decided other).2
      · rintro _ ⟨⟩
        rw [(applies.unadmitted welcome decided other).1]
        apply context_only_decision _ decided
        cases state : e.validationState with
        | admitted => exact absurd state other
        | contextOnly => rfl
        | rejected => exact absurd state welcome

/-- What a node reports of an earthquake in the cell, at a second of its own. -/
def shaking (node : String) (second expiry : Int) : CollaborativeSignal where
  signalId := "signal-of-" ++ node
  nodePseudonym := node
  hazard := .earthquake
  observation := "local_trigger"
  correlationDomain := ⟨.spatialCell, "cell:demo"⟩
  eventTimeBucket := ⟨second * 1000000, 0⟩
  clockUncertaintyBand := .low
  sourceMode := .simulated
  expiresAt := ⟨expiry * 1000000, 0⟩

def delivered (trust : TransportTrust) (signal : CollaborativeSignal) : CollaborativeSignalEnvelope where
  receivedAt := signal.eventTimeBucket
  transportMessageId := "message-" ++ signal.signalId
  transportTrust := trust
  signal := signal
  validationState := .admitted

/-- A service that keeps no incidents. -/
def demoService : CollaborativeCorrelationService Unit where
  policy := defaultPolicy
  incidents := ()

/-- The service after the report of one node. -/
def oneReport : CollaborativeCorrelationService Unit :=
  (ingest Platform.hexadecimal (delivered .fixtureQualified (shaking "node-a" 2 90)) ⟨4000000, 0⟩ demoService).2

theorem two_peers_corroborate : ∃ d,
    (ingest Platform.hexadecimal (delivered .fixtureQualified (shaking "node-b" 3 90)) ⟨5000000, 0⟩ oneReport).1 = .ok d ∧
    d.selectedAction = .multiNodeTriggerSimulated ∧ Corroborated oneReport.policy
      (ingest Platform.hexadecimal (delivered .fixtureQualified (shaking "node-b" 3 90)) ⟨5000000, 0⟩ oneReport).2.repository
      ⟨5000000, 0⟩ d := by
  have selected : ((ingest Platform.hexadecimal (delivered .fixtureQualified (shaking "node-b" 3 90)) ⟨5000000, 0⟩
      oneReport).1.toOption).map CorrelationDecisionRecord.selectedAction = some .multiNodeTriggerSimulated := by
    decide +kernel
  obtain ⟨d, returned, action⟩ := Option.map_eq_some_iff.mp selected
  have returned := toOption_eq_some.mp returned
  have touches : d.selectedAction.touchesIncident = true := by rw [action]; rfl
  exact ⟨d, returned, action, (decisions_corroborated Platform.hexadecimal oneReport
    (delivered .fixtureQualified (shaking "node-b" 3 90)) ⟨5000000, 0⟩).1 d returned touches⟩

end CollaborativeCorrelationService

end SentinelEdge.Collaboration
