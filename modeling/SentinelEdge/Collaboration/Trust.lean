import SentinelEdge.Collaboration.Corroboration
import SentinelEdge.Foundation.Run

/-! # The trust of an episode

The trust that a decision is made with is that of the last envelope, or of email if
the episode has any. Trust other than email that came in before is not looked at, so
a fixture-qualified envelope can trigger with the signals of less trusted ones.
-/

namespace SentinelEdge.Collaboration

open Foundation Foundation.Checks Domain

variable {P : Platform} {ω : Type} {policy : CollaborationPolicy} {hp : HazardCorrelationPolicy} {now : Timestamp}
  {window : Window} {e : CollaborativeSignalEnvelope} {r r' : CollaborationRepository} {d : CorrelationDecisionRecord}

/-- The accepted signals were delivered by fixture-qualified envelopes. -/
def FixtureQualified (r : CollaborationRepository) (d : CorrelationDecisionRecord) : Prop :=
  ∀ id ∈ d.acceptedSignalIds, ∃ item ∈ r.envelopes, item.signalId = id ∧ item.validationState = .admitted ∧
    item.transportTrust = .fixtureQualified

namespace CollaborativeCorrelationService

variable {s : CollaborativeCorrelationService ω}

/-- The repository with the envelope stored. -/
def stored (r : CollaborationRepository) (e : CollaborativeSignalEnvelope) : CollaborationRepository :=
  (CollaborationRepository.addEnvelope e r).2

theorem Stores.eq_stored (stores : Stores s e r) : r = stored s.repository e := by
  have adds := CollaborationRepository.addEnvelope_adds s.repository e
  unfold stored
  generalize (CollaborationRepository.addEnvelope e s.repository).1 = a at adds
  generalize (CollaborationRepository.addEnvelope e s.repository).2 = r' at adds ⊢
  obtain ⟨held, bound, decisionBound, decisions⟩ := stores.holds
  cases adds with
  | duplicate taken => exact absurd taken stores.new
  | raises new unbounded emptied =>
      have positive := stores.positive
      omega
  | adds new positive added =>
      exact CollaborationRepository.eq_of_envelopes (bound.trans added.2.1.symm) (decisionBound.trans added.2.2.1.symm)
        (held.trans added.1.symm) (decisions.trans added.2.2.2.symm)

/-- If the trust of the episode has the trigger for its action, the admitted envelopes
    whose signals the policy accepts are fixture-qualified. -/
def Unmixed (s : CollaborativeCorrelationService ω) (op : CollaborativeSignalEnvelope × Timestamp) : Prop :=
  ∀ hp anchor window, s.policy.hazards.get? op.1.signal.hazard = some hp →
    ((admittedEpisode (stored s.repository op.1) op.1).map CollaborativeSignalEnvelope.signal).head? = some anchor →
    hp.window anchor = .ok window →
    hp.actionFor (episodeTrust (stored s.repository op.1) op.1) = .multiNodeTriggerSimulated →
    ∀ item ∈ admittedEpisode (stored s.repository op.1) op.1, (hp.reasonsIn op.2 window item.signal).isEmpty →
      item.transportTrust = .fixtureQualified

theorem unmixed_of_fixture (fixture : ∀ item ∈ admittedEpisode (stored s.repository e) e, item.transportTrust = .fixtureQualified)
    (now : Timestamp) : Unmixed s (e, now) :=
  fun _ _ _ _ _ _ _ item member _ => fixture item member

def step (P : Platform) (s : CollaborativeCorrelationService ω) (op : CollaborativeSignalEnvelope × Timestamp) :
    CollaborativeCorrelationService ω := (ingest P op.1 op.2 s).2

/-- The decision on the envelope, with the repository it is made on. -/
def decided (P : Platform) (s : CollaborativeCorrelationService ω) (op : CollaborativeSignalEnvelope × Timestamp) :
    List (CorrelationDecisionRecord × CollaborationRepository) :=
  ((ingest P op.1 op.2 s).1.toOption.map fun d => (d, (ingest P op.1 op.2 s).2.repository)).toList

theorem fixtureQualified_of_decided (unmixed : Unmixed s (e, now)) (welcome : e.validationState ≠ .rejected)
    (stores : Stores s e r) (made : correlated P s.policy e now r = .ok d)
    (trigger : d.selectedAction = .multiNodeTriggerSimulated) : FixtureQualified r d := by
  have same := @correlatedSignals_same r e
  obtain ⟨admitted, evaluated⟩ := touches_admitted welcome made (by rw [trigger]; rfl)
  have signals := correlatedSignals_of_stored stores.mem admitted
  obtain ⟨anchor, rest, shape⟩ := correlatedSignals_cons r e
  rw [shape] at evaluated
  have here := @same anchor (shape ▸ List.mem_cons_self)
  obtain ⟨hp, window, known, ranked, framed, rfl⟩ := evaluate_eq_ok (fun signal member =>
    (@same signal (shape ▸ List.mem_cons_of_mem _ member)).1.trans here.1.symm) evaluated
  have action : hp.actionFor (episodeTrust r e) = .multiNodeTriggerSimulated := by
    change (hp.select _ _ _ _).action = _ at trigger
    rw [hp.select_action] at trigger
    split at trigger
    · cases trigger
    · split at trigger
      · exact trigger
      · cases trigger
  have rule := unmixed hp anchor window
  simp only [← stores.eq_stored] at rule
  have qualified := rule (here.1 ▸ known) (by rw [← signals, shape]; rfl) framed action
  intro id accepted
  obtain ⟨signal, member, rfl⟩ := List.mem_map.mp accepted
  obtain ⟨inside, fit⟩ := List.mem_filter.mp member
  rw [← shape, signals] at inside
  obtain ⟨item, among, rfl⟩ := List.mem_map.mp inside
  obtain ⟨held, -, state⟩ := mem_admittedEpisode.mp among
  exact ⟨item, held, rfl, state, qualified item among fit⟩

theorem fixtureQualified_congr (qualified : FixtureQualified r d) (kept : r'.envelopes = r.envelopes) (incidentId : Option String) :
    FixtureQualified r' (withIncident d incidentId) := by
  have accepted : (withIncident d incidentId).acceptedSignalIds = d.acceptedSignalIds := by
    unfold withIncident
    cases incidentId with
    | none => rfl
    | some id =>
        dsimp only
        split
        · rfl
        · rfl
  unfold FixtureQualified
  rw [accepted, kept]
  exact qualified

theorem ingest_fixtureQualified (P : Platform) (unmixed : Unmixed s (e, now)) (returned : (ingest P e now s).1 = .ok d)
    (trigger : d.selectedAction = .multiNodeTriggerSimulated) : FixtureQualified (ingest P e now s).2.repository d := by
  have ingests := ingest_ingests P s e now
  rw [returned] at ingests
  generalize (ingest P e now s).2 = s' at ingests ⊢
  cases ingests with
  | @decides incidents r r' d d' welcome stores made applies kept bounded =>
      obtain ⟨incidentId, rfl⟩ := applies.withIncident
      rw [withIncident_action] at trigger
      exact fixtureQualified_congr (fixtureQualified_of_decided unmixed welcome stores made trigger) kept incidentId

/-- In a run without mixed episodes every trigger comes from fixture-qualified signals. -/
theorem triggers_fixture_qualified (P : Platform) (s : CollaborativeCorrelationService ω)
    (ops : List (CollaborativeSignalEnvelope × Timestamp)) (unmixed : Meets (step P) Unmixed s ops) :
    ∀ made ∈ (Foundation.run (traced (step P) (decided P)) (s, []) ops).2,
      made.1.selectedAction = .multiNodeTriggerSimulated → FixtureQualified made.2 made.1 := by
  refine forall_trace (x := (s, [])) ?_ (fun _ none => absurd none List.not_mem_nil) unmixed
  rintro s ⟨e, now⟩ unmixed made member trigger
  obtain ⟨d, returned, rfl⟩ := Option.map_eq_some_iff.mp (Option.mem_toList.mp member)
  exact ingest_fixtureQualified P unmixed (toOption_eq_some.mp returned) trigger

/-- What the service decides on after each of two fixture-qualified reports. -/
def fixturesDecided : List (CorrelationDecisionRecord × CollaborationRepository) :=
  (Foundation.run (traced (step Platform.hexadecimal) (decided Platform.hexadecimal)) (demoService, []) [
    (delivered .fixtureQualified (shaking "node-a" 2 90), ⟨4000000, 0⟩),
    (delivered .fixtureQualified (shaking "node-b" 3 90), ⟨5000000, 0⟩)]).2

theorem two_fixtures_trigger : (∃ made ∈ fixturesDecided, made.1.selectedAction = .multiNodeTriggerSimulated) ∧
    ∀ made ∈ fixturesDecided, made.1.selectedAction = .multiNodeTriggerSimulated → FixtureQualified made.2 made.1 := by
  refine ⟨by decide +kernel, ?_⟩
  apply triggers_fixture_qualified Platform.hexadecimal demoService
  refine ⟨unmixed_of_fixture ?_ _, unmixed_of_fixture ?_ _, trivial⟩
  · decide +kernel
  · decide +kernel

instance (r : CollaborationRepository) (d : CorrelationDecisionRecord) : Decidable (FixtureQualified r d) :=
  inferInstanceAs (Decidable (∀ id ∈ d.acceptedSignalIds, ∃ item ∈ r.envelopes, _))

/-- The report of an authenticated peer counts for a fixture-qualified trigger. -/
theorem authenticated_peer_is_upgraded :
    ¬ ∀ made ∈ (Foundation.run (traced (step Platform.hexadecimal) (decided Platform.hexadecimal)) (demoService, []) [
        (delivered .authenticatedPeer (shaking "node-a" 2 90), ⟨4000000, 0⟩),
        (delivered .fixtureQualified (shaking "node-b" 3 90), ⟨5000000, 0⟩)]).2,
      made.1.selectedAction = .multiNodeTriggerSimulated → FixtureQualified made.2 made.1 := by
  decide +kernel

end CollaborativeCorrelationService

end SentinelEdge.Collaboration
