import SentinelEdge.Collaboration.Correlation

/-! # What one envelope does

An envelope that is neither rejected nor a duplicate is stored first; the decision
on its episode, the writer and the storing of the decision come after that, and each
of them may raise.
-/

namespace SentinelEdge.Collaboration

open Foundation Domain

namespace CollaborativeCorrelationService

variable {ω : Type} {P : Platform} {s : CollaborativeCorrelationService ω} {e : CollaborativeSignalEnvelope} {now : Timestamp}

theorem onRepository_of_eq {α : Type} {r : CollaborationRepository} {x : CollaborationRepository.RepositoryCall α} {a : Except Error α}
    (ran : x s.repository = (a, r)) : onRepository x s = (a, { s with repository := r }) := Call.zoom_of_eq ran

theorem onIncidents_of_eq {α : Type} {x : Call ω Error α} {a : Except Error α} {incidents : ω}
    (ran : x s.incidents = (a, incidents)) : onIncidents x s = (a, { s with incidents := incidents }) := Call.zoom_of_eq ran

/-- The repository after the envelope has been stored. -/
structure Stores (s : CollaborativeCorrelationService ω) (e : CollaborativeSignalEnvelope) (r : CollaborationRepository) :
    Prop where
  new : e.signalId ∉ s.repository.signalIds
  positive : 0 < s.repository.maxEnvelopes
  holds : r.Holds s.repository (s.repository.envelopes.drop s.repository.surplus ++ [e])

theorem Stores.mem {r : CollaborationRepository} (stores : Stores s e r) : e ∈ r.envelopes := by
  rw [stores.holds.1]
  exact List.mem_append_right _ (List.mem_singleton.mpr rfl)

/-- What the writer makes of a decision, and of the incidents. -/
inductive Applies (s : CollaborativeCorrelationService ω) (d : CorrelationDecisionRecord) :
    CorrelationDecisionRecord → ω → Prop where
  | skips (untouched : s.incidentWriter = none ∨ d.selectedAction.touchesIncident = false) : Applies s d d s.incidents
  | writes {apply : CorrelationDecisionRecord → Call ω Error (Option String)} {incidentId : Option String} {incidents : ω}
      (writer : s.incidentWriter = some apply) (touches : d.selectedAction.touchesIncident = true)
      (wrote : apply d s.incidents = (.ok incidentId, incidents)) : Applies s d (withIncident d incidentId) incidents

/-- The ways a call of `ingest` can end. -/
inductive Ingests (P : Platform) (s : CollaborativeCorrelationService ω) (e : CollaborativeSignalEnvelope) (now : Timestamp) :
    Except Error CorrelationDecisionRecord → CollaborativeCorrelationService ω → Prop where
  | refuses {err : Error} (why : e.validationState = .rejected ∨ e.signalId ∈ s.repository.signalIds) :
      Ingests P s e now (.error err) s
  | overflows {err : Error} {r : CollaborationRepository} (welcome : e.validationState ≠ .rejected) (new : e.signalId ∉ s.repository.signalIds)
      (unbounded : s.repository.maxEnvelopes ≤ 0) (emptied : r.Holds s.repository []) :
      Ingests P s e now (.error err) { s with repository := r }
  | uncorrelated {err : Error} {r : CollaborationRepository} (welcome : e.validationState ≠ .rejected) (stores : Stores s e r)
      (raised : correlated P s.policy e now r = .error err) : Ingests P s e now (.error err) { s with repository := r }
  | unwritten {err : Error} {r : CollaborationRepository} {d : CorrelationDecisionRecord}
      {apply : CorrelationDecisionRecord → Call ω Error (Option String)} {incidents : ω}
      (welcome : e.validationState ≠ .rejected) (stores : Stores s e r) (decided : correlated P s.policy e now r = .ok d)
      (writer : s.incidentWriter = some apply) (touches : d.selectedAction.touchesIncident = true)
      (raised : apply d s.incidents = (.error err, incidents)) :
      Ingests P s e now (.error err) { s with repository := r, incidents := incidents }
  | unrecorded {err : Error} {incidents : ω} {r r' : CollaborationRepository} {d d' : CorrelationDecisionRecord}
      (welcome : e.validationState ≠ .rejected)
      (stores : Stores s e r) (decided : correlated P s.policy e now r = .ok d) (applies : Applies s d d' incidents)
      (kept : r'.envelopes = r.envelopes) (unbounded : r.maxDecisions ≤ 0) :
      Ingests P s e now (.error err) { s with repository := r', incidents := incidents }
  | decides {incidents : ω} {r r' : CollaborationRepository} {d d' : CorrelationDecisionRecord} (welcome : e.validationState ≠ .rejected)
      (stores : Stores s e r) (decided : correlated P s.policy e now r = .ok d) (applies : Applies s d d' incidents)
      (kept : r'.envelopes = r.envelopes) (bounded : 0 < r.maxDecisions) :
      Ingests P s e now (.ok d') { s with repository := r', incidents := incidents }

variable {d : CorrelationDecisionRecord} {r : CollaborationRepository}

theorem addDecision_keeps (d : CorrelationDecisionRecord) (r : CollaborationRepository) :
    (CollaborationRepository.addDecision d r).2.envelopes = r.envelopes ∧
      (0 < r.maxDecisions → (CollaborationRepository.addDecision d r).1 = .ok ()) ∧
      (r.maxDecisions ≤ 0 → ∃ err, (CollaborationRepository.addDecision d r).1 = .error err) := by
  obtain ⟨kept, returns⟩ := CollaborationRepository.makeDecisionRoom_keeps r.decisions r
  have returns := returns rfl
  unfold CollaborationRepository.addDecision
  rw [Call.read_bind]
  simp only [id]
  cases ran : CollaborationRepository.makeDecisionRoom r.decisions r with
  | mk a r' =>
      rw [ran] at kept returns
      cases a with
      | error err =>
          rw [Call.bind_of_error ran]
          refine ⟨kept, fun positive => ?_, fun _ => ⟨err, rfl⟩⟩
          cases returns.mpr positive
      | ok done =>
          rw [Call.bind_of_ok ran]
          refine ⟨kept, fun _ => rfl, fun unbounded => ?_⟩
          have positive := returns.mp rfl
          omega

theorem applied_of_none (writer : s.incidentWriter = none) : applied d s = (.ok d, s) := by
  unfold applied
  rw [Call.read_bind, writer]
  rfl

theorem applied_of_some {apply : CorrelationDecisionRecord → Call ω Error (Option String)}
    (writer : s.incidentWriter = some apply) : applied d s =
      (if d.selectedAction.touchesIncident then onIncidents (apply d) >>= fun incidentId => pure (withIncident d incidentId)
        else pure d : ServiceCall ω CorrelationDecisionRecord) s := by
  unfold applied
  rw [Call.read_bind, writer]

theorem applied_applies (s : CollaborativeCorrelationService ω) (d : CorrelationDecisionRecord) :
    (∃ d' incidents, applied d s = (.ok d', { s with incidents := incidents }) ∧ Applies s d d' incidents) ∨
      ∃ err apply incidents, applied d s = (.error err, { s with incidents := incidents }) ∧ s.incidentWriter = some apply ∧
        d.selectedAction.touchesIncident = true ∧ apply d s.incidents = (.error err, incidents) := by
  obtain writer | ⟨apply, writer⟩ := Option.eq_none_or_eq_some s.incidentWriter
  · exact Or.inl ⟨d, s.incidents, applied_of_none writer, .skips (Or.inl writer)⟩
  · rw [applied_of_some writer]
    cases touches : d.selectedAction.touchesIncident with
    | false => exact Or.inl ⟨d, s.incidents, rfl, .skips (Or.inr touches)⟩
    | true =>
        rw [if_pos rfl]
        cases wrote : apply d s.incidents with
        | mk a incidents =>
            cases a with
            | error err =>
                exact Or.inr ⟨err, apply, incidents, Call.bind_of_error (onIncidents_of_eq wrote), writer, rfl, wrote⟩
            | ok incidentId =>
                exact Or.inl ⟨_, incidents, Call.bind_of_ok (onIncidents_of_eq wrote), .writes writer touches wrote⟩

/-- The first part of `ingest`. -/
theorem received_of_stored
    (added : CollaborationRepository.addEnvelope e s.repository = (.ok true, r)) :
    received P e now s = (correlated P s.policy e now r, { s with repository := r }) := by
  unfold received
  rw [Call.bind_of_ok (onRepository_of_eq added)]
  rfl

theorem ingest_ingests (P : Platform) (s : CollaborativeCorrelationService ω) (e : CollaborativeSignalEnvelope)
    (now : Timestamp) : Ingests P s e now (ingest P e now s).1 (ingest P e now s).2 := by
  unfold ingest
  by_cases welcome : e.validationState = .rejected
  · rw [if_pos welcome]
    exact .refuses (Or.inl welcome)
  · rw [if_neg welcome]
    have adds := CollaborationRepository.addEnvelope_adds s.repository e
    cases added : CollaborationRepository.addEnvelope e s.repository with
    | mk a r =>
        rw [added] at adds
        cases adds with
        | duplicate taken =>
            have refused : received P e now s = (.error (.valueError "SIGNAL_DUPLICATE"), s) := by
              unfold received
              rw [Call.bind_of_ok (onRepository_of_eq added)]
              rfl
            rw [Call.bind_of_error refused]
            exact .refuses (Or.inr taken)
        | raises new unbounded emptied =>
            have raised : received P e now s = (.error (.indexError "pop from an empty deque"), { s with repository := r }) := by
              unfold received
              rw [Call.bind_of_error (onRepository_of_eq added)]
            rw [Call.bind_of_error raised]
            exact .overflows welcome new unbounded emptied
        | adds new positive holds =>
            have stores : Stores s e r := ⟨new, positive, holds⟩
            have stored := @received_of_stored _ P s e now r added
            cases decided : correlated P s.policy e now r with
            | error err =>
                rw [decided] at stored
                rw [Call.bind_of_error stored]
                exact .uncorrelated welcome stores decided
            | ok d =>
                rw [decided] at stored
                rw [Call.bind_of_ok stored]
                cases applied_applies { s with repository := r } d with
                | inr raises =>
                    obtain ⟨err, apply, incidents, ran, writer, touches, raised⟩ := raises
                    rw [Call.bind_of_error ran]
                    exact .unwritten welcome stores decided writer touches raised
                | inl done =>
                    obtain ⟨d', incidents, ran, applies⟩ := done
                    have applies : Applies s d d' incidents := by
                      cases applies with
                      | skips untouched => exact .skips untouched
                      | writes writer touches wrote => exact .writes writer touches wrote
                    rw [Call.bind_of_ok ran]
                    obtain ⟨kept, returns, raises⟩ := addDecision_keeps d' r
                    cases recorded : CollaborationRepository.addDecision d' r with
                    | mk a r' =>
                        rw [recorded] at kept returns raises
                        have ran : onRepository (CollaborationRepository.addDecision d')
                            { s with repository := r, incidents := incidents } =
                            (a, { s with repository := r', incidents := incidents }) := Call.zoom_of_eq recorded
                        cases a with
                        | error err =>
                            rw [Call.bind_of_error ran]
                            refine .unrecorded welcome stores decided applies kept ?_
                            by_contra positive
                            cases returns (by omega)
                        | ok done =>
                            rw [Call.bind_of_ok ran]
                            refine .decides welcome stores decided applies kept ?_
                            by_contra unbounded
                            obtain ⟨err, raised⟩ := raises (by omega)
                            cases raised

end CollaborativeCorrelationService

end SentinelEdge.Collaboration
