import SentinelEdge.Collaboration.Expiry

/-! # A failed ingest

The envelope is stored before anything that may fail. What raises after that leaves
it behind without a decision, and its retry is a duplicate.
-/

namespace SentinelEdge.Collaboration

open Foundation Foundation.Checks Domain

namespace CollaborativeCorrelationService

variable {P : Platform} {ω : Type} {s : CollaborativeCorrelationService ω} {e : CollaborativeSignalEnvelope} {now : Timestamp}
  {r : CollaborationRepository}

/-- If the call raises, the envelopes and the decisions are as they were before. -/
def FailsClean (P : Platform) (s : CollaborativeCorrelationService ω) (e : CollaborativeSignalEnvelope) (now : Timestamp) : Prop :=
  ∀ err, (ingest P e now s).1 = .error err →
    (ingest P e now s).2.repository.envelopes = s.repository.envelopes ∧
      (ingest P e now s).2.repository.decisions = s.repository.decisions

/-- Nothing raises once the envelope is stored: the policy decides on it, the window of
    its episode fits, the writer returns and there is room for the decision. -/
def Settles (P : Platform) (s : CollaborativeCorrelationService ω) (e : CollaborativeSignalEnvelope) (now : Timestamp) : Prop :=
  Decides s.policy e ∧ Fits s.policy (stored s.repository e) e ∧ 0 < s.repository.maxDecisions ∧
    ∀ apply d, s.incidentWriter = some apply → correlated P s.policy e now (stored s.repository e) = .ok d →
      d.selectedAction.touchesIncident = true → ∃ incidentId incidents, apply d s.incidents = (.ok incidentId, incidents)

/-- The envelope is turned away before it is stored, or nothing raises after that. -/
def Retryable (P : Platform) (s : CollaborativeCorrelationService ω) (e : CollaborativeSignalEnvelope) (now : Timestamp) : Prop :=
  e.validationState = .rejected ∨ e.signalId ∈ s.repository.signalIds ∨
    (s.repository.maxEnvelopes ≤ 0 ∧ s.repository.envelopes = []) ∨ (0 < s.repository.maxEnvelopes ∧ Settles P s e now)

theorem Stores.differs (stores : Stores s e r) : r.envelopes ≠ s.repository.envelopes := by
  intro same
  apply stores.new
  rw [s.repository.indexed, ← same]
  exact List.mem_map_of_mem stores.mem

theorem Stores.retryable_iff (stores : Stores s e r) (welcome : e.validationState ≠ .rejected) :
    Retryable P s e now ↔ Settles P s e now := by
  constructor
  · rintro (rejected | taken | ⟨unbounded, -⟩ | ⟨-, settles⟩)
    · exact absurd rejected welcome
    · exact absurd taken stores.new
    · have positive := stores.positive
      omega
    · exact settles
  · intro settles
    exact Or.inr (Or.inr (Or.inr ⟨stores.positive, settles⟩))

/-- A failed call leaves the repository as it was exactly when the envelope is turned
    away before it is stored or nothing raises after that. -/
theorem fails_clean_iff (P : Platform) (s : CollaborativeCorrelationService ω) (e : CollaborativeSignalEnvelope)
    (now : Timestamp) : FailsClean P s e now ↔ Retryable P s e now := by
  have ingests := ingest_ingests P s e now
  unfold FailsClean
  generalize (ingest P e now s).1 = a at ingests ⊢
  generalize (ingest P e now s).2 = s' at ingests ⊢
  cases ingests with
  | refuses why =>
      refine iff_of_true (fun _ _ => ⟨rfl, rfl⟩) ?_
      cases why with
      | inl rejected => exact Or.inl rejected
      | inr taken => exact Or.inr (Or.inl taken)
  | @overflows err r welcome new unbounded emptied =>
      constructor
      · intro clean
        exact Or.inr (Or.inr (Or.inl ⟨unbounded, (clean err rfl).1.symm.trans emptied.1⟩))
      · rintro (rejected | taken | ⟨-, empty⟩ | ⟨positive, -⟩)
        · exact absurd rejected welcome
        · exact absurd taken new
        · exact fun _ _ => ⟨emptied.1.trans empty.symm, emptied.2.2.2⟩
        · omega
  | @uncorrelated err r welcome stores raised =>
      rw [stores.retryable_iff welcome]
      refine iff_of_false (fun clean => stores.differs (clean err rfl).1) ?_
      rintro ⟨decides, fits, -, -⟩
      rw [← stores.eq_stored] at fits
      obtain ⟨d, decided⟩ := (correlated_isOk P s.policy e now r).mpr ⟨decides, fits⟩
      rw [raised] at decided
      cases decided
  | @unwritten err r d apply incidents welcome stores decided writer touches raised =>
      rw [stores.retryable_iff welcome]
      refine iff_of_false (fun clean => stores.differs (clean err rfl).1) ?_
      rintro ⟨-, -, -, returns⟩
      rw [← stores.eq_stored] at returns
      obtain ⟨incidentId, incidents', wrote⟩ := returns apply d writer decided touches
      rw [raised] at wrote
      cases wrote
  | @unrecorded err incidents r r' d d' welcome stores decided applies kept unbounded =>
      rw [stores.retryable_iff welcome]
      refine iff_of_false (fun clean => stores.differs (kept.symm.trans (clean err rfl).1)) ?_
      rintro ⟨-, -, bounded, -⟩
      rw [stores.holds.2.2.1] at unbounded
      omega
  | @decides incidents r r' d d' welcome stores decided applies kept bounded =>
      rw [stores.retryable_iff welcome]
      refine iff_of_true (fun _ returned => by cases returned) ?_
      obtain ⟨decides, fits⟩ := (correlated_isOk P s.policy e now r).mp ⟨d, decided⟩
      rw [stores.holds.2.2.1] at bounded
      unfold Settles
      rw [← stores.eq_stored]
      refine ⟨decides, fits, bounded, fun apply other writer same touches => ?_⟩
      rw [decided] at same
      cases same
      cases applies with
      | skips untouched =>
          cases untouched with
          | inl none =>
              rw [none] at writer
              cases writer
          | inr untouched =>
              rw [untouched] at touches
              cases touches
      | writes writer' touches' wrote =>
          rw [writer'] at writer
          cases writer
          exact ⟨_, _, wrote⟩

/-- A service whose incident writer is out of order. -/
def brokenWriter : CollaborativeCorrelationService Unit :=
  { holding 512 [reportB] with incidentWriter := some fun _ => Call.raise (.runtimeError "incident store unavailable") }

/-- The envelope of a failed call stays, and its retry is a duplicate. -/
theorem failed_ingest_is_kept : ¬ FailsClean Platform.hexadecimal brokenWriter reportC ⟨20000000, 0⟩ ∧
    (ingest Platform.hexadecimal reportC ⟨21000000, 0⟩ (ingest Platform.hexadecimal reportC ⟨20000000, 0⟩ brokenWriter).2).1 =
      .error (.valueError "SIGNAL_DUPLICATE") := by
  constructor
  · intro clean
    have raised : (ingest Platform.hexadecimal reportC ⟨20000000, 0⟩ brokenWriter).1 =
        .error (.runtimeError "incident store unavailable") := by decide +kernel
    exact absurd (congrArg List.length (clean _ raised).1) (by decide +kernel)
  · decide +kernel

end CollaborativeCorrelationService

end SentinelEdge.Collaboration
