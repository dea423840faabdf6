import SentinelEdge.Collaboration.Signals
import SentinelEdge.Foundation.Call

/-! # The repository in memory

A bounded queue of envelopes and one of decisions. The ids of the signals are kept
beside the envelopes; that they agree is part of the structure.
-/

namespace SentinelEdge.Collaboration

open Foundation Domain

theorem signalIds_nil : ([] : List String) = ([] : List CollaborativeSignalEnvelope).map CollaborativeSignalEnvelope.signalId :=
  rfl

structure CollaborationRepository where
  maxEnvelopes : Int := 512
  maxDecisions : Int := 512
  envelopes : List CollaborativeSignalEnvelope := []
  decisions : List CorrelationDecisionRecord := []
  signalIds : List String := []
  indexed : signalIds = envelopes.map CollaborativeSignalEnvelope.signalId := by exact signalIds_nil
  distinct : signalIds.Nodup := by exact List.nodup_nil

namespace CollaborationRepository

abbrev RepositoryCall (α : Type) := Call CollaborationRepository Error α

/-- `popleft` of the envelopes, with the id of the evicted one discarded. -/
def evict (r : CollaborationRepository) : CollaborationRepository :=
  { r with
    envelopes := r.envelopes.drop 1
    signalIds := (r.envelopes.take 1).foldl (fun ids evicted => ids.erase evicted.signalId) r.signalIds
    indexed := by
      rw [r.indexed]
      cases r.envelopes with
      | nil => rfl
      | cons e rest => exact List.erase_cons_head e.signalId (rest.map CollaborativeSignalEnvelope.signalId)
    distinct := by
      cases r.envelopes with
      | nil => exact r.distinct
      | cons e rest => exact r.distinct.erase _ }

def append (r : CollaborationRepository) (e : CollaborativeSignalEnvelope) (new : e.signalId ∉ r.signalIds) :
    CollaborationRepository :=
  { r with
    envelopes := r.envelopes ++ [e]
    signalIds := r.signalIds ++ [e.signalId]
    indexed := by rw [r.indexed, List.map_append, List.map_singleton]
    distinct := List.nodup_append.mpr ⟨r.distinct, List.nodup_singleton _, fun a old b same clash =>
      new (List.mem_singleton.mp same ▸ clash ▸ old)⟩ }

/-- The loop that makes room for one envelope, a turn for each that is there. -/
def makeRoom : List CollaborativeSignalEnvelope → RepositoryCall Unit
  | [] => do
      let r ← Call.read id
      if r.envelopes.length < r.maxEnvelopes then pure () else Call.raise (.indexError "pop from an empty deque")
  | _ :: rest => do
      let r ← Call.read id
      if r.envelopes.length < r.maxEnvelopes then pure ()
      else do
        Call.modify evict
        makeRoom rest

def addEnvelope (e : CollaborativeSignalEnvelope) : RepositoryCall Bool := do
  let r ← Call.read id
  if e.signalId ∈ r.signalIds then pure false
  else do
    makeRoom r.envelopes
    -- the loop takes ids away and adds none
    Call.modify (fun r => if new : e.signalId ∉ r.signalIds then r.append e new else r)
    pure true

/-- The loop that makes room for one decision. -/
def makeDecisionRoom : List CorrelationDecisionRecord → RepositoryCall Unit
  | [] => do
      let r ← Call.read id
      if r.decisions.length < r.maxDecisions then pure () else Call.raise (.indexError "pop from an empty deque")
  | _ :: rest => do
      let r ← Call.read id
      if r.decisions.length < r.maxDecisions then pure ()
      else do
        Call.modify (fun r => { r with decisions := r.decisions.drop 1 })
        makeDecisionRoom rest

def addDecision (d : CorrelationDecisionRecord) : RepositoryCall Unit := do
  let r ← Call.read id
  makeDecisionRoom r.decisions
  Call.modify (fun r => { r with decisions := r.decisions ++ [d] })

def episodeEnvelopes (r : CollaborationRepository) (e : CollaborativeSignalEnvelope) : List CollaborativeSignalEnvelope :=
  r.envelopes.filter e.sameEpisode

/-- The repository without the envelopes whose signal has expired. -/
def unexpired (r : CollaborationRepository) (now : Timestamp) : CollaborationRepository :=
  { r with
    envelopes := r.envelopes.filter (fun item => now.instant < item.signal.expiresAt.instant)
    signalIds := (r.envelopes.filter (fun item => now.instant < item.signal.expiresAt.instant)).map
      CollaborativeSignalEnvelope.signalId
    indexed := rfl
    distinct := by
      have distinct := r.distinct
      rw [r.indexed] at distinct
      exact distinct.sublist (List.filter_sublist.map _) }

def purgeExpired (now : Timestamp) : RepositoryCall Nat := do
  let before ← Call.read (fun r => r.envelopes.length)
  Call.modify (fun r => r.unexpired now)
  let after ← Call.read (fun r => r.envelopes.length)
  pure (before - after)

/-! ## What the calls do -/

variable {r r' : CollaborationRepository} {e : CollaborativeSignalEnvelope}

/-- A repository is its bounds, its envelopes and its decisions. -/
theorem eq_of_envelopes (bound : r.maxEnvelopes = r'.maxEnvelopes) (decisionBound : r.maxDecisions = r'.maxDecisions)
    (envelopes : r.envelopes = r'.envelopes) (decisions : r.decisions = r'.decisions) : r = r' := by
  have ids : r.signalIds = r'.signalIds := by rw [r.indexed, r'.indexed, envelopes]
  cases r
  cases r'
  cases bound
  cases decisionBound
  cases envelopes
  cases decisions
  cases ids
  rfl

/-- The same repository but for its envelopes. -/
def Holds (r' r : CollaborationRepository) (envelopes : List CollaborativeSignalEnvelope) : Prop :=
  r'.envelopes = envelopes ∧ r'.maxEnvelopes = r.maxEnvelopes ∧ r'.maxDecisions = r.maxDecisions ∧ r'.decisions = r.decisions

/-- How many envelopes have to go for one more. -/
def surplus (r : CollaborationRepository) : Nat := (r.envelopes.length + 1 - r.maxEnvelopes).toNat

theorem makeRoom_of_room (room : r.envelopes.length < r.maxEnvelopes) (turns : List CollaborativeSignalEnvelope) :
    makeRoom turns r = (.ok (), r) := by
  cases turns with
  | nil =>
      unfold makeRoom
      rw [Call.read_bind]
      exact congrFun (if_pos room) r
  | cons _ rest =>
      unfold makeRoom
      rw [Call.read_bind]
      exact congrFun (if_pos room) r

theorem makeRoom_spec (turns : List CollaborativeSignalEnvelope) : ∀ r : CollaborationRepository,
    r.envelopes.length = turns.length →
      (r.maxEnvelopes ≤ 0 ∧ ∃ r', makeRoom turns r = (.error (.indexError "pop from an empty deque"), r') ∧ r'.Holds r []) ∨
      0 < r.maxEnvelopes ∧ ∃ r', makeRoom turns r = (.ok (), r') ∧ r'.Holds r (r.envelopes.drop r.surplus) := by
  induction turns with
  | nil =>
      intro r short
      by_cases room : r.envelopes.length < r.maxEnvelopes
      · refine Or.inr ⟨by omega, r, makeRoom_of_room room [], ?_, rfl, rfl, rfl⟩
        have none : r.surplus = 0 := by
          unfold surplus
          omega
        rw [none, List.drop_zero]
      · refine Or.inl ⟨by simp only [List.length_nil] at short; omega, r, ?_, List.length_eq_zero_iff.mp short, rfl, rfl, rfl⟩
        unfold makeRoom
        rw [Call.read_bind]
        exact congrFun (if_neg room) r
  | cons item turns ih =>
      intro r long
      by_cases room : r.envelopes.length < r.maxEnvelopes
      · refine Or.inr ⟨by omega, r, makeRoom_of_room room _, ?_, rfl, rfl, rfl⟩
        have none : r.surplus = 0 := by
          unfold surplus
          omega
        rw [none, List.drop_zero]
      · have shorter : r.evict.envelopes.length = turns.length := by
          show (r.envelopes.drop 1).length = _
          rw [List.length_drop, long, List.length_cons]
          omega
        have unfolds : makeRoom (item :: turns) r = makeRoom turns r.evict := by
          rw [makeRoom, Call.read_bind]
          simp only [id, if_neg room, Call.modify_bind]
        rw [unfolds]
        cases ih r.evict shorter with
        | inl raises => exact Or.inl raises
        | inr done =>
            obtain ⟨positive, r', ran, kept, same⟩ := done
            refine Or.inr ⟨positive, r', ran, ?_, same⟩
            have next : r.surplus = r.evict.surplus + 1 := by
              have shape : r.evict.surplus = ((r.envelopes.drop 1).length + 1 - r.maxEnvelopes).toNat := rfl
              simp only [List.length_cons] at long
              rw [shape, surplus, List.length_drop]
              omega
            rw [kept, next]
            show (r.envelopes.drop 1).drop _ = _
            rw [List.drop_drop, Nat.add_comm]

/-- The ways a call of `add_envelope` can end. -/
inductive Adds (r : CollaborationRepository) (e : CollaborativeSignalEnvelope) :
    Except Error Bool → CollaborationRepository → Prop where
  | duplicate (taken : e.signalId ∈ r.signalIds) : Adds r e (.ok false) r
  | raises {r' : CollaborationRepository} (new : e.signalId ∉ r.signalIds) (unbounded : r.maxEnvelopes ≤ 0)
      (emptied : r'.Holds r []) : Adds r e (.error (.indexError "pop from an empty deque")) r'
  | adds {r' : CollaborationRepository} (new : e.signalId ∉ r.signalIds) (positive : 0 < r.maxEnvelopes)
      (added : r'.Holds r (r.envelopes.drop r.surplus ++ [e])) : Adds r e (.ok true) r'

theorem addEnvelope_adds (r : CollaborationRepository) (e : CollaborativeSignalEnvelope) :
    Adds r e (addEnvelope e r).1 (addEnvelope e r).2 := by
  unfold addEnvelope
  rw [Call.read_bind]
  by_cases taken : e.signalId ∈ r.signalIds
  · simp only [id, if_pos taken]
    exact .duplicate taken
  · simp only [id, if_neg taken]
    cases makeRoom_spec r.envelopes r rfl with
    | inl raises =>
        obtain ⟨unbounded, r', ran, emptied⟩ := raises
        rw [Call.bind_of_error ran]
        exact .raises taken unbounded emptied
    | inr done =>
        obtain ⟨positive, r', ran, kept, same⟩ := done
        have new : e.signalId ∉ r'.signalIds := by
          rw [r'.indexed, kept]
          rw [r.indexed] at taken
          intro among
          exact taken (((List.drop_sublist _ _).map _).subset among)
        rw [Call.bind_of_ok ran, Call.modify_bind, dif_pos new]
        refine .adds taken positive ⟨?_, same⟩
        show r'.envelopes ++ [e] = _
        rw [kept]

theorem makeDecisionRoom_keeps (turns : List CorrelationDecisionRecord) : ∀ r : CollaborationRepository,
    (makeDecisionRoom turns r).2.envelopes = r.envelopes ∧
      (r.decisions.length = turns.length → ((makeDecisionRoom turns r).1 = .ok () ↔ 0 < r.maxDecisions)) := by
  induction turns with
  | nil =>
      intro r
      unfold makeDecisionRoom
      rw [Call.read_bind]
      by_cases room : r.decisions.length < r.maxDecisions
      · simp only [id, if_pos room]
        exact ⟨rfl, fun _ => ⟨fun _ => by omega, fun _ => rfl⟩⟩
      · simp only [id, if_neg room]
        refine ⟨rfl, fun short => ⟨fun none => ?_, fun positive => ?_⟩⟩
        · cases none
        · simp only [List.length_nil] at short
          omega
  | cons item turns ih =>
      intro r
      unfold makeDecisionRoom
      rw [Call.read_bind]
      by_cases room : r.decisions.length < r.maxDecisions
      · simp only [id, if_pos room]
        exact ⟨rfl, fun _ => ⟨fun _ => by omega, fun _ => rfl⟩⟩
      · simp only [id, if_neg room, Call.modify_bind]
        have later := ih { r with decisions := r.decisions.drop 1 }
        refine ⟨later.1, fun long => later.2 ?_⟩
        show (r.decisions.drop 1).length = _
        rw [List.length_drop, long, List.length_cons]
        omega

end CollaborationRepository

end SentinelEdge.Collaboration
