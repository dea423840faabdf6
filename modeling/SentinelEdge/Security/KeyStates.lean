import SentinelEdge.Security.KeyHistory

/-! # Which generation may sign

Two invariants of the current states. A generation whose compromise is confirmed
on record is not active, in runs that do not activate it again from a state it
was moved to afterwards. At most the highest registered generation of a pair is
active, in runs that register and activate generations in order.
-/

namespace SentinelEdge.Security

open Foundation Domain

namespace KeyLifecycleRegistry

variable {P : Platform} {s : KeyLifecycleRegistry P}

theorem toState_active_iff (action : KeyLifecycleAction) : action.toState = .active ↔ action.activates = true := by
  cases action <;> decide

theorem mem_withState {ref : KeyRef} {state : KeyState} {rows : List (KeyIdentityRow P)} {row : KeyIdentityRow P}
    (member : row ∈ withState ref state rows) :
    (row.record.ref = ref ∧ row.currentState = state) ∨ (row.record.ref ≠ ref ∧ row ∈ rows) := by
  obtain ⟨old, inRows, rfl⟩ := List.mem_map.mp member
  by_cases same : old.record.ref = ref
  · simp [same]
  · simp [same, inRows]

theorem signingAllowed_inactive {ref : KeyRef} (inactive : ∀ row, s.find ref = some row → row.currentState ≠ .active)
    (moment : DateTime) : ∃ e, s.signingAllowed ref moment = .error e := by
  unfold signingAllowed load
  cases found : s.find ref with
  | none => exact ⟨_, rfl⟩
  | some row =>
      refine ⟨.permissionError "key generation is not active for new signatures", ?_⟩
      simp [bind, Except.bind, inactive row found]

/-! ## Confirmed compromise -/

def Confirmed (s : KeyLifecycleRegistry P) (ref : KeyRef) : Prop :=
  ∃ event ∈ s.keyLifecycleEvents, event.ref = ref ∧ event.action = .confirmCompromise

instance (s : KeyLifecycleRegistry P) (ref : KeyRef) : Decidable (Confirmed s ref) :=
  inferInstanceAs (Decidable (∃ event ∈ s.keyLifecycleEvents, _))

/-- The call activates a generation whose confirmed compromise is on record and
    which has been moved out of the compromised state since. -/
def Revives (s : KeyLifecycleRegistry P) : Operation → Prop
  | .register _ => False
  | .transition request => request.action.activates = true ∧ Confirmed s request.ref ∧
      ∃ row ∈ s.find request.ref, row.currentState ≠ .compromised

instance (s : KeyLifecycleRegistry P) : ∀ op, Decidable (Revives s op)
  | .register _ => inferInstanceAs (Decidable False)
  | .transition request => inferInstanceAs (Decidable (_ ∧ _ ∧ ∃ row ∈ s.find request.ref, _))

theorem Confirmed.run {before : List Operation} {ref : KeyRef} (confirmed : Confirmed (P := P) (run before) ref)
    (after : List Operation) : Confirmed (P := P) (run (before ++ after)) ref := by
  obtain ⟨event, member, about⟩ := confirmed
  refine ⟨event, ?_, about⟩
  rw [KeyLifecycleRegistry.run, run_append]
  exact run_invariant (I := fun t : KeyLifecycleRegistry P => event ∈ t.keyLifecycleEvents)
    (fun t op kept => step_logs t op kept) member after

/-- No active row is one whose compromise is confirmed. -/
def Contained (s : KeyLifecycleRegistry P) : Prop :=
  ∀ row ∈ s.keyIdentities, row.currentState = .active → ¬ Confirmed s row.record.ref

theorem Contained.step (consistent : Consistent s) (contained : Contained s) {op : Operation} (allowed : ¬ Revives s op) :
    Contained (s.step op) := by
  obtain same | ⟨request, old, rfl, found, free, rows, logs⟩ | ⟨request, record, rfl, ref, absent, _, rows, logs⟩ :=
    step_cases s op
  · rw [same]
    exact contained
  · intro row member active ⟨event, logged, eventRef, action⟩
    rw [rows] at member
    obtain ⟨atRef, state⟩ | ⟨elsewhere, kept⟩ := mem_withState member
    · -- the generation becomes active, so the confirmation is an older event
      have activates := (toState_active_iff request.action).mp (state.symm.trans active)
      obtain earlier | ⟨_, same⟩ := logs.mem logged
      · apply allowed
        exact ⟨activates, ⟨event, earlier, eventRef.trans atRef, action⟩, old, found,
          fun compromised => free ⟨activates, compromised⟩⟩
      · rw [← same, action] at activates
        cases activates
    · obtain earlier | ⟨same, _⟩ := logs.mem logged
      · exact contained row kept active ⟨event, earlier, eventRef, action⟩
      · exact elsewhere (eventRef.symm.trans same)
  · intro row member active ⟨event, logged, eventRef, action⟩
    have earlier : event ∈ s.keyLifecycleEvents := by
      obtain earlier | ⟨_, activates⟩ | ⟨retires, _⟩ := logs.mem logged
      · exact earlier
      · rw [action] at activates
        cases activates
      · rw [action] at retires
        cases retires
    rw [rows, List.mem_append, List.mem_singleton] at member
    obtain moved | rfl := member
    · obtain ⟨before, inRows, rfl⟩ := List.mem_map.mp moved
      rw [superseded_record] at eventRef
      refine contained before inRows ?_ ⟨event, earlier, eventRef, action⟩
      unfold superseded at active
      split at active
      · cases active
      · exact active
    · have known := consistent.covered event earlier
      rw [eventRef, ref, ← mem_refs] at known
      exact find_eq_none.mp absent known

theorem run_contained {ops : List Operation} (meets : Meets step (fun s op => ¬ Revives s op) ({} : KeyLifecycleRegistry P) ops) :
    Contained (P := P) (run ops) := by
  have keeps : ∀ (s : KeyLifecycleRegistry P) op, ¬ Revives s op → Consistent s ∧ Contained s →
      Consistent (s.step op) ∧ Contained (s.step op) :=
    fun s op allowed before => ⟨before.1.step op, before.2.step before.1 allowed⟩
  exact (meets.invariant keeps ⟨Consistent.empty, by simp [Contained]⟩).2

/-- In runs without such a revival, a generation is out of use from the moment
    its compromise is confirmed. -/
theorem confirmed_never_active {before after : List Operation}
    (meets : Meets step (fun s op => ¬ Revives s op) ({} : KeyLifecycleRegistry P) (before ++ after))
    {ref : KeyRef} (confirmed : Confirmed (P := P) (run before) ref) :
    (∀ row, (run (before ++ after) : KeyLifecycleRegistry P).find ref = some row → row.currentState ≠ .active) ∧
      ∀ moment, ∃ e, (run (before ++ after) : KeyLifecycleRegistry P).signingAllowed ref moment = .error e := by
  have inactive : ∀ row, (run (before ++ after) : KeyLifecycleRegistry P).find ref = some row →
      row.currentState ≠ .active := by
    intro row found active
    obtain ⟨member, rfl⟩ := (find_iff (run_consistent _)).mp found
    exact run_contained meets row member active (confirmed.run after)
  exact ⟨inactive, signingAllowed_inactive inactive⟩

/-! Requests to evaluate on. -/

def auditKey (generation : Int) : KeyRef := ⟨"field-audit", generation, .auditSigning⟩

def registration (generation : Int) (registeredAt : DateTime) : RegisterRequest where
  ref := auditKey generation
  publicKey := List.replicate 32 7
  policyVersion := "audit-policy-v1"
  actor := "admin"
  reason := "activate"
  registeredAt := registeredAt

def change (generation : Int) (action : KeyLifecycleAction) (effectiveAt : DateTime) : TransitionRequest where
  ref := auditKey generation
  action := action
  actor := "admin"
  reason := "review"
  policyVersion := "audit-policy-v1"
  effectiveAt := effectiveAt

theorem confirmed_never_active_after_retire :
    Meets step (fun s op => ¬ Revives s op) ({} : KeyLifecycleRegistry Platform.mixing)
      [.register (registration 1 0), .transition (change 1 .confirmCompromise 10), .transition (change 1 .retire 20),
        .register (registration 2 30)] ∧
    ((run [.register (registration 1 0), .transition (change 1 .confirmCompromise 10), .transition (change 1 .retire 20),
        .register (registration 2 30)] : KeyLifecycleRegistry Platform.mixing).signingAllowed (auditKey 1) 40).isOk = false := by
  have meets : Meets step (fun s op => ¬ Revives s op) ({} : KeyLifecycleRegistry Platform.mixing)
      ([.register (registration 1 0), .transition (change 1 .confirmCompromise 10)] ++ [.transition (change 1 .retire 20),
        .register (registration 2 30)]) := by decide +kernel
  have confirmed : Confirmed (P := Platform.mixing)
      (run [.register (registration 1 0), .transition (change 1 .confirmCompromise 10)]) (auditKey 1) := by
    decide +kernel
  refine ⟨meets, ?_⟩
  obtain ⟨e, refused⟩ := (confirmed_never_active meets confirmed).2 40
  exact congrArg Except.isOk refused

/-- Confirmed compromise, retirement, activation: the guard only sees the state
    the retirement left, and the compromised key signs again. -/
theorem compromised_key_signs_again :
    ¬ ∀ (before after : List Operation) (ref : KeyRef), Confirmed (P := Platform.mixing) (run before) ref →
      (∀ row, (run (before ++ after) : KeyLifecycleRegistry Platform.mixing).find ref = some row →
        row.currentState ≠ .active) ∧
      ∀ moment, ∃ e, (run (before ++ after) : KeyLifecycleRegistry Platform.mixing).signingAllowed ref moment = .error e := by
  intro permanent
  have confirmed : Confirmed (P := Platform.mixing)
      (run [.register (registration 1 0), .transition (change 1 .confirmCompromise 10)]) (auditKey 1) := by
    decide +kernel
  obtain ⟨e, refused⟩ := (permanent _ [.transition (change 1 .retire 20), .transition (change 1 .activate 30)] _ confirmed).2 40
  have signs : ((run [.register (registration 1 0), .transition (change 1 .confirmCompromise 10),
      .transition (change 1 .retire 20), .transition (change 1 .activate 30)] :
        KeyLifecycleRegistry Platform.mixing).signingAllowed (auditKey 1) 40).isOk = true := by
    decide +kernel
  exact Bool.false_ne_true ((congrArg Except.isOk refused).symm.trans signs)

/-! ## One active generation -/

/-- At most one generation of a pair is active, and none of the pair was
    registered above it. Registration activates, so every row counts. -/
structure OneSigner (s : KeyLifecycleRegistry P) : Prop where
  unique : ∀ a ∈ s.keyIdentities, ∀ b ∈ s.keyIdentities, SamePair a.record.ref b.record.ref →
    a.currentState = .active → b.currentState = .active → a = b
  highest : ∀ a ∈ s.keyIdentities, a.currentState = .active →
    ∀ b ∈ s.keyIdentities, SamePair b.record.ref a.record.ref → b.record.ref.generation ≤ a.record.ref.generation

/-- The call makes a generation active below one registered for its pair: a new
    generation that no active one refuses, or one that is not compromised. -/
def OutOfOrder (s : KeyLifecycleRegistry P) : Operation → Prop
  | .register request => s.find request.ref = none ∧
      (∀ row ∈ s.keyIdentities, SamePair row.record.ref request.ref → row.currentState = .active →
        row.record.ref.generation < request.ref.generation) ∧
      ∃ row ∈ s.keyIdentities, SamePair row.record.ref request.ref ∧ request.ref.generation < row.record.ref.generation
  | .transition request => request.action.activates = true ∧
      (∃ row ∈ s.find request.ref, row.currentState ≠ .compromised) ∧
      ∃ row ∈ s.keyIdentities, SamePair row.record.ref request.ref ∧ request.ref.generation < row.record.ref.generation

instance (s : KeyLifecycleRegistry P) : ∀ op, Decidable (OutOfOrder s op)
  | .register _ => inferInstanceAs (Decidable (_ ∧ (∀ row ∈ s.keyIdentities, _) ∧ ∃ row ∈ s.keyIdentities, _))
  | .transition request => inferInstanceAs
      (Decidable (_ ∧ (∃ row ∈ s.find request.ref, _) ∧ ∃ row ∈ s.keyIdentities, _))

/-- An active row stands above every row of its pair. -/
def Topmost (s : KeyLifecycleRegistry P) : Prop :=
  ∀ a ∈ s.keyIdentities, a.currentState = .active →
    ∀ ref ∈ s.keyIdentities.map (fun row => row.record.ref), SamePair ref a.record.ref →
      ref.generation ≤ a.record.ref.generation

theorem Topmost.step (topmost : Topmost s) {op : Operation} (ordered : ¬ OutOfOrder s op) : Topmost (s.step op) := by
  obtain same | ⟨request, old, rfl, found, free, rows, _⟩ | ⟨request, record, rfl, ref, absent, newer, rows, _⟩ :=
    step_cases s op
  · rw [same]
    exact topmost
  · intro row member active other known pair
    rw [rows, withState_refs] at known
    rw [rows] at member
    obtain ⟨atRef, state⟩ | ⟨_, kept⟩ := mem_withState member
    · have activates := (toState_active_iff request.action).mp (state.symm.trans active)
      rw [atRef] at pair ⊢
      obtain ⟨above, inRows, rfl⟩ := List.mem_map.mp known
      by_contra higher
      apply ordered
      exact ⟨activates, ⟨old, found, fun compromised => free ⟨activates, compromised⟩⟩,
        above, inRows, pair, lt_of_not_ge higher⟩
    · exact topmost row kept active other known pair
  · intro row member active other known pair
    rw [rows, List.map_append, superseded_refs, List.map_singleton, List.mem_append, List.mem_singleton, ref] at known
    rw [rows, List.mem_append, List.mem_singleton] at member
    obtain moved | rfl := member
    · obtain ⟨before, inRows, rfl⟩ := List.mem_map.mp moved
      rw [superseded_record] at pair ⊢
      -- a row that is still active was not in the pair that the new row took over
      have spared : ¬ (before.record.ref.identityId = request.ref.identityId ∧
          before.record.ref.purpose = request.ref.purpose) ∧ before.currentState = .active := by
        unfold superseded at active
        split at active
        · cases active
        · next kept =>
            refine ⟨fun same => kept ⟨same.1, same.2, mem_priorActive.mpr ⟨before, inRows, ?_, active⟩⟩, active⟩
            rw [← same.1, ← same.2]
      obtain old | rfl := known
      · exact topmost before inRows spared.2 other old pair
      · exact absurd ⟨pair.1.symm, pair.2.symm⟩ spared.1
    · rw [ref] at pair ⊢
      obtain old | rfl := known
      · obtain ⟨above, inRows, rfl⟩ := List.mem_map.mp old
        by_contra higher
        apply ordered
        exact ⟨absent, newer, above, inRows, pair, lt_of_not_ge higher⟩
      · exact le_refl _

theorem Topmost.oneSigner (consistent : Consistent s) (topmost : Topmost s) : OneSigner s := by
  have highest : ∀ a ∈ s.keyIdentities, a.currentState = .active → ∀ b ∈ s.keyIdentities,
      SamePair b.record.ref a.record.ref → b.record.ref.generation ≤ a.record.ref.generation :=
    fun a member active b other pair => topmost a member active _ (mem_refs.mpr ⟨b, other, rfl⟩) pair
  refine ⟨?_, highest⟩
  intro a memberA b memberB pair activeA activeB
  have below := highest a memberA activeA b memberB ⟨pair.1.symm, pair.2.symm⟩
  have above := highest b memberB activeB a memberA pair
  have same : a.record.ref = b.record.ref := by
    obtain ⟨identity, purpose⟩ := pair
    cases hA : a.record.ref
    cases hB : b.record.ref
    simp only [hA, hB] at identity purpose below above
    simp [identity, purpose, le_antisymm above below]
  exact List.inj_on_of_nodup_map consistent.unique memberA memberB same

/-- In runs that register and activate generations in order, each pair has at
    most one active generation, its highest. -/
theorem one_generation_signs {ops : List Operation}
    (meets : Meets step (fun s op => ¬ OutOfOrder s op) ({} : KeyLifecycleRegistry P) ops) :
    OneSigner (run ops : KeyLifecycleRegistry P) := by
  have topmost : Topmost (run ops : KeyLifecycleRegistry P) :=
    meets.invariant (fun _ _ ordered before => before.step ordered) (by simp [Topmost])
  exact topmost.oneSigner (run_consistent ops)

theorem one_generation_signs_after_rotation :
    Meets step (fun s op => ¬ OutOfOrder s op) ({} : KeyLifecycleRegistry Platform.mixing)
      [.register (registration 1 0), .register (registration 2 10), .transition (change 2 .retire 20),
        .transition (change 2 .activate 30)] ∧
    OneSigner (run [.register (registration 1 0), .register (registration 2 10), .transition (change 2 .retire 20),
        .transition (change 2 .activate 30)] : KeyLifecycleRegistry Platform.mixing) := by
  have meets : Meets step (fun s op => ¬ OutOfOrder s op) ({} : KeyLifecycleRegistry Platform.mixing)
      [.register (registration 1 0), .register (registration 2 10), .transition (change 2 .retire 20),
        .transition (change 2 .activate 30)] := by decide +kernel
  exact ⟨meets, one_generation_signs meets⟩

/-- Rotation retires generation 1; a plain transition activates it again beside
    generation 2. -/
theorem two_generations_sign :
    ¬ ∀ ops : List Operation, OneSigner (run ops : KeyLifecycleRegistry Platform.mixing) := by
  intro always
  have highest := (always
    [.register (registration 1 0), .register (registration 2 10), .transition (change 1 .activate 20)]).highest
  exact absurd highest (by decide +kernel)

end KeyLifecycleRegistry

end SentinelEdge.Security
