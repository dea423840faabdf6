import SentinelEdge.Security.Secrets

/-! # Compromised secrets

A version that was compromised has lost its bytes and is not in use. Registering it
again brings the bytes back, and a rotation brings it back into use; it stays unusable
as long as never both happen.
-/

namespace SentinelEdge.Security

open Domain Foundation

inductive SecretOperation where
  | register (reference : SecretReference) (value : List UInt8)
  | planRotation (plan : SecretRotationPlan)
  | applyRotation (planId : String) (now : DateTime)
  | resolve (a : SecretRegistry.ResolveArguments)
  | read (handle : SecretHandle) (now : DateTime)

namespace SecretRegistry

variable {P : Platform} {key : String} {s t : SecretRegistry P}

def step (s : SecretRegistry P) : SecretOperation → SecretRegistry P
  | .register reference value => (register reference value s).2
  | .planRotation plan => (planRotation plan s).2
  | .applyRotation planId now => (applyRotation planId now s).2
  | .resolve a => (resolve a s).2
  | .read handle now => (read handle now s).2

/-- The call is about to bring a version in use its bytes, or one with bytes into use. -/
def Revives (key : String) (s : SecretRegistry P) : SecretOperation → Prop
  | .register reference value => value ≠ [] ∧ reference.key = key ∧
      ∃ row ∈ s.references.get? key, row.payloadSha256 = reference.metadataDigest P ∧ row.record.state.inUse = true
  | .applyRotation planId now => (s.values.get? key).isSome ∧ ∃ plan ∈ s.rotations.get? planId,
      plan.oldKey = key ∧ (plan.states now).1.inUse = true ∨ plan.newKey = key ∧ (plan.states now).2.inUse = true
  | .planRotation _ => False
  | .resolve _ => False
  | .read _ _ => False

/-- The version is registered, and not in use with its bytes at hand. -/
def Unusable (key : String) (s : SecretRegistry P) : Prop :=
  ∃ row, s.references.get? key = some row ∧ (row.record.state.inUse = true → s.values.get? key = none)

theorem Unusable.resolve (unusable : Unusable key s) {a : ResolveArguments} (own : a.key = key) :
    ∃ e, (resolve a s).1 = .error e := by
  obtain ⟨row, found, without⟩ := unusable
  cases checked : resolvable a s with
  | error e =>
      refine ⟨e, ?_⟩
      rw [SecretRegistry.resolve, Call.read_bind, checked, Call.bind_of_error (Call.lift_apply _ _)]
  | ok ref =>
      simp only [resolvable, load, own, found, Checks.bind_eq_ok, Checks.refuse_eq_ok, Checks.pure_eq_ok, Except.ok.injEq,
        exists_const, exists_eq_left', Bool.not_eq_false'] at checked
      obtain ⟨-, -, -, inUse, bytes, -, -⟩ := checked
      rw [without inUse] at bytes
      cases bytes

/-! ## One call -/

theorem snapshot_state (key : String) (s : SecretRegistry P) : (snapshot key s).2 = s := by
  rw [snapshot, Call.read_bind]
  exact Call.bind_pure_state _ _ _

theorem transition_state (key : String) (state : SecretState) (s : SecretRegistry P) :
    (transition key state s).2 = match s.references.get? key with
      | none => s
      | some row => transitioned key { row.record with state := state } s := by
  rw [transition, Call.read_bind, load]
  cases s.references.get? key with
  | none => rfl
  | some row =>
      rw [Call.bind_of_ok (Call.lift_apply _ _), Call.modify_bind]
      exact snapshot_state key _

theorem transitioned_references (other : String) (ref : SecretReference) (s : SecretRegistry P) :
    (transitioned other ref s).references = s.references.insert other ⟨ref, ref.metadataDigest P⟩ := by
  unfold transitioned
  split <;> rfl

/-- No transition brings bytes back. -/
theorem transitioned_values (other : String) (ref : SecretReference) (without : s.values.get? key = none) :
    (transitioned other ref s).values.get? key = none := by
  unfold transitioned withdraw
  split
  · dsimp only
    rw [Dict.get?_restrict]
    split
    · exact without
    · rfl
  · exact without

theorem transition_values (other : String) (state : SecretState) (without : s.values.get? key = none) :
    (transition other state s).2.values.get? key = none := by
  rw [transition_state]
  cases s.references.get? other with
  | none => exact without
  | some row => exact transitioned_values other _ without

/-- A transition leaves the version unusable unless it brings it into use with its bytes. -/
theorem Unusable.transition (unusable : Unusable key s) {other : String} {state : SecretState}
    (without : other = key → state.inUse = true → s.values.get? key = none) :
    Unusable key (SecretRegistry.transition other state s).2 := by
  obtain ⟨row, found, kept⟩ := unusable
  rw [transition_state]
  by_cases same : other = key
  · subst same
    rw [found]
    refine ⟨⟨_, _⟩, by rw [transitioned_references, Dict.get?_insert_self], ?_⟩
    intro inUse
    exact transitioned_values other _ (without rfl inUse)
  · cases s.references.get? other with
    | none => exact ⟨row, found, kept⟩
    | some changed =>
        refine ⟨row, ?_, fun inUse => transitioned_values other _ (kept inUse)⟩
        rw [transitioned_references, Dict.get?_insert, if_neg (Ne.symm same)]
        exact found

/-- A registration raises, or goes through with metadata that match those of the row. -/
theorem register_state (reference : SecretReference) (value : List UInt8) (s : SecretRegistry P) :
    (register reference value s).2 = s ∨ value ≠ [] ∧
      (∀ row ∈ s.references.get? reference.key, row.payloadSha256 = reference.metadataDigest P) ∧
      (register reference value s).2 = registered reference value s := by
  unfold register
  by_cases empty : value = []
  · rw [Checks.refuse, if_pos (decide_eq_true empty), Call.bind_of_error (Call.lift_apply _ _)]
    exact Or.inl rfl
  · rw [Checks.refuse, if_neg (by simpa using empty), Call.bind_of_ok (Call.lift_apply _ _), Call.read_bind]
    cases conflict : (s.references.get? reference.key).any (fun row => row.payloadSha256 ≠ reference.metadataDigest P) with
    | true =>
        rw [Checks.refuse, if_pos rfl, Call.bind_of_error (Call.lift_apply _ _)]
        exact Or.inl rfl
    | false =>
        rw [Checks.refuse, if_neg Bool.false_ne_true, Call.bind_of_ok (Call.lift_apply _ _), Call.modify_bind, snapshot_state]
        refine Or.inr ⟨empty, ?_, rfl⟩
        intro row found
        rw [Option.mem_def.mp found, Option.any_some] at conflict
        simpa using conflict

theorem Unusable.register (unusable : Unusable key s) {reference : SecretReference} {value : List UInt8}
    (keeps : ¬ Revives key s (.register reference value)) :
    Unusable key (SecretRegistry.register reference value s).2 := by
  obtain ⟨row, found, without⟩ := unusable
  rcases register_state reference value s with same | ⟨some, matching, changed⟩
  · rw [same]
    exact ⟨row, found, without⟩
  · rw [changed]
    by_cases own : reference.key = key
    · -- the row is there already, so that only the bytes are new
      subst own
      refine ⟨row, ?_, ?_⟩
      · rw [registered, found]
        exact found
      · intro inUse
        exact absurd ⟨some, rfl, row, found, matching row found, inUse⟩ keeps
    · refine ⟨row, ?_, ?_⟩
      · unfold registered
        dsimp only
        split
        · exact found
        · rw [Dict.get?_insert, if_neg (Ne.symm own)]
          exact found
      · intro inUse
        rw [registered, Dict.get?_insert, if_neg (Ne.symm own)]
        exact without inUse

theorem Unusable.applyRotation (unusable : Unusable key s) {planId : String} {now : DateTime}
    (keeps : ¬ Revives key s (.applyRotation planId now)) :
    Unusable key (SecretRegistry.applyRotation planId now s).2 := by
  unfold SecretRegistry.applyRotation
  rw [Call.read_bind]
  cases planned : s.rotations.get? planId with
  | none => exact unusable
  | some plan =>
      rw [Call.bind_of_ok (Call.lift_apply _ _)]
      have idle : plan.oldKey = key ∧ (plan.states now).1.inUse = true ∨ plan.newKey = key ∧ (plan.states now).2.inUse = true →
          s.values.get? key = none := by
        intro used
        cases bytes : s.values.get? key with
        | none => rfl
        | some value => exact absurd ⟨by rw [bytes]; rfl, plan, planned, used⟩ keeps
      have first : Unusable key (SecretRegistry.transition plan.oldKey (plan.states now).1 s).2 :=
        unusable.transition fun own inUse => idle (Or.inl ⟨own, inUse⟩)
      rcases changed : SecretRegistry.transition plan.oldKey (plan.states now).1 s with ⟨result, u⟩
      rw [changed] at first
      cases result with
      | error e =>
          rw [Call.bind_of_error changed]
          exact first
      | ok _ =>
          rw [Call.bind_of_ok changed]
          have second : Unusable key (SecretRegistry.transition plan.newKey (plan.states now).2 u).2 := by
            refine first.transition fun own inUse => ?_
            have without := transition_values plan.oldKey (plan.states now).1 (idle (Or.inr ⟨own, inUse⟩))
            rwa [changed] at without
          rcases changed' : SecretRegistry.transition plan.newKey (plan.states now).2 u with ⟨result, v⟩
          rw [changed'] at second
          cases result with
          | error e =>
              rw [Call.bind_of_error changed']
              exact second
          | ok _ =>
              rw [Call.bind_of_ok changed', Call.modify_bind, Call.pure_apply]
              exact second

/-- The other calls touch neither rows nor bytes. -/
theorem planRotation_state (plan : SecretRotationPlan) (s : SecretRegistry P) :
    (planRotation plan s).2.references = s.references ∧ (planRotation plan s).2.values = s.values := by
  unfold planRotation
  rw [Call.read_bind]
  cases load plan.oldKey s with
  | error e => exact ⟨rfl, rfl⟩
  | ok old =>
      rw [Call.bind_of_ok (Call.lift_apply _ _), Call.read_bind]
      cases load plan.newKey s with
      | error e => exact ⟨rfl, rfl⟩
      | ok new =>
          rw [Call.bind_of_ok (Call.lift_apply _ _)]
          cases checked : Checks.refuse (old.ownerModule ≠ new.ownerModule || old.purpose ≠ new.purpose)
              (Error.valueError "rotation versions must preserve owner and purpose") with
          | error e =>
              rw [Call.bind_of_error (Call.lift_apply _ _)]
              exact ⟨rfl, rfl⟩
          | ok _ =>
              rw [Call.bind_of_ok (Call.lift_apply _ _), Call.modify_bind, Call.pure_apply]
              exact ⟨rfl, rfl⟩

theorem resolve_state (a : ResolveArguments) (s : SecretRegistry P) :
    (resolve a s).2.references = s.references ∧ (resolve a s).2.values = s.values := by
  unfold resolve
  rw [Call.read_bind]
  cases resolvable a s with
  | error e => exact ⟨rfl, rfl⟩
  | ok ref =>
      rw [Call.bind_of_ok (Call.lift_apply _ _), Call.read_bind, Call.modify_bind, Call.pure_apply]
      exact ⟨rfl, rfl⟩

theorem read_state (handle : SecretHandle) (now : DateTime) (s : SecretRegistry P) :
    (read handle now s).2.references = s.references ∧ (read handle now s).2.values = s.values := by
  unfold read
  rw [Call.read_bind]
  cases checked : Checks.refuse ((id s).handles.get? handle.handleId ≠ some handle ||
      handle.generationEpoch ≠ (id s).generationEpoch) (Error.permissionError "secret handle is stale or unknown") with
  | error e =>
      rw [Call.bind_of_error (Call.lift_apply _ _)]
      exact ⟨rfl, rfl⟩
  | ok _ =>
      rw [Call.bind_of_ok (Call.lift_apply _ _)]
      split
      · rw [Call.modify_bind]
        exact ⟨rfl, rfl⟩
      · exact ⟨rfl, rfl⟩

theorem Unusable.congr (unusable : Unusable key s) (references : t.references = s.references) (values : t.values = s.values) :
    Unusable key t := by
  obtain ⟨row, found, without⟩ := unusable
  exact ⟨row, by rw [references, found], by rw [values]; exact without⟩

theorem Unusable.step (unusable : Unusable key s) {op : SecretOperation} (keeps : ¬ Revives key s op) :
    Unusable key (s.step op) := by
  cases op with
  | register reference value => exact unusable.register keeps
  | applyRotation planId now => exact unusable.applyRotation keeps
  | planRotation plan => exact unusable.congr (planRotation_state plan s).1 (planRotation_state plan s).2
  | resolve a => exact unusable.congr (resolve_state a s).1 (resolve_state a s).2
  | read handle now => exact unusable.congr (read_state handle now s).1 (read_state handle now s).2

theorem unusable_of_compromised {snapshot : SecretMetadataSnapshot P}
    (compromised : transition key .compromised s = (.ok snapshot, t)) : Unusable key t := by
  have state := transition_state key .compromised s
  rw [compromised] at state
  have left : t = match s.references.get? key with
      | none => s
      | some row => transitioned key { row.record with state := .compromised } s := state
  cases found : s.references.get? key with
  | none =>
      have failed : load key s = .error (.keyError key) := by rw [load, found]
      rw [transition, Call.read_bind, failed, Call.bind_of_error (Call.lift_apply _ _)] at compromised
      cases compromised
  | some row =>
      rw [found] at left
      rw [left]
      refine ⟨⟨_, _⟩, by rw [transitioned_references, Dict.get?_insert_self], ?_⟩
      intro inUse
      cases inUse

/-- A version that was compromised is never resolved again while no call revives it. -/
theorem compromised_stays_unusable (P : Platform) {key : String} {s t : SecretRegistry P}
    {snapshot : SecretMetadataSnapshot P} (compromised : transition key .compromised s = (.ok snapshot, t))
    (ops : List SecretOperation) (quiet : Meets step (fun s op => ¬ Revives key s op) t ops) (n : Nat)
    (a : ResolveArguments) (own : a.key = key) : ∃ e, (resolve a (run step t (ops.take n))).1 = .error e := by
  have unusable : Unusable key (run step t (ops.take n)) :=
    Meets.invariant (I := Unusable key) (fun _ _ keeps held => held.step keeps) (unusable_of_compromised compromised) (quiet.take n)
  exact unusable.resolve own

/-- A version of the password of the station's broker. -/
def brokerPassword (version : Nat) (state : SecretState) (positive : 1 ≤ version := by decide) : SecretReference where
  referenceId := "broker"
  version := version
  ownerModule := "publisher"
  purpose := "login"
  policyVersion := "1"
  validFrom := 0
  validUntil := 1000000000
  state := state
  positive := positive

/-- The old version is in use until the new one takes over. -/
def brokerRotation : SecretRotationPlan where
  referenceId := "broker"
  oldVersion := 1
  newVersion := 2
  overlapStartsAt := 50000000
  cutoverAt := 60000000
  overlapEndsAt := 70000000
  maximumOverlapSeconds := 20

def brokerPlanId : String := brokerRotation.planId Platform.mixing

/-- Both versions are registered and their rotation is planned. -/
def brokerRegistry : SecretRegistry Platform.mixing :=
  run step {} [.register (brokerPassword 1 .active) [1], .register (brokerPassword 2 .staged) [2], .planRotation brokerRotation]

def brokerRequest : ResolveArguments where
  key := "broker@1"
  requestingModule := "publisher"
  purpose := "login"
  now := 20000000
  handleId := UUID.ofNat 1

/-- The rotation brings the version back into use, but not its bytes. -/
theorem rotation_keeps_unusable :
    ∃ e, (resolve brokerRequest (run step (transition "broker@1" .compromised brokerRegistry).2
      ([.applyRotation brokerPlanId 10000000].take 1))).1 = .error e := by
  have compromised : ∃ snapshot, (transition "broker@1" .compromised brokerRegistry).1 = .ok snapshot := by
    cases called : (transition "broker@1" .compromised brokerRegistry).1 with
    | ok snapshot => exact ⟨snapshot, rfl⟩
    | error e =>
        have returned : (transition "broker@1" .compromised brokerRegistry).1.toBool = true := by decide +kernel
        rw [called] at returned
        cases returned
  obtain ⟨snapshot, returned⟩ := compromised
  have went : transition "broker@1" .compromised brokerRegistry =
      (.ok snapshot, (transition "broker@1" .compromised brokerRegistry).2) := Prod.ext returned rfl
  refine compromised_stays_unusable Platform.mixing went [.applyRotation brokerPlanId 10000000] ⟨?_, trivial⟩ 1
    brokerRequest rfl
  rintro ⟨bytes, -⟩
  revert bytes
  decide +kernel

/-- Registered again as the compromised version it is, it is in use after the rotation. -/
theorem reregistration_revives :
    ¬ ∃ e, (resolve brokerRequest (run step (transition "broker@1" .compromised brokerRegistry).2
      [.register (brokerPassword 1 .compromised) [1], .applyRotation brokerPlanId 10000000])).1 = .error e := by
  rintro ⟨e, raised⟩
  have returned : (resolve brokerRequest (run step (transition "broker@1" .compromised brokerRegistry).2
      [.register (brokerPassword 1 .compromised) [1], .applyRotation brokerPlanId 10000000])).1.toBool = true := by
    decide +kernel
  rw [raised] at returned
  cases returned

end SecretRegistry

end SentinelEdge.Security
