import SentinelEdge.Configuration.Store

/-! # What a failed activation leaves

The active bundle depends on the pointer and on the staged bundles, which never
change once they are there. A candidate that the self test or the canary turns down
leaves both as they were; one whose canary raises stays active, because the pointer
is moved before the canary runs and nobody moves it back.
-/

namespace SentinelEdge.Configuration

open Foundation Domain Storage

variable {P : Platform}

namespace ConfigurationStore

variable {s s' : ConfigurationStore P}

/-- The staged bundles with their keys. -/
def catalogue (s : ConfigurationStore P) : List (String × ConfigurationBundle) :=
  s.bundles.map (fun r => (r.bundleKey, r.payload))

def lookup (catalogue : List (String × ConfigurationBundle)) (key : String) : Option ConfigurationBundle :=
  (catalogue.find? (fun entry => entry.1 = key)).map Prod.snd

theorem bundleForKey_eq (s : ConfigurationStore P) (key : Option String) :
    s.bundleForKey key = key.bind (lookup s.catalogue) := by
  cases key with
  | none => rfl
  | some key =>
      simp only [bundleForKey, row, lookup, catalogue, Option.bind_some, List.find?_map, Option.map_map]
      rfl

theorem active_congr (catalogue : s'.catalogue = s.catalogue) (pointer : s'.activeBundleKey = s.activeBundleKey) :
    s'.active = s.active := by
  simp only [active, bundleForKey_eq, catalogue, pointer]

/-- Bundles are staged under their own keys, and the active one is staged. -/
structure Valid (s : ConfigurationStore P) : Prop where
  keyed : ∀ entry ∈ s.catalogue, entry.1 = entry.2.key
  pointed : ∀ key, s.activeBundleKey = some key → (lookup s.catalogue key).isSome = true

theorem Valid.empty : ({} : ConfigurationStore P).Valid where
  keyed := by simp [catalogue]
  pointed := by simp

theorem lookup_key (keyed : ∀ entry ∈ s.catalogue, entry.1 = entry.2.key) {key : String} {bundle : ConfigurationBundle}
    (found : lookup s.catalogue key = some bundle) : bundle.key = key := by
  obtain ⟨entry, first, rfl⟩ := Option.map_eq_some_iff.mp found
  have same : entry.1 = key := by simpa using List.find?_some first
  rw [← same, keyed entry (List.mem_of_find?_eq_some first)]

/-- The pointer names the active bundle. -/
theorem Valid.pointer (valid : s.Valid) : s.active.map ConfigurationBundle.key = s.activeBundleKey := by
  rw [active, bundleForKey_eq]
  cases pointer : s.activeBundleKey with
  | none => rfl
  | some key =>
      obtain ⟨bundle, found⟩ := Option.isSome_iff_exists.mp (valid.pointed key pointer)
      rw [Option.bind_some, found, Option.map_some, lookup_key valid.keyed found]

/-! ## The calls -/

theorem setState_catalogue (key : String) (state : ConfigurationState) :
    Call.Keeps catalogue (setState key state : ConfigurationCall P Unit) := by
  intro s
  simp only [setState, Call.modify, catalogue, List.map_map]
  refine List.map_congr_left (fun r _ => ?_)
  simp only [Function.comp_apply]
  split <;> rfl

theorem insertActivation_eq {activation : ConfigurationActivationRecord P} (s : ConfigurationStore P)
    (fresh : ∀ r ∈ s.activations, r.activationId ≠ activation.activationId) :
    ∃ s', insertActivation activation s = (.ok (), s') ∧ s'.catalogue = s.catalogue ∧
      s'.activations = s.activations ++ [activation] ∧ s'.activeBundleKey = s.activeBundleKey ∧
      s'.lastKnownGoodBundleKey = s.lastKnownGoodBundleKey := by
  have new : (activationsTable.rows s).any (activationsTable.clash activation) = false := by
    simp only [activationsTable, List.any_eq_false, decide_eq_true_eq]
    exact fun old member same => fresh old member same.symm
  refine ⟨_, Call.bind_of_ok (Table.insert_of_fresh new), ?_, rfl, rfl, rfl⟩
  exact setState_catalogue _ _ _

/-- With a new id, `activate` returns and moves the pointer to the bundle. -/
theorem activate_eq {bundle : ConfigurationBundle} {activation : ConfigurationActivationRecord P} (s : ConfigurationStore P)
    (fresh : ∀ r ∈ s.activations, r.activationId ≠ activation.activationId) :
    ∃ s', activate bundle activation s = (.ok (), s') ∧ s'.catalogue = s.catalogue ∧
      s'.activations = s.activations ++ [activation] ∧ s'.activeBundleKey = some bundle.key := by
  -- whatever becomes of the state of the previous bundle
  have moved : ∀ (s₁ : ConfigurationStore P) (previous : Option String), s₁.catalogue = s.catalogue →
      s₁.activations = s.activations → ∃ s', (do
        insertActivation activation
        let lastKnownGoodKey ← Call.read lastKnownGoodBundleKey
        setPointers (some bundle.key) (if previous ≠ some bundle.key then previous else lastKnownGoodKey)) s₁ =
          (.ok (), s') ∧ s'.catalogue = s.catalogue ∧ s'.activations = s.activations ++ [activation] ∧
          s'.activeBundleKey = some bundle.key := by
    intro s₁ previous catalogue activations
    obtain ⟨s₂, inserted, catalogue₂, activations₂, -, -⟩ := insertActivation_eq s₁ (activations ▸ fresh)
    exact ⟨_, (Call.bind_of_ok inserted).trans rfl, catalogue₂.trans catalogue, activations₂.trans (by rw [activations]), rfl⟩
  unfold activate
  cases pointer : s.activeBundleKey with
  | none =>
      obtain ⟨s', done, after⟩ := moved s none rfl rfl
      exact ⟨s', Call.atomically_of_ok (by rw [Call.read_bind, pointer]; exact done), after⟩
  | some previous =>
      by_cases other : previous ≠ bundle.key
      · obtain ⟨s', done, after⟩ := moved (setState previous .lastKnownGood s).2 (some previous)
          (setState_catalogue _ _ s) rfl
        refine ⟨s', Call.atomically_of_ok ?_, after⟩
        rw [Call.read_bind, pointer]
        simp only [other, ne_eq, not_false_eq_true, if_true]
        exact done
      · obtain ⟨s', done, after⟩ := moved s (some previous) rfl rfl
        refine ⟨s', Call.atomically_of_ok ?_, after⟩
        rw [Call.read_bind, pointer]
        simp only [other, if_false]
        exact done

/-- With a new id, `rollback` returns and moves the pointer back. -/
theorem rollback_eq {candidate : ConfigurationBundle} {previous : Option ConfigurationBundle}
    {activation : ConfigurationActivationRecord P} (s : ConfigurationStore P)
    (fresh : ∀ r ∈ s.activations, r.activationId ≠ activation.activationId) :
    ∃ s', rollback candidate previous activation s = (.ok (), s') ∧ s'.catalogue = s.catalogue ∧
      s'.activeBundleKey = previous.map ConfigurationBundle.key := by
  obtain ⟨s₁, inserted, catalogue, -, -, -⟩ := insertActivation_eq s fresh
  cases previous with
  | none =>
      refine ⟨_, Call.atomically_of_ok ((Call.bind_of_ok inserted).trans rfl), ?_, rfl⟩
      exact (setState_catalogue _ _ _).trans catalogue
  | some previous =>
      refine ⟨_, Call.atomically_of_ok ((Call.bind_of_ok inserted).trans rfl), ?_, rfl⟩
      exact (setState_catalogue _ _ _).trans ((setState_catalogue previous.key .active s₁).trans catalogue)

/-- Staging adds the bundle under its key, unless another one has it. -/
theorem stage_cases (s : ConfigurationStore P) (bundle : ConfigurationBundle) (sha256 ref : String) :
    (∃ e, stage bundle sha256 ref s = (.error e, s)) ∨
    ((lookup s.catalogue bundle.key).isSome = true ∧ stage bundle sha256 ref s = (.ok (), s)) ∨
    (lookup s.catalogue bundle.key = none ∧ ∃ s', stage bundle sha256 ref s = (.ok (), s') ∧
      s'.catalogue = s.catalogue ++ [(bundle.key, bundle)] ∧ s'.activations = s.activations ∧
      s'.activeBundleKey = s.activeBundleKey) := by
  have same : lookup s.catalogue bundle.key = (s.row bundle.key).map BundleRow.payload :=
    (bundleForKey_eq s (some bundle.key)).symm
  unfold stage
  simp only [Call.read_bind]
  cases known : s.row bundle.key with
  | some existing =>
      dsimp only
      by_cases conflict : existing.bundleSha256 ≠ sha256
      · rw [if_pos conflict]
        exact .inl ⟨_, rfl⟩
      · rw [if_neg conflict]
        exact .inr (.inl ⟨by rw [same, known]; rfl, rfl⟩)
  | none =>
      refine .inr (.inr ⟨by rw [same, known]; rfl, _, rfl, ?_, rfl, rfl⟩)
      simp [catalogue]

/-- A valid store in which the keys are staged. -/
def Holds (keys : List String) (s : ConfigurationStore P) : Prop :=
  s.Valid ∧ ∀ key ∈ keys, (lookup s.catalogue key).isSome = true

theorem Holds.congr {keys : List String} (holds : Holds keys s) (catalogue : s'.catalogue = s.catalogue)
    (pointer : s'.activeBundleKey = s.activeBundleKey) : Holds keys s' := by
  obtain ⟨⟨keyed, pointed⟩, staged⟩ := holds
  refine ⟨⟨catalogue ▸ keyed, ?_⟩, catalogue ▸ staged⟩
  intro key named
  rw [catalogue]
  exact pointed key (pointer ▸ named)

theorem Holds.setPointers {keys : List String} {active lastKnownGood : Option String}
    (staged : ∀ key, active = some key → key ∈ keys) :
    Call.Preserves (Holds keys) (setPointers active lastKnownGood : ConfigurationCall P Unit) :=
  Call.Preserves.modify fun _ holds => ⟨⟨holds.1.keyed, fun key named => holds.2 key (staged key named)⟩, holds.2⟩

theorem Holds.setState (keys : List String) (key : String) (state : ConfigurationState) :
    Call.Preserves (Holds keys) (setState key state : ConfigurationCall P Unit) :=
  fun s holds => holds.congr (setState_catalogue key state s) rfl

theorem Holds.insertActivation (keys : List String) (activation : ConfigurationActivationRecord P) :
    Call.Preserves (Holds keys) (insertActivation activation) := by
  refine .bind ?_ (fun _ => Holds.setState keys _ _)
  intro s holds
  unfold Table.insert
  split
  · exact holds
  · exact holds.congr rfl rfl

theorem Holds.activate {keys : List String} {bundle : ConfigurationBundle} (activation : ConfigurationActivationRecord P)
    (staged : bundle.key ∈ keys) : Call.Preserves (Holds keys) (activate bundle activation) := by
  have moved : ∀ previous, Call.Preserves (Holds keys) (do
      ConfigurationStore.insertActivation activation
      let lastKnownGoodKey ← Call.read lastKnownGoodBundleKey
      ConfigurationStore.setPointers (some bundle.key)
        (if previous ≠ some bundle.key then previous else lastKnownGoodKey)) := by
    intro previous
    refine .bind (Holds.insertActivation keys activation) (fun _ => .bind (.read _) (fun _ => ?_))
    exact Holds.setPointers fun key named => Option.some.inj named ▸ staged
  refine .atomically (.bind (.read _) (fun previous => ?_))
  cases previous with
  | none => exact moved none
  | some previous =>
      dsimp only
      split
      · exact .bind (Holds.setState keys _ _) (fun _ => moved (some previous))
      · exact moved (some previous)

theorem Holds.rollback {keys : List String} (candidate : ConfigurationBundle) {previous : Option ConfigurationBundle}
    (activation : ConfigurationActivationRecord P) (staged : ∀ bundle, previous = some bundle → bundle.key ∈ keys) :
    Call.Preserves (Holds keys) (rollback candidate previous activation) := by
  refine .atomically (.bind (Holds.insertActivation keys activation) (fun _ => ?_))
  cases previous with
  | none =>
      refine .bind (Holds.setPointers ?_) (fun _ => Holds.setState keys _ _)
      nofun
  | some previous =>
      refine .bind (Holds.setState keys _ _) (fun _ => .bind (Holds.setPointers ?_) (fun _ => Holds.setState keys _ _))
      intro key named
      exact Option.some.inj named ▸ staged previous rfl

theorem Holds.record (keys : List String) (activation : ConfigurationActivationRecord P) :
    Call.Preserves (Holds keys) (record activation) := .atomically (Holds.insertActivation keys activation)

theorem record_active (activation : ConfigurationActivationRecord P) : Call.Keeps active (record activation) := by
  have shown : Call.Keeps (fun s : ConfigurationStore P => (s.catalogue, s.activeBundleKey)) (record activation) := by
    refine .atomically (.bind ?_ (fun _ s => Prod.ext (setState_catalogue _ _ s) rfl))
    intro s
    unfold Table.insert
    split <;> rfl
  exact fun s => active_congr (congrArg Prod.fst (shown s)) (congrArg Prod.snd (shown s))

theorem lookup_append {entries : List (String × ConfigurationBundle)} {key : String} (found : (lookup entries key).isSome = true)
    (more : List (String × ConfigurationBundle)) : lookup (entries ++ more) key = lookup entries key := by
  obtain ⟨bundle, known⟩ := Option.isSome_iff_exists.mp found
  obtain ⟨entry, first, rfl⟩ := Option.map_eq_some_iff.mp known
  simp only [lookup, List.find?_append, first, Option.some_or]

/-- After staging the same bundle is active, and the staged one is there. -/
theorem stage_spec (valid : s.Valid) (bundle : ConfigurationBundle) (sha256 ref : String) {r : Except Error Unit}
    (h : stage bundle sha256 ref s = (r, s')) :
    s'.Valid ∧ s'.active = s.active ∧ s'.activations = s.activations ∧
      (r = .ok () → (lookup s'.catalogue bundle.key).isSome = true) := by
  rcases stage_cases s bundle sha256 ref with ⟨e, raised⟩ | ⟨known, same⟩ | ⟨absent, s₁, done, catalogue, activations, pointer⟩
  · rw [raised] at h
    cases h
    exact ⟨valid, rfl, rfl, nofun⟩
  · rw [same] at h
    cases h
    exact ⟨valid, rfl, rfl, fun _ => known⟩
  · rw [done] at h
    cases h
    refine ⟨⟨?_, ?_⟩, ?_, activations, ?_⟩
    · rw [catalogue]
      intro entry member
      rcases List.mem_append.mp member with old | new
      · exact valid.keyed entry old
      · rw [List.mem_singleton.mp new]
    · intro key named
      rw [pointer] at named
      rw [catalogue, lookup_append (valid.pointed key named)]
      exact valid.pointed key named
    · rw [active, active, bundleForKey_eq, bundleForKey_eq, pointer, catalogue]
      cases named : s.activeBundleKey with
      | none => rfl
      | some key => exact lookup_append (valid.pointed key named) _
    · intro _
      have missing : s.catalogue.find? (fun entry => entry.1 = bundle.key) = none := Option.map_eq_none_iff.mp absent
      simp [catalogue, lookup, List.find?_append, missing]

end ConfigurationStore

/-! ## The manager -/

namespace ConfigurationManager

open ConfigurationStore

variable {m m' : ConfigurationManager P} {selfTest : Trial} {call : Activation}

theorem onStore_of_eq {α : Type} {x : Call (ConfigurationStore P) Error α} {r : Except Error α} {s : ConfigurationStore P}
    (h : x m.store = (r, s)) : onStore x m = (r, { m with store := s }) := Call.zoom_of_eq h

/-- Staging leaves the active bundle alone, and what it returns is staged. -/
theorem stage_spec (valid : m.store.Valid) (raw : RawBundle) (now : DateTime)
    {r : Except Error (ConfigurationBundle × String × String)} (h : stage raw now m = (r, m')) :
    m'.store.Valid ∧ m'.store.active = m.store.active ∧ m'.store.activations = m.store.activations ∧
      ∀ bundle sha256 path, r = .ok (bundle, sha256, path) → (lookup m'.store.catalogue bundle.key).isSome = true := by
  unfold stage at h
  cases validated : validate raw with
  | error e =>
      rw [Call.bind_of_error (by rw [Call.lift_apply, validated])] at h
      cases h
      exact ⟨valid, rfl, rfl, nofun⟩
  | ok bundle =>
      rw [Call.bind_of_ok (by rw [Call.lift_apply, validated])] at h
      rcases stored : onArtifacts (ContentAddressedArtifactStore.putBytes (P.canonicalJsonBytes (bundle.modelDump P))
        "application/json" false configurationBundlePolicy { scenarioRunId := some ("configuration:" ++ bundle.bundleId) }
        now) m with ⟨r₁, m₁⟩
      have kept : m₁.store = m.store := (congrArg (fun out => out.2.store) stored).symm
      cases r₁ with
      | error e =>
          rw [Call.bind_of_error stored] at h
          cases h
          rw [kept]
          exact ⟨valid, rfl, rfl, nofun⟩
      | ok ref =>
          rw [Call.bind_of_ok stored] at h
          rcases staged : ConfigurationStore.stage bundle ref.sha256 ("sha256:" ++ ref.sha256) m₁.store with ⟨r₂, s₂⟩
          have zoomed := onStore_of_eq staged
          obtain ⟨valid₂, active₂, activations₂, there⟩ := ConfigurationStore.stage_spec (kept ▸ valid) bundle _ _ staged
          rw [kept] at active₂ activations₂
          cases r₂ with
          | error e =>
              rw [Call.bind_of_error zoomed] at h
              cases h
              exact ⟨valid₂, active₂, activations₂, nofun⟩
          | ok _ =>
              rw [Call.bind_of_ok zoomed] at h
              cases h
              refine ⟨valid₂, active₂, activations₂, ?_⟩
              intro bundle' sha256 path same
              cases same
              exact there rfl

/-- The bundle gets as far as the pointer: it can be staged and passes the self
    test. -/
def Installs (m : ConfigurationManager P) (selfTest : Trial) (call : Activation) (bundle : ConfigurationBundle) : Prop :=
  ∃ sha256 path m' reasons, stage call.raw call.storedAt m = (.ok (bundle, sha256, path), m') ∧
    selfTest bundle = .ok (true, reasons)

/-- The ids a call draws are new. -/
def Fresh (m : ConfigurationManager P) (call : Activation) : Prop :=
  (∀ r ∈ m.store.activations, r.activationId ≠ call.activationId ∧ r.activationId ≠ call.rollbackId) ∧
    call.activationId ≠ call.rollbackId

/-- A call that raises, or returns the record of a rejection or a rollback, leaves
    the active bundle as it was. -/
def FailsSafely (m : ConfigurationManager P) (selfTest : Trial) (call : Activation) : Prop :=
  (∀ record, (activate selfTest call m).1 = .ok record → record.state ≠ .active) →
    (activate selfTest call m).2.store.active = m.store.active

/-- What `activate` does with a bundle that is staged. -/
def conclude (selfTest : Trial) (call : Activation) (previous : Option ConfigurationBundle) (bundle : ConfigurationBundle)
    (bundleSha256 : String) : ManagerCall P (ConfigurationActivationRecord P) := do
  let (passed, reasons) ← Call.lift (selfTest bundle)
  if !passed then do
    let rejected := activationRecord bundle previous bundleSha256 .rejected ("self_test_failed" :: reasons)
      call.activationId call.activatedAt
    onStore (ConfigurationStore.record rejected)
    pure rejected
  else do
    let activated := activationRecord bundle previous bundleSha256 .active ["self_test_passed"]
      call.activationId call.activatedAt
    onStore (ConfigurationStore.activate bundle activated)
    match call.canary with
    | none => pure activated
    | some canary => do
        let (canaryPassed, canaryReasons) ← Call.lift (canary bundle)
        if !canaryPassed then do
          let rolledBack := activationRecord bundle previous bundleSha256 .rolledBack ("canary_failed" :: canaryReasons)
            call.rollbackId call.rolledBackAt
          onStore (ConfigurationStore.rollback bundle previous rolledBack)
          pure rolledBack
        else pure activated

theorem activate_staged {bundle : ConfigurationBundle} {sha256 path : String}
    (staged : stage call.raw call.storedAt m = (.ok (bundle, sha256, path), m')) :
    activate selfTest call m = conclude selfTest call m.store.active bundle sha256 m' := by
  unfold activate
  rw [Call.read_bind, Call.bind_of_ok staged]
  rfl

theorem activate_unstaged {e : Error} (staged : stage call.raw call.storedAt m = (.error e, m')) :
    activate selfTest call m = (.error e, m') := by
  unfold activate
  rw [Call.read_bind, Call.bind_of_error staged]

/-- The ways a staged bundle can go, with what is returned or raised and the store
    that is left. -/
inductive Concludes (selfTest : Trial) (call : Activation) (previous : Option ConfigurationBundle)
    (bundle : ConfigurationBundle) (sha256 : String) (s : ConfigurationStore P) :
    Except Error (ConfigurationActivationRecord P) → ConfigurationStore P → Prop where
  | untested {e : Error} (tested : selfTest bundle = .error e) :
      Concludes selfTest call previous bundle sha256 s (.error e) s
  | rejects {reasons : List String} {r : Except Error Unit} {s' : ConfigurationStore P}
      {rejected : ConfigurationActivationRecord P} (tested : selfTest bundle = .ok (false, reasons))
      (named : rejected = activationRecord bundle previous sha256 .rejected ("self_test_failed" :: reasons)
        call.activationId call.activatedAt)
      (recorded : ConfigurationStore.record rejected s = (r, s')) :
      Concludes selfTest call previous bundle sha256 s (r.map fun _ => rejected) s'
  | refused {reasons : List String} {e : Error} {s' : ConfigurationStore P}
      {activated : ConfigurationActivationRecord P} (tested : selfTest bundle = .ok (true, reasons))
      (named : activated = activationRecord bundle previous sha256 .active ["self_test_passed"]
        call.activationId call.activatedAt)
      (installed : ConfigurationStore.activate bundle activated s = (.error e, s')) :
      Concludes selfTest call previous bundle sha256 s (.error e) s'
  | stays {reasons : List String} {s' : ConfigurationStore P}
      {activated : ConfigurationActivationRecord P} (tested : selfTest bundle = .ok (true, reasons))
      (named : activated = activationRecord bundle previous sha256 .active ["self_test_passed"]
        call.activationId call.activatedAt)
      (installed : ConfigurationStore.activate bundle activated s = (.ok (), s'))
      (calm : ∀ canary, call.canary = some canary → ∃ canaryReasons, canary bundle = .ok (true, canaryReasons)) :
      Concludes selfTest call previous bundle sha256 s (.ok activated) s'
  | unproven {reasons : List String} {canary : Trial} {e : Error} {s' : ConfigurationStore P}
      {activated : ConfigurationActivationRecord P} (tested : selfTest bundle = .ok (true, reasons))
      (named : activated = activationRecord bundle previous sha256 .active ["self_test_passed"]
        call.activationId call.activatedAt)
      (installed : ConfigurationStore.activate bundle activated s = (.ok (), s'))
      (shown : call.canary = some canary) (raises : canary bundle = .error e) :
      Concludes selfTest call previous bundle sha256 s (.error e) s'
  | rollsBack {reasons canaryReasons : List String} {canary : Trial} {r : Except Error Unit}
      {s' s'' : ConfigurationStore P} {activated rolledBack : ConfigurationActivationRecord P}
      (tested : selfTest bundle = .ok (true, reasons))
      (named : activated = activationRecord bundle previous sha256 .active ["self_test_passed"]
        call.activationId call.activatedAt)
      (installed : ConfigurationStore.activate bundle activated s = (.ok (), s'))
      (shown : call.canary = some canary) (fails : canary bundle = .ok (false, canaryReasons))
      (named' : rolledBack = activationRecord bundle previous sha256 .rolledBack ("canary_failed" :: canaryReasons)
        call.rollbackId call.rolledBackAt)
      (returned : ConfigurationStore.rollback bundle previous rolledBack s' = (r, s'')) :
      Concludes selfTest call previous bundle sha256 s (r.map fun _ => rolledBack) s''

/-- A write followed by the record it returns. -/
theorem onStore_returning {α : Type} (x : Call (ConfigurationStore P) Error Unit) (a : α) (m : ConfigurationManager P) :
    ((onStore x >>= fun _ => pure a) : ManagerCall P α) m =
      ((x m.store).1.map fun _ => a, { m with store := (x m.store).2 }) := by
  cases h : x m.store with
  | mk r s =>
      cases r with
      | error e => exact Call.bind_of_error (onStore_of_eq h)
      | ok _ => exact Call.bind_of_ok (onStore_of_eq h)

theorem conclude_concludes (previous : Option ConfigurationBundle) (bundle : ConfigurationBundle) (sha256 : String)
    (m : ConfigurationManager P) :
    Concludes selfTest call previous bundle sha256 m.store (conclude selfTest call previous bundle sha256 m).1
      (conclude selfTest call previous bundle sha256 m).2.store := by
  unfold conclude
  cases tested : selfTest bundle with
  | error e =>
      rw [Call.bind_of_error (Call.lift_apply _ _)]
      exact .untested tested
  | ok verdict =>
      obtain ⟨passed, reasons⟩ := verdict
      rw [Call.bind_of_ok (Call.lift_apply _ _)]
      cases passed with
      | false =>
          simp only [Bool.not_false, if_true]
          rw [onStore_returning]
          exact .rejects tested rfl rfl
      | true =>
          simp only [Bool.not_true, Bool.false_eq_true, if_false]
          cases installed : ConfigurationStore.activate bundle (activationRecord bundle previous sha256 .active
              ["self_test_passed"] call.activationId call.activatedAt) m.store with
          | mk r s' =>
              cases r with
              | error e =>
                  rw [Call.bind_of_error (onStore_of_eq installed)]
                  exact .refused tested rfl installed
              | ok _ =>
                  rw [Call.bind_of_ok (onStore_of_eq installed)]
                  cases shown : call.canary with
                  | none => exact .stays tested rfl installed (by rw [shown]; nofun)
                  | some canary =>
                      dsimp only
                      cases verdict : canary bundle with
                      | error e =>
                          rw [Call.bind_of_error (Call.lift_apply _ _)]
                          exact .unproven tested rfl installed shown verdict
                      | ok verdict' =>
                          obtain ⟨canaryPassed, canaryReasons⟩ := verdict'
                          rw [Call.bind_of_ok (Call.lift_apply _ _)]
                          cases canaryPassed with
                          | false =>
                              simp only [Bool.not_false, if_true]
                              rw [onStore_returning]
                              exact .rollsBack tested rfl installed shown verdict rfl rfl
                          | true =>
                              refine .stays tested rfl installed ?_
                              rw [shown]
                              rintro _ ⟨⟩
                              exact ⟨canaryReasons, verdict⟩

/-- A bundle that is not installed does not become active. -/
theorem activate_of_not_installs (valid : m.store.Valid) (turned : ∀ bundle, ¬ m.Installs selfTest call bundle) :
    (activate selfTest call m).2.store.active = m.store.active := by
  cases staged : stage call.raw call.storedAt m with
  | mk r m₁ =>
      obtain ⟨-, active₁, -, -⟩ := stage_spec valid _ _ staged
      cases r with
      | error e =>
          rw [activate_unstaged staged]
          exact active₁
      | ok result =>
          obtain ⟨bundle, sha256, path⟩ := result
          have passes : ∀ reasons, selfTest bundle ≠ .ok (true, reasons) :=
            fun reasons tested => turned bundle ⟨sha256, path, m₁, reasons, staged, tested⟩
          rw [activate_staged staged]
          have concludes := @conclude_concludes _ selfTest call m.store.active bundle sha256 m₁
          generalize (conclude selfTest call m.store.active bundle sha256 m₁).1 = r at concludes
          generalize (conclude selfTest call m.store.active bundle sha256 m₁).2.store = s at concludes ⊢
          cases concludes with
          | untested tested => exact active₁
          | rejects tested named recorded =>
              rename_i rejected
              have kept := record_active rejected m₁.store
              rw [recorded] at kept
              exact kept.trans active₁
          | refused tested => exact absurd tested (passes _)
          | stays tested => exact absurd tested (passes _)
          | unproven tested => exact absurd tested (passes _)
          | rollsBack tested => exact absurd tested (passes _)

/-- What becomes of a bundle that is installed: it stays active when the canary
    passes or raises, and gives way again when the canary fails. -/
theorem activate_of_installs (valid : m.store.Valid) (fresh : m.Fresh call) {bundle : ConfigurationBundle}
    (installs : m.Installs selfTest call bundle) :
    (∃ m₂, m₂.store.active.map ConfigurationBundle.key = some bundle.key ∧
      (m.store.active.map ConfigurationBundle.key = some bundle.key → m₂.store.active = m.store.active) ∧
      ((∃ record, record.state = .active ∧ activate selfTest call m = (.ok record, m₂) ∧
        ∀ canary e, call.canary = some canary → canary bundle ≠ .error e) ∨
      ∃ canary e, call.canary = some canary ∧ canary bundle = .error e ∧ activate selfTest call m = (.error e, m₂))) ∨
    ∃ record m₃, activate selfTest call m = (.ok record, m₃) ∧ m₃.store.active = m.store.active ∧
      ∀ canary e, call.canary = some canary → canary bundle ≠ .error e := by
  obtain ⟨sha256, path, m₁, reasons, staged, tested⟩ := installs
  obtain ⟨valid₁, active₁, activations₁, there⟩ := stage_spec valid _ _ staged
  have known := there _ _ _ rfl
  obtain ⟨new, rollbackNew, distinct⟩ : (∀ r ∈ m₁.store.activations, r.activationId ≠ call.activationId) ∧
      (∀ r ∈ m₁.store.activations, r.activationId ≠ call.rollbackId) ∧ call.activationId ≠ call.rollbackId := by
    rw [activations₁]
    exact ⟨fun r stored => (fresh.1 r stored).1, fun r stored => (fresh.1 r stored).2, fresh.2⟩
  obtain ⟨s₂, activated, catalogue₂, activations₂, pointer₂⟩ := @ConfigurationStore.activate_eq _ bundle
    (activationRecord bundle m.store.active sha256 .active ["self_test_passed"] call.activationId call.activatedAt)
    m₁.store new
  have active₂ : s₂.active = lookup m₁.store.catalogue bundle.key := by
    rw [active, bundleForKey_eq, pointer₂, catalogue₂]
    rfl
  have renamed : s₂.active.map ConfigurationBundle.key = some bundle.key := by
    obtain ⟨payload, found⟩ := Option.isSome_iff_exists.mp known
    rw [active₂, found, Option.map_some, lookup_key valid₁.keyed found]
  have reactivated : m.store.active.map ConfigurationBundle.key = some bundle.key → s₂.active = m.store.active := by
    intro already
    rw [← active₁] at already ⊢
    rw [valid₁.pointer] at already
    exact active_congr catalogue₂ (pointer₂.trans already.symm)
  rw [activate_staged staged]
  have concludes := @conclude_concludes _ selfTest call m.store.active bundle sha256 m₁
  cases ended : conclude selfTest call m.store.active bundle sha256 m₁ with
  | mk r m' =>
      rw [ended] at concludes
      dsimp only at concludes
      generalize left : m'.store = s' at concludes
      cases concludes with
      | untested other => exact absurd (tested.symm.trans other) (by simp)
      | rejects other => exact absurd (tested.symm.trans other) (by simp)
      | refused _ named installed =>
          rw [named, activated] at installed
          cases installed
      | stays _ named installed calm =>
          rw [named, activated] at installed
          cases installed
          refine .inl ⟨m', by rw [left]; exact renamed, by rw [left]; exact reactivated, .inl ⟨_, ?_, rfl, ?_⟩⟩
          · rw [named]
            rfl
          · intro canary e shown raises
            obtain ⟨canaryReasons, passed⟩ := calm canary shown
            rw [passed] at raises
            cases raises
      | unproven _ named installed shown raises =>
          rw [named, activated] at installed
          cases installed
          exact .inl ⟨m', by rw [left]; exact renamed, by rw [left]; exact reactivated, .inr ⟨_, _, shown, raises, rfl⟩⟩
      | rollsBack _ named installed shown fails named' returned =>
          rw [named, activated] at installed
          cases installed
          subst named'
          have later : ∀ r ∈ s₂.activations, r.activationId ≠ call.rollbackId := by
            rw [activations₂]
            intro r member
            cases List.mem_append.mp member with
            | inl old => exact rollbackNew r old
            | inr own =>
                rw [List.mem_singleton.mp own]
                exact distinct
          obtain ⟨s₃, rolled, catalogue₃, pointer₃⟩ := @rollback_eq _ bundle m.store.active
            (activationRecord _ _ _ _ _ call.rollbackId call.rolledBackAt) s₂ later
          rw [rolled] at returned
          cases returned
          refine .inr ⟨_, m', rfl, ?_, ?_⟩
          · rw [left]
            refine (active_congr (catalogue₃.trans catalogue₂) ?_).trans active₁
            rw [pointer₃, ← active₁, valid₁.pointer]
          · intro canary e shown' raises
            rw [shown] at shown'
            cases shown'
            rw [fails] at raises
            cases raises

/-! ## Histories -/

/-- What happens to a manager: bundles are staged or activated, and other parts of
    the program use the artifact store. -/
inductive Operation (P : Platform) where
  | stage (raw : RawBundle) (now : DateTime)
  | activate (call : Activation)
  | artifacts (artifacts : ContentAddressedArtifactStore P)

def step (selfTest : Trial) (m : ConfigurationManager P) : Operation P → ConfigurationManager P
  | .stage raw now => (stage raw now m).2
  | .activate call => (activate selfTest call m).2
  | .artifacts artifacts => { m with artifacts := artifacts }

/-- The manager after a history, from an empty store on. -/
def history (selfTest : Trial) (artifacts : ContentAddressedArtifactStore P) (ops : List (Operation P)) :
    ConfigurationManager P :=
  Foundation.run (step selfTest) { artifacts := artifacts } ops

/-- The bundle that is staged and the one it replaces stay staged. -/
theorem Concludes.valid {s s' : ConfigurationStore P} {previous : Option ConfigurationBundle} {bundle : ConfigurationBundle}
    {sha256 : String} {r : Except Error (ConfigurationActivationRecord P)}
    (concludes : Concludes selfTest call previous bundle sha256 s r s')
    (holds : Holds (bundle.key :: (previous.map ConfigurationBundle.key).toList) s) : s'.Valid := by
  have onward : ∀ {x : ConfigurationCall P Unit} {t t' : ConfigurationStore P} {r : Except Error Unit},
      Call.Preserves (Holds (bundle.key :: (previous.map ConfigurationBundle.key).toList)) x → x t = (r, t') →
      Holds (bundle.key :: (previous.map ConfigurationBundle.key).toList) t →
      Holds (bundle.key :: (previous.map ConfigurationBundle.key).toList) t' := by
    intro x t t' r preserves ended before
    have after := preserves t before
    rw [ended] at after
    exact after
  cases concludes with
  | untested tested => exact holds.1
  | rejects tested named recorded => exact (onward (Holds.record _ _) recorded holds).1
  | refused tested named installed => exact (onward (Holds.activate _ List.mem_cons_self) installed holds).1
  | stays tested named installed calm => exact (onward (Holds.activate _ List.mem_cons_self) installed holds).1
  | unproven tested named installed shown raises =>
      exact (onward (Holds.activate _ List.mem_cons_self) installed holds).1
  | rollsBack tested named installed shown fails named' returned =>
      refine (onward (Holds.rollback _ _ ?_) returned (onward (Holds.activate _ List.mem_cons_self) installed holds)).1
      intro previous same
      exact List.mem_cons_of_mem _ (by simp [same])

theorem activate_valid (valid : m.store.Valid) : (activate selfTest call m).2.store.Valid := by
  cases staged : stage call.raw call.storedAt m with
  | mk r m₁ =>
      obtain ⟨valid₁, active₁, -, there⟩ := stage_spec valid _ _ staged
      cases r with
      | error e =>
          rw [activate_unstaged staged]
          exact valid₁
      | ok result =>
          obtain ⟨bundle, sha256, path⟩ := result
          rw [activate_staged staged]
          apply (conclude_concludes m.store.active bundle sha256 m₁).valid
          refine ⟨valid₁, ?_⟩
          intro key member
          cases List.mem_cons.mp member with
          | inl own =>
              rw [own]
              exact there bundle sha256 path rfl
          | inr previous =>
              rw [← active₁, valid₁.pointer] at previous
              exact valid₁.pointed key (Option.mem_toList.mp previous)

theorem history_valid (selfTest : Trial) (artifacts : ContentAddressedArtifactStore P) (ops : List (Operation P)) :
    (history selfTest artifacts ops).store.Valid := by
  have keeps : ∀ (m : ConfigurationManager P) (op : Operation P), m.store.Valid → (step selfTest m op).store.Valid := by
    intro m op valid
    cases op with
    | stage raw now => exact (stage_spec valid raw now rfl).1
    | activate call => exact activate_valid valid
    | artifacts artifacts => exact valid
  exact run_invariant keeps Valid.empty ops

/-- After any history, a call fails safely exactly when the canary of a bundle that
    is installed does not raise, unless that bundle is the active one already. -/
theorem activation_fails_safely_iff (selfTest : Trial) (artifacts : ContentAddressedArtifactStore P)
    (ops : List (Operation P)) (call : Activation) (fresh : (history selfTest artifacts ops).Fresh call) :
    (history selfTest artifacts ops).FailsSafely selfTest call ↔
      ∀ bundle canary e, (history selfTest artifacts ops).Installs selfTest call bundle → call.canary = some canary →
        canary bundle = .error e →
        (history selfTest artifacts ops).store.active.map ConfigurationBundle.key = some bundle.key := by
  have valid := history_valid selfTest artifacts ops
  revert fresh valid
  generalize history selfTest artifacts ops = m
  intro fresh valid
  constructor
  · intro safe bundle canary e installs shown raises
    rcases activate_of_installs valid fresh installs with
      ⟨m₂, renamed, -, ⟨record, -, -, calm⟩ | ⟨canary', e', -, -, ended⟩⟩ | ⟨record, m₃, -, -, calm⟩
    · exact absurd raises (calm canary e shown)
    · have same := safe (by rw [ended]; exact nofun)
      rw [ended] at same
      rw [← same]
      exact renamed
    · exact absurd raises (calm canary e shown)
  · intro steady failed
    by_cases installs : ∃ bundle, m.Installs selfTest call bundle
    · obtain ⟨bundle, installs⟩ := installs
      rcases activate_of_installs valid fresh installs with
        ⟨m₂, -, reactivated, ⟨record, state, ended, -⟩ | ⟨canary, e, shown, raises, ended⟩⟩ | ⟨record, m₃, ended, restored, -⟩
      · exact absurd state (failed record (by rw [ended]))
      · rw [ended]
        exact reactivated (steady bundle canary e installs shown raises)
      · rw [ended]
        exact restored
    · exact activate_of_not_installs valid (not_exists.mp installs)

/-- A bundle with one workload. -/
def sampleBundle (version : String) : ConfigurationBundle where
  bundleId := "default"
  version := version
  actor := "operator"
  workloads := [{
    workloadId := "smoke"
    hazard := .wildfire
    tier := .immediate
    periodMs := 1000
    deadlineMs := 500
    maxDeferralMs := 0
    estimatedCostMs := 10
    memoryMb := 16
    profileId := "cpu" }]
  createdAt := 0

instance : NeZero 100 := ⟨by decide⟩

def sampleCall (version : String) (n : Fin 100) (canary : Option Trial) : Activation where
  raw := .bundle (sampleBundle version)
  canary := canary
  storedAt := n.val
  activationId := UUID.ofNat (2 * n.val)
  activatedAt := n.val
  rollbackId := UUID.ofNat (2 * n.val + 1)
  rolledBackAt := n.val

/-- The self test passes; version 1 is active. -/
def sampleHistory : ConfigurationManager Platform.hexadecimal :=
  history (fun _ => .ok (true, [])) (ContentAddressedArtifactStore.create 100000 10) [.activate (sampleCall "1" 1 none)]

theorem failed_canary_fails_safely :
    sampleHistory.FailsSafely (fun _ => .ok (true, [])) (sampleCall "2" 2 (some fun _ => .ok (false, ["too slow"]))) := by
  refine (activation_fails_safely_iff _ _ _ _ ?_).mpr ?_
  · have fresh : ∀ P, Platform.spelled = P → (history (P := P) (fun _ => .ok (true, []))
        (ContentAddressedArtifactStore.create 100000 10) [.activate (sampleCall "1" 1 none)]).Fresh
          (sampleCall "2" 2 (some fun _ => .ok (false, ["too slow"]))) := by
      rintro _ rfl
      exact ⟨by decide +kernel, by decide +kernel⟩
    exact fresh Platform.hexadecimal spelled_eq
  · rintro bundle _ e - ⟨⟩ ⟨⟩

/-- A canary that raises leaves its bundle active. -/
theorem raising_canary_stays_active :
    ¬ sampleHistory.FailsSafely (fun _ => .ok (true, [])) (sampleCall "2" 2 (some fun _ => .error .assertionError)) := by
  unfold sampleHistory
  intro safe
  have left : ∀ P, Platform.spelled = P →
      (activate (fun _ => .ok (true, [])) (sampleCall "2" 2 (some fun _ => .error .assertionError))
        (history (P := P) (fun _ => .ok (true, [])) (ContentAddressedArtifactStore.create 100000 10)
          [.activate (sampleCall "1" 1 none)])).1.isOk = false ∧
      (activate (fun _ => .ok (true, [])) (sampleCall "2" 2 (some fun _ => .error .assertionError))
        (history (P := P) (fun _ => .ok (true, [])) (ContentAddressedArtifactStore.create 100000 10)
          [.activate (sampleCall "1" 1 none)])).2.store.active.map ConfigurationBundle.version ≠
        (history (P := P) (fun _ => .ok (true, [])) (ContentAddressedArtifactStore.create 100000 10)
          [.activate (sampleCall "1" 1 none)]).store.active.map ConfigurationBundle.version := by
    rintro _ rfl
    exact ⟨by decide +kernel, by decide +kernel⟩
  obtain ⟨raised, moved⟩ := left Platform.hexadecimal spelled_eq
  have same := safe (by
    intro record returned
    rw [returned] at raised
    cases raised)
  apply moved
  rw [same]

end ConfigurationManager

end SentinelEdge.Configuration
