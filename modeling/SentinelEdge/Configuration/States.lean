import SentinelEdge.Configuration.Activation

/-! # Stored states and the pointer

Which bundle is active is written down twice: in the pointer and in the state
column. A bundle that is active already and is activated again may be turned down;
the rejection or the rollback then writes its own state last and the pointer stays.
Nothing else makes the two disagree.
-/

namespace SentinelEdge.Configuration

open Foundation Domain Storage

variable {P : Platform}

namespace ConfigurationStore

variable {s s' : ConfigurationStore P} {bundle : ConfigurationBundle} {activation : ConfigurationActivationRecord P}
  {r : Except Error Unit}

/-- The stored state of the active bundle is ACTIVE, and that of no other is. -/
def StatesAgree (s : ConfigurationStore P) : Prop :=
  ∀ bundle, s.active = some bundle → (s.row bundle.key).map BundleRow.state = some .active ∧
    ∀ r ∈ s.bundles, r.state = .active → r.bundleKey = bundle.key

/-- The rows in state ACTIVE are those that the pointer names. -/
def Marked (s : ConfigurationStore P) : Prop :=
  ∀ row ∈ s.bundles, row.state = .active ↔ s.activeBundleKey = some row.bundleKey

theorem row_of_active (valid : s.Valid) (active : s.active = some bundle) :
    s.activeBundleKey = some bundle.key ∧ ∃ row, s.row bundle.key = some row := by
  have pointer : s.activeBundleKey = some bundle.key := by rw [← valid.pointer, active, Option.map_some]
  refine ⟨pointer, ?_⟩
  rw [ConfigurationStore.active, bundleForKey, pointer, Option.bind_some] at active
  obtain ⟨row, found, -⟩ := Option.map_eq_some_iff.mp active
  exact ⟨row, found⟩

theorem row_found {key : String} {row : BundleRow} (found : s.row key = some row) : row ∈ s.bundles ∧ row.bundleKey = key :=
  ⟨List.mem_of_find?_eq_some found, by simpa using List.find?_some found⟩

theorem Marked.agree (marked : s.Marked) (valid : s.Valid) : s.StatesAgree := by
  intro bundle active
  obtain ⟨pointer, row, found⟩ := row_of_active valid active
  obtain ⟨member, named⟩ := row_found found
  constructor
  · rw [found, Option.map_some, (marked row member).mpr (by rw [pointer, named])]
  · intro other among state
    have same := (marked other among).mp state
    rw [pointer] at same
    exact (Option.some.inj same).symm

/-- With the pointer on a bundle that is not in state ACTIVE they disagree. -/
theorem not_agree (valid : s.Valid) {key : String} (pointer : s.activeBundleKey = some key)
    (other : ∀ row ∈ s.bundles, row.bundleKey = key → row.state ≠ .active) : ¬ s.StatesAgree := by
  intro agree
  cases active : s.active with
  | none =>
      rw [← valid.pointer, active] at pointer
      cases pointer
  | some bundle =>
      obtain ⟨same, row, found⟩ := row_of_active valid active
      obtain ⟨member, named⟩ := row_found found
      have state := (agree bundle active).1
      rw [found, Option.map_some] at state
      rw [pointer] at same
      exact other row member (named.trans (Option.some.inj same).symm) (Option.some.inj state)

/-! ## The writes -/

def mark (key : String) (state : ConfigurationState) (rows : List BundleRow) : List BundleRow :=
  rows.map (fun r => if r.bundleKey = key then { r with state := state } else r)

theorem mem_mark {key : String} {state : ConfigurationState} {rows : List BundleRow} {row : BundleRow}
    (member : row ∈ mark key state rows) :
    (row.bundleKey = key ∧ row.state = state) ∨ (row.bundleKey ≠ key ∧ row ∈ rows) := by
  obtain ⟨old, among, rfl⟩ := List.mem_map.mp member
  by_cases named : old.bundleKey = key
  · rw [if_pos named]
    exact Or.inl ⟨named, rfl⟩
  · rw [if_neg named]
    exact Or.inr ⟨named, among⟩

def Taken (s : ConfigurationStore P) (id : UUID) : Prop := ∃ old ∈ s.activations, old.activationId = id

/-- A record whose id is taken is refused and nothing is written; otherwise its state
    goes to its bundle. -/
theorem insertActivation_cases (activation : ConfigurationActivationRecord P) (s : ConfigurationStore P) :
    (s.Taken activation.activationId ∧ ∃ e, insertActivation activation s = (.error e, s)) ∨
    insertActivation activation s = (.ok (), { s with
      activations := s.activations ++ [activation]
      bundles := mark (activation.bundleId ++ "@" ++ activation.version) activation.state s.bundles }) := by
  cases clash : (activationsTable.rows s).any (activationsTable.clash activation) with
  | true =>
      obtain ⟨old, member, same⟩ := List.any_eq_true.mp clash
      exact Or.inl ⟨⟨old, member, (of_decide_eq_true same).symm⟩, _, Call.bind_of_error (Table.insert_of_clash clash)⟩
  | false => exact Or.inr (Call.bind_of_ok (Table.insert_of_fresh clash))

theorem record_leaves (h : record activation s = (r, s')) :
    (s.Taken activation.activationId ∧ s' = s) ∨ s'.activeBundleKey = s.activeBundleKey ∧
      s'.bundles = mark (activation.bundleId ++ "@" ++ activation.version) activation.state s.bundles := by
  cases insertActivation_cases activation s with
  | inl refused =>
      obtain ⟨taken, e, refused⟩ := refused
      rw [record, Call.atomically_of_error refused] at h
      cases h
      exact Or.inl ⟨taken, rfl⟩
  | inr inserted =>
      rw [record, Call.atomically_of_ok inserted] at h
      cases h
      exact Or.inr ⟨rfl, rfl⟩

/-- The rows once the bundle with the previous pointer has given way to the one with the key. -/
def retire (previous : Option String) (key : String) (rows : List BundleRow) : List BundleRow :=
  match previous with
  | some previous => if previous ≠ key then mark previous .lastKnownGood rows else rows
  | none => rows

theorem Marked.retired (marked : s.Marked) {key : String} {row : BundleRow}
    (member : row ∈ retire s.activeBundleKey key s.bundles) (other : row.bundleKey ≠ key) : row.state ≠ .active := by
  intro active
  cases pointer : s.activeBundleKey with
  | none =>
      rw [pointer] at member
      have named := (marked row member).mp active
      rw [pointer] at named
      cases named
  | some previous =>
      rw [pointer] at member
      have unmoved : row ∉ s.bundles ∨ row.bundleKey = previous := by
        by_cases among : row ∈ s.bundles
        · have named := (marked row among).mp active
          rw [pointer] at named
          exact Or.inr (Option.some.inj named).symm
        · exact Or.inl among
      by_cases apart : previous ≠ key
      · simp only [retire, if_pos apart] at member
        cases mem_mark member with
        | inl own =>
            rw [own.2] at active
            cases active
        | inr left => exact unmoved.elim (fun absent => absent left.2) left.1
      · simp only [retire, if_neg apart] at member
        exact unmoved.elim (fun absent => absent member) (fun named => other (named.trans (not_not.mp apart)))

/-- A bundle is recorded and the pointer moved, whatever becomes of the other pointer. -/
theorem installation_cases (bundle : ConfigurationBundle) (activation : ConfigurationActivationRecord P)
    (lastKnownGood : Option String → Option String) (s : ConfigurationStore P) :
    (s.Taken activation.activationId ∧ ∃ e, (do
      insertActivation activation
      let lastKnownGoodKey ← Call.read lastKnownGoodBundleKey
      setPointers (some bundle.key) (lastKnownGood lastKnownGoodKey)) s = (.error e, s)) ∨
    (do
      insertActivation activation
      let lastKnownGoodKey ← Call.read lastKnownGoodBundleKey
      setPointers (some bundle.key) (lastKnownGood lastKnownGoodKey)) s = (.ok (), {
        bundles := mark (activation.bundleId ++ "@" ++ activation.version) activation.state s.bundles
        activations := s.activations ++ [activation]
        activeBundleKey := some bundle.key
        lastKnownGoodBundleKey := lastKnownGood s.lastKnownGoodBundleKey }) := by
  cases insertActivation_cases activation s with
  | inl refused =>
      obtain ⟨taken, e, refused⟩ := refused
      exact Or.inl ⟨taken, e, Call.bind_of_error refused⟩
  | inr inserted => exact Or.inr ((Call.bind_of_ok inserted).trans rfl)

theorem activate_cases (bundle : ConfigurationBundle) (activation : ConfigurationActivationRecord P)
    (s : ConfigurationStore P) :
    (s.Taken activation.activationId ∧ ∃ e, activate bundle activation s = (.error e, s)) ∨
    ∃ lastKnownGood, activate bundle activation s = (.ok (), {
      bundles := mark (activation.bundleId ++ "@" ++ activation.version) activation.state
        (retire s.activeBundleKey bundle.key s.bundles)
      activations := s.activations ++ [activation]
      activeBundleKey := some bundle.key
      lastKnownGoodBundleKey := lastKnownGood }) := by
  unfold activate
  cases pointer : s.activeBundleKey with
  | none =>
      cases installation_cases bundle activation (fun _ => none) s with
      | inl refused =>
          obtain ⟨taken, e, refused⟩ := refused
          exact Or.inl ⟨taken, e, Call.atomically_of_error (by rw [Call.read_bind, pointer]; exact refused)⟩
      | inr installed => exact Or.inr ⟨_, Call.atomically_of_ok (by rw [Call.read_bind, pointer]; exact installed)⟩
  | some previous =>
      by_cases other : previous ≠ bundle.key
      · cases installation_cases bundle activation (fun key => if some previous ≠ some bundle.key then some previous else key)
            { s with bundles := mark previous .lastKnownGood s.bundles } with
        | inl refused =>
            obtain ⟨taken, e, refused⟩ := refused
            refine Or.inl ⟨taken, e, Call.atomically_of_error
              (t := { s with bundles := mark previous .lastKnownGood s.bundles }) ?_⟩
            rw [Call.read_bind, pointer]
            rw [pointer] at refused
            simp only [if_pos other]
            exact (Call.bind_of_ok (by rw [← pointer]; rfl)).trans refused
        | inr installed =>
            refine Or.inr ⟨if some previous ≠ some bundle.key then some previous else s.lastKnownGoodBundleKey,
              Call.atomically_of_ok ?_⟩
            rw [Call.read_bind, pointer]
            rw [pointer] at installed
            simp only [if_pos other, retire]
            exact (Call.bind_of_ok (by rw [← pointer]; rfl)).trans installed
      · cases installation_cases bundle activation (fun key => if some previous ≠ some bundle.key then some previous else key)
            s with
        | inl refused =>
            obtain ⟨taken, e, refused⟩ := refused
            refine Or.inl ⟨taken, e, Call.atomically_of_error (t := s) ?_⟩
            rw [Call.read_bind, pointer]
            simp only [if_neg other]
            exact refused
        | inr installed =>
            refine Or.inr ⟨if some previous ≠ some bundle.key then some previous else s.lastKnownGoodBundleKey,
              Call.atomically_of_ok ?_⟩
            rw [Call.read_bind, pointer]
            simp only [if_neg other, retire]
            exact installed

theorem activate_leaves (marked : s.Marked) (named : activation.bundleId ++ "@" ++ activation.version = bundle.key)
    (state : activation.state = .active) (h : activate bundle activation s = (r, s')) :
    (s.Taken activation.activationId ∧ ∃ e, r = .error e ∧ s' = s) ∨
    r = .ok () ∧ s'.activations = s.activations ++ [activation] ∧ s'.activeBundleKey = some bundle.key ∧ s'.Marked := by
  cases activate_cases bundle activation s with
  | inl refused =>
      obtain ⟨taken, e, refused⟩ := refused
      rw [refused] at h
      cases h
      exact Or.inl ⟨taken, e, rfl, rfl⟩
  | inr installed =>
      obtain ⟨lastKnownGood, installed⟩ := installed
      rw [installed, named, state] at h
      cases h
      refine Or.inr ⟨rfl, rfl, rfl, ?_⟩
      intro row member
      cases mem_mark member with
      | inl own => simp [own.1, own.2]
      | inr other => simp [marked.retired other.2 other.1, Ne.symm other.1]

/-- The rows once the previous bundle is marked again. -/
def reinstate (previous : Option ConfigurationBundle) (rows : List BundleRow) : List BundleRow :=
  match previous with
  | some previous => mark previous.key .active rows
  | none => rows

/-- The state of the candidate is written last. -/
theorem rollback_cases (candidate : ConfigurationBundle) (previous : Option ConfigurationBundle)
    (activation : ConfigurationActivationRecord P) (s : ConfigurationStore P) :
    (s.Taken activation.activationId ∧ ∃ e, rollback candidate previous activation s = (.error e, s)) ∨
    rollback candidate previous activation s = (.ok (), {
      bundles := mark candidate.key .rolledBack (reinstate previous
        (mark (activation.bundleId ++ "@" ++ activation.version) activation.state s.bundles))
      activations := s.activations ++ [activation]
      activeBundleKey := previous.map ConfigurationBundle.key
      lastKnownGoodBundleKey := previous.map ConfigurationBundle.key }) := by
  unfold rollback
  cases insertActivation_cases activation s with
  | inl refused =>
      obtain ⟨taken, e, refused⟩ := refused
      exact Or.inl ⟨taken, e, Call.atomically_of_error (Call.bind_of_error refused)⟩
  | inr inserted =>
      cases previous with
      | none => exact Or.inr (Call.atomically_of_ok ((Call.bind_of_ok inserted).trans rfl))
      | some previous => exact Or.inr (Call.atomically_of_ok ((Call.bind_of_ok inserted).trans rfl))

/-- A candidate that is not the previous bundle gives the state back. -/
theorem rollback_marked {candidate : ConfigurationBundle} {previous : Option ConfigurationBundle} (marked : s.Marked)
    (pointer : s.activeBundleKey = some candidate.key)
    (named : activation.bundleId ++ "@" ++ activation.version = candidate.key)
    (apart : previous.map ConfigurationBundle.key ≠ some candidate.key)
    (h : rollback candidate previous activation s = (r, s')) : s'.Marked := by
  cases rollback_cases candidate previous activation s with
  | inl refused =>
      obtain ⟨taken, e, refused⟩ := refused
      rw [refused] at h
      cases h
      exact marked
  | inr returned =>
      rw [returned, named] at h
      cases h
      intro row member
      show row.state = .active ↔ previous.map ConfigurationBundle.key = some row.bundleKey
      cases mem_mark member with
      | inl own => simp [own.1, own.2, apart]
      | inr other =>
          obtain ⟨elsewhere, member⟩ := other
          have unmarked : ∀ old ∈ mark candidate.key activation.state s.bundles, old.bundleKey ≠ candidate.key →
              old.state ≠ .active := by
            intro old among apart active
            cases mem_mark among with
            | inl own => exact apart own.1
            | inr left =>
                have same := (marked old left.2).mp active
                rw [pointer] at same
                exact left.1 (Option.some.inj same).symm
          cases previous with
          | none => simp [unmarked row member elsewhere]
          | some previous =>
              cases mem_mark member with
              | inl own => simp [own.1, own.2]
              | inr left => simp [unmarked row left.2 elsewhere, Ne.symm left.1]

end ConfigurationStore

namespace ConfigurationManager

open ConfigurationStore

variable {m m' : ConfigurationManager P} {selfTest : Trial} {call : Activation}

/-! ## One call -/

theorem stage_marked (valid : m.store.Valid) (marked : m.store.Marked) (raw : RawBundle) (now : DateTime) :
    (stage raw now m).2.store.Marked := by
  have staged : ∀ bundle sha256 ref, ∀ s : ConfigurationStore P, s.Valid → s.Marked →
      (ConfigurationStore.stage bundle sha256 ref s).2.Marked := by
    intro bundle sha256 ref s valid marked
    unfold ConfigurationStore.stage
    rw [Call.read_bind]
    cases known : s.row bundle.key with
    | some existing =>
        dsimp only
        split
        · exact marked
        · exact marked
    | none =>
        intro row member
        cases List.mem_append.mp member with
        | inl old => exact marked row old
        | inr new =>
            rw [List.mem_singleton.mp new]
            have unnamed : s.activeBundleKey ≠ some bundle.key := by
              intro named
              have found := valid.pointed bundle.key named
              have same := bundleForKey_eq s (some bundle.key)
              rw [bundleForKey, Option.bind_some, known, Option.map_none, Option.bind_some] at same
              rw [← same] at found
              cases found
            constructor
            · intro active
              cases active
            · intro named
              exact absurd named unnamed
  unfold stage
  cases validated : validate raw with
  | error e =>
      rw [Call.bind_of_error (Call.lift_apply _ _)]
      exact marked
  | ok bundle =>
      rw [Call.bind_of_ok (Call.lift_apply _ _)]
      cases stored : onArtifacts (ContentAddressedArtifactStore.putBytes (P.canonicalJsonBytes (bundle.modelDump P))
        "application/json" false configurationBundlePolicy { scenarioRunId := some ("configuration:" ++ bundle.bundleId) }
        now) m with
      | mk r₁ m₁ =>
          have kept : m₁.store = m.store := (congrArg (fun out => out.2.store) stored).symm
          cases r₁ with
          | error e =>
              rw [Call.bind_of_error stored, kept]
              exact marked
          | ok ref =>
              rw [Call.bind_of_ok stored]
              have after := staged bundle ref.sha256 ("sha256:" ++ ref.sha256) m₁.store (kept ▸ valid) (kept ▸ marked)
              cases written : ConfigurationStore.stage bundle ref.sha256 ("sha256:" ++ ref.sha256) m₁.store with
              | mk r₂ s₂ =>
                  rw [written] at after
                  cases r₂ with
                  | error e =>
                      rw [Call.bind_of_error (onStore_of_eq written)]
                      exact after
                  | ok _ =>
                      rw [Call.bind_of_ok (onStore_of_eq written)]
                      exact after

/-- The bundle fails the self test, or passes it and fails the canary. -/
def TurnsDown (selfTest : Trial) (call : Activation) (bundle : ConfigurationBundle) : Prop :=
  (∃ reasons, selfTest bundle = .ok (false, reasons)) ∨
  ∃ reasons canary canaryReasons, selfTest bundle = .ok (true, reasons) ∧ call.canary = some canary ∧
    canary bundle = .ok (false, canaryReasons)

theorem Concludes.marked {s s' : ConfigurationStore P} {previous : Option ConfigurationBundle}
    {bundle : ConfigurationBundle} {sha256 : String} {r : Except Error (ConfigurationActivationRecord P)}
    (concludes : Concludes selfTest call previous bundle sha256 s r s') (marked : s.Marked)
    (pointer : s.activeBundleKey = previous.map ConfigurationBundle.key)
    (spares : TurnsDown selfTest call bundle → previous.map ConfigurationBundle.key ≠ some bundle.key) : s'.Marked := by
  have installs : ∀ {activated : ConfigurationActivationRecord P} {r : Except Error Unit} {t : ConfigurationStore P},
      activated = activationRecord bundle previous sha256 .active ["self_test_passed"] call.activationId call.activatedAt →
      ConfigurationStore.activate bundle activated s = (r, t) → t.Marked := by
    intro activated r t named installed
    cases activate_leaves marked (by rw [named]; rfl) (by rw [named]; rfl) installed with
    | inl refused =>
        obtain ⟨-, e, -, same⟩ := refused
        rw [same]
        exact marked
    | inr after => exact after.2.2.2
  cases concludes with
  | untested tested => exact marked
  | rejects tested named recorded =>
      cases record_leaves recorded with
      | inl refused =>
          rw [refused.2]
          exact marked
      | inr after =>
          obtain ⟨same, rows⟩ := after
          intro row member
          rw [rows, named] at member
          rw [same]
          cases mem_mark member with
          | inl own =>
              have apart := spares (Or.inl ⟨_, tested⟩)
              rw [own.1, own.2, pointer]
              constructor
              · intro active
                cases active
              · intro here
                exact absurd here apart
          | inr other => exact marked row other.2
  | refused tested named installed => exact installs named installed
  | stays tested named installed calm => exact installs named installed
  | unproven tested named installed shown raises => exact installs named installed
  | rollsBack tested named installed shown fails named' returned =>
      cases activate_leaves marked (by rw [named]; rfl) (by rw [named]; rfl) installed with
      | inl refused =>
          obtain ⟨-, e, raised, -⟩ := refused
          cases raised
      | inr after =>
          have apart := spares (Or.inr ⟨_, _, _, tested, shown, fails⟩)
          exact rollback_marked after.2.2.2 after.2.2.1 (by rw [named']; rfl) apart returned

/-- A bundle that is turned down although it is active leaves the pointer where it is. -/
theorem Concludes.spoils {s s' : ConfigurationStore P} {previous : Option ConfigurationBundle}
    {bundle : ConfigurationBundle} {sha256 : String} {r : Except Error (ConfigurationActivationRecord P)}
    (concludes : Concludes selfTest call previous bundle sha256 s r s') (marked : s.Marked)
    (pointer : s.activeBundleKey = some bundle.key) (same : previous.map ConfigurationBundle.key = some bundle.key)
    (fresh : ¬ s.Taken call.activationId ∧ ¬ s.Taken call.rollbackId ∧ call.activationId ≠ call.rollbackId)
    (turned : TurnsDown selfTest call bundle) :
    s'.activeBundleKey = some bundle.key ∧ ∀ row ∈ s'.bundles, row.bundleKey = bundle.key → row.state ≠ .active := by
  obtain ⟨new, rollbackNew, distinct⟩ := fresh
  have other : ∀ {state : ConfigurationState} {rows : List BundleRow}, state ≠ .active → ∀ row ∈ mark bundle.key state rows,
      row.bundleKey = bundle.key → row.state ≠ .active := by
    intro state rows apart row member named
    cases mem_mark member with
    | inl own =>
        rw [own.2]
        exact apart
    | inr left => exact absurd named left.1
  cases concludes with
  | untested tested =>
      rcases turned with ⟨_, fails⟩ | ⟨_, _, _, passes, -⟩
      · rw [tested] at fails
        cases fails
      · rw [tested] at passes
        cases passes
  | rejects tested named recorded =>
      subst named
      cases record_leaves recorded with
      | inl refused => exact absurd refused.1 new
      | inr after =>
          refine ⟨after.1.trans pointer, ?_⟩
          rw [after.2]
          exact other (show ConfigurationState.rejected ≠ .active by decide)
  | refused tested named installed =>
      subst named
      cases activate_leaves marked rfl rfl installed with
      | inl refused => exact absurd refused.1 new
      | inr after => cases after.1
  | stays tested named installed calm =>
      rcases turned with ⟨_, fails⟩ | ⟨_, canary, _, -, shown, fails⟩
      · rw [tested] at fails
        cases fails
      · obtain ⟨_, passes⟩ := calm canary shown
        rw [passes] at fails
        cases fails
  | unproven tested named installed shown raises =>
      rcases turned with ⟨_, fails⟩ | ⟨_, canary, _, -, shown', fails⟩
      · rw [tested] at fails
        cases fails
      · rw [shown] at shown'
        cases shown'
        rw [raises] at fails
        cases fails
  | @rollsBack _ _ _ _ s₁ _ _ rolledBack tested named installed shown fails named' returned =>
      subst named
      cases activate_leaves marked rfl rfl installed with
      | inl refused => exact absurd refused.1 new
      | inr after =>
          cases rollback_cases bundle previous rolledBack s₁ with
          | inl refused =>
              obtain ⟨⟨old, member, taken⟩, -⟩ := refused
              rw [named'] at taken
              rw [after.2.1] at member
              cases List.mem_append.mp member with
              | inl before => exact absurd ⟨old, before, taken⟩ rollbackNew
              | inr own =>
                  rw [List.mem_singleton.mp own] at taken
                  exact absurd taken distinct
          | inr done =>
              rw [done] at returned
              cases returned
              exact ⟨same, other (by decide)⟩

/-- The call stages the bundle and turns it down. -/
def Refuses (m : ConfigurationManager P) (selfTest : Trial) (call : Activation) (bundle : ConfigurationBundle) : Prop :=
  (∃ sha256 path m', stage call.raw call.storedAt m = (.ok (bundle, sha256, path), m')) ∧ TurnsDown selfTest call bundle

theorem activate_marked (valid : m.store.Valid) (marked : m.store.Marked)
    (spares : ∀ bundle, m.Refuses selfTest call bundle →
      m.store.active.map ConfigurationBundle.key ≠ some bundle.key) :
    (activate selfTest call m).2.store.Marked := by
  have after := stage_marked valid marked call.raw call.storedAt
  cases staged : stage call.raw call.storedAt m with
  | mk r m₁ =>
      rw [staged] at after
      obtain ⟨valid₁, active₁, -, -⟩ := stage_spec valid _ _ staged
      cases r with
      | error e =>
          rw [activate_unstaged staged]
          exact after
      | ok result =>
          obtain ⟨bundle, sha256, path⟩ := result
          rw [activate_staged staged]
          refine (conclude_concludes m.store.active bundle sha256 m₁).marked after ?_ ?_
          · rw [← valid₁.pointer, active₁]
          · intro turned
            exact spares bundle ⟨⟨sha256, path, m₁, staged⟩, turned⟩

theorem activate_spoils (valid : m.store.Valid) (marked : m.store.Marked) (fresh : m.Fresh call)
    {bundle : ConfigurationBundle} (refuses : m.Refuses selfTest call bundle)
    (same : m.store.active.map ConfigurationBundle.key = some bundle.key) :
    ¬ (activate selfTest call m).2.store.StatesAgree := by
  obtain ⟨⟨sha256, path, m₁, staged⟩, turned⟩ := refuses
  have after := stage_marked valid marked call.raw call.storedAt
  rw [staged] at after
  obtain ⟨valid₁, active₁, activations₁, -⟩ := stage_spec valid _ _ staged
  have pointer : m₁.store.activeBundleKey = some bundle.key := by rw [← valid₁.pointer, active₁, same]
  have new : ¬ m₁.store.Taken call.activationId ∧ ¬ m₁.store.Taken call.rollbackId ∧
      call.activationId ≠ call.rollbackId := by
    refine ⟨?_, ?_, fresh.2⟩
    · rintro ⟨old, member, taken⟩
      rw [activations₁] at member
      exact (fresh.1 old member).1 taken
    · rintro ⟨old, member, taken⟩
      rw [activations₁] at member
      exact (fresh.1 old member).2 taken
  have validAfter := @activate_valid _ m selfTest call valid
  rw [activate_staged staged] at validAfter ⊢
  obtain ⟨named, spoiled⟩ := (conclude_concludes m.store.active bundle sha256 m₁).spoils after pointer same new turned
  exact not_agree validAfter named spoiled

/-! ## Runs -/

/-- An operation with the self test of its moment; a callable need not answer the
    same twice. -/
abbrev Turn (P : Platform) := Trial × Operation P

def takeTurn (m : ConfigurationManager P) (turn : Turn P) : ConfigurationManager P := step turn.1 m turn.2

/-- The turn does not turn down the bundle that is active. -/
def SparesActive (m : ConfigurationManager P) (turn : Turn P) : Prop :=
  ∀ call bundle, turn.2 = .activate call → m.Refuses turn.1 call bundle →
    m.store.active.map ConfigurationBundle.key ≠ some bundle.key

/-- The ids that the turn draws are new. -/
def DrawsFresh (m : ConfigurationManager P) (turn : Turn P) : Prop := ∀ call, turn.2 = .activate call → m.Fresh call

theorem takeTurn_valid (valid : m.store.Valid) (turn : Turn P) : (m.takeTurn turn).store.Valid := by
  obtain ⟨selfTest, op⟩ := turn
  cases op with
  | stage raw now => exact (stage_spec valid raw now rfl).1
  | activate call => exact activate_valid valid
  | artifacts artifacts => exact valid

theorem takeTurn_marked (valid : m.store.Valid) (marked : m.store.Marked) {turn : Turn P} (spares : m.SparesActive turn) :
    (m.takeTurn turn).store.Marked := by
  obtain ⟨selfTest, op⟩ := turn
  cases op with
  | stage raw now => exact stage_marked valid marked raw now
  | activate call => exact activate_marked valid marked (fun bundle => spares call bundle rfl)
  | artifacts artifacts => exact marked

theorem takeTurn_spoils (valid : m.store.Valid) (marked : m.store.Marked) {turn : Turn P} (fresh : m.DrawsFresh turn)
    (agree : (m.takeTurn turn).store.StatesAgree) : m.SparesActive turn := by
  obtain ⟨selfTest, op⟩ := turn
  intro call bundle named refuses same
  dsimp only at named
  subst named
  exact activate_spoils valid marked (fresh call rfl) refuses same agree

theorem run_agrees_iff (valid : m.store.Valid) (marked : m.store.Marked) {turns : List (Turn P)}
    (fresh : Foundation.Meets takeTurn DrawsFresh m turns) :
    (∀ n, (Foundation.run takeTurn m (turns.take n)).store.StatesAgree) ↔
      Foundation.Meets takeTurn SparesActive m turns := by
  induction turns generalizing m with
  | nil =>
      constructor
      · intro _
        trivial
      · intro _ n
        rw [List.take_nil]
        exact marked.agree valid
  | cons turn turns ih =>
      have after := takeTurn_valid valid turn
      constructor
      · intro agree
        have spares := takeTurn_spoils valid marked fresh.1 (agree 1)
        refine ⟨spares, (ih after (takeTurn_marked valid marked spares) fresh.2).mp ?_⟩
        intro n
        exact agree (n + 1)
      · intro meets n
        cases n with
        | zero => exact marked.agree valid
        | succ n => exact (ih after (takeTurn_marked valid marked meets.1) fresh.2).mpr meets.2 n

/-- From an empty store on, the stored states and the pointer agree in every state
    reached exactly when no turn turns down the bundle that is active. -/
theorem states_follow_pointer_iff (artifacts : ContentAddressedArtifactStore P) (turns : List (Turn P))
    (fresh : Foundation.Meets takeTurn DrawsFresh { artifacts := artifacts } turns) :
    (∀ n, (Foundation.run takeTurn { artifacts := artifacts } (turns.take n)).store.StatesAgree) ↔
      Foundation.Meets takeTurn SparesActive { artifacts := artifacts } turns :=
  run_agrees_iff Valid.empty (by simp [Marked]) fresh

/-- Version 1 is activated and then activated once more. -/
def activatedTwice (canary : Option Trial) : List (Turn P) :=
  [(fun _ => .ok (true, []), .activate (sampleCall "1" 1 none)),
    (fun _ => .ok (true, []), .activate (sampleCall "1" 2 canary))]

theorem repeated_activation_keeps_the_state :
    (Foundation.run takeTurn ({ artifacts := ContentAddressedArtifactStore.create 100000 10 } :
      ConfigurationManager Platform.hexadecimal) ((activatedTwice none).take 2)).store.StatesAgree := by
  have fresh : ∀ P, Platform.spelled = P → ((takeTurn { artifacts := ContentAddressedArtifactStore.create 100000 10 }
      (fun _ => .ok (true, []), .activate (sampleCall "1" 1 none)) : ConfigurationManager P)).Fresh (sampleCall "1" 2 none) := by
    rintro _ rfl
    exact ⟨by decide +kernel, by decide +kernel⟩
  have new : Foundation.Meets takeTurn DrawsFresh ({ artifacts := ContentAddressedArtifactStore.create 100000 10 } :
      ConfigurationManager Platform.hexadecimal) (activatedTwice none) := by
    refine ⟨?_, ?_, trivial⟩
    · rintro _ ⟨⟩
      exact ⟨by simp, by decide⟩
    · rintro _ ⟨⟩
      exact fresh Platform.hexadecimal spelled_eq
  have spares : Foundation.Meets takeTurn SparesActive ({ artifacts := ContentAddressedArtifactStore.create 100000 10 } :
      ConfigurationManager Platform.hexadecimal) (activatedTwice none) := by
    refine ⟨?_, ?_, trivial⟩
    · rintro _ _ ⟨⟩ ⟨-, ⟨_, ⟨⟩⟩ | ⟨_, _, _, -, ⟨⟩, -⟩⟩
    · rintro _ _ ⟨⟩ ⟨-, ⟨_, ⟨⟩⟩ | ⟨_, _, _, -, ⟨⟩, -⟩⟩
  exact (states_follow_pointer_iff _ _ new).mpr spares 2

/-- A failing canary rolls the active bundle back to itself. -/
theorem repeated_activation_loses_the_state :
    ¬ (Foundation.run takeTurn ({ artifacts := ContentAddressedArtifactStore.create 100000 10 } :
      ConfigurationManager Platform.hexadecimal)
      (activatedTwice (some fun _ => .ok (false, ["too slow"])))).store.StatesAgree := by
  have left : ∀ P, Platform.spelled = P → ∀ s : ConfigurationStore P, s = (Foundation.run takeTurn
      { artifacts := ContentAddressedArtifactStore.create 100000 10 }
      (activatedTwice (some fun _ => .ok (false, ["too slow"])))).store →
      s.active.map ConfigurationBundle.key = some "default@1" ∧
      s.bundles.map (fun row => (row.bundleKey, row.state)) = [("default@1", .rolledBack)] := by
    intro P same s named
    rw [named]
    cases same
    exact ⟨by decide +kernel, by decide +kernel⟩
  intro agree
  obtain ⟨active, rows⟩ := left Platform.hexadecimal spelled_eq _ rfl
  obtain ⟨bundle, found, key⟩ := Option.map_eq_some_iff.mp active
  obtain ⟨row, here, state⟩ := Option.map_eq_some_iff.mp (agree bundle found).1
  have member := List.mem_map_of_mem (f := fun row => (row.bundleKey, row.state)) (row_found here).1
  rw [rows, List.mem_singleton] at member
  have other := congrArg Prod.snd member
  rw [state] at other
  cases other

end ConfigurationManager

end SentinelEdge.Configuration
