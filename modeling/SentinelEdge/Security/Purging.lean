import SentinelEdge.Security.Revocation

/-! # What a purge expires

A purge compares the texts of two times. It expires the grants that have expired exactly if the
texts are in the order of the instants, which they need not be for times of two zones.
-/

namespace SentinelEdge.Security

open Domain Foundation

namespace ProtectedLocalStateStore

variable {P : Platform} {s t : ProtectedLocalStateStore P} {grantId : UUID} {r : Revocation}

/-- No grant that has expired is active after the purge, and those active before that have not
    expired still are. -/
structure PurgesExactly (s : ProtectedLocalStateStore P) (now : Timestamp) : Prop where
  gone : ∀ grantId row, (purgeExpired now s).2.grants.get? grantId = some row → row.state = .active →
    now.instant < row.grant.expiresAt.instant
  left : ∀ grantId row, s.grants.get? grantId = some row → row.state = .active →
    now.instant < row.grant.expiresAt.instant → stateOf grantId (purgeExpired now s).2 = some .active

/-- The expiry times of the active grants are as texts where they are as instants. -/
def ExpiriesInOrder (s : ProtectedLocalStateStore P) (now : Timestamp) : Prop :=
  ∀ grantId row, s.grants.get? grantId = some row → row.state = .active →
    (row.grant.expiresAt.isoformat ≤ now.isoformat ↔ row.grant.expiresAt.instant ≤ now.instant)

/-- The grant that is returned is in the state that `grants()` reports for it. -/
def ReportsState (s : ProtectedLocalStateStore P) (a : GrantArguments) : Prop :=
  ∀ grant t, createGrant a s = (.ok grant, t) → stateOf grant.grantId t = some grant.state

/-- The revocation is one that its caller may ask for. -/
structure Revocation.Permitted (r : Revocation) : Prop where
  revokes : r.action ≠ .activate
  named : isBlank r.actor = false ∧ isBlank r.reason = false

theorem revoke_found (permitted : r.Permitted) {row : GrantRow} (found : s.grants.get? grantId = some row) :
    revoke grantId r s = (.ok (purgeReceipt row.grant r s), purged (purgeReceipt row.grant r s) s) := by
  have action : Checks.refuse (r.action = .activate) (Error.valueError "activate is not a revocation action") = .ok () :=
    Checks.refuse_eq_ok.mpr (decide_eq_false permitted.revokes)
  have named : Checks.refuse (isBlank r.actor || isBlank r.reason)
      (Error.valueError "revocation actor and reason are required") = .ok () :=
    Checks.refuse_eq_ok.mpr (by simp [permitted.named])
  have loaded : load grantId s = .ok { row.grant with state := row.state } := by simp [load, found]
  unfold revoke
  rw [action, named, Call.bind_of_ok (Call.lift_apply _ _), Call.bind_of_ok (Call.lift_apply _ _), Call.read_bind, loaded,
    Call.bind_of_ok (Call.lift_apply _ _), Call.read_bind, Call.modify_bind, Call.pure_apply]
  rfl

/-- Revoking grants that are there sets their states and no others. -/
theorem revokeAll_found (sound : Sound s) (permitted : r.Permitted) {ids : List UUID}
    (known : ∀ grantId ∈ ids, (s.grants.get? grantId).isSome = true) (other : UUID) :
    (revokeAll r ids s).2.grants.get? other =
      (s.grants.get? other).map fun row => if other ∈ ids then { row with state := r.action.state } else row := by
  induction ids generalizing s with
  | nil =>
      simp [revokeAll]
  | cons grantId ids ih =>
      obtain ⟨row, found⟩ := Option.isSome_iff_exists.mp (known grantId List.mem_cons_self)
      have own := (sound.grants grantId row found).1
      have after : ∀ id, (purged (purgeReceipt row.grant r s) s).grants.get? id =
          (s.grants.get? id).map fun row => if id = grantId then { row with state := r.action.state } else row := by
        intro id
        rw [purged, get?_setState]
        simp only [purgeReceipt, own]
      rw [revokeAll, Call.bind_of_ok (revoke_found permitted found), Call.bind_pure_state, ih (sound.purged _), after,
        Option.map_map]
      · congr 1
        funext row
        by_cases here : other = grantId
        · simp [here]
        · simp [here]
      · intro later member
        rw [after, Option.isSome_map]
        exact known later (List.mem_cons_of_mem _ member)

theorem mem_activeGrants {select : LocalAccessGrant → Bool} :
    grantId ∈ activeGrants select s ↔
      ∃ row, s.grants.get? grantId = some row ∧ row.state = .active ∧ select row.grant = true := by
  simp only [activeGrants, List.mem_map, List.mem_filter, Bool.and_eq_true, decide_eq_true_eq, Prod.exists,
    Dict.get?_eq_some_iff]
  constructor
  · rintro ⟨id, row, ⟨member, active, selected⟩, rfl⟩
    exact ⟨row, member, active, selected⟩
  · rintro ⟨row, member, active, selected⟩
    exact ⟨grantId, row, ⟨member, active, selected⟩, rfl⟩

/-- What a purge makes of a grant. -/
def expiredAt (now : Timestamp) (row : GrantRow) : GrantRow :=
  if row.state = .active ∧ row.grant.expiresAt.isoformat ≤ now.isoformat then { row with state := .expired } else row

theorem get?_purgeExpired (sound : Sound s) (now : Timestamp) (grantId : UUID) :
    (purgeExpired now s).2.grants.get? grantId = (s.grants.get? grantId).map (expiredAt now) := by
  have permitted : Revocation.Permitted
      { action := .retentionExpiry, actor := "system-retention", reason := "retention_expired", now := now } := by
    constructor
    · simp
    · constructor
      · show isBlank "system-retention" = false
        decide
      · show isBlank "retention_expired" = false
        decide
  unfold purgeExpired
  rw [Call.read_bind, revokeAll_found sound permitted]
  · simp only [byGrantId, List.mem_insertionSort, mem_activeGrants, decide_eq_true_eq]
    cases found : s.grants.get? grantId with
    | none => rfl
    | some row => simp [expiredAt, GrantLifecycleAction.state]
  · intro id member
    simp only [byGrantId, List.mem_insertionSort, mem_activeGrants] at member
    obtain ⟨row, found, -⟩ := member
    simp [found]

theorem purgesExactly_iff (sound : Sound s) (now : Timestamp) : PurgesExactly s now ↔ ExpiriesInOrder s now := by
  constructor
  · rintro ⟨gone, left⟩ grantId row found active
    have after := get?_purgeExpired sound now grantId
    rw [found, Option.map_some] at after
    constructor
    · intro early
      by_contra lasting
      have still := left grantId row found active (Int.not_le.mp lasting)
      simp [stateOf, after, expiredAt, active, early] at still
    · intro expired
      by_contra late
      have unchanged : expiredAt now row = row := by simp [expiredAt, late]
      rw [unchanged] at after
      exact absurd expired (Int.not_le.mpr (gone grantId row after active))
  · intro ordered
    constructor
    · intro grantId row' found' active'
      rw [get?_purgeExpired sound, Option.map_eq_some_iff] at found'
      obtain ⟨row, found, rfl⟩ := found'
      unfold expiredAt at active' ⊢
      split at active'
      · cases active'
      · next kept =>
          rw [if_neg kept]
          have late : ¬ row.grant.expiresAt.isoformat ≤ now.isoformat := fun early => kept ⟨active', early⟩
          rw [ordered grantId row found active'] at late
          exact Int.not_le.mp late
    · intro grantId row found active valid
      have late : ¬ row.grant.expiresAt.isoformat ≤ now.isoformat := by
        rw [ordered grantId row found active]
        exact Int.not_le.mpr valid
      simp [stateOf, get?_purgeExpired sound, found, expiredAt, late, active]

theorem createGrant_active (sound : Sound s) {a : GrantArguments} {grant : LocalAccessGrant}
    (created : createGrant a s = (.ok grant, t)) : grant.state = .active := by
  unfold createGrant at created
  cases made : newGrant P a with
  | error e =>
      rw [made, Call.bind_of_error (Call.lift_apply _ _)] at created
      cases created
  | ok new =>
      rw [made, Call.bind_of_ok (Call.lift_apply _ _), Call.read_bind] at created
      cases found : s.grants.get? new.grantId with
      | some row =>
          rw [found] at created
          cases created
          exact (sound.grants _ row found).2
      | none =>
          rw [found] at created
          cases created
          exact newGrant_active made

/-- A new grant is reported as it is returned, one that is there already only if it is active. -/
theorem reportsState_iff (sound : Sound s) (a : GrantArguments) : ReportsState s a ↔ ¬ Reissues s (.createGrant a) := by
  rw [← createGrant_issued_iff sound a]
  constructor
  · intro reports grant returned active
    rcases created : createGrant a s with ⟨result, t⟩
    rw [created] at returned
    cases returned
    exact active ▸ reports grant t created
  · intro issued grant t created
    have active := createGrant_active sound created
    have state := issued grant (congrArg Prod.fst created) active
    rw [created] at state
    rw [active]
    exact state

/-- In every store, a purge is exact at the times at which the texts of the expiry times are in
    order, and a grant is returned in the state that is reported for it unless it is there and no
    longer active. -/
theorem purge_exact_and_states_reported_iff (P : Platform) (ops : List ProtectedOperation) :
    (∀ now, PurgesExactly (run (step (P := P)) {} ops) now ↔ ExpiriesInOrder (run (step (P := P)) {} ops) now) ∧
    ∀ a, ReportsState (run (step (P := P)) {} ops) a ↔ ¬ Reissues (run (step (P := P)) {} ops) (.createGrant a) := by
  have sound : Sound (run (step (P := P)) {} ops) := run_invariant (fun _ op sound => sound.step op) sound_empty ops
  exact ⟨purgesExactly_iff sound, reportsState_iff sound⟩

/-- The operator's day ends at ten in the morning, two hours east. -/
def easternDay : GrantArguments := { operatorDay with expiresAt := ⟨28800000000, 7200000000⟩ }

def loggedOut : List ProtectedOperation := [.createGrant operatorDay, operatorLogout]

/-- At nine in the morning it is over, and its text is not; a grant that was logged out is
    returned as an active one. -/
theorem purge_and_creation_are_inexact :
    (¬ ∀ ops now, PurgesExactly (run (step (P := Platform.mixing)) {} ops) now) ∧
      ¬ ∀ ops a, ReportsState (run (step (P := Platform.mixing)) {} ops) a := by
  constructor
  · intro purges
    have kept : ((purgeExpired ⟨32400000000, 0⟩ (run (step (P := Platform.mixing)) {} [.createGrant easternDay])).2.grants.get?
        (newGrantId Platform.mixing easternDay)).any (fun row =>
          row.state = .active && row.grant.expiresAt.instant ≤ 32400000000) = true := by decide +kernel
    obtain ⟨row, found, ended⟩ := (Option.any_eq_true _ _).mp kept
    rw [Bool.and_eq_true, decide_eq_true_eq, decide_eq_true_eq] at ended
    exact absurd ended.2 (Int.not_le.mpr ((purges _ _).gone _ row found ended.1))
  · intro reports
    have differs : (createGrant operatorDay (run (step (P := Platform.mixing)) {} loggedOut)).1.toOption.any (fun grant =>
        stateOf grant.grantId (createGrant operatorDay (run (step (P := Platform.mixing)) {} loggedOut)).2 ≠
          some grant.state) = true := by decide +kernel
    obtain ⟨grant, returned, other⟩ := (Option.any_eq_true _ _).mp differs
    rw [Checks.toOption_eq_some] at returned
    have reported := reports loggedOut operatorDay grant
    generalize createGrant operatorDay (run (step (P := Platform.mixing)) {} loggedOut) = call at returned other reported
    obtain ⟨result, after⟩ := call
    cases returned
    exact of_decide_eq_true other (reported after rfl)

end ProtectedLocalStateStore

end SentinelEdge.Security
