import SentinelEdge.Security.ProtectedState

/-! # Revoked grants

A call leads to another store by revocations, or by one new row. From this it follows
that what is kept belongs to active grants, and that a revoked grant stays revoked.
`create_grant`, though, returns a revoked grant as the active one that was issued.
-/

namespace SentinelEdge.Security

open Domain Foundation

inductive ProtectedOperation where
  | createGrant (a : ProtectedLocalStateStore.GrantArguments)
  | putCache (a : ProtectedLocalStateStore.CacheArguments)
  | readCache (grantId : UUID) (key : String) (now : Timestamp)
  | queueAuthority (grantId : UUID) (payload : Json) (now : Timestamp)
  | revoke (grantId : UUID) (r : ProtectedLocalStateStore.Revocation)
  | purgePrincipal (principal : PrincipalRef) (r : ProtectedLocalStateStore.Revocation)
  | purgePrincipalId (principalId : String) (r : ProtectedLocalStateStore.Revocation)
  | purgeExpired (now : Timestamp)

namespace ProtectedLocalStateStore

variable {P : Platform} {s t u : ProtectedLocalStateStore P}

def step (s : ProtectedLocalStateStore P) : ProtectedOperation → ProtectedLocalStateStore P
  | .createGrant a => (createGrant a s).2
  | .putCache a => (putCache a s).2
  | .readCache grantId key now => (readCache grantId key now s).2
  | .queueAuthority grantId payload now => (queueAuthority grantId payload now s).2
  | .revoke grantId r => (revoke grantId r s).2
  | .purgePrincipal principal r => (purgePrincipal principal r s).2
  | .purgePrincipalId principalId r => (purgePrincipalId principalId r s).2
  | .purgeExpired now => (purgeExpired now s).2

/-- The receipts that a call returns. -/
def returned (s : ProtectedLocalStateStore P) : ProtectedOperation → List (ProtectedStatePurgeReceipt P)
  | .revoke grantId r => (revoke grantId r s).1.toOption.toList
  | .purgePrincipal principal r => (purgePrincipal principal r s).1.toOption.getD []
  | .purgePrincipalId principalId r => (purgePrincipalId principalId r s).1.toOption.getD []
  | .purgeExpired now => (purgeExpired now s).1.toOption.getD []
  | .createGrant _ => []
  | .putCache _ => []
  | .readCache _ _ _ => []
  | .queueAuthority _ _ _ => []

def stateOf (grantId : UUID) (s : ProtectedLocalStateStore P) : Option GrantState :=
  (s.grants.get? grantId).map GrantRow.state

/-- All that is kept belongs to active grants. -/
structure Clean (s : ProtectedLocalStateStore P) : Prop where
  cache : ∀ row ∈ s.cache, stateOf row.grantId s = some .active
  queue : ∀ row ∈ s.queue, stateOf row.grantId s = some .active

/-- The receipt counts what was there and is gone. -/
structure Accounts (s t : ProtectedLocalStateStore P) (receipt : ProtectedStatePurgeReceipt P) : Prop where
  cache : receipt.purgedCacheEntries = (cacheOf receipt.grantId s).length
  queue : receipt.purgedQueuedAuthority = (queueOf receipt.grantId s).length
  noCache : cacheOf receipt.grantId t = []
  noQueue : queueOf receipt.grantId t = []

/-- What a call may do where revoked grants keep nothing. -/
structure KeepsNothing (s : ProtectedLocalStateStore P) (op : ProtectedOperation) : Prop where
  clean : Clean (step s op)
  /-- A grant that is not active does not become active, -/
  lasting : ∀ grantId state, stateOf grantId s = some state → state ≠ .active →
    ∃ later, stateOf grantId (step s op) = some later ∧ later ≠ .active
  /-- nor is it returned as an active one. -/
  issued : ∀ a grant, op = .createGrant a → (createGrant a s).1 = .ok grant → grant.state = .active →
    stateOf grant.grantId (step s op) = some .active
  reads : ∀ grantId key now bytes, op = .readCache grantId key now → (readCache grantId key now s).1 = .ok bytes →
    ∃ row ∈ s.grants.get? grantId, row.state = .active ∧ now.instant < row.grant.expiresAt.instant ∧
      ∃ entry ∈ s.cache, entry.grantId = grantId ∧ entry.payload = bytes ∧ now.instant < entry.retentionExpiresAt.instant
  counts : ∀ receipt, receipt ∈ returned s op ∨ receipt ∈ (step s op).receipts.values ∧ receipt ∉ s.receipts.values →
    Accounts s (step s op) receipt

/-- The call asks for a grant that is there and no longer active. -/
def Reissues (s : ProtectedLocalStateStore P) : ProtectedOperation → Prop
  | .createGrant a => ∃ grant, newGrant P a = .ok grant ∧ ∃ state, stateOf grant.grantId s = some state ∧ state ≠ .active
  | _ => False

/-- Grants are stored under their ids, as they were issued. -/
structure Sound (s : ProtectedLocalStateStore P) : Prop extends Clean s where
  grants : ∀ grantId row, s.grants.get? grantId = some row → row.grant.grantId = grantId ∧ row.grant.state = .active

/-! ## Revocations one after another -/

inductive Purges : ProtectedLocalStateStore P → List (ProtectedStatePurgeReceipt P) → ProtectedLocalStateStore P → Prop where
  | nil (s : ProtectedLocalStateStore P) : Purges s [] s
  | cons {s t : ProtectedLocalStateStore P} {row : GrantRow} {r : Revocation} {receipts : List (ProtectedStatePurgeReceipt P)}
      (found : s.grants.get? row.grant.grantId = some row) (revokes : r.action ≠ .activate)
      (later : Purges (purged (purgeReceipt row.grant r s) s) receipts t) :
      Purges s (purgeReceipt row.grant r s :: receipts) t

variable {receipts : List (ProtectedStatePurgeReceipt P)} {receipt : ProtectedStatePurgeReceipt P}

theorem get?_setState (grantId other : UUID) (state : GrantState) (grants : Dict UUID GrantRow) :
    (setState grantId state grants).get? other =
      (grants.get? other).map fun row => if other = grantId then { row with state := state } else row := by
  unfold setState
  by_cases same : other = grantId
  · subst same
    cases found : grants.get? other with
    | none => simp [found]
    | some row => simp
  · cases found : grants.get? grantId with
    | none => simp [same]
    | some row => simp [Dict.get?_insert, same]

theorem stateOf_purged (grantId : UUID) (receipt : ProtectedStatePurgeReceipt P) (s : ProtectedLocalStateStore P) :
    stateOf grantId (purged receipt s) =
      (stateOf grantId s).map fun state => if grantId = receipt.grantId then receipt.resultingState else state := by
  rw [stateOf, purged, get?_setState, stateOf, Option.map_map, Option.map_map]
  congr 1
  funext row
  by_cases same : grantId = receipt.grantId
  · simp [same]
  · simp [same]

theorem cacheOf_purged (grantId : UUID) (receipt : ProtectedStatePurgeReceipt P) (s : ProtectedLocalStateStore P) :
    cacheOf grantId (purged receipt s) = if grantId = receipt.grantId then [] else cacheOf grantId s := by
  rw [cacheOf, purged, List.filter_filter]
  by_cases same : grantId = receipt.grantId
  · rw [if_pos same, List.filter_eq_nil_iff]
    simp [same]
  · rw [if_neg same, cacheOf]
    refine List.filter_congr fun row _ => ?_
    by_cases own : row.grantId = grantId
    · simp [own, same]
    · simp [own]

theorem queueOf_purged (grantId : UUID) (receipt : ProtectedStatePurgeReceipt P) (s : ProtectedLocalStateStore P) :
    queueOf grantId (purged receipt s) = if grantId = receipt.grantId then [] else queueOf grantId s := by
  rw [queueOf, purged, List.filter_filter]
  by_cases same : grantId = receipt.grantId
  · rw [if_pos same, List.filter_eq_nil_iff]
    simp [same]
  · rw [if_neg same, queueOf]
    refine List.filter_congr fun row _ => ?_
    by_cases own : row.grantId = grantId
    · simp [own, same]
    · simp [own]

theorem Sound.purged (sound : Sound s) (receipt : ProtectedStatePurgeReceipt P) :
    Sound (ProtectedLocalStateStore.purged receipt s) where
  grants := by
    intro grantId row found
    rw [ProtectedLocalStateStore.purged, get?_setState, Option.map_eq_some_iff] at found
    obtain ⟨before, found, rfl⟩ := found
    split
    · exact sound.grants grantId before found
    · exact sound.grants grantId before found
  cache := by
    intro row member
    obtain ⟨member, other⟩ := List.mem_filter.mp member
    rw [stateOf_purged, sound.cache row member, Option.map_some, if_neg (by simpa using other)]
  queue := by
    intro row member
    obtain ⟨member, other⟩ := List.mem_filter.mp member
    rw [stateOf_purged, sound.queue row member, Option.map_some, if_neg (by simpa using other)]

theorem Purges.sound (purges : Purges s receipts t) (sound : Sound s) : Sound t := by
  induction purges with
  | nil s => exact sound
  | cons found revokes later ih => exact ih (sound.purged _)

theorem Purges.lasting (purges : Purges s receipts t) {grantId : UUID} {state : GrantState}
    (before : stateOf grantId s = some state) (inactive : state ≠ .active) :
    ∃ after, stateOf grantId t = some after ∧ after ≠ .active := by
  induction purges generalizing state with
  | nil s => exact ⟨state, before, inactive⟩
  | @cons s t row r receipts found revokes later ih =>
      have next := stateOf_purged grantId (purgeReceipt row.grant r s) s
      rw [before, Option.map_some] at next
      refine ih next ?_
      split
      · exact fun active => revokes (GrantLifecycleAction.state_eq_active_iff.mp active)
      · exact inactive

theorem Purges.cacheOf_nil (purges : Purges s receipts t) {grantId : UUID} (none : cacheOf grantId s = []) :
    cacheOf grantId t = [] := by
  induction purges with
  | nil s => exact none
  | cons found revokes later ih =>
      apply ih
      rw [cacheOf_purged, none, ite_self]

theorem Purges.queueOf_nil (purges : Purges s receipts t) {grantId : UUID} (none : queueOf grantId s = []) :
    queueOf grantId t = [] := by
  induction purges with
  | nil s => exact none
  | cons found revokes later ih =>
      apply ih
      rw [queueOf_purged, none, ite_self]

/-- Each receipt counts what was there before the first of the revocations. -/
theorem Purges.accounts (purges : Purges s receipts t)
    (distinct : (receipts.map ProtectedStatePurgeReceipt.grantId).Nodup) (member : receipt ∈ receipts) :
    Accounts s t receipt := by
  induction purges with
  | nil s => cases member
  | @cons s t row r receipts found revokes later ih =>
      obtain ⟨unlisted, distinct⟩ := List.nodup_cons.mp distinct
      cases List.mem_cons.mp member with
      | inl here =>
          subst here
          exact {
            cache := rfl
            queue := rfl
            noCache := later.cacheOf_nil (by rw [cacheOf_purged]; exact if_pos rfl)
            noQueue := later.queueOf_nil (by rw [queueOf_purged]; exact if_pos rfl) }
      | inr there =>
          have other : receipt.grantId ≠ (purgeReceipt row.grant r s).grantId := by
            intro same
            exact unlisted (same ▸ List.mem_map_of_mem there)
          have rest := ih distinct there
          exact {
            cache := by rw [rest.cache, cacheOf_purged, if_neg other]
            queue := by rw [rest.queue, queueOf_purged, if_neg other]
            noCache := rest.noCache
            noQueue := rest.noQueue }

theorem Purges.recorded (purges : Purges s receipts t) (member : receipt ∈ t.receipts.values) :
    receipt ∈ s.receipts.values ∨ receipt ∈ receipts := by
  induction purges with
  | nil s => exact Or.inl member
  | @cons s t row r receipts found revokes later ih =>
      cases ih member with
      | inr listed => exact Or.inr (List.mem_cons_of_mem _ listed)
      | inl stored =>
          rw [purged] at stored
          dsimp only at stored
          split at stored
          · exact Or.inl stored
          · rename_i absent
            rw [Dict.values_insert_of_absent (by simpa using absent), List.mem_append, List.mem_singleton] at stored
            cases stored with
            | inl old => exact Or.inl old
            | inr new => exact Or.inr (new ▸ List.mem_cons_self)

/-! ## Calls -/

theorem load_ok {grantId : UUID} {grant : LocalAccessGrant} (loaded : load grantId s = .ok grant) :
    ∃ row, s.grants.get? grantId = some row ∧ grant = { row.grant with state := row.state } := by
  unfold load at loaded
  cases found : s.grants.get? grantId with
  | none => rw [found] at loaded; cases loaded
  | some row =>
      rw [found] at loaded
      exact ⟨row, rfl, (Except.ok.inj loaded).symm⟩

/-- A revocation raises and leaves the store as it is, or purges its grant. -/
theorem revoke_cases (grantId : UUID) (r : Revocation) (s : ProtectedLocalStateStore P) :
    (∃ e, revoke grantId r s = (.error e, s)) ∨
      ∃ row, s.grants.get? grantId = some row ∧ r.action ≠ .activate ∧
        revoke grantId r s = (.ok (purgeReceipt row.grant r s), purged (purgeReceipt row.grant r s) s) := by
  unfold revoke
  cases activates : Checks.refuse (r.action = .activate) (Error.valueError "activate is not a revocation action") with
  | error e => exact Or.inl ⟨e, by rw [Call.bind_of_error (Call.lift_apply _ _)]⟩
  | ok _ =>
      rw [Call.bind_of_ok (Call.lift_apply _ _)]
      cases blank : Checks.refuse (isBlank r.actor || isBlank r.reason)
          (Error.valueError "revocation actor and reason are required") with
      | error e => exact Or.inl ⟨e, by rw [Call.bind_of_error (Call.lift_apply _ _)]⟩
      | ok _ =>
          rw [Call.bind_of_ok (Call.lift_apply _ _), Call.read_bind]
          cases loaded : load grantId s with
          | error e => exact Or.inl ⟨e, by rw [Call.bind_of_error (Call.lift_apply _ _)]⟩
          | ok grant =>
              obtain ⟨row, found, rfl⟩ := load_ok loaded
              refine Or.inr ⟨row, found, by simpa using activates, ?_⟩
              rw [Call.bind_of_ok (Call.lift_apply _ _), Call.read_bind, Call.modify_bind, Call.pure_apply]
              rfl

theorem revokeAll_purges (sound : Sound s) (r : Revocation) (ids : List UUID) :
    ∃ receipts, Purges s receipts (revokeAll r ids s).2 ∧
      (receipts.map ProtectedStatePurgeReceipt.grantId).Sublist ids ∧
      ∀ all, (revokeAll r ids s).1 = .ok all → all = receipts := by
  induction ids generalizing s with
  | nil => exact ⟨[], .nil s, List.Sublist.refl _, fun all done => (Except.ok.inj done).symm⟩
  | cons grantId ids ih =>
      rcases revoke_cases grantId r s with ⟨e, raised⟩ | ⟨row, found, revokes, done⟩
      · rw [revokeAll, Call.bind_of_error raised]
        exact ⟨[], .nil s, List.nil_sublist _, fun all done => by cases done⟩
      · have own : row.grant.grantId = grantId := (sound.grants grantId row found).1
        subst own
        obtain ⟨receipts, purges, among, listed⟩ := ih (sound.purged (purgeReceipt row.grant r s))
        rw [revokeAll, Call.bind_of_ok done, Call.bind_pure_state]
        refine ⟨purgeReceipt row.grant r s :: receipts, .cons found revokes purges, among.cons_cons _, ?_⟩
        intro all whole
        rcases rest : revokeAll r ids (purged (purgeReceipt row.grant r s) s) with ⟨result, t⟩
        rw [rest] at listed
        cases result with
        | error e =>
            rw [Call.bind_of_error rest] at whole
            cases whole
        | ok later =>
            rw [Call.bind_of_ok rest, Call.pure_apply] at whole
            rw [← Except.ok.inj whole, listed later rfl]

theorem nodup_activeGrants (select : LocalAccessGrant → Bool) (s : ProtectedLocalStateStore P) :
    (activeGrants select s).Nodup :=
  s.grants.nodup.sublist (List.filter_sublist.map Prod.fst)

theorem nodup_byGrantId {ids : List UUID} (distinct : ids.Nodup) : (byGrantId ids).Nodup :=
  (List.perm_insertionSort _ ids).nodup_iff.mpr distinct

/-- An active grant that has not expired is found as it is; otherwise the call raises, and
    may have revoked the grant. -/
theorem requireActive_cases (sound : Sound s) (grantId : UUID) (scope : String) (now : Timestamp) :
    (∃ row, s.grants.get? grantId = some row ∧ row.state = .active ∧ now.instant < row.grant.expiresAt.instant ∧
      requireActive grantId scope now s = (.ok { row.grant with state := row.state }, s)) ∨
    ∃ e t receipts, requireActive grantId scope now s = (.error e, t) ∧ Purges s receipts t ∧
      (receipts.map ProtectedStatePurgeReceipt.grantId).Nodup := by
  unfold requireActive
  rw [Call.read_bind]
  cases loaded : load grantId s with
  | error e => exact Or.inr ⟨e, s, [], Call.bind_of_error (Call.lift_apply _ _), .nil s, List.nodup_nil⟩
  | ok grant =>
      obtain ⟨row, found, rfl⟩ := load_ok loaded
      rw [Call.bind_of_ok (Call.lift_apply _ _)]
      by_cases active : row.state = .active
      · rw [Checks.refuse, if_neg (by simpa using active), Call.bind_of_ok (Call.lift_apply _ _)]
        by_cases expired : row.grant.expiresAt.instant ≤ now.instant
        · refine Or.inr ?_
          rw [expire, if_pos expired]
          rcases revoke_cases row.grant.grantId
            { action := .retentionExpiry, actor := "system", reason := "grant_expired", now := now } s with
            ⟨e, raised⟩ | ⟨other, same, revokes, done⟩
          · exact ⟨e, s, [], by rw [Call.bind_of_error (Call.bind_of_error raised)], .nil s, List.nodup_nil⟩
          · have own := (sound.grants grantId row found).1
            rw [own, found] at same
            obtain rfl := Option.some.inj same
            exact ⟨_, _, _, by rw [Call.bind_of_error (by rw [Call.bind_of_ok done, Call.raise_apply])],
              .cons (own.symm ▸ found) revokes (.nil _), List.nodup_singleton _⟩
        · rw [expire, if_neg expired, Call.bind_of_ok (Call.pure_apply _ _)]
          cases permitted : Checks.refuse (decide (scope ∉ ({ row.grant with state := row.state } : LocalAccessGrant).scope))
              (Error.permissionError "local access grant scope mismatch") with
          | error e => exact Or.inr ⟨e, s, [], Call.bind_of_error (Call.lift_apply _ _), .nil s, List.nodup_nil⟩
          | ok _ =>
              refine Or.inl ⟨row, found, active, Int.not_le.mp expired, ?_⟩
              rw [Call.bind_of_ok (Call.lift_apply _ _), Call.pure_apply]
      · rw [Checks.refuse, if_pos (by simpa using active), Call.bind_of_error (Call.lift_apply _ _)]
        exact Or.inr ⟨_, s, [], rfl, .nil s, List.nodup_nil⟩

/-- What a call may do to the store, with the receipts it makes. -/
inductive Changes (s : ProtectedLocalStateStore P) :
    List (ProtectedStatePurgeReceipt P) → ProtectedLocalStateStore P → Prop where
  | purge {receipts : List (ProtectedStatePurgeReceipt P)} {t : ProtectedLocalStateStore P} (purges : Purges s receipts t)
      (distinct : (receipts.map ProtectedStatePurgeReceipt.grantId).Nodup) : Changes s receipts t
  | issue {grant : LocalAccessGrant} (fresh : s.grants.get? grant.grantId = none) (active : grant.state = .active) :
      Changes s [] { s with grants := s.grants.insert grant.grantId ⟨grant.state, grant⟩ }
  | keep {rows : List (ProtectedCacheEntry P)}
      (held : ∀ row ∈ rows, row ∈ s.cache ∨ stateOf row.grantId s = some .active) : Changes s [] { s with cache := rows }
  | enqueue {rows : List (QueuedAuthority P)}
      (held : ∀ row ∈ rows, row ∈ s.queue ∨ stateOf row.grantId s = some .active) : Changes s [] { s with queue := rows }

theorem Changes.none (s : ProtectedLocalStateStore P) : Changes s [] s := .purge (.nil s) List.nodup_nil

theorem stateOf_issue {grant : LocalAccessGrant} (fresh : s.grants.get? grant.grantId = none) {grantId : UUID}
    {state : GrantState} (before : stateOf grantId s = some state) :
    stateOf grantId { s with grants := s.grants.insert grant.grantId ⟨grant.state, grant⟩ } = some state := by
  have other : grantId ≠ grant.grantId := by
    intro same
    rw [stateOf, same, fresh] at before
    cases before
  rw [stateOf, Dict.get?_insert, if_neg other]
  exact before

theorem Changes.sound (changes : Changes s receipts t) (sound : Sound s) : Sound t := by
  cases changes with
  | purge purges _ => exact purges.sound sound
  | issue fresh active =>
      exact {
        grants := by
          intro grantId row found
          rw [Dict.get?_insert] at found
          split at found
          · rename_i own
            cases found
            exact ⟨own.symm, active⟩
          · exact sound.grants grantId row found
        cache := fun row member => stateOf_issue fresh (sound.cache row member)
        queue := fun row member => stateOf_issue fresh (sound.queue row member) }
  | keep held =>
      exact {
        grants := sound.grants
        cache := fun row member => (held row member).elim (sound.cache row) id
        queue := sound.queue }
  | enqueue held =>
      exact {
        grants := sound.grants
        cache := sound.cache
        queue := fun row member => (held row member).elim (sound.queue row) id }

theorem Changes.lasting (changes : Changes s receipts t) {grantId : UUID} {state : GrantState}
    (before : stateOf grantId s = some state) (inactive : state ≠ .active) :
    ∃ after, stateOf grantId t = some after ∧ after ≠ .active := by
  cases changes with
  | purge purges _ => exact purges.lasting before inactive
  | issue fresh _ => exact ⟨state, stateOf_issue fresh before, inactive⟩
  | keep _ => exact ⟨state, before, inactive⟩
  | enqueue _ => exact ⟨state, before, inactive⟩

theorem Changes.accounts (changes : Changes s receipts t)
    (made : receipt ∈ receipts ∨ receipt ∈ t.receipts.values ∧ receipt ∉ s.receipts.values) : Accounts s t receipt := by
  cases changes with
  | purge purges distinct =>
      rcases made with listed | ⟨stored, new⟩
      · exact purges.accounts distinct listed
      · exact purges.accounts distinct ((purges.recorded stored).resolve_left new)
  | issue _ _ => rcases made with listed | ⟨stored, new⟩; cases listed; exact absurd stored new
  | keep _ => rcases made with listed | ⟨stored, new⟩; cases listed; exact absurd stored new
  | enqueue _ => rcases made with listed | ⟨stored, new⟩; cases listed; exact absurd stored new

theorem newGrant_active {a : GrantArguments} {grant : LocalAccessGrant} (made : newGrant P a = .ok grant) :
    grant.state = .active := by
  unfold newGrant at made
  split at made
  · cases made
  · split at made
    · split at made
      · cases made
      · cases made
        rfl
    · cases made

theorem createGrant_changes (a : GrantArguments) (s : ProtectedLocalStateStore P) : Changes s [] (createGrant a s).2 := by
  unfold createGrant
  cases made : newGrant P a with
  | error e =>
      rw [Call.bind_of_error (Call.lift_apply _ _)]
      exact .none s
  | ok grant =>
      rw [Call.bind_of_ok (Call.lift_apply _ _), Call.read_bind]
      cases found : s.grants.get? grant.grantId with
      | some row => exact .none s
      | none => exact .issue found (newGrant_active made)

theorem putCache_changes (sound : Sound s) (a : CacheArguments) : ∃ receipts, Changes s receipts (putCache a s).2 := by
  unfold putCache
  rcases requireActive_cases sound a.grantId a.scope a.now with
    ⟨row, found, active, -, returned⟩ | ⟨e, t, receipts, raised, purges, distinct⟩
  · rw [Call.bind_of_ok returned]
    cases kept : Checks.refuse (a.retentionExpiresAt.instant ≤ a.now.instant)
        (Error.valueError "cache retention expiry must be in the future") with
    | error e =>
        rw [Call.bind_of_error (Call.lift_apply _ _)]
        exact ⟨[], .none s⟩
    | ok _ =>
        rw [Call.bind_of_ok (Call.lift_apply _ _), Call.read_bind]
        cases free : Checks.refuse (! s.cache.any (isKept a.grantId (keyDigest P a.key)) &&
            s.cache.any (fun row => row.cacheId = (cacheEntry P a).cacheId)) (Error.integrityError "protected_cache_entries") with
        | error e =>
            rw [Call.bind_of_error (Call.lift_apply _ _)]
            exact ⟨[], .none s⟩
        | ok _ =>
            rw [Call.bind_of_ok (Call.lift_apply _ _), Call.modify_bind, Call.pure_apply]
            have own : stateOf a.grantId s = some .active := by rw [stateOf, found, Option.map_some, active]
            refine ⟨[], ?_⟩
            unfold upsert
            split
            · refine .keep fun row member => ?_
              obtain ⟨before, old, rfl⟩ := List.mem_map.mp member
              split
              · exact Or.inr own
              · exact Or.inl old
            · refine .keep fun row member => ?_
              cases List.mem_append.mp member with
              | inl old => exact Or.inl old
              | inr new => exact Or.inr (by rw [List.mem_singleton.mp new]; exact own)
  · rw [Call.bind_of_error raised]
    exact ⟨receipts, .purge purges distinct⟩

theorem queueAuthority_changes (sound : Sound s) (grantId : UUID) (payload : Json) (now : Timestamp) :
    ∃ receipts, Changes s receipts (queueAuthority grantId payload now s).2 := by
  unfold queueAuthority
  rcases requireActive_cases sound grantId "queued_authority" now with
    ⟨row, found, active, -, returned⟩ | ⟨e, t, receipts, raised, purges, distinct⟩
  · rw [Call.bind_of_ok returned, Call.modify_bind, Call.pure_apply]
    refine ⟨[], ?_⟩
    unfold enqueue
    split
    · exact .none s
    · refine .enqueue fun row' member => ?_
      cases List.mem_append.mp member with
      | inl old => exact Or.inl old
      | inr new =>
          rw [List.mem_singleton.mp new]
          exact Or.inr (by rw [stateOf, queuedAuthority, found, Option.map_some, active])
  · rw [Call.bind_of_error raised]
    exact ⟨receipts, .purge purges distinct⟩

/-- A read returns an entry in time, or raises. -/
theorem readCache_cases (sound : Sound s) (grantId : UUID) (key : String) (now : Timestamp) :
    (∃ row, s.grants.get? grantId = some row ∧ row.state = .active ∧ now.instant < row.grant.expiresAt.instant ∧
      ∃ entry ∈ s.cache, entry.grantId = grantId ∧ now.instant < entry.retentionExpiresAt.instant ∧
        readCache grantId key now s = (.ok entry.payload, s)) ∨
    ∃ e t receipts, readCache grantId key now s = (.error e, t) ∧ Changes s receipts t := by
  unfold readCache
  rcases requireActive_cases sound grantId "protected_cache" now with
    ⟨row, found, active, valid, returned⟩ | ⟨e, t, receipts, raised, purges, distinct⟩
  · rw [Call.bind_of_ok returned, Call.read_bind]
    cases looked : s.cache.find? (isKept grantId (keyDigest P key)) with
    | none => exact Or.inr ⟨_, s, [], rfl, .none s⟩
    | some entry =>
        have own := List.find?_some looked
        rw [isKept, Bool.and_eq_true, decide_eq_true_eq] at own
        by_cases stale : entry.retentionExpiresAt.instant ≤ now.instant
        · refine Or.inr ?_
          dsimp only
          rw [if_pos stale, Call.modify_bind, Call.raise_apply]
          exact ⟨_, _, [], rfl, .keep fun row member => Or.inl (List.mem_filter.mp member).1⟩
        · refine Or.inl ⟨row, found, active, valid, entry, List.mem_of_find?_eq_some looked, own.1, Int.not_le.mp stale, ?_⟩
          dsimp only
          rw [if_neg stale, Call.pure_apply]
  · exact Or.inr ⟨e, t, receipts, Call.bind_of_error raised, .purge purges distinct⟩

theorem revokeAll_changes (sound : Sound s) (r : Revocation) {ids : List UUID} (distinct : ids.Nodup) :
    ∃ receipts, Changes s receipts (revokeAll r ids s).2 ∧
      ∀ receipt ∈ (revokeAll r ids s).1.toOption.getD [], receipt ∈ receipts := by
  obtain ⟨receipts, purges, among, listed⟩ := revokeAll_purges sound r ids
  refine ⟨receipts, .purge purges (distinct.sublist among), ?_⟩
  cases whole : (revokeAll r ids s).1 with
  | error e => exact List.forall_mem_nil _
  | ok all =>
      rw [listed all whole]
      exact fun receipt member => member

theorem step_changes (sound : Sound s) (op : ProtectedOperation) :
    ∃ receipts, Changes s receipts (step s op) ∧ ∀ receipt ∈ returned s op, receipt ∈ receipts := by
  cases op with
  | createGrant a => exact ⟨[], createGrant_changes a s, List.forall_mem_nil _⟩
  | putCache a =>
      obtain ⟨receipts, changes⟩ := putCache_changes sound a
      exact ⟨receipts, changes, List.forall_mem_nil _⟩
  | readCache grantId key now =>
      rcases readCache_cases sound grantId key now with ⟨row, _, _, _, entry, _, _, _, done⟩ | ⟨e, t, receipts, raised, changes⟩
      · refine ⟨[], ?_, List.forall_mem_nil _⟩
        rw [step, done]
        exact .none s
      · refine ⟨receipts, ?_, List.forall_mem_nil _⟩
        rw [step, raised]
        exact changes
  | queueAuthority grantId payload now =>
      obtain ⟨receipts, changes⟩ := queueAuthority_changes sound grantId payload now
      exact ⟨receipts, changes, List.forall_mem_nil _⟩
  | revoke grantId r =>
      rw [step, returned]
      rcases revoke_cases grantId r s with ⟨e, raised⟩ | ⟨row, found, revokes, done⟩
      · rw [raised]
        exact ⟨[], .none s, List.forall_mem_nil _⟩
      · rw [done]
        have own : s.grants.get? row.grant.grantId = some row := by
          rw [(sound.grants grantId row found).1]
          exact found
        exact ⟨_, .purge (.cons own revokes (.nil _)) (List.nodup_singleton _), fun receipt member => member⟩
  | purgePrincipal principal r => exact revokeAll_changes sound r (nodup_activeGrants _ s)
  | purgePrincipalId principalId r => exact revokeAll_changes sound r (nodup_byGrantId (nodup_activeGrants _ s))
  | purgeExpired now => exact revokeAll_changes sound _ (nodup_byGrantId (nodup_activeGrants _ s))

theorem Sound.step (sound : Sound s) (op : ProtectedOperation) : Sound (step s op) := by
  obtain ⟨receipts, changes, -⟩ := step_changes sound op
  exact changes.sound sound

theorem sound_empty : Sound ({} : ProtectedLocalStateStore P) where
  cache := List.forall_mem_nil _
  queue := List.forall_mem_nil _
  grants := fun _ _ found => by cases found

/-- A grant is returned as it was issued, whatever became of it. -/
theorem createGrant_issued_iff (sound : Sound s) (a : GrantArguments) :
    (∀ grant, (createGrant a s).1 = .ok grant → grant.state = .active → stateOf grant.grantId (createGrant a s).2 = some .active) ↔
      ¬ Reissues s (.createGrant a) := by
  unfold createGrant
  cases made : newGrant P a with
  | error e =>
      rw [Call.bind_of_error (Call.lift_apply _ _)]
      refine iff_of_true (fun grant done => by cases done) ?_
      rintro ⟨grant, done, -⟩
      rw [made] at done
      cases done
  | ok grant =>
      rw [Call.bind_of_ok (Call.lift_apply _ _), Call.read_bind]
      cases found : s.grants.get? grant.grantId with
      | none =>
          refine iff_of_true ?_ ?_
          · intro issued done active
            cases done
            show ((s.grants.insert grant.grantId ⟨grant.state, grant⟩).get? grant.grantId).map GrantRow.state = some .active
            rw [Dict.get?_insert_self, Option.map_some, active]
          · rintro ⟨other, done, state, known, -⟩
            rw [made] at done
            cases done
            rw [stateOf, found] at known
            cases known
      | some row =>
          obtain ⟨own, active⟩ := sound.grants _ row found
          have known : stateOf grant.grantId s = some row.state := by rw [stateOf, found, Option.map_some]
          constructor
          · rintro issued ⟨other, done, state, here, inactive⟩
            rw [made] at done
            cases done
            have still := issued row.grant rfl active
            rw [own] at still
            exact inactive (Option.some.inj (here.symm.trans still))
          · intro keeps issued done _
            cases done
            rw [own]
            by_cases current : row.state = .active
            · rw [← current]
              exact known
            · exact absurd ⟨grant, made, row.state, known, current⟩ keeps

theorem keepsNothing_iff (sound : Sound s) (op : ProtectedOperation) : KeepsNothing s op ↔ ¬ Reissues s op := by
  constructor
  · intro keeps
    cases op with
    | createGrant a => exact (createGrant_issued_iff sound a).mp fun grant => keeps.issued a grant rfl
    | _ => exact id
  · intro keeps
    obtain ⟨receipts, changes, listed⟩ := step_changes sound op
    exact {
      clean := (changes.sound sound).toClean
      lasting := fun grantId state before inactive => changes.lasting before inactive
      issued := by
        intro a grant own
        subst own
        exact (createGrant_issued_iff sound a).mpr keeps grant
      reads := by
        intro grantId key now bytes own done
        rcases readCache_cases sound grantId key now with
          ⟨row, found, active, valid, entry, member, kept, fresh, there⟩ | ⟨e, t, _, raised, _⟩
        · rw [there] at done
          exact ⟨row, found, active, valid, entry, member, kept, Except.ok.inj done, fresh⟩
        · rw [raised] at done
          cases done
      counts := fun receipt made => changes.accounts (made.imp_left (listed receipt)) }

/-- Revoked grants keep nothing, and stay revoked, exactly in the runs that never ask
    for one of them again. -/
theorem revoked_grants_keep_nothing_iff (P : Platform) (ops : List ProtectedOperation) :
    Meets (step (P := P)) KeepsNothing {} ops ↔ Meets (step (P := P)) (fun s op => ¬ Reissues s op) {} ops :=
  Meets.congr (I := fun s : ProtectedLocalStateStore P => Sound s) (fun _ op sound => keepsNothing_iff sound op)
    (fun _ op sound _ => sound.step op) sound_empty ops

/-- A day on which the operator may read what is kept on the device. -/
def operatorDay : GrantArguments where
  principal := { principalId := "operator", roles := [] }
  scope := ["protected_cache"]
  expiresAt := ⟨86400000000, 0⟩
  issuedAt := ⟨0, 0⟩

def operatorLogout : ProtectedOperation :=
  .revoke (newGrantId Platform.mixing operatorDay) ⟨.logout, "operator", "logout", ⟨1000000, 0⟩⟩

/-- The grant is logged out and asked for again. -/
theorem revoked_grant_returned_active : ¬ Meets (step (P := Platform.mixing)) KeepsNothing {}
    [.createGrant operatorDay, operatorLogout, .createGrant operatorDay] := by
  rintro ⟨-, -, last, -⟩
  refine (keepsNothing_iff ((sound_empty.step _).step _) _).mp last ?_
  have known : (newGrant Platform.mixing operatorDay).toOption.any (fun grant =>
      stateOf grant.grantId (run (step (P := Platform.mixing)) {} [.createGrant operatorDay, operatorLogout]) =
        some .revokedPolicy) = true := by
    decide +kernel
  cases made : newGrant Platform.mixing operatorDay with
  | error e =>
      rw [made] at known
      cases known
  | ok grant =>
      rw [made, Except.toOption, Option.any_some, decide_eq_true_eq] at known
      exact ⟨grant, made, .revokedPolicy, known, by decide⟩

end ProtectedLocalStateStore

end SentinelEdge.Security
