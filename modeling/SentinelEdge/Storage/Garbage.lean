import SentinelEdge.Storage.Budgets

/-! # Garbage collection

`collect_garbage` visits the registered digests in order and deletes those whose
combined policy lets them go. The combination takes the strictest word of all
registrations on everything but the retention, where it takes the earliest expiry
of those that name one: a registration that keeps the bytes for longer, or for good,
goes unheard.
-/

namespace SentinelEdge.Storage

open Foundation Domain

variable {P : Platform}

namespace ArtifactCatalog

/-- The id of a reference. -/
def referenceId (P : Platform) (sha256 : String) (kind : ArtifactReferenceKind) (owner reason : String)
    (expiresAt : Option DateTime) : UUID :=
  P.uuid5 ("sentinel-artifact-reference:" ++ sha256 ++ ":" ++ kind.value ++ ":" ++ owner ++ ":" ++ reason ++ ":" ++
    (expiresAt.map P.isoformat).getD "")

/-- `validate_reference` -/
def validateReference (r : ArtifactReference) : Except Error ArtifactReference :=
  if isBlank r.owner || isBlank r.reason then
    .error (.validationError "artifact reference owner and reason are required")
  else if r.expiresAt.any (fun expiry => expiry ≤ r.createdAt) then
    .error (.validationError "artifact reference expiry must follow creation")
  else .ok r

def addReference (sha256 : String) (kind : ArtifactReferenceKind) (owner reason : String) (expiresAt : Option DateTime)
    (createdAt : DateTime) : Call (ArtifactCatalog P) Error ArtifactReference := do
  let c ← Call.read id
  if (c.records sha256).isEmpty then Call.raise (.keyError sha256)
  else do
    let ref ← Call.lift (validateReference {
      referenceId := referenceId P sha256 kind owner reason expiresAt
      artifactSha256 := sha256
      kind := kind
      owner := owner
      reason := reason
      createdAt := createdAt
      expiresAt := expiresAt })
    match c.artifactReferences.find? (fun r => r.referenceId = ref.referenceId) with
    | some existing => pure existing
    | none => do
        Call.modify (fun c => { c with artifactReferences := c.artifactReferences ++ [ref] })
        pure ref

/-- `deletion_blockers` -/
def deletionBlockers (c : ArtifactCatalog P) (sha256 : String) (now : DateTime) : Except Error (List String) := do
  let policy ← c.effectivePolicy sha256
  let blockers := if policy.deletionPolicy ≠ .gcAllowed then ["policy:" ++ policy.deletionPolicy.value] else []
  .ok ((blockers ++ (c.references sha256 now).map (fun r =>
    "reference:" ++ r.kind.value ++ ":" ++ r.referenceId.str)).insertionSort (fun a b => a ≤ b))

end ArtifactCatalog

/-- What `collect_garbage` returns. -/
structure GarbageReport where
  deleted : List String
  blocked : List (String × List String)
  evaluatedAt : DateTime
  deriving DecidableEq

namespace ContentAddressedArtifactStore

/-- The body of the loop of `collect_garbage`. `clock` has the two readings of
    `delete_digest`, before it looks up the references and for its record. -/
def collectDigest (actor : String) (now : DateTime) (clock : String → DateTime × DateTime) (report : GarbageReport)
    (digest : String) : ArtifactCall P GarbageReport := do
  let a ← Call.read id
  let policy ← Call.lift (a.catalog.effectivePolicy digest)
  if policy.retentionExpiresAt.all (fun expiry => expiry > now) then pure report
  else do
    let blockers ← Call.lift (a.catalog.deletionBlockers digest now)
    if blockers ≠ [] then pure { report with blocked := report.blocked ++ [(digest, blockers)] }
    else do
      let result ← Call.attempt (deleteDigest digest actor false false (clock digest).1 (clock digest).2)
      match result with
      | .ok _ => pure { report with deleted := report.deleted ++ [digest] }
      | .error (.permissionError message) => pure { report with blocked := report.blocked ++ [(digest, [message])] }
      | .error e => Call.raise e

def collectDigests (actor : String) (now : DateTime) (clock : String → DateTime × DateTime) :
    List String → GarbageReport → ArtifactCall P GarbageReport
  | [], report => pure report
  | digest :: digests, report => do
      let report ← collectDigest actor now clock report digest
      collectDigests actor now clock digests report

/-- `sorted({item.sha256 for item in self.catalog.records()})` -/
def registeredDigests (a : ContentAddressedArtifactStore P) : List String :=
  sortedSet (a.catalog.registrations.map ArtifactRecord.sha256)

def collectGarbage (actor : String) (now : DateTime) (clock : String → DateTime × DateTime) :
    ArtifactCall P GarbageReport := do
  let digests ← Call.read registeredDigests
  collectDigests actor now clock digests ⟨[], [], now⟩

/-- What changes a store: deposits, references and collections. -/
inductive Operation where
  | deposit (op : Deposit)
  | addReference (sha256 : String) (kind : ArtifactReferenceKind) (owner reason : String) (expiresAt : Option DateTime)
      (createdAt : DateTime)
  | removeReference (referenceId : String)
  | collectGarbage (actor : String) (now : DateTime) (clock : String → DateTime × DateTime)

/-- The store after an operation, whether it returned or raised. -/
def operate (a : ContentAddressedArtifactStore P) : Operation → ContentAddressedArtifactStore P
  | .deposit op => a.deposit op
  | .addReference sha256 kind owner reason expiresAt createdAt =>
      { a with catalog := (ArtifactCatalog.addReference sha256 kind owner reason expiresAt createdAt a.catalog).2 }
  | .removeReference referenceId => { a with catalog := a.catalog.removeReference referenceId }
  | .collectGarbage actor now clock => (collectGarbage actor now clock a).2

def operations (a : ContentAddressedArtifactStore P) (ops : List Operation) : ContentAddressedArtifactStore P :=
  Foundation.run operate a ops

end ContentAddressedArtifactStore

/-! ## The combined policy -/

namespace ArtifactCatalog

variable {c : ArtifactCatalog P} {digest : String} {policy : ArtifactPolicy} {now : DateTime}

/-- The policies a digest is registered under. -/
def Imposes (c : ArtifactCatalog P) (digest : String) (policy : ArtifactPolicy) : Prop :=
  ∃ r ∈ c.registrations, r.sha256 = digest ∧ r.policy = policy

theorem mem_policies : policy ∈ (c.records digest).map ArtifactRecord.policy ↔ c.Imposes digest policy := by
  simp only [List.mem_map, records, List.mem_insertionSort, List.mem_filter, decide_eq_true_eq, Imposes, and_assoc]

/-- A policy whose retention has run out. -/
def ExpiredAt (policy : ArtifactPolicy) (now : DateTime) : Prop :=
  ∃ expiry, policy.retentionExpiresAt = some expiry ∧ expiry ≤ now

/-- The combination has run out as soon as one of the policies has. -/
theorem combined_expired (first : ArtifactPolicy) (rest : List ArtifactPolicy) :
    ExpiredAt (combined first rest) now ↔ ∃ policy ∈ first :: rest, ExpiredAt policy now := by
  have earliest : ∀ expiry, (combined first rest).retentionExpiresAt = some expiry ↔
      expiry ∈ (first :: rest).filterMap ArtifactPolicy.retentionExpiresAt ∧
        ∀ other ∈ (first :: rest).filterMap ArtifactPolicy.retentionExpiresAt, expiry ≤ other := by
    intro expiry
    exact List.min?_eq_some_iff
  constructor
  · rintro ⟨expiry, least, due⟩
    obtain ⟨policy, member, named⟩ := List.mem_filterMap.mp ((earliest expiry).mp least).1
    exact ⟨policy, member, expiry, named, due⟩
  · rintro ⟨policy, member, expiry, named, due⟩
    have listed : expiry ∈ (first :: rest).filterMap ArtifactPolicy.retentionExpiresAt :=
      List.mem_filterMap.mpr ⟨policy, member, named⟩
    cases least : (combined first rest).retentionExpiresAt with
    | none =>
        have empty : (first :: rest).filterMap ArtifactPolicy.retentionExpiresAt = [] := List.min?_eq_none_iff.mp least
        rw [empty] at listed
        cases listed
    | some least' => exact ⟨least', least, (((earliest least').mp least).2 expiry listed).trans due⟩

/-- The combination allows collection only when all policies do. -/
theorem combined_gcAllowed (first : ArtifactPolicy) (rest : List ArtifactPolicy) :
    (combined first rest).deletionPolicy = .gcAllowed ↔
      ∀ policy ∈ first :: rest, policy.deletionPolicy = .gcAllowed := by
  constructor
  · intro allowed policy member
    simp only [combined] at allowed
    split at allowed
    · cases allowed
    · rename_i unheld
      split at allowed
      · cases allowed
      · rename_i unbound
        split at allowed
        · cases allowed
        · rename_i unmanned
          cases kind : policy.deletionPolicy with
          | gcAllowed => rfl
          | holdProtected => exact absurd (List.any_eq_true.mpr ⟨policy, member, decide_eq_true kind⟩) unheld
          | tombstoneRequired => exact absurd (List.any_eq_true.mpr ⟨policy, member, decide_eq_true kind⟩) unbound
          | manualOnly => exact absurd (List.any_eq_true.mpr ⟨policy, member, decide_eq_true kind⟩) unmanned
  · intro all
    have nobody : ∀ kind, kind ≠ ArtifactDeletionPolicy.gcAllowed →
        (first :: rest).any (fun policy => policy.deletionPolicy = kind) = false := by
      intro kind other
      rw [List.any_eq_false]
      intro policy member
      simpa [all policy member] using other.symm
    simp [combined, nobody]

theorem effectivePolicy_ok (h : c.effectivePolicy digest = .ok policy) :
    ∃ first rest, (c.records digest).map ArtifactRecord.policy = first :: rest ∧ policy = combined first rest := by
  unfold effectivePolicy at h
  split at h
  · cases h
  · rename_i first rest shape
    refine ⟨first, rest, shape, ?_⟩
    unfold ArtifactPolicy.validate at h
    split at h
    · cases h
    · split at h
      · cases h
      · split at h
        · cases h
        · split at h
          · cases h
          · exact (Except.ok.inj h).symm

/-- What collecting a digest should take: every registration has run out and
    allows it, and no reference holds. -/
structure MayCollect (c : ArtifactCatalog P) (digest : String) (now : DateTime) : Prop where
  expired : ∀ policy, c.Imposes digest policy → ExpiredAt policy now
  allowed : ∀ policy, c.Imposes digest policy → policy.deletionPolicy = .gcAllowed
  unreferenced : c.references digest now = []

/-- One registration of the digest has run out, another has not. -/
def Uneven (c : ArtifactCatalog P) (digest : String) (now : DateTime) : Prop :=
  (∃ policy, c.Imposes digest policy ∧ ExpiredAt policy now) ∧ ∃ policy, c.Imposes digest policy ∧ ¬ ExpiredAt policy now

/-- What the catalog asks before it lets go of a digest. -/
structure LetsGo (c : ArtifactCatalog P) (digest : String) (now : DateTime) : Prop where
  combines : ∃ policy, c.effectivePolicy digest = .ok policy
  expired : ∃ policy, c.Imposes digest policy ∧ ExpiredAt policy now
  allowed : ∀ policy, c.Imposes digest policy → policy.deletionPolicy = .gcAllowed
  unreferenced : c.references digest now = []

theorem deletionBlockers_eq (h : c.effectivePolicy digest = .ok policy) : ∃ blockers,
    c.deletionBlockers digest now = .ok blockers ∧
      (blockers = [] ↔ policy.deletionPolicy = .gcAllowed ∧ c.references digest now = []) := by
  refine ⟨_, by simp only [deletionBlockers, h]; rfl, ?_⟩
  rw [← List.length_eq_zero_iff, List.length_insertionSort, List.length_eq_zero_iff, List.append_eq_nil_iff,
    List.map_eq_nil_iff]
  refine and_congr_left (fun _ => ?_)
  split <;> simp_all

theorem letsGo_iff (h : c.effectivePolicy digest = .ok policy) : c.LetsGo digest now ↔
    ExpiredAt policy now ∧ policy.deletionPolicy = .gcAllowed ∧ c.references digest now = [] := by
  obtain ⟨first, rest, shape, rfl⟩ := effectivePolicy_ok h
  have imposed : ∀ policy, c.Imposes digest policy ↔ policy ∈ first :: rest := by
    intro policy
    rw [← shape, mem_policies]
  rw [combined_expired, combined_gcAllowed]
  constructor
  · rintro ⟨-, ⟨policy, imposes, expired⟩, allowed, unreferenced⟩
    exact ⟨⟨policy, (imposed policy).mp imposes, expired⟩, fun policy member => allowed policy ((imposed policy).mpr member),
      unreferenced⟩
  · rintro ⟨⟨policy, member, expired⟩, allowed, unreferenced⟩
    exact ⟨⟨_, h⟩, ⟨policy, (imposed policy).mpr member, expired⟩,
      fun policy imposes => allowed policy ((imposed policy).mp imposes), unreferenced⟩

end ArtifactCatalog

/-! ## One digest -/

namespace ContentAddressedArtifactStore

variable {a : ContentAddressedArtifactStore P} {digest actor : String} {now : DateTime}
  {clock : String → DateTime × DateTime} {report : GarbageReport}

/-- The collection removes the digest when it gets to it. -/
structure Collects (a : ContentAddressedArtifactStore P) (now checkedAt : DateTime) (digest : String) : Prop where
  letsGo : a.catalog.LetsGo digest now
  wellFormed : P.isSha256 digest = true
  unreferenced : a.catalog.references digest checkedAt = []
  intact : a.Intact digest

/-- The collection raises when it gets to the digest: its registrations do not
    combine, or the deletion finds it malformed or damaged. -/
def Halts (a : ContentAddressedArtifactStore P) (now checkedAt : DateTime) (digest : String) : Prop :=
  (∃ e, a.catalog.effectivePolicy digest = .error e) ∨
    (a.catalog.LetsGo digest now ∧ (P.isSha256 digest = false ∨
      (a.catalog.references digest checkedAt = [] ∧ ¬ a.Intact digest)))

theorem Collects.not_halts {checkedAt : DateTime} (collects : a.Collects now checkedAt digest) :
    ¬ a.Halts now checkedAt digest := by
  rintro (⟨e, raises⟩ | ⟨-, malformed | ⟨-, damaged⟩⟩)
  · obtain ⟨policy, combines⟩ := collects.letsGo.combines
    rw [raises] at combines
    cases combines
  · rw [collects.wellFormed] at malformed
    cases malformed
  · exact damaged collects.intact

/-- The store without the digest, and with a record of its collection. -/
def collected (a : ContentAddressedArtifactStore P) (actor digest : String) (recordedAt : DateTime) :
    ContentAddressedArtifactStore P :=
  a.deleted digest actor false false true recordedAt

/-- What the catalog of a digest that may go says to `delete_digest`. -/
theorem deletionPolicy_of_letsGo {checkedAt : DateTime} (letsGo : a.catalog.LetsGo digest now) :
    ∃ policy, a.deletionPolicy digest false false checkedAt = if a.catalog.references digest checkedAt = [] then .ok (some policy)
      else .error (.permissionError "artifact deletion blocked by active references") := by
  obtain ⟨policy, combines⟩ := letsGo.combines
  have allowed := ((ArtifactCatalog.letsGo_iff combines).mp letsGo).2.1
  refine ⟨policy, ?_⟩
  simp only [deletionPolicy, combines, allowed]
  cases a.catalog.references digest checkedAt <;> simp

/-- `delete_digest` on a digest that may go: it raises for want of a digest, for a
    reference, or for damage, and deletes otherwise. -/
theorem deleteDigest_of_letsGo (letsGo : a.catalog.LetsGo digest now) (actor : String) (checkedAt recordedAt : DateTime) :
    ((P.isSha256 digest = false ∨ (a.catalog.references digest checkedAt = [] ∧ ¬ a.Intact digest)) ∧
      ∃ e, (∀ message, e ≠ .permissionError message) ∧
        deleteDigest digest actor false false checkedAt recordedAt a = (.error e, a)) ∨
    ((P.isSha256 digest = true ∧ a.catalog.references digest checkedAt ≠ []) ∧
      ∃ message, deleteDigest digest actor false false checkedAt recordedAt a = (.error (.permissionError message), a)) ∨
    (a.Collects now checkedAt digest ∧
      ∃ receipt, deleteDigest digest actor false false checkedAt recordedAt a =
        (.ok receipt, a.collected actor digest recordedAt)) := by
  obtain ⟨policy, answer⟩ := @deletionPolicy_of_letsGo _ _ _ _ checkedAt letsGo
  cases wellFormed : P.isSha256 digest with
  | false =>
      exact .inl ⟨.inl rfl, .valueError "digest must be a lowercase SHA-256 hex value", by simp,
        by simp [deleteDigest, wellFormed]⟩
  | true =>
      by_cases unreferenced : a.catalog.references digest checkedAt = []
      · rw [if_pos unreferenced] at answer
        by_cases intact : a.Intact digest
        · exact .inr (.inr ⟨⟨letsGo, wellFormed, unreferenced, intact⟩, _,
            deleteDigest_of_deletable ⟨wellFormed, answer, intact⟩⟩)
        · refine .inl ⟨.inr ⟨unreferenced, intact⟩, .runtimeError "artifact digest mismatch before deletion", by simp, ?_⟩
          have damaged : (a.files.get? digest).any (fun data => contentDigest P data ≠ digest) = true := by
            simp only [Intact, not_forall] at intact
            obtain ⟨data, stored, other⟩ := intact
            simp [stored, other]
          simp only [deleteDigest, Call.read_bind, id, wellFormed, Bool.not_true, Bool.false_eq_true, if_false]
          rw [Call.bind_of_ok (Call.lift_apply _ _ |>.trans (by rw [answer])), if_pos damaged]
          rfl
      · rw [if_neg unreferenced] at answer
        refine .inr (.inl ⟨⟨rfl, unreferenced⟩, "artifact deletion blocked by active references", ?_⟩)
        simp only [deleteDigest, Call.read_bind, id, wellFormed, Bool.not_true, Bool.false_eq_true, if_false]
        exact Call.bind_of_error (by rw [Call.lift_apply, answer])

/-- One pass of the loop: it raises and changes nothing, it removes the digest, or
    it goes on with the store as it was. -/
theorem collectDigest_eq (a : ContentAddressedArtifactStore P) (actor : String) (now : DateTime)
    (clock : String → DateTime × DateTime) (report : GarbageReport) (digest : String) :
    (a.Halts now (clock digest).1 digest ∧ ∃ e, collectDigest actor now clock report digest a = (.error e, a)) ∨
    (a.Collects now (clock digest).1 digest ∧ ∃ report', collectDigest actor now clock report digest a =
      (.ok report', a.collected actor digest (clock digest).2)) ∨
    (¬ a.Halts now (clock digest).1 digest ∧ ¬ a.Collects now (clock digest).1 digest ∧
      ∃ report', collectDigest actor now clock report digest a = (.ok report', a)) := by
  unfold collectDigest
  simp only [Call.read_bind, id]
  cases combines : a.catalog.effectivePolicy digest with
  | error e => exact .inl ⟨.inl ⟨e, combines⟩, e, rfl⟩
  | ok policy =>
      rw [Call.bind_of_ok (Call.lift_apply _ _)]
      have letsGo := @ArtifactCatalog.letsGo_iff _ _ _ _ now combines
      obtain ⟨blockers, listed, free⟩ := @ArtifactCatalog.deletionBlockers_eq _ _ _ _ now combines
      have stays : ¬ a.catalog.LetsGo digest now → ¬ a.Halts now (clock digest).1 digest ∧
          ¬ a.Collects now (clock digest).1 digest := by
        intro kept
        refine ⟨?_, fun collects => kept collects.letsGo⟩
        rintro (⟨e, raises⟩ | ⟨goes, -⟩)
        · rw [combines] at raises
          cases raises
        · exact kept goes
      by_cases early : policy.retentionExpiresAt.all (fun expiry => expiry > now) = true
      · rw [if_pos early]
        have kept : ¬ a.catalog.LetsGo digest now := by
          intro goes
          obtain ⟨expiry, named, due⟩ := (letsGo.mp goes).1
          rw [named, Option.all_some, decide_eq_true_eq] at early
          exact absurd due (not_le.mpr early)
        exact .inr (.inr ⟨(stays kept).1, (stays kept).2, _, rfl⟩)
      · rw [if_neg early, listed, Call.bind_of_ok (Call.lift_apply _ _)]
        by_cases blocked : blockers ≠ []
        · rw [if_pos blocked]
          have kept : ¬ a.catalog.LetsGo digest now := fun goes => blocked (free.mpr (letsGo.mp goes).2)
          exact .inr (.inr ⟨(stays kept).1, (stays kept).2, _, rfl⟩)
        · rw [if_neg blocked]
          have expired : ArtifactCatalog.ExpiredAt policy now := by
            cases named : policy.retentionExpiresAt with
            | none => simp [named] at early
            | some expiry => exact ⟨expiry, named, by simpa [named] using early⟩
          have goes : a.catalog.LetsGo digest now := letsGo.mpr ⟨expired, free.mp (not_not.mp blocked)⟩
          rcases deleteDigest_of_letsGo goes actor (clock digest).1 (clock digest).2 with
            ⟨halts, e, other, raised⟩ | ⟨⟨wellFormed, referenced⟩, message, refused⟩ | ⟨collects, receipt, removed⟩
          · refine .inl ⟨.inr ⟨goes, halts⟩, e, ?_⟩
            rw [Call.bind_of_ok (Call.attempt_apply _ _), raised]
            cases e with
            | permissionError message => exact absurd rfl (other message)
            | _ => rfl
          · refine .inr (.inr ⟨?_, fun collects => referenced collects.unreferenced,
              { report with blocked := report.blocked ++ [(digest, [message])] }, ?_⟩)
            · rintro (⟨e, raises⟩ | ⟨-, malformed | ⟨unreferenced, -⟩⟩)
              · rw [combines] at raises
                cases raises
              · rw [wellFormed] at malformed
                cases malformed
              · exact referenced unreferenced
            · rw [Call.bind_of_ok (Call.attempt_apply _ _), refused]
              rfl
          · refine .inr (.inl ⟨collects, { report with deleted := report.deleted ++ [digest] }, ?_⟩)
            rw [Call.bind_of_ok (Call.attempt_apply _ _), removed]
            rfl

/-! ## A whole collection -/

theorem collected_eq (a : ContentAddressedArtifactStore P) (actor digest : String) (recordedAt : DateTime) :
    ∃ gcEvents, a.collected actor digest recordedAt = { a with
      files := a.files.restrict (fun other => other ≠ digest)
      catalog := { a.catalog with gcEvents := gcEvents } } := by
  unfold collected deleted ArtifactCatalog.recordGcEvent
  simp only [if_true]
  split
  · exact ⟨a.catalog.gcEvents, rfl⟩
  · exact ⟨_, rfl⟩

theorem get?_collected (a : ContentAddressedArtifactStore P) (actor digest : String) (recordedAt : DateTime)
    (other : String) :
    (a.collected actor digest recordedAt).files.get? other = if other = digest then none else a.files.get? other :=
  get?_deleted ..

/-- Collecting one digest makes no difference to the others. -/
theorem collects_collected {checkedAt : DateTime} (recordedAt : DateTime) {other : String} (differs : other ≠ digest) :
    (a.collected actor digest recordedAt).Collects now checkedAt other ↔ a.Collects now checkedAt other := by
  have file := get?_collected a actor digest recordedAt other
  rw [if_neg differs] at file
  obtain ⟨gcEvents, shape⟩ := collected_eq a actor digest recordedAt
  constructor
  · rintro ⟨⟨combines, expired, allowed, unreferenced⟩, wellFormed, then_, intact⟩
    rw [shape] at combines expired allowed unreferenced then_
    exact ⟨⟨combines, expired, allowed, unreferenced⟩, wellFormed, then_, fun data stored => intact data (file ▸ stored)⟩
  · rintro ⟨⟨combines, expired, allowed, unreferenced⟩, wellFormed, then_, intact⟩
    refine ⟨?_, wellFormed, ?_, fun data stored => intact data (file ▸ stored)⟩
    · rw [shape]
      exact ⟨combines, expired, allowed, unreferenced⟩
    · rw [shape]
      exact then_

theorem halts_collected {checkedAt : DateTime} (recordedAt : DateTime) {other : String} (differs : other ≠ digest) :
    (a.collected actor digest recordedAt).Halts now checkedAt other ↔ a.Halts now checkedAt other := by
  have file := get?_collected a actor digest recordedAt other
  rw [if_neg differs] at file
  have intact : (a.collected actor digest recordedAt).Intact other ↔ a.Intact other := by
    simp only [Intact, file]
  obtain ⟨gcEvents, shape⟩ := collected_eq a actor digest recordedAt
  unfold Halts
  rw [intact, shape]
  refine or_congr Iff.rfl (and_congr ?_ Iff.rfl)
  constructor
  · rintro ⟨combines, expired, allowed, unreferenced⟩
    exact ⟨combines, expired, allowed, unreferenced⟩
  · rintro ⟨combines, expired, allowed, unreferenced⟩
    exact ⟨combines, expired, allowed, unreferenced⟩

/-- The loop gets to a digest: none of those before it raises. -/
inductive Reaches (a : ContentAddressedArtifactStore P) (now : DateTime) (clock : String → DateTime × DateTime) :
    List String → String → Prop where
  | here (digest : String) (digests : List String) : Reaches a now clock (digest :: digests) digest
  | past {first : String} {digests : List String} {digest : String} (quiet : ¬ a.Halts now (clock first).1 first)
      (later : Reaches a now clock digests digest) : Reaches a now clock (first :: digests) digest

theorem Reaches.of_agree {a' : ContentAddressedArtifactStore P} {digests : List String} (reaches : a.Reaches now clock digests digest)
    (agree : ∀ other ∈ digests, a'.Halts now (clock other).1 other → a.Halts now (clock other).1 other) :
    a'.Reaches now clock digests digest := by
  induction reaches with
  | here => exact .here _ _
  | past quiet later ih =>
      refine .past (fun halts => quiet (agree _ List.mem_cons_self halts)) (ih ?_)
      exact fun other member => agree other (List.mem_cons_of_mem _ member)

/-- A file that is not there is not put there. -/
theorem collectDigests_absent {digests : List String} {removed : String} (absent : a.files.get? removed = none) :
    (collectDigests actor now clock digests report a).2.files.get? removed = none := by
  induction digests generalizing a report with
  | nil => exact absent
  | cons digest digests ih =>
      rcases collectDigest_eq a actor now clock report digest with
        ⟨-, e, raised⟩ | ⟨-, report', removes⟩ | ⟨-, -, report', same⟩
      · rw [collectDigests, Call.bind_of_error raised]
        exact absent
      · rw [collectDigests, Call.bind_of_ok removes]
        apply ih
        rw [get?_collected, absent, ite_self]
      · rw [collectDigests, Call.bind_of_ok same]
        exact ih absent

/-- The loop removes exactly the stored digests that it gets to and collects. -/
theorem collectDigests_removes {digests : List String} (distinct : digests.Nodup) {removed : String}
    (stored : a.files.get? removed ≠ none) :
    (collectDigests actor now clock digests report a).2.files.get? removed = none ↔
      a.Reaches now clock digests removed ∧ a.Collects now (clock removed).1 removed := by
  induction digests generalizing a report with
  | nil =>
      constructor
      · intro gone
        exact absurd gone stored
      · rintro ⟨⟨⟩, -⟩
  | cons digest digests ih =>
      obtain ⟨fresh, distinct⟩ := List.nodup_cons.mp distinct
      rcases collectDigest_eq a actor now clock report digest with
        ⟨halts, e, raised⟩ | ⟨collects, report', removes⟩ | ⟨quiet, spared, report', same⟩
      · rw [collectDigests, Call.bind_of_error raised]
        constructor
        · intro gone
          exact absurd gone stored
        · rintro ⟨reaches, collects⟩
          cases reaches with
          | here => exact absurd halts collects.not_halts
          | past quiet later => exact absurd halts quiet
      · rw [collectDigests, Call.bind_of_ok removes]
        have apart : ∀ other ∈ digests, other ≠ digest := fun other member same => fresh (same ▸ member)
        by_cases this : removed = digest
        · subst this
          have gone : (a.collected actor removed (clock removed).2).files.get? removed = none := by
            rw [get?_collected, if_pos rfl]
          exact iff_of_true (collectDigests_absent gone) ⟨.here _ _, collects⟩
        · have kept : (a.collected actor digest (clock digest).2).files.get? removed ≠ none := by
            rw [get?_collected, if_neg this]
            exact stored
          rw [ih distinct kept, collects_collected _ this]
          refine and_congr_left (fun _ => ?_)
          constructor
          · intro later
            exact .past collects.not_halts (later.of_agree fun other member =>
              (halts_collected _ (apart other member)).mpr)
          · intro reaches
            cases reaches with
            | here => exact absurd rfl this
            | past quiet later =>
                exact later.of_agree fun other member => (halts_collected _ (apart other member)).mp
      · rw [collectDigests, Call.bind_of_ok same, ih distinct stored]
        refine and_congr_left (fun collects => ?_)
        constructor
        · exact .past quiet
        · intro reaches
          cases reaches with
          | here => exact absurd collects spared
          | past quiet later => exact later

/-- Nothing but the retention of some registration stands in the way. -/
structure Unguarded (a : ContentAddressedArtifactStore P) (now checkedAt : DateTime) (digest : String) : Prop where
  combines : ∃ policy, a.catalog.effectivePolicy digest = .ok policy
  allowed : ∀ policy, a.catalog.Imposes digest policy → policy.deletionPolicy = .gcAllowed
  unreferenced : a.catalog.references digest now = [] ∧ a.catalog.references digest checkedAt = []
  wellFormed : P.isSha256 digest = true
  intact : a.Intact digest

theorem collects_iff {checkedAt : DateTime} : a.Collects now checkedAt digest ↔
    a.Unguarded now checkedAt digest ∧ ∃ policy, a.catalog.Imposes digest policy ∧ ArtifactCatalog.ExpiredAt policy now := by
  constructor
  · rintro ⟨⟨combines, expired, allowed, unreferenced⟩, wellFormed, unreferencedThen, intact⟩
    exact ⟨⟨combines, allowed, ⟨unreferenced, unreferencedThen⟩, wellFormed, intact⟩, expired⟩
  · rintro ⟨⟨combines, allowed, ⟨unreferenced, unreferencedThen⟩, wellFormed, intact⟩, expired⟩
    exact ⟨⟨combines, expired, allowed, unreferenced⟩, wellFormed, unreferencedThen, intact⟩

theorem collectGarbage_removes (stored : a.files.get? digest ≠ none) :
    (collectGarbage actor now clock a).2.files.get? digest = none ↔
      a.Reaches now clock a.registeredDigests digest ∧ a.Collects now (clock digest).1 digest := by
  unfold collectGarbage
  rw [Call.read_bind]
  exact collectDigests_removes (nodup_sortedSet _) stored

/-- A collection takes only what it may. -/
def Honours (a : ContentAddressedArtifactStore P) (actor : String) (now : DateTime) (clock : String → DateTime × DateTime) :
    Prop :=
  ∀ digest, a.files.get? digest ≠ none → (collectGarbage actor now clock a).2.files.get? digest = none →
    a.catalog.MayCollect digest now

/-- After any run, a collection honours retention exactly when it gets to no stored
    digest that is kept by nothing but the longer retention of some registration. -/
theorem retention_is_honoured_iff (a : ContentAddressedArtifactStore P) (ops : List Operation) (actor : String)
    (now : DateTime) (clock : String → DateTime × DateTime) :
    (a.operations ops).Honours actor now clock ↔ ∀ digest, (a.operations ops).files.get? digest ≠ none →
      (a.operations ops).catalog.Uneven digest now → (a.operations ops).Unguarded now (clock digest).1 digest →
      ¬ (a.operations ops).Reaches now clock (a.operations ops).registeredDigests digest := by
  generalize a.operations ops = a
  constructor
  · intro honours digest stored ⟨expired, longer⟩ unguarded reaches
    obtain ⟨policy, imposes, unexpired⟩ := longer
    have gone := (@collectGarbage_removes _ _ _ actor _ _ stored).mpr ⟨reaches, collects_iff.mpr ⟨unguarded, expired⟩⟩
    exact unexpired ((honours digest stored gone).expired policy imposes)
  · intro guarded digest stored gone
    obtain ⟨reaches, collects⟩ := (collectGarbage_removes stored).mp gone
    obtain ⟨unguarded, expired⟩ := collects_iff.mp collects
    refine ⟨?_, unguarded.allowed, unguarded.unreferenced.1⟩
    intro policy imposes
    by_contra unexpired
    exact guarded digest stored ⟨expired, policy, imposes, unexpired⟩ unguarded reaches

/-- `ArtifactPolicy.internal_operational()` -/
def internalOperational : ArtifactPolicy where
  classification := .internal
  retention := .operational
  encryption := .nodeAtRest
  exportPolicy := .allowed
  deletionPolicy := .gcAllowed
  reasonCodes := ["default_internal_operational"]

/-- One object, stored by a source without a time limit and by another until 10. -/
def sharedObject : List Operation := [
  .deposit (.putBytes [1, 2, 3] "text/plain" true internalOperational { sourceId := some "camera" } 0),
  .deposit (.putBytes [1, 2, 3] "text/plain" true { internalOperational with retentionExpiresAt := some 10 }
    { sourceId := some "uplink" } 0)]

/-- The end of the second retention takes the object from the first. -/
theorem shared_object_is_collected :
    ¬ ((small.operations sharedObject).Honours "artifact-gc" 50 (fun _ => (50, 50))) := by
  intro honours
  have may := honours (contentDigest Platform.hexadecimal [1, 2, 3]) (by decide +kernel) (by decide +kernel)
  obtain ⟨expiry, named, -⟩ := may.expired internalOperational (by
    refine ⟨(small.operations sharedObject).catalog.registrations.head (by decide +kernel), List.head_mem _, ?_, ?_⟩
    · decide +kernel
    · decide +kernel)
  cases named

end ContentAddressedArtifactStore

end SentinelEdge.Storage
