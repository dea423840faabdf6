import SentinelEdge.Storage.Garbage

/-! # Registrations that protect

A digest has the policies of all its registrations at once. Which deletions are
refused depends only on whether one of them is hold protected, one asks for a
tombstone, one is manual: a tombstone stands above a manual deletion, and with its
authorization the manual registration is forgotten.
-/

namespace SentinelEdge.Storage

open Foundation Domain

variable {P : Platform}

/-! ## The combined policy is a policy -/

namespace ArtifactCatalog

variable {c : ArtifactCatalog P} {digest : String}

/-- The first of the greatest is one of them, and none is greater. -/
theorem greatest_spec {α : Type} (key : α → Nat) (first : α) (rest : List α) :
    greatest key first rest ∈ first :: rest ∧ ∀ item ∈ first :: rest, key item ≤ key (greatest key first rest) := by
  unfold greatest
  induction rest generalizing first with
  | nil => simp
  | cons next rest ih =>
      obtain ⟨member, greater⟩ := ih (if key first < key next then next else first)
      rw [List.foldl_cons]
      constructor
      · cases List.mem_cons.mp member with
        | inl same =>
            rw [same]
            split <;> simp
        | inr later => simp [later]
      · intro item among
        have best := greater _ List.mem_cons_self
        have above : key first ≤ key (if key first < key next then next else first) ∧
            key next ≤ key (if key first < key next then next else first) := by split <;> omega
        simp only [List.mem_cons] at among
        obtain rfl | rfl | later := among
        · exact above.1.trans best
        · exact above.2.trans best
        · exact greater item (List.mem_cons_of_mem _ later)

/-- A registration under the policy `kind` asks for. -/
def Asks (c : ArtifactCatalog P) (digest : String) (kind : ArtifactDeletionPolicy) : Prop :=
  ∃ policy, c.Imposes digest policy ∧ policy.deletionPolicy = kind

/-- Every registration of the digest has a policy that passes its own check. -/
def Valid (c : ArtifactCatalog P) (digest : String) : Prop := ∀ policy, c.Imposes digest policy → policy.validate = .ok policy

/-- One registration is a legal hold, and one has an expiry. -/
def HoldBesideExpiry (c : ArtifactCatalog P) (digest : String) : Prop :=
  (∃ policy, c.Imposes digest policy ∧ policy.retention = .legalHold) ∧
  ∃ policy, c.Imposes digest policy ∧ policy.retentionExpiresAt.isSome = true

end ArtifactCatalog

/-- What the check of a policy asks for. -/
structure ArtifactPolicy.Sound (p : ArtifactPolicy) : Prop where
  persisted : p.classification ≠ .secretProhibited
  guarded : p.classification = .restricted → p.exportPolicy ≠ .allowed
  held : p.retention = .legalHold → p.deletionPolicy = .holdProtected
  ageless : p.retention = .legalHold → p.retentionExpiresAt = none

theorem ArtifactPolicy.validate_iff {p : ArtifactPolicy} : p.validate = .ok p ↔ p.Sound := by
  constructor
  · intro valid
    unfold validate at valid
    split at valid
    · cases valid
    · next persisted =>
        split at valid
        · cases valid
        · next guarded =>
            split at valid
            · cases valid
            · next held =>
                split at valid
                · cases valid
                · next ageless =>
                    simp only [Bool.and_eq_true, decide_eq_true_eq, not_and] at guarded held ageless
                    refine ⟨persisted, guarded, fun hold => not_not.mp (held hold), ?_⟩
                    intro hold
                    by_contra aged
                    exact ageless (Option.isSome_iff_ne_none.mpr aged) hold
  · rintro ⟨persisted, guarded, held, ageless⟩
    unfold validate
    rw [if_neg persisted, if_neg, if_neg, if_neg]
    · simp only [Bool.and_eq_true, decide_eq_true_eq, not_and]
      intro aged hold
      simp [ageless hold] at aged
    · simpa using held
    · simpa using guarded

namespace ArtifactCatalog

variable {c : ArtifactCatalog P} {digest : String} {first : ArtifactPolicy} {rest : List ArtifactPolicy}

/-- The combination of sound policies is sound unless it holds and ages at once. -/
theorem combined_sound (sound : ∀ p ∈ first :: rest, p.Sound) : (combined first rest).Sound ↔
    ¬ ((∃ p ∈ first :: rest, p.retention = .legalHold) ∧ ∃ p ∈ first :: rest, p.retentionExpiresAt.isSome = true) := by
  obtain ⟨classed, -⟩ := greatest_spec (fun p : ArtifactPolicy => p.classification.order) first rest
  obtain ⟨retained, longest⟩ := greatest_spec (fun p : ArtifactPolicy => p.retention.index) first rest
  have holds : (combined first rest).retention = .legalHold ↔ ∃ p ∈ first :: rest, p.retention = .legalHold := by
    constructor
    · intro hold
      exact ⟨_, retained, hold⟩
    · rintro ⟨p, member, hold⟩
      have above := longest p member
      rw [hold] at above
      show (greatest _ first rest).retention = _
      cases kind : (greatest (fun p : ArtifactPolicy => p.retention.index) first rest).retention <;>
        simp_all [ArtifactRetention.index]
  have ages : (combined first rest).retentionExpiresAt = none ↔ ∀ p ∈ first :: rest, p.retentionExpiresAt = none := by
    show ((first :: rest).filterMap ArtifactPolicy.retentionExpiresAt).min? = none ↔ _
    rw [List.min?_eq_none_iff, List.filterMap_eq_nil_iff]
  constructor
  · intro combinedSound
    rintro ⟨hold, p, member, aged⟩
    have none := ages.mp (combinedSound.ageless (holds.mpr hold)) p member
    simp [none] at aged
  · intro apart
    constructor
    · exact (sound _ classed).persisted
    · intro restricted
      have guarded := (sound _ classed).guarded restricted
      have listed : (first :: rest).any (fun p => p.exportPolicy = .prohibited) = true ∨
          (first :: rest).any (fun p => p.exportPolicy = .redactedOnly) = true := by
        cases kind : (greatest (fun p : ArtifactPolicy => p.classification.order) first rest).exportPolicy with
        | allowed => exact absurd kind guarded
        | prohibited => exact Or.inl (List.any_eq_true.mpr ⟨_, classed, decide_eq_true kind⟩)
        | redactedOnly => exact Or.inr (List.any_eq_true.mpr ⟨_, classed, decide_eq_true kind⟩)
      simp only [combined]
      cases listed with
      | inl prohibited => simp [prohibited]
      | inr redacted =>
          rw [redacted]
          split <;> simp
    · intro hold
      obtain ⟨p, member, kept⟩ := holds.mp hold
      have guarded := (sound p member).held kept
      have listed : (first :: rest).any (fun p => p.deletionPolicy = .holdProtected) = true :=
        List.any_eq_true.mpr ⟨p, member, decide_eq_true guarded⟩
      simp only [combined]
      rw [if_pos listed]
    · intro hold
      rw [ages]
      intro p member
      by_contra aged
      exact apart ⟨holds.mp hold, p, member, Option.isSome_iff_ne_none.mpr aged⟩

/-- A digest with valid registrations has an effective policy exactly if no legal hold
    stands beside an expiry. -/
theorem effectivePolicy_returns_iff (valid : c.Valid digest) (known : ∃ policy, c.Imposes digest policy) :
    (∃ policy, c.effectivePolicy digest = .ok policy) ↔ ¬ c.HoldBesideExpiry digest := by
  have imposed : ∀ policy, c.Imposes digest policy ↔ policy ∈ (c.records digest).map ArtifactRecord.policy :=
    fun policy => mem_policies.symm
  cases shape : (c.records digest).map ArtifactRecord.policy with
  | nil =>
      obtain ⟨policy, imposes⟩ := known
      rw [imposed, shape] at imposes
      cases imposes
  | cons first rest =>
      have sound : ∀ p ∈ first :: rest, p.Sound := by
        intro p member
        rw [← shape] at member
        exact ArtifactPolicy.validate_iff.mp (valid p ((imposed p).mpr member))
      have aside : c.HoldBesideExpiry digest ↔ (∃ p ∈ first :: rest, p.retention = .legalHold) ∧
          ∃ p ∈ first :: rest, p.retentionExpiresAt.isSome = true := by
        simp only [HoldBesideExpiry, imposed, shape]
      rw [aside, ← combined_sound sound, ← ArtifactPolicy.validate_iff]
      simp only [effectivePolicy, shape]
      constructor
      · rintro ⟨policy, returned⟩
        rw [returned]
        congr 1
        unfold ArtifactPolicy.validate at returned
        repeat' split at returned
        all_goals simp_all
      · intro returned
        exact ⟨_, returned⟩

end ArtifactCatalog

/-! ## Which deletions are refused -/

namespace ArtifactCatalog

variable {c : ArtifactCatalog P} {digest : String} {policy : ArtifactPolicy}

/-- The deletion policy in force, told from what the registrations ask for. -/
theorem effective_asks (h : c.effectivePolicy digest = .ok policy) :
    (policy.deletionPolicy = .holdProtected ↔ c.Asks digest .holdProtected) ∧
    (policy.deletionPolicy = .tombstoneRequired ↔ ¬ c.Asks digest .holdProtected ∧ c.Asks digest .tombstoneRequired) ∧
    (policy.deletionPolicy = .manualOnly ↔
      ¬ c.Asks digest .holdProtected ∧ ¬ c.Asks digest .tombstoneRequired ∧ c.Asks digest .manualOnly) := by
  obtain ⟨first, rest, shape, rfl⟩ := effectivePolicy_ok h
  have asked : ∀ kind, c.Asks digest kind ↔ (first :: rest).any (fun p => p.deletionPolicy = kind) = true := by
    intro kind
    simp only [Asks, ← mem_policies, shape, List.any_eq_true, decide_eq_true_eq]
  simp only [asked, combined]
  split
  · simp_all
  · split
    · simp_all
    · split <;> simp_all

/-- Of a known digest the combined policy can only fail its own check. -/
theorem effectivePolicy_error {e : Error} (known : ∃ policy, c.Imposes digest policy)
    (raised : c.effectivePolicy digest = .error e) : ∃ message, e = .validationError message := by
  obtain ⟨policy, imposes⟩ := known
  have member := mem_policies.mpr imposes
  unfold effectivePolicy at raised
  cases shape : (c.records digest).map ArtifactRecord.policy with
  | nil =>
      rw [shape] at member
      cases member
  | cons first rest =>
      simp only [shape, ArtifactPolicy.validate] at raised
      repeat' split at raised
      all_goals cases raised <;> exact ⟨_, rfl⟩

theorem not_known (unknown : ¬ ∃ policy, c.Imposes digest policy) : c.effectivePolicy digest = .error (.keyError digest) := by
  have empty : (c.records digest).map ArtifactRecord.policy = [] := by
    rw [List.eq_nil_iff_forall_not_mem]
    intro policy member
    exact unknown ⟨policy, mem_policies.mp member⟩
  unfold effectivePolicy
  rw [empty]

end ArtifactCatalog

namespace ContentAddressedArtifactStore

variable {a : ContentAddressedArtifactStore P} {digest actor : String} {tombstoneAuthorized : Bool}
  {checkedAt recordedAt : DateTime}

/-- What the catalog does not stand in the way of: a tombstone that is asked for is
    authorized, and a manual registration has one above it. -/
structure Released (a : ContentAddressedArtifactStore P) (digest : String) (tombstoneAuthorized : Bool) (now : DateTime) :
    Prop where
  unreferenced : a.catalog.references digest now = []
  unheld : ¬ a.catalog.Asks digest .holdProtected
  authorized : a.catalog.Asks digest .tombstoneRequired → tombstoneAuthorized = true
  overruled : a.catalog.Asks digest .manualOnly → a.catalog.Asks digest .tombstoneRequired

/-- With valid registrations, a deletion that is not forced is permitted for an unknown
    digest and for a released one. -/
theorem permitted_iff (valid : a.catalog.Valid digest) :
    (∃ policy, a.deletionPolicy digest tombstoneAuthorized false checkedAt = .ok policy) ↔
      (∃ policy, a.catalog.Imposes digest policy) → a.Released digest tombstoneAuthorized checkedAt := by
  by_cases known : ∃ policy, a.catalog.Imposes digest policy
  · rw [imp_iff_right known]
    cases effective : a.catalog.effectivePolicy digest with
    | error e =>
        have held : a.catalog.Asks digest .holdProtected := by
          by_contra unheld
          have apart : ¬ a.catalog.HoldBesideExpiry digest := by
            rintro ⟨⟨policy, imposes, hold⟩, -⟩
            exact unheld ⟨policy, imposes, (ArtifactPolicy.validate_iff.mp (valid policy imposes)).held hold⟩
          obtain ⟨policy, returned⟩ := (ArtifactCatalog.effectivePolicy_returns_iff valid known).mpr apart
          rw [effective] at returned
          cases returned
        refine iff_of_false ?_ (fun released => released.unheld held)
        obtain ⟨message, rfl⟩ := ArtifactCatalog.effectivePolicy_error known effective
        simp [deletionPolicy, effective]
    | ok policy =>
        obtain ⟨held, tombstone, manual⟩ := ArtifactCatalog.effective_asks effective
        have references : (a.catalog.references digest checkedAt).isEmpty = true ↔ a.catalog.references digest checkedAt = [] :=
          List.isEmpty_iff
        simp only [deletionPolicy, effective, Bool.not_false, Bool.and_true]
        constructor
        · rintro ⟨policy', permitted⟩
          split at permitted
          · cases permitted
          · next free =>
              split at permitted
              · cases permitted
              · next authorized =>
                  split at permitted
                  · cases permitted
                  · next unguarded =>
                      simp only [Bool.not_eq_true, Bool.not_eq_false', references] at free
                      simp only [Bool.or_eq_true, decide_eq_true_eq, not_or] at unguarded
                      refine ⟨free, fun hold => unguarded.1 (held.mpr hold), ?_, ?_⟩
                      · intro asks
                        simpa [tombstone.mpr ⟨fun hold => unguarded.1 (held.mpr hold), asks⟩] using authorized
                      · intro asks
                        by_contra alone
                        exact unguarded.2 (manual.mpr ⟨fun hold => unguarded.1 (held.mpr hold), alone, asks⟩)
        · rintro ⟨free, unheld, authorized, overruled⟩
          refine ⟨some policy, ?_⟩
          rw [if_neg, if_neg, if_neg]
          · simp only [Bool.or_eq_true, decide_eq_true_eq, not_or]
            exact ⟨fun hold => unheld (held.mp hold), fun kind => (manual.mp kind).2.1 (overruled (manual.mp kind).2.2)⟩
          · simp only [Bool.and_eq_true, decide_eq_true_eq, Bool.not_eq_true', not_and]
            intro kind
            simp [authorized (tombstone.mp kind).2]
          · simp [free]
  · refine iff_of_true ?_ (fun also => absurd also known)
    exact ⟨none, by rw [deletionPolicy, ArtifactCatalog.not_known known]⟩

/-- The call raises, and nothing is deleted. -/
def Refused (a : ContentAddressedArtifactStore P) (digest actor : String) (tombstoneAuthorized : Bool)
    (checkedAt recordedAt : DateTime) : Prop :=
  ∃ e, (deleteDigest digest actor tombstoneAuthorized false checkedAt recordedAt a).1 = .error e

theorem not_refused_iff (valid : a.catalog.Valid digest) :
    ¬ a.Refused digest actor tombstoneAuthorized checkedAt recordedAt ↔
      P.isSha256 digest = true ∧ a.Intact digest ∧
        ((∃ policy, a.catalog.Imposes digest policy) → a.Released digest tombstoneAuthorized checkedAt) := by
  rw [← permitted_iff valid]
  constructor
  · intro unrefused
    rcases deleteDigest_cases a digest actor tombstoneAuthorized false checkedAt recordedAt with
      ⟨e, raised⟩ | ⟨policy, deletable⟩
    · exact absurd ⟨e, by rw [raised]⟩ unrefused
    · exact ⟨deletable.wellFormed, deletable.intact, policy, deletable.permitted⟩
  · rintro ⟨wellFormed, intact, policy, permitted⟩ ⟨e, raised⟩
    have deletable : a.Deletable digest tombstoneAuthorized false checkedAt policy := ⟨wellFormed, permitted, intact⟩
    rw [deleteDigest_of_deletable deletable] at raised
    cases raised

/-! ## One registration more -/

/-- The store with one registration more. -/
def plus (a : ContentAddressedArtifactStore P) (record : ArtifactRecord P) : ContentAddressedArtifactStore P :=
  { a with catalog := { a.catalog with registrations := a.catalog.registrations ++ [record] } }

theorem imposes_plus {record : ArtifactRecord P} (own : record.sha256 = digest) {policy : ArtifactPolicy} :
    (a.plus record).catalog.Imposes digest policy ↔ a.catalog.Imposes digest policy ∨ record.policy = policy := by
  simp only [ArtifactCatalog.Imposes, plus, List.mem_append, List.mem_singleton, or_and_right, exists_or]
  simp [own]

theorem asks_plus {record : ArtifactRecord P} (own : record.sha256 = digest) {kind : ArtifactDeletionPolicy} :
    (a.plus record).catalog.Asks digest kind ↔ a.catalog.Asks digest kind ∨ record.policy.deletionPolicy = kind := by
  simp only [ArtifactCatalog.Asks, imposes_plus own, or_and_right, exists_or]
  simp

/-- A manual registration is the only protection, and the new one asks for the
    tombstone that the call is authorized with. -/
structure Loosens (a : ContentAddressedArtifactStore P) (record : ArtifactRecord P) (tombstoneAuthorized : Bool)
    (checkedAt : DateTime) : Prop where
  wellFormed : P.isSha256 record.sha256 = true
  intact : a.Intact record.sha256
  unreferenced : a.catalog.references record.sha256 checkedAt = []
  authorized : tombstoneAuthorized = true
  manual : a.catalog.Asks record.sha256 .manualOnly
  unheld : ¬ a.catalog.Asks record.sha256 .holdProtected
  unmarked : ¬ a.catalog.Asks record.sha256 .tombstoneRequired
  newcomer : record.policy.deletionPolicy = .tombstoneRequired

/-- For all valid registrations: one more keeps every deletion refused that was refused
    unless it loosens a manual one, and there is an effective policy unless a legal hold
    stands beside an expiry. -/
theorem protection_is_monotone_iff (P : Platform) (a : ContentAddressedArtifactStore P) (record : ArtifactRecord P)
    (valid : a.catalog.Valid record.sha256) (validRecord : record.policy.validate = .ok record.policy) (actor : String)
    (tombstoneAuthorized : Bool) (checkedAt recordedAt : DateTime) :
    ((a.Refused record.sha256 actor tombstoneAuthorized checkedAt recordedAt →
      (a.plus record).Refused record.sha256 actor tombstoneAuthorized checkedAt recordedAt) ↔
        ¬ a.Loosens record tombstoneAuthorized checkedAt) ∧
    ((∃ policy, a.catalog.Imposes record.sha256 policy) →
      ((∃ policy, a.catalog.effectivePolicy record.sha256 = .ok policy) ↔ ¬ a.catalog.HoldBesideExpiry record.sha256)) := by
  refine ⟨?_, ArtifactCatalog.effectivePolicy_returns_iff valid⟩
  have validPlus : (a.plus record).catalog.Valid record.sha256 := by
    intro policy imposes
    cases (imposes_plus rfl).mp imposes with
    | inl old => exact valid policy old
    | inr new => exact new ▸ validRecord
  have known : ∃ policy, (a.plus record).catalog.Imposes record.sha256 policy := ⟨record.policy, (imposes_plus rfl).mpr (Or.inr rfl)⟩
  have before : ¬ a.Refused record.sha256 actor tombstoneAuthorized checkedAt recordedAt ↔ _ := not_refused_iff valid
  have after : ¬ (a.plus record).Refused record.sha256 actor tombstoneAuthorized checkedAt recordedAt ↔ _ :=
    not_refused_iff validPlus
  constructor
  · intro keeps loosens
    have released : (a.plus record).Released record.sha256 tombstoneAuthorized checkedAt := {
      unreferenced := loosens.unreferenced
      unheld := by simp [asks_plus, loosens.unheld, loosens.newcomer]
      authorized := fun _ => loosens.authorized
      overruled := fun _ => (asks_plus rfl).mpr (Or.inr loosens.newcomer) }
    apply after.mpr ⟨loosens.wellFormed, loosens.intact, fun _ => released⟩
    apply keeps
    by_contra unrefused
    obtain ⟨policy, imposes, manual⟩ := loosens.manual
    have released := (before.mp unrefused).2.2 ⟨policy, imposes⟩
    exact loosens.unmarked (released.overruled ⟨policy, imposes, manual⟩)
  · intro firm refused
    by_contra unrefused
    obtain ⟨wellFormed, intact, permits⟩ := after.mp unrefused
    have released := permits known
    have unheld : ¬ a.catalog.Asks record.sha256 .holdProtected :=
      fun held => released.unheld ((asks_plus rfl).mpr (Or.inl held))
    have authorized : a.catalog.Asks record.sha256 .tombstoneRequired → tombstoneAuthorized = true :=
      fun asks => released.authorized ((asks_plus rfl).mpr (Or.inl asks))
    by_cases unprotected : a.catalog.Asks record.sha256 .manualOnly → a.catalog.Asks record.sha256 .tombstoneRequired
    · exact before.mpr ⟨wellFormed, intact, fun _ => ⟨released.unreferenced, unheld, authorized, unprotected⟩⟩ refused
    · rw [Classical.not_imp] at unprotected
      obtain ⟨manual, unmarked⟩ := unprotected
      have marked := released.overruled ((asks_plus rfl).mpr (Or.inl manual))
      have newcomer := ((asks_plus rfl).mp marked).resolve_left unmarked
      exact firm ⟨wellFormed, intact, released.unreferenced, released.authorized marked, manual, unheld, unmarked, newcomer⟩

/-! ## A tombstone over a manual deletion -/

/-- A page that is kept until somebody deletes it by hand. -/
def page : List UInt8 := [7]

def byHand : ArtifactPolicy where
  classification := .internal
  retention := .operational
  encryption := .nodeAtRest
  exportPolicy := .allowed
  deletionPolicy := .manualOnly

def shelved : ContentAddressedArtifactStore Platform.hexadecimal :=
  (putBytes page "text/plain" false byHand {} 0 (create 100 10)).2

/-- The page under another policy. -/
def pageUnder (policy : ArtifactPolicy) : ArtifactRecord Platform.hexadecimal where
  registrationId := UUID.ofNat 2
  sha256 := contentDigest Platform.hexadecimal page
  relativePath := relativePath (contentDigest Platform.hexadecimal page)
  bytes := 1
  mediaType := "text/plain"
  policy := policy
  scope := {}
  critical := false
  createdAt := 1
  policySha256 := Platform.hexadecimal.sha256 (policy.modelDump Platform.hexadecimal)

theorem shelved_valid : shelved.catalog.Valid (pageUnder byHand).sha256 := by
  rintro policy ⟨record, registered, -, rfl⟩
  have policies : ∀ r ∈ shelved.catalog.registrations, r.policy.validate = .ok r.policy := by decide +kernel
  exact policies record registered

/-- Registered by hand once more, the page stays protected without an authorization. -/
theorem page_stays_protected :
    ((shelved.Refused (pageUnder byHand).sha256 "keeper" false 5 5 →
      (shelved.plus (pageUnder byHand)).Refused (pageUnder byHand).sha256 "keeper" false 5 5) ↔
        ¬ shelved.Loosens (pageUnder byHand) false 5) ∧
    ((∃ policy, shelved.catalog.Imposes (pageUnder byHand).sha256 policy) →
      ((∃ policy, shelved.catalog.effectivePolicy (pageUnder byHand).sha256 = .ok policy) ↔
        ¬ shelved.catalog.HoldBesideExpiry (pageUnder byHand).sha256)) :=
  protection_is_monotone_iff Platform.hexadecimal shelved (pageUnder byHand) shelved_valid rfl "keeper" false 5 5

/-- Registered as evidence besides, it can be deleted; and a legal hold beside a policy
    with an expiry leaves the digest without any. -/
theorem page_loses_protection :
    (shelved.Refused (pageUnder byHand).sha256 "keeper" true 5 5 ∧
      ¬ (shelved.plus (pageUnder (.incidentEvidence false))).Refused (pageUnder byHand).sha256 "keeper" true 5 5) ∧
    ((pageUnder { byHand with retention := .legalHold, deletionPolicy := .holdProtected }).policy.validate.isOk = true ∧
      (pageUnder { byHand with retentionExpiresAt := some 9 }).policy.validate.isOk = true ∧
      (((shelved.plus (pageUnder { byHand with retention := .legalHold, deletionPolicy := .holdProtected })).plus
        (pageUnder { byHand with retentionExpiresAt := some 9 })).catalog.effectivePolicy (pageUnder byHand).sha256).isOk =
          false) := by
  refine ⟨⟨?_, ?_⟩, by decide +kernel⟩
  · have refused : (deleteDigest (pageUnder byHand).sha256 "keeper" true false 5 5 shelved).1.isOk = false := by decide +kernel
    unfold Refused
    cases outcome : (deleteDigest (pageUnder byHand).sha256 "keeper" true false 5 5 shelved).1 with
    | error e => exact ⟨e, rfl⟩
    | ok receipt =>
        rw [outcome] at refused
        cases refused
  · rintro ⟨e, raised⟩
    have returns : (deleteDigest (pageUnder byHand).sha256 "keeper" true false 5 5
      (shelved.plus (pageUnder (.incidentEvidence false)))).1.isOk = true := by decide +kernel
    rw [raised] at returns
    cases returns

end ContentAddressedArtifactStore

end SentinelEdge.Storage
