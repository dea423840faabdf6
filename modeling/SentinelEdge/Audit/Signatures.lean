import SentinelEdge.Audit.Binding

/-! # Which signatures count historically

`verify(historical=True)` asks whether the generation had any state at the time
of signing, and otherwise only looks at later compromise events. The acceptance
condition below is exact, for the registry and for checkpoints.
-/

namespace SentinelEdge.Security

open Foundation Domain

namespace KeyLifecycleRegistry

variable {P : Platform} {s : KeyLifecycleRegistry P}

/-- The grounds on which the historical path refuses: the generation is unknown,
    the signature is wrong, the time is not covered, or a later event puts the
    signature in doubt by a compromise. -/
def Refused (s : KeyLifecycleRegistry P) (ref : KeyRef) (message : List UInt8) (signature : String) (observedAt : DateTime)
    (authorityPosition : Option Int) : Prop :=
  (∀ row, s.find ref = some row →
    P.ed25519Verify row.record.publicKey message signature = false ∨ row.record.outsideValidity observedAt = true) ∨
  s.stateAt ref observedAt = none ∨
  ∃ compromise, s.laterCompromise ref observedAt = some compromise ∧
    ∀ floor, compromise.compromiseFloorPosition = some floor →
      ∀ position, authorityPosition = some position → floor ≤ position

theorem verifyHistorical_accepted (record : KeyIdentityRecord P) (ref : KeyRef) (observedAt : DateTime)
    (authorityPosition : Option Int) :
    (s.verifyHistorical record ref observedAt authorityPosition).accepted = true ↔
      ¬ ∃ compromise, s.laterCompromise ref observedAt = some compromise ∧
        ∀ floor, compromise.compromiseFloorPosition = some floor →
          ∀ position, authorityPosition = some position → floor ≤ position := by
  unfold verifyHistorical
  cases later : s.laterCompromise ref observedAt with
  | none => cases record.state <;> simp
  | some compromise =>
      cases bound : compromise.compromiseFloorPosition with
      | none => simp [bound]
      | some floor =>
          cases authorityPosition with
          | none => simp [bound]
          | some position => by_cases after : floor ≤ position <;> simp [bound, after]

/-- A signature is accepted historically exactly when nothing refuses it. The
    state at the time of signing is not among the grounds. -/
theorem verify_accepted_iff (s : KeyLifecycleRegistry P) (ref : KeyRef) (message : List UInt8) (signature : String)
    (observedAt acceptedAt : DateTime) (authorityPosition : Option Int) :
    (s.verify ref message signature observedAt acceptedAt true authorityPosition).accepted = true ↔
      ¬ Refused s ref message signature observedAt authorityPosition := by
  unfold verify load Refused
  cases found : s.find ref with
  | none => simp
  | some row =>
      cases signed : P.ed25519Verify row.record.publicKey message signature with
      | false => simp [signed]
      | true =>
          cases covered : s.stateAt ref observedAt with
          | none => simp [signed]
          | some state =>
              cases outside : row.record.outsideValidity observedAt with
              | true =>
                  have moved : ({ row.record with state := row.currentState } : KeyIdentityRecord P).outsideValidity
                      observedAt = true := outside
                  simp [signed, outside, moved]
              | false =>
                  have moved : ({ row.record with state := row.currentState } : KeyIdentityRecord P).outsideValidity
                      observedAt = false := outside
                  simp only [signed, moved, Option.isNone_some, Bool.not_true, Bool.or_false, Bool.false_eq_true,
                    if_false, if_true, verifyHistorical_accepted]
                  simp [signed, outside]

end KeyLifecycleRegistry

end SentinelEdge.Security

namespace SentinelEdge.Audit

open Foundation Domain Security

namespace AuditCheckpointService

variable {P : Platform}

/-- The checks of `verify` that do not concern the key. -/
def Intact (c : AuditCheckpoint P) (entries : List AuthorityMutation) : Prop :=
  chainFailures c entries = [] ∧ P.sha256 c.unsigned = c.payloadSha256 ∧ c.nonForensicWording = nonForensicWording

theorem verify_valid_iff (registry : KeyLifecycleRegistry P) (c : AuditCheckpoint P) (entries : List AuthorityMutation)
    (acceptedAt : DateTime) :
    (verify registry c entries acceptedAt).valid = true ↔
      Intact c entries ∧ (signatureOf registry c acceptedAt).accepted = true := by
  simp only [verify, Intact, List.isEmpty_iff, List.append_eq_nil_iff]
  cases (signatureOf registry c acceptedAt).accepted with
  | false => simp
  | true =>
      simp
      tauto

/-- Historical acceptance implies that the key was active when it signed exactly
    where it was, or where another ground refuses the signature; for checkpoints
    also where the chain, the payload digest or the wording fails. -/
theorem historical_requires_active_iff (ops : List KeyLifecycleRegistry.Operation) :
    let s : KeyLifecycleRegistry P := KeyLifecycleRegistry.run ops
    (∀ ref message signature observedAt acceptedAt authorityPosition,
      ((s.verify ref message signature observedAt acceptedAt true authorityPosition).accepted = true →
          s.stateAt ref observedAt = some .active) ↔
        (s.stateAt ref observedAt = some .active ∨ s.Refused ref message signature observedAt authorityPosition)) ∧
    ∀ (c : AuditCheckpoint P) entries acceptedAt,
      ((verify s c entries acceptedAt).valid = true → s.stateAt c.signer c.createdAt = some .active) ↔
        (s.stateAt c.signer c.createdAt = some .active ∨ ¬ Intact c entries ∨
          s.Refused c.signer (P.canonicalJsonBytes c.unsigned) c.signatureB64 c.createdAt (some c.headPosition)) := by
  intro s
  constructor
  · intro ref message signature observedAt acceptedAt authorityPosition
    rw [KeyLifecycleRegistry.verify_accepted_iff, or_iff_not_imp_right]
  · intro c entries acceptedAt
    rw [verify_valid_iff, signatureOf, KeyLifecycleRegistry.verify_accepted_iff, or_iff_not_imp_right, not_or, not_not]

/-- A checkpoint is intact on the journal it was made over. -/
theorem create_intact {registry : KeyLifecycleRegistry P} {request : CheckpointRequest} {c : AuditCheckpoint P}
    {store store' : AuditStore P} (created : create registry request store = (.ok c, store')) :
    Intact c request.entries := by
  have covers := create_madeOver created
  obtain ⟨signer, chain, _, rfl⟩ := create_ok created
  refine ⟨check_of_summaries_eq covers ?_, rfl, rfl⟩
  rw [summaries_eq_iff_perm covers]
  -- the head is the last position, so the filter keeps the whole journal
  have all : ∀ item ∈ request.entries, item.position ≤
      (signedCheckpoint request signer chain.1 chain.2).headPosition := by
    intro item member
    have listed := List.mem_map_of_mem (f := AuthorityMutation.position) ((byPosition_perm _).mem_iff.mpr member)
    rw [covers.contiguous, positionsUpTo, List.mem_map] at listed
    obtain ⟨i, below, position⟩ := listed
    have bound := List.mem_range.mp below
    omega
  rw [List.filter_eq_self.mpr (fun item member => by simpa using all item member)]

section

open KeyLifecycleRegistry

/-- Generation 1 is revoked at time 20. A signature of time 30 is accepted as
    made before the revocation, and so is a checkpoint of time 30 that was
    created before the revocation was entered. -/
theorem revoked_key_accepted :
    (¬ ∀ (ops : List Operation) (ref : KeyRef) (row : KeyIdentityRow Platform.mixing) (message : List UInt8)
        (signature : String) (observedAt acceptedAt : DateTime) (authorityPosition : Option Int),
      (KeyLifecycleRegistry.run ops).find ref = some row →
      Platform.mixing.ed25519Verify row.record.publicKey message signature = true →
      ((KeyLifecycleRegistry.run ops).verify (P := Platform.mixing) ref message signature observedAt acceptedAt true
        authorityPosition).accepted = true →
      (KeyLifecycleRegistry.run ops : KeyLifecycleRegistry Platform.mixing).stateAt ref observedAt = some .active) ∧
    ¬ ∀ (ops : List Operation) (c : AuditCheckpoint Platform.mixing) (entries : List AuthorityMutation)
        (acceptedAt : DateTime),
      (verify (KeyLifecycleRegistry.run ops) c entries acceptedAt).valid = true →
      (KeyLifecycleRegistry.run ops : KeyLifecycleRegistry Platform.mixing).stateAt c.signer c.createdAt = some .active := by
  let revoked : KeyLifecycleRegistry Platform.mixing :=
    KeyLifecycleRegistry.run [.register (registration 1 0), .transition (change 1 .revokePolicy 20)]
  have state : revoked.stateAt (auditKey 1) 30 = some .revokedPolicy := by decide +kernel
  have later : revoked.laterCompromise (auditKey 1) 30 = none := by decide +kernel
  obtain ⟨row, found⟩ : ∃ row, revoked.find (auditKey 1) = some row := Option.isSome_iff_exists.mp (by decide +kernel)
  have key : (revoked.find (auditKey 1)).all (fun row => row.record.publicKey = List.replicate 32 7 ∧
      row.record.outsideValidity 30 = false) = true := by decide +kernel
  rw [found, Option.all_some, decide_eq_true_eq] at key
  have signs : ∀ message, Platform.mixing.ed25519Verify row.record.publicKey message
      (Platform.mixing.ed25519Sign (List.replicate 32 7) message) = true := by
    intro message
    rw [key.1]
    exact decide_eq_true rfl
  have accepted : ∀ message position, ¬ revoked.Refused (auditKey 1) message
      (Platform.mixing.ed25519Sign (List.replicate 32 7) message) 30 position := by
    rintro message position (refused | uncovered | ⟨compromise, doubt, _⟩)
    · obtain wrong | outside := refused row found
      · rw [signs] at wrong
        cases wrong
      · rw [key.2] at outside
        cases outside
    · rw [state] at uncovered
      cases uncovered
    · rw [later] at doubt
      cases doubt
  constructor
  · intro requires
    have active := requires _ (auditKey 1) row [1, 2, 3] _ 30 40 none found (signs _)
      ((verify_accepted_iff revoked _ _ _ _ _ _).mpr (accepted _ _))
    exact absurd (state.symm.trans active) (by decide)
  · intro requires
    have returns : (create (KeyLifecycleRegistry.run [.register (registration 1 0)])
        { checkpointRequest with createdAt := 30 } ({} : AuditStore Platform.mixing)).1.isOk = true := by decide +kernel
    rcases created : create (KeyLifecycleRegistry.run [.register (registration 1 0)])
        { checkpointRequest with createdAt := 30 } ({} : AuditStore Platform.mixing) with ⟨result, store'⟩
    cases result with
    | error e =>
        rw [created] at returns
        cases returns
    | ok c =>
        have intact := create_intact created
        obtain ⟨signer, chain, _, rfl⟩ := create_ok created
        have active := requires [.register (registration 1 0), .transition (change 1 .revokePolicy 20)] _ _ 40
          ((verify_valid_iff revoked _ _ 40).mpr ⟨intact, (verify_accepted_iff revoked _ _ _ _ _ _).mpr (accepted _ _)⟩)
        exact absurd (state.symm.trans active) (by decide)

end

end AuditCheckpointService

end SentinelEdge.Audit

/-! ## Which compromise floors count

Of the compromises after a signature the historical path looks at the first one. Its floor
stands for those of the later ones as long as they are known and not lower.
-/

namespace SentinelEdge.Security

open Foundation Domain

namespace KeyLifecycleRegistry

variable {P : Platform} {s : KeyLifecycleRegistry P} {ref : KeyRef} {observedAt : DateTime} {event : KeyLifecycleEvent P}

/-- The event puts signatures of that time in doubt. -/
structure Doubts (s : KeyLifecycleRegistry P) (ref : KeyRef) (observedAt : DateTime) (event : KeyLifecycleEvent P) : Prop where
  logged : event ∈ s.keyLifecycleEvents
  own : event.ref = ref
  compromises : event.action.compromises = true
  later : observedAt < event.effectiveAt

/-- The position is below the known floors of all compromises after the signature. -/
def BelowEveryFloor (s : KeyLifecycleRegistry P) (ref : KeyRef) (observedAt : DateTime) (authorityPosition : Option Int) :
    Prop :=
  ∀ event, Doubts s ref observedAt event → ∃ floor ∈ event.compromiseFloorPosition, ∃ position ∈ authorityPosition,
    position < floor

/-- If the floor of the first compromise after the signature is known, so are those of the others,
    and none is lower. -/
def FirstIsLowest (s : KeyLifecycleRegistry P) (ref : KeyRef) (observedAt : DateTime) : Prop :=
  ∀ first ∈ s.laterCompromise ref observedAt, ∀ floor ∈ first.compromiseFloorPosition,
    ∀ event, Doubts s ref observedAt event → ∃ other ∈ event.compromiseFloorPosition, floor ≤ other

/-- The message is signed with the key of the generation, at a time that the generation covers. -/
def SignedInTime (s : KeyLifecycleRegistry P) (ref : KeyRef) (message : List UInt8) (signature : String)
    (observedAt : DateTime) : Prop :=
  (∃ row ∈ s.find ref, P.ed25519Verify row.record.publicKey message signature = true ∧
    row.record.outsideValidity observedAt = false) ∧ s.stateAt ref observedAt ≠ none

theorem mem_events : event ∈ s.events ref ↔ event ∈ s.keyLifecycleEvents ∧ event.ref = ref := by
  simp [events, List.mem_insertionSort]

theorem laterCompromise_none (none : s.laterCompromise ref observedAt = none) : ¬ Doubts s ref observedAt event := by
  intro doubts
  have passed := List.find?_eq_none.mp none event
    (List.mem_filter.mpr ⟨mem_events.mpr ⟨doubts.logged, doubts.own⟩, decide_eq_true doubts.later⟩)
  exact passed doubts.compromises

theorem accepted_iff (s : KeyLifecycleRegistry P) (ref : KeyRef) (message : List UInt8) (signature : String)
    (observedAt acceptedAt : DateTime) (authorityPosition : Option Int) :
    (s.verify ref message signature observedAt acceptedAt true authorityPosition).accepted = true ↔
      SignedInTime s ref message signature observedAt ∧ ∀ first ∈ s.laterCompromise ref observedAt,
        ∃ floor ∈ first.compromiseFloorPosition, ∃ position ∈ authorityPosition, position < floor := by
  rw [verify_accepted_iff]
  unfold Refused SignedInTime
  rw [not_or, not_or, and_assoc]
  refine and_congr ?_ (and_congr Iff.rfl ?_)
  · simp [Option.mem_def]
  · constructor
    · intro unrefused first found
      by_contra unreached
      refine unrefused ⟨first, found, fun floor known position here => ?_⟩
      by_contra less
      exact unreached ⟨floor, known, position, here, Int.not_le.mp less⟩
    · rintro reached ⟨first, found, bounded⟩
      obtain ⟨floor, known, position, here, less⟩ := reached first found
      exact absurd (bounded floor known position here) (Int.not_le.mpr less)

/-- What is accepted is below the floors of all later compromises, whatever its position, exactly if
    none of them is lower than that of the first, or unknown. -/
theorem accepted_below_every_floor_iff (s : KeyLifecycleRegistry P) (ref : KeyRef) (message : List UInt8) (signature : String)
    (observedAt acceptedAt : DateTime) :
    (∀ authorityPosition, (s.verify ref message signature observedAt acceptedAt true authorityPosition).accepted = true →
      BelowEveryFloor s ref observedAt authorityPosition) ↔
      (SignedInTime s ref message signature observedAt → FirstIsLowest s ref observedAt) := by
  simp only [accepted_iff]
  constructor
  · intro below signed first found floor known event doubts
    have reached : ∀ other ∈ s.laterCompromise ref observedAt, ∃ bound ∈ other.compromiseFloorPosition,
        ∃ position ∈ some (floor - 1), position < bound := by
      intro other same
      cases (Option.mem_def.mp found).symm.trans same
      exact ⟨floor, known, floor - 1, rfl, by omega⟩
    obtain ⟨other, bounded, position, ⟨⟩, less⟩ := below (some (floor - 1)) ⟨signed, reached⟩ event doubts
    exact ⟨other, bounded, by omega⟩
  · rintro lowest position ⟨signed, reached⟩ event doubts
    cases found : s.laterCompromise ref observedAt with
    | none => exact absurd doubts (laterCompromise_none found)
    | some first =>
        obtain ⟨floor, known, place, here, less⟩ := reached first found
        obtain ⟨other, bounded, above⟩ := lowest signed first found floor known event doubts
        exact ⟨other, bounded, place, here, by omega⟩

/-- Generation 1 is suspected with a floor of 10, and confirmed with one of 5. -/
def lowered : List Operation := [
  .register (registration 1 0),
  .transition { change 1 .suspectCompromise 20 with compromiseFloorPosition := some 10 },
  .transition { change 1 .confirmCompromise 30 with compromiseFloorPosition := some 5 }]

/-- A signature of time 10 is accepted at position 7. -/
theorem lowered_floor_is_passed_over :
    ¬ ∀ (ops : List Operation) (ref : KeyRef) (message : List UInt8) (signature : String) (observedAt acceptedAt : DateTime)
      (authorityPosition : Option Int),
      SignedInTime (P := Platform.mixing) (run ops) ref message signature observedAt →
      ((run ops).verify (P := Platform.mixing) ref message signature observedAt acceptedAt true authorityPosition).accepted =
        true → BelowEveryFloor (P := Platform.mixing) (run ops) ref observedAt authorityPosition := by
  intro below
  obtain ⟨row, found, signed, covers⟩ : ∃ row ∈ (run lowered : KeyLifecycleRegistry Platform.mixing).find (auditKey 1),
      Platform.mixing.ed25519Verify row.record.publicKey [1, 2, 3]
        (Platform.mixing.ed25519Sign (List.replicate 32 7) [1, 2, 3]) = true ∧
      row.record.outsideValidity 10 = false := by decide +kernel
  obtain ⟨state, first, event⟩ : (run lowered : KeyLifecycleRegistry Platform.mixing).stateAt (auditKey 1) 10 ≠ none ∧
      (∀ first ∈ (run lowered : KeyLifecycleRegistry Platform.mixing).laterCompromise (auditKey 1) 10,
        first.compromiseFloorPosition = some 10) ∧
      ∃ event ∈ (run lowered : KeyLifecycleRegistry Platform.mixing).keyLifecycleEvents, event.ref = auditKey 1 ∧
        event.action.compromises = true ∧ 10 < event.effectiveAt ∧ event.compromiseFloorPosition = some 5 := by
    decide +kernel
  obtain ⟨event, logged, own, compromises, later, floor⟩ := event
  have signedInTime : SignedInTime (run lowered) (auditKey 1) [1, 2, 3] _ 10 := ⟨⟨row, found, signed, covers⟩, state⟩
  have reached : ∀ compromise ∈ (run lowered : KeyLifecycleRegistry Platform.mixing).laterCompromise (auditKey 1) 10,
      ∃ floor ∈ compromise.compromiseFloorPosition, ∃ position ∈ some (7 : Int), position < floor :=
    fun compromise found => ⟨10, first compromise found, 7, rfl, by omega⟩
  obtain ⟨bound, known, position, ⟨⟩, less⟩ := below lowered (auditKey 1) [1, 2, 3] _ 10 40 (some 7) signedInTime
    ((accepted_iff _ _ _ _ _ _ _).mpr ⟨signedInTime, reached⟩) event ⟨logged, own, compromises, later⟩
  rw [floor] at known
  cases known
  omega

end KeyLifecycleRegistry

end SentinelEdge.Security
