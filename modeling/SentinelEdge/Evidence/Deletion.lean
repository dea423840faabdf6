import SentinelEdge.Evidence.History

/-! # What deleting an item touches

The content of an item goes by its digest, before the event of the deletion is
built. Whoever shares the digest loses the bytes as well, and an event that cannot
be built then leaves the bytes gone without a trace in the lifecycle log.
-/

namespace SentinelEdge.Evidence

open Foundation Domain Storage EvidenceTrustService

variable {P : Platform} {sys sys' : EvidenceSystem P} {request : TransitionRequest} {drawn : Drawn}
  {item : EvidenceItem} {current projection : EvidenceLifecycleProjection}

/-! ## The stages of a transition -/

/-- What the content removal of a request comes to. -/
inductive Removed (sys : EvidenceSystem P) (request : TransitionRequest) (item : EvidenceItem) (drawn : Drawn) :
    Option String × List String → EvidenceSystem P → Prop where
  | untouched (keeps : request.toState ≠ .deleted) : Removed sys request item drawn (none, []) sys
  | unattached (deletes : request.toState = .deleted) (unattached : sys.attached = false) :
      Removed sys request item drawn
        (some (metadataDeletionProof P item), ["artifact_store_not_configured_metadata_deletion_only"]) sys
  | deleted {policy : Option ArtifactPolicy} (deletes : request.toState = .deleted) (attached : sys.attached = true)
      (deletable : sys.artifacts.Deletable item.contentSha256 true false drawn.checkedAt policy) :
      Removed sys request item drawn
        (some (ContentAddressedArtifactStore.receipt P item.contentSha256 policy
            (sys.artifacts.files.get? item.contentSha256)).deletionProofSha256,
          [if (sys.artifacts.files.get? item.contentSha256).isSome then "artifact_removed" else "artifact_not_present"])
        { sys with artifacts :=
          sys.artifacts.deleted item.contentSha256 request.actor true false policy.isSome drawn.recordedAt }

theorem removeContent_of_removed {deletion : Option String × List String}
    (removed : Removed sys request item drawn deletion sys') :
    removeContent request item drawn sys = (.ok deletion, sys') := by
  cases removed with
  | untouched keeps => simp [removeContent, keeps]
  | unattached deletes unattached => simp [removeContent, deletes, unattached]
  | deleted deletes attached deletable =>
      have connected : (!sys.attached) = false := by rw [attached]; rfl
      simp only [removeContent, Call.read_bind, id, deletes, ne_eq, not_true_eq_false, if_false, connected,
        Bool.false_eq_true]
      exact Call.bind_of_ok (onArtifacts_of_eq (ContentAddressedArtifactStore.deleteDigest_of_deletable deletable))

/-- Content removal raises and changes nothing, or comes to one of the three. -/
theorem removeContent_cases (sys : EvidenceSystem P) (request : TransitionRequest) (item : EvidenceItem) (drawn : Drawn) :
    (∃ e, removeContent request item drawn sys = (.error e, sys)) ∨
      ∃ deletion sys', Removed sys request item drawn deletion sys' := by
  by_cases deletes : request.toState = .deleted
  · cases attached : sys.attached with
    | false => exact .inr ⟨_, _, .unattached deletes attached⟩
    | true =>
        rcases ContentAddressedArtifactStore.deleteDigest_cases sys.artifacts item.contentSha256 request.actor true false
          drawn.checkedAt drawn.recordedAt with ⟨e, raised⟩ | ⟨policy, deletable⟩
        · refine .inl ⟨e, ?_⟩
          simp only [removeContent, Call.read_bind, id, deletes, ne_eq, not_true_eq_false, if_false, attached,
            Bool.not_true, Bool.false_eq_true]
          exact Call.bind_of_error (onArtifacts_of_eq raised)
        · exact .inr ⟨_, _, .deleted deletes attached deletable⟩
  · exact .inr ⟨_, _, .untouched deletes⟩

/-- Up to its event an admitted transition is its content removal. -/
theorem transition_of_removed {deletion : Option String × List String}
    (admitted : Admitted sys.store request drawn.projectedAt item current)
    (removed : Removed sys request item drawn deletion sys') :
    transition request drawn sys = (do
      let event ← Call.lift (buildEvent P request item current drawn deletion)
      onStore (record request item drawn event) : SystemCall P EvidenceLifecycleProjection) sys' := by
  simp only [transition, Call.read_bind, id]
  rw [Call.bind_of_ok (by rw [Call.lift_apply, admitTransition_ok.mpr admitted]), Call.bind_of_ok (removeContent_of_removed removed)]

/-- A transition that returned passed all its stages. -/
theorem transition_ok (h : transition request drawn sys = (.ok projection, sys')) :
    ∃ item current deletion sys₁ event, Admitted sys.store request drawn.projectedAt item current ∧
      Removed sys request item drawn deletion sys₁ ∧ buildEvent P request item current drawn deletion = .ok event ∧
      onStore (record request item drawn event) sys₁ = (.ok projection, sys') := by
  simp only [transition, Call.read_bind, id] at h
  rcases checked : admitTransition sys.store request drawn.projectedAt with e | ⟨item, current⟩
  · rw [Call.bind_of_error (by rw [Call.lift_apply, checked])] at h
    cases h
  · rw [Call.bind_of_ok (by rw [Call.lift_apply, checked])] at h
    rcases removeContent_cases sys request item drawn with ⟨e, raised⟩ | ⟨deletion, sys₁, removed⟩
    · rw [Call.bind_of_error raised] at h
      cases h
    · rw [Call.bind_of_ok (removeContent_of_removed removed)] at h
      obtain ⟨event, sys₂, built, recorded⟩ := Call.bind_ok.mp h
      rw [Call.lift_apply, Prod.mk.injEq] at built
      obtain ⟨built, rfl⟩ := built
      exact ⟨item, current, deletion, sys₁, event, admitTransition_ok.mp checked, removed, built, recorded⟩

/-! ## Content that is shared -/

/-- Another stored item is available and its bytes can be read. -/
structure Bystander (sys : EvidenceSystem P) (request : TransitionRequest) (other : EvidenceItem) : Prop where
  stored : other ∈ sys.store.allEvidence
  distinct : other.evidenceId ≠ request.evidenceId
  available : (sys.store.latestLifecycle other.evidenceId).map EvidenceLifecycleEvent.toState = some .available
  readable : sys.artifacts.Readable other.contentSha256

instance (sys : EvidenceSystem P) (request : TransitionRequest) (other : EvidenceItem) :
    Decidable (Bystander sys request other) :=
  decidable_of_iff
    (other ∈ sys.store.allEvidence ∧ other.evidenceId ≠ request.evidenceId ∧
      (sys.store.latestLifecycle other.evidenceId).map EvidenceLifecycleEvent.toState = some .available ∧
      sys.artifacts.Readable other.contentSha256)
    ⟨fun ⟨stored, distinct, available, readable⟩ => ⟨stored, distinct, available, readable⟩,
      fun bystander => ⟨bystander.stored, bystander.distinct, bystander.available, bystander.readable⟩⟩

/-- A deletion that returns leaves the bytes of every available item readable if
    and only if it had no artifact store to delete from or nobody who could read
    them shares the content of the deleted item. -/
theorem deletion_spares_bystanders_iff (P : Platform) (sys sys' : EvidenceSystem P) (request : TransitionRequest)
    (drawn : Drawn) (projection : EvidenceLifecycleProjection) (deletes : request.toState = .deleted)
    (returned : transition request drawn sys = (.ok projection, sys')) :
    (∀ other, Bystander sys request other → sys'.artifacts.Readable other.contentSha256) ↔
      (sys.attached = true → ∀ item, sys.store.allEvidence.find? (fun item => item.evidenceId = request.evidenceId) = some item →
        ∀ other, Bystander sys request other → other.contentSha256 ≠ item.contentSha256) := by
  obtain ⟨item, current, deletion, sys₁, event, admitted, removed, -, recorded⟩ := transition_ok returned
  have artifacts : sys'.artifacts = sys₁.artifacts := by rw [← (Prod.mk.inj recorded).2]
  rw [artifacts]
  cases removed with
  | untouched keeps => exact absurd deletes keeps
  | unattached _ unattached =>
      constructor
      · intro _ attached
        rw [unattached] at attached
        cases attached
      · intro _ other bystander
        exact bystander.readable
  | deleted _ attached deletable =>
      constructor
      · intro spared _ found found_eq other bystander same
        rw [admitted.found, Option.some.injEq] at found_eq
        obtain ⟨-, -, data, stored, -⟩ := ContentAddressedArtifactStore.readable_iff.mp (spared other bystander)
        rw [same, ← found_eq, ContentAddressedArtifactStore.get?_deleted, if_pos rfl] at stored
        cases stored
      · intro unshared other bystander
        obtain ⟨length, hex, data, stored, content⟩ := ContentAddressedArtifactStore.readable_iff.mp bystander.readable
        refine ContentAddressedArtifactStore.readable_iff.mpr ⟨length, hex, data, ?_, content⟩
        rw [ContentAddressedArtifactStore.get?_deleted, if_neg (unshared attached item admitted.found other bystander)]
        exact stored

/-- Three bytes of footage. -/
def scene : List UInt8 := [1, 2, 3]

/-- A report with retained content. -/
def footage (evidenceId : Nat) (data : List UInt8) (originKey : String) : EvidenceItem :=
  { report evidenceId 'a' originKey with
    contentSha256 := contentDigest Platform.hexadecimal data
    retentionState := .retained
    rightsBasis := some "licence"
    rightsMode := some .retainBytes }

/-- The bytes are put into the artifact store. -/
def shelve (data : List UInt8) : SystemOperation Platform.hexadecimal :=
  .artifacts (do
    let _ ← ContentAddressedArtifactStore.putBytes data "image/png" false (ArtifactPolicy.incidentEvidence true) {} 0)

/-- Two reports are taken in after their content. -/
def reports (first second : List UInt8) : EvidenceSystem Platform.hexadecimal :=
  EvidenceSystem.run shelf true [openRidgeFire, shelve first, shelve second,
    .ingest {} (footage 1 first "post-1") (UUID.ofNat 101) 1, .ingest {} (footage 2 second "post-2") (UUID.ofNat 102) 2]

/-- Content of its own: the other report stays readable. -/
theorem own_content_spares_bystanders :
    (∃ other ∈ (reports scene [4]).store.allEvidence, Bystander (reports scene [4]) (deletion 1 1) other) ∧
    ∀ other, Bystander (reports scene [4]) (deletion 1 1) other →
      (transition (deletion 1 1) (draw 1) (reports scene [4])).2.artifacts.Readable other.contentSha256 := by
  have facts : (∃ other ∈ (reports scene [4]).store.allEvidence, Bystander (reports scene [4]) (deletion 1 1) other) ∧
      (transition (deletion 1 1) (draw 1) (reports scene [4])).1.isOk = true ∧
      ∀ item ∈ (reports scene [4]).store.allEvidence, ∀ other ∈ (reports scene [4]).store.allEvidence,
        item.evidenceId ≠ other.evidenceId → other.contentSha256 ≠ item.contentSha256 := by decide +kernel
  obtain ⟨present, returns, contents⟩ := facts
  refine ⟨present, ?_⟩
  rcases call : transition (deletion 1 1) (draw 1) (reports scene [4]) with ⟨r, sys'⟩
  rw [call] at returns
  cases r with
  | error e => cases returns
  | ok projection =>
      refine (deletion_spares_bystanders_iff Platform.hexadecimal _ sys' _ _ projection rfl call).mpr ?_
      intro _ item found other bystander
      have own : item.evidenceId = (deletion 1 1).evidenceId := by simpa using List.find?_some found
      refine contents item (List.mem_of_find?_eq_some found) other bystander.stored ?_
      rw [own]
      exact Ne.symm bystander.distinct

/-- Two reports of the same footage: deleting the first takes the bytes of the second. -/
theorem shared_content_lost :
    (transition (deletion 1 1) (draw 1) (reports scene scene)).1.isOk = true ∧
    ∃ other ∈ (reports scene scene).store.allEvidence, Bystander (reports scene scene) (deletion 1 1) other ∧
      ¬ (transition (deletion 1 1) (draw 1) (reports scene scene)).2.artifacts.Readable other.contentSha256 := by
  decide +kernel

/-! ## Failing after the content is gone -/

/-- The ids a call draws have not been used. -/
structure Fresh (s : Store P) (drawn : Drawn) : Prop where
  lifecycle : ∀ row ∈ s.evidenceLifecycleEvents, row.record.lifecycleEventId ≠ drawn.lifecycleEventId
  reevaluation : ∀ row ∈ s.evidenceReevaluations, row.record.reevaluationId ≠ drawn.reevaluationId

/-- Every link counts for something in a lawful store. -/
theorem countLinks_returns {s : Store P} (lawful : Lawful s) (now : DateTime) {links : List ClaimEvidenceLink}
    (stored : ∀ link ∈ links, ∃ target ∈ s.evidenceItems, target.record.evidenceId = link.evidenceId) (counts : LinkCounts) :
    ∃ result, countLinks s now links counts = .ok result := by
  induction links generalizing counts with
  | nil => exact ⟨counts, rfl⟩
  | cons link links ih =>
      obtain ⟨target, member, own⟩ := stored link (by simp)
      obtain ⟨last, -, -, projected⟩ := lawful.lastEvent member
      rw [own] at projected
      simp only [countLinks, projected now]
      exact ih (fun link member => stored link (by simp [member])) _

theorem mem_claimLinks {s : Store P} {incidentId : UUID} {link : ClaimEvidenceLink} (member : link ∈ s.claimLinks incidentId) :
    ∃ row ∈ s.claimEvidenceLinks, row.record = link := by
  simp only [Store.claimLinks, List.mem_insertionSort, List.mem_filter, List.mem_map] at member
  exact member.1

theorem Lawful.links_stored {s : Store P} (lawful : Lawful s) (incidentId : UUID) :
    ∀ link ∈ s.claimLinks incidentId, ∃ target ∈ s.evidenceItems, target.record.evidenceId = link.evidenceId := by
  intro link member
  obtain ⟨row, stored, rfl⟩ := mem_claimLinks member
  exact lawful.linked row stored

theorem claimReconciliation_returns {s : Store P} (lawful : Lawful s) (incidentId : UUID) (now : DateTime) :
    ∃ result, claimReconciliation s incidentId now = .ok result := by
  obtain ⟨counts, counted⟩ := countLinks_returns lawful now (lawful.links_stored incidentId) ⟨0, 0, 0⟩
  exact ⟨_, by simp only [claimReconciliation, counted]; rfl⟩

theorem recordEvidenceReevaluation_returns {s : Store P} {journal : List Mutation} (rep : Represents s journal)
    (record : EvidenceReevaluationRecord)
    (new : ∀ row ∈ s.evidenceReevaluations, row.record.reevaluationId ≠ record.reevaluationId) :
    ∃ s', recordEvidenceReevaluation record s = (.ok record, s') := by
  have absent : (Tables.evidenceReevaluations.rows s).find? (fun row => row.record.reevaluationId = record.reevaluationId) =
      none := by
    rw [List.find?_eq_none]
    intro row member
    simpa using new row member
  have free : s.evidenceReevaluations.any ((Tables.evidenceReevaluations (P := P)).clash
      ⟨record, P.sha256 (record.modelDump P)⟩) = false := by
    rw [List.any_eq_false]
    intro row member
    simpa [Tables.evidenceReevaluations] using Ne.symm (new row member)
  refine ⟨{ s.journalled ⟨.evidenceReevaluation, record.reevaluationId.str, record.createdAt, record.modelDump P⟩ with
    evidenceReevaluations := s.evidenceReevaluations ++ [⟨record, P.sha256 (record.modelDump P)⟩] },
    Call.atomically_of_ok ?_⟩
  simp only [recordOnce, Call.read_bind, absent]
  rw [appendAuthority_bind rep]
  exact Call.bind_of_ok (Table.insert_of_fresh free)

/-- With fresh ids the two writes of an admitted request go through. -/
theorem record_returns {s : Store P} (lawful : Lawful s) {deletion : Option String × List String}
    {event : EvidenceLifecycleEvent} (admitted : Admitted s request drawn.projectedAt item current)
    (built : buildEvent P request item current drawn deletion = .ok event) (fresh : Fresh s drawn) :
    ∃ projection s', record request item drawn event s = (.ok projection, s') := by
  have warranted : Warranted s event := ⟨request, drawn, drawn.projectedAt, item, current, deletion, admitted, built⟩
  obtain ⟨row, member, own, incident, last, found, next⟩ := lawful.mayFollow warranted
  obtain ⟨journal, rep⟩ := lawful.represented
  obtain ⟨_, found', latest, -⟩ := lawful.lastEvent member
  rw [own, found, Option.some.injEq] at found'
  rw [own, ← found'] at latest
  have drawnId : event.lifecycleEventId = drawn.lifecycleEventId ∧ event.evidenceId = request.evidenceId := by
    unfold buildEvent at built
    cases action : actionForState request.toState with
    | none =>
        rw [action] at built
        cases built
    | some act =>
        rw [action] at built
        obtain ⟨rfl, -⟩ := validate_ok built
        exact ⟨rfl, rfl⟩
  have legal := lawful.legal row member
  rw [own] at legal
  have written : ∃ s₁, recordEvidenceLifecycle event s = (.ok event, s₁) ∧ s₁.domain = (s.withLifecycle event).domain := by
    refine recordEvidenceLifecycle_of_continues rep (own ▸ lawful.evidenceRow member) incident ?_ ⟨?_, ?_⟩ ?_
    · intro other stored
      rw [drawnId.1]
      exact fresh.lifecycle other stored
    · simp [latest, next.follows.version]
    · simp [latest, next.follows.state]
    · intro old stored same
      obtain ⟨i, at_i⟩ := List.mem_iff_getElem?.mp stored
      have below := (List.getElem?_eq_some_iff.mp at_i).1
      rw [legal.numbered.version_getElem at_i, next.version, next.follows.version, legal.numbered.version_last found] at same
      omega
  obtain ⟨s₁, write, domain⟩ := written
  have lawful₁ : Lawful s₁ := by
    have stepped := lawful.recordEvidenceLifecycle warranted
    rwa [Write.step, Write.exec, discard_step, write] at stepped
  obtain ⟨journal₁, rep₁⟩ := lawful₁.represented
  have items : s₁.evidenceItems = s.evidenceItems := field_of_domain domain Store.evidenceItems rfl
  have reevaluations : s₁.evidenceReevaluations = s.evidenceReevaluations :=
    field_of_domain domain Store.evidenceReevaluations rfl
  obtain ⟨last₁, -, -, projected⟩ := lawful₁.lastEvent (items ▸ member)
  rw [own, drawnId.2] at projected
  obtain ⟨reconciliation, reconciled⟩ := claimReconciliation_returns lawful₁ item.incidentId drawn.projectedAt
  have reevaluated : ∃ s₂, reevaluate request item event.action drawn s₁ = (.ok (), s₂) := by
    unfold reevaluate
    split
    · exact ⟨s₁, rfl⟩
    · simp only [Call.read_bind, id]
      rw [Call.bind_of_ok (by rw [Call.lift_apply, reconciled])]
      obtain ⟨s₂, recorded⟩ := recordEvidenceReevaluation_returns rep₁
        (reevaluationRecord request item event.action drawn reconciliation) (by
          rw [reevaluations]
          exact fresh.reevaluation)
      exact ⟨s₂, Call.bind_of_ok recorded⟩
  obtain ⟨s₂, reevaluated⟩ := reevaluated
  refine ⟨Store.projectionOf row.record last₁ drawn.projectedAt, s₂, ?_⟩
  rw [record, Call.bind_of_ok write]
  simp only [Call.read_bind, id]
  rw [Call.bind_of_ok (by rw [Call.lift_apply, projected]), Call.bind_of_ok reevaluated]
  rfl

/-- The deletion leaves a trace: there was a file, or it is recorded for a
    catalogued digest. -/
def LeavesTrace (sys : EvidenceSystem P) (item : EvidenceItem) (actor : String) (policy : Option ArtifactPolicy)
    (recordedAt : DateTime) : Prop :=
  (sys.artifacts.files.get? item.contentSha256).isSome = true ∨
    (policy.isSome = true ∧ ∀ old ∈ sys.artifacts.catalog.gcEvents, old.eventId ≠
      (ContentAddressedArtifactStore.deletionEvent P item.contentSha256 actor true false false recordedAt).eventId)

/-- The content may go, but the event is without an actor or a reason. -/
structure DiscardsContent (sys : EvidenceSystem P) (request : TransitionRequest) (drawn : Drawn) : Prop where
  deletes : request.toState = .deleted
  attached : sys.attached = true
  unsigned : isBlank request.actor = true ∨ isBlank request.reason = true
  removable : ∃ item current policy, Admitted sys.store request drawn.projectedAt item current ∧
    sys.artifacts.Deletable item.contentSha256 true false drawn.checkedAt policy ∧
    LeavesTrace sys item request.actor policy drawn.recordedAt

theorem restrict_of_absent {files : Dict String (List UInt8)} {digest : String} (absent : files.get? digest = none) :
    files.restrict (fun other => other ≠ digest) = files := by
  have kept : files.items.filter (fun item => item.1 ≠ digest) = files.items := by
    rw [List.filter_eq_self]
    intro entry member
    have present := Dict.get?_eq_some_iff.mpr member
    simp only [decide_eq_true_eq]
    intro same
    rw [same, absent] at present
    cases present
  cases files
  simp only [Dict.restrict, Dict.mk.injEq]
  exact kept

/-- Without a trace nothing changes. -/
theorem deleted_eq_iff (sys : EvidenceSystem P) (item : EvidenceItem) (actor : String) (policy : Option ArtifactPolicy)
    (recordedAt : DateTime) :
    sys.artifacts.deleted item.contentSha256 actor true false policy.isSome recordedAt = sys.artifacts ↔
      ¬ LeavesTrace sys item actor policy recordedAt := by
  constructor
  · rintro same (present | ⟨catalogued, new⟩)
    · have gone := ContentAddressedArtifactStore.get?_deleted sys.artifacts item.contentSha256 actor true false policy.isSome
        recordedAt item.contentSha256
      rw [same, if_pos rfl] at gone
      rw [gone] at present
      cases present
    · cases stored : sys.artifacts.files.get? item.contentSha256 with
      | some data =>
          have gone := ContentAddressedArtifactStore.get?_deleted sys.artifacts item.contentSha256 actor true false
            policy.isSome recordedAt item.contentSha256
          rw [same, if_pos rfl, stored] at gone
          cases gone
      | none =>
          have catalog := congrArg (fun a => a.catalog.gcEvents.length) same
          have unused : sys.artifacts.catalog.gcEvents.any (fun old => old.eventId =
              (ContentAddressedArtifactStore.deletionEvent P item.contentSha256 actor true false false recordedAt).eventId) =
              false := by
            rw [List.any_eq_false]
            intro old member
            simpa using new old member
          simp [ContentAddressedArtifactStore.deleted, catalogued, stored, ArtifactCatalog.recordGcEvent, unused] at catalog
  · intro untraced
    simp only [LeavesTrace, not_or, Bool.not_eq_true, Option.isSome_eq_false_iff, Option.isNone_iff_eq_none, not_and,
      not_forall, not_not] at untraced
    obtain ⟨absent, recorded⟩ := untraced
    unfold ContentAddressedArtifactStore.deleted
    rw [restrict_of_absent absent, absent]
    cases catalogued : policy.isSome with
    | false => rfl
    | true =>
        obtain ⟨old, member, same⟩ := recorded catalogued
        have used : sys.artifacts.catalog.gcEvents.any (fun old => old.eventId =
            (ContentAddressedArtifactStore.deletionEvent P item.contentSha256 actor true false false recordedAt).eventId) =
            true := by
          rw [List.any_eq_true]
          exact ⟨old, member, by simpa using same⟩
        simp [ArtifactCatalog.recordGcEvent, used]

/-- An event with an actor, a reason and a well-formed proof is valid. -/
theorem validate_returns {event : EvidenceLifecycleEvent} (actor : isBlank event.actor = false)
    (reason : isBlank event.reason = false) (version : event.resultingVersion = event.expectedVersion + 1)
    (given : event.action = .delete → ∃ text, event.deletionProofSha256 = some text)
    (formed : ∀ text, event.deletionProofSha256 = some text → P.isSha256 text = true) : event.validate P = .ok event := by
  unfold EvidenceLifecycleEvent.validate
  cases proof : event.deletionProofSha256 with
  | none =>
      have keeps : event.action ≠ .delete := by
        intro delete
        obtain ⟨text, present⟩ := given delete
        rw [proof] at present
        cases present
      simp [actor, reason, version, keeps]
  | some text =>
      have hex := formed text proof
      have notEmpty : text ≠ "" := by
        rintro rfl
        simp [Platform.isSha256] at hex
      simp [actor, reason, version, notEmpty, hex]

theorem buildEvent_returns {deletion : Option String × List String} {s : Store P} {now : DateTime} (drawn : Drawn)
    (admitted : Admitted s request now item current) (actor : isBlank request.actor = false)
    (reason : isBlank request.reason = false)
    (given : request.toState = .deleted → ∃ text, deletion.1 = some text)
    (formed : ∀ text, deletion.1 = some text → P.isSha256 text = true) :
    ∃ event, buildEvent P request item current drawn deletion = .ok event := by
  obtain ⟨action, named, delete⟩ : ∃ action, actionForState request.toState = some action ∧
      (action = .delete → request.toState = .deleted) := by
    have legal := admitted.legal
    revert legal
    cases current.state <;> cases request.toState <;> simp [legalTransitions, actionForState]
  refine ⟨lifecycleEvent request item current action drawn deletion, ?_⟩
  rw [buildEvent, named]
  exact validate_returns actor reason rfl (fun same => given (delete same)) formed

/-- A deletion that is turned down for lack of an actor or a reason has already
    removed the content. -/
theorem transition_of_discards (discards : DiscardsContent sys request drawn) :
    ∃ e sys', transition request drawn sys = (.error e, sys') ∧ sys' ≠ sys := by
  obtain ⟨item, current, policy, admitted, deletable, trace⟩ := discards.removable
  have removed := @Removed.deleted _ _ request _ drawn _ discards.deletes discards.attached deletable
  have unbuilt : ∀ proof, buildEvent P request item current drawn proof =
      .error (.validationError "evidence lifecycle event requires actor and reason") := by
    intro proof
    have blank : (isBlank request.actor || isBlank request.reason) = true := by simpa using discards.unsigned
    simp [buildEvent, discards.deletes, actionForState, EvidenceLifecycleEvent.validate, lifecycleEvent, blank]
  refine ⟨_, _, (transition_of_removed admitted removed).trans (Call.bind_of_error (by rw [Call.lift_apply, unbuilt])), ?_⟩
  intro same
  exact (deleted_eq_iff sys item request.actor policy drawn.recordedAt).mp (congrArg EvidenceSystem.artifacts same) trace

/-- Every hexadecimal digest passes for one. -/
def DigestsAreHex (P : Platform) : Prop := ∀ digest, P.isSha256 (P.hexdigest digest) = true

theorem Removed.proof {deletion : Option String × List String} (hex : DigestsAreHex P)
    (removed : Removed sys request item drawn deletion sys') :
    (request.toState = .deleted → ∃ text, deletion.1 = some text) ∧
      ∀ text, deletion.1 = some text → P.isSha256 text = true := by
  cases removed with
  | untouched keeps => exact ⟨fun deletes => absurd deletes keeps, by simp⟩
  | unattached =>
      refine ⟨fun _ => ⟨_, rfl⟩, ?_⟩
      rintro _ ⟨rfl⟩
      exact hex _
  | deleted =>
      refine ⟨fun _ => ⟨_, rfl⟩, ?_⟩
      rintro _ ⟨rfl⟩
      exact hex _

end SentinelEdge.Evidence
