import SentinelEdge.Incidents.Lifecycle

/-! # Receipts of commands

A command commits its effect first and its receipt in a second transaction. The
receipt table also has the command id as a key of its own, so a reused id makes
the second transaction fail after the first. A receipt that is in place answers
every later submission under its key without a change.
-/

namespace SentinelEdge.Incidents

open Foundation Domain Storage

variable {P : Platform} {e : Engine P}

/-! ## Rejected commands -/

/-- The incident tables and the projection are the same. -/
structure Unchanged (e e' : Engine P) : Prop where
  incidents : e'.store.incidentEvents = e.store.incidentEvents
  relations : e'.store.incidentRelations = e.store.incidentRelations
  reviewActions : e'.store.reviewActions = e.store.reviewActions
  reviewStates : e'.store.incidentReviewState = e.store.incidentReviewState
  intents : e'.store.notificationIntents = e.store.notificationIntents
  receipts : e'.store.commandReceipts = e.store.commandReceipts
  current : e'.current = e.current

theorem Unchanged.refl (e : Engine P) : Unchanged e e := ⟨rfl, rfl, rfl, rfl, rfl, rfl, rfl⟩

/-- A call that raises leaves everything as it was. -/
def AllOrNothing {α : Type} (call : EngineCall P α) (e : Engine P) : Prop :=
  ∀ error, (call e).1 = .error error → Unchanged e (call e).2

/-- A receipt of another command has this command id. -/
def IdTaken (s : Store P) (commandId : UUID) : Prop := ∃ r ∈ s.commandReceipts, r.commandId = commandId

/-- What the first transaction of an accepted status command needs to go through
    and write: the checks of its kind, and ids that are free. -/
def Proceeds (e : Engine P) (command : IncidentStatusCommand) (c : IncidentRecord) : Prop :=
  match command.command with
  | .corroborate | .contradict | .control => True
  | .resolve => c.coverage ≠ .blind ∧ (c.state = .suspected ∨ c.state = .resolving ∨
      (c.state = .confirmed ∧ (e.store.reviewState c.incidentId).acknowledgedAt ≠ none))
  | .reopen => c.state = .resolved ∧ ¬ Collides e.store (StatusCommand.commandedRecord command c .suspected c.confidence)
  | .link => isBlank command.actor = false ∧ isBlank command.reason = false ∧
      ∃ related, (command.relatedIncidentId.bind e.incidentById) = some related ∧
        command.relatedHazard = some related.hazard ∧ related.hazard ≠ c.hazard ∧
        ∀ row ∈ e.store.incidentRelations,
          row.record.relationId ≠ P.uuid5 ("sentinel-incident-relation:" ++ command.commandId.str) ∧
          ¬ (row.record.sourceIncidentId = c.incidentId ∧ row.record.targetIncidentId = related.incidentId ∧
            row.record.relation = .temporalAssociation)
  | .merge => False

/-- The command's effect is committed and its receipt is not. -/
def HalfCommits (e : Engine P) (command : IncidentStatusCommand) : Prop :=
  IdTaken e.store command.commandId ∧ ∃ c, Accepted e command c ∧ Proceeds e command c

section Transition

variable {command : IncidentStatusCommand} {c : IncidentRecord} {target : IncidentState} {confidence : ℚ}

theorem commandedRecord_fresh (confidence : ℚ) (inv : Invariant e) (accepted : Accepted e command c)
    (legal : target ∈ allowed c.state) :
    ∀ r ∈ e.store.journal, ¬ ((StatusCommand.commandedRecord command c target confidence).incidentId = r.incidentId ∧
      (StatusCommand.commandedRecord command c target confidence).version = r.version) := by
  obtain ⟨holds, -⟩ := inv.incidentById_some accepted.found
  refine inv.fresh_version ?_ (show e.current.get? c.hazard = some c from holds)
  rw [show (StatusCommand.commandedRecord command c target confidence).hazard = c.hazard from rfl, holds]
  exact commandedRecord_succeeds (inv.stamped holds) legal

/-- A version that calls for no intent always fits. -/
theorem commandedRecord_fits (inv : Invariant e) (accepted : Accepted e command c) (legal : target ∈ allowed c.state)
    (quiet : target ∉ notifyStates ∨ target = c.state) :
    Fits e.store (StatusCommand.commandedRecord command c target confidence)
      (StatusCommand.intent e command c (StatusCommand.commandedRecord command c target confidence)) := by
  refine ⟨commandedRecord_fresh confidence inv accepted legal, ?_⟩
  have none : StatusCommand.intent e command c (StatusCommand.commandedRecord command c target confidence) = none :=
    if_pos quiet
  rw [none]
  rintro item ⟨⟩

/-- A reopened incident calls for an intent, whose id may be taken. -/
theorem reopened_fits_iff {budget : Int} (inv : Invariant e) (posting : Posting budget e) (accepted : Accepted e command c)
    (resolved : c.state = .resolved) :
    Fits e.store (StatusCommand.commandedRecord command c .suspected confidence)
        (StatusCommand.intent e command c (StatusCommand.commandedRecord command c .suspected confidence)) ↔
      ¬ Collides e.store (StatusCommand.commandedRecord command c .suspected confidence) := by
  have legal : IncidentState.suspected ∈ allowed c.state := by
    rw [resolved]
    decide
  have fresh := commandedRecord_fresh confidence inv accepted legal
  obtain ⟨holds, -⟩ := inv.incidentById_some accepted.found
  constructor
  · rintro fits ⟨n, member, id, other⟩
    have called : ¬ (IncidentState.suspected ∉ notifyStates ∨ IncidentState.suspected = c.state) := by
      rw [resolved]
      decide
    obtain ⟨item, made⟩ : ∃ item, StatusCommand.intent e command c
        (StatusCommand.commandedRecord command c .suspected confidence) = some item := ⟨_, if_neg called⟩
    have created := notificationFor_some made
    rw [made] at fits
    have added := posting.added fresh created.announces.key
    exact fits.intent item (added ▸ List.mem_singleton_self item) n member (created.announces.id.trans id.symm)
  · intro distinct
    refine posting.fits distinct command.submittedAt ?_ fresh
    rw [show (StatusCommand.commandedRecord command c .suspected confidence).hazard = c.hazard from rfl, holds]
    rfl

theorem resolve_planned_iff {store : Store P} (kind : command.command = .resolve) :
    (∃ record, StatusCommand.planTransition store command c = .ok record) ↔
      c.coverage ≠ .blind ∧ (c.state = .suspected ∨ c.state = .resolving ∨
        (c.state = .confirmed ∧ (store.reviewState c.incidentId).acknowledgedAt ≠ none)) := by
  simp only [StatusCommand.planTransition, StatusCommand.outcome, kind]
  by_cases blind : c.coverage = .blind
  · simp [blind]
  · by_cases unseen : (store.reviewState c.incidentId).acknowledgedAt = none
    · cases state : c.state <;> simp [blind, unseen, allowed]
    · cases state : c.state <;> simp [blind, unseen, allowed]

/-- What a resolve command plans is no state to notify. -/
theorem resolve_planned_quiet {store : Store P} {record : IncidentRecord} (kind : command.command = .resolve)
    (planned : StatusCommand.planTransition store command c = .ok record) :
    ∃ target confidence, record = StatusCommand.commandedRecord command c target confidence ∧
      target ∈ allowed c.state ∧ target ∉ notifyStates := by
  obtain ⟨target, confidence, asked, legal, rfl⟩ := planTransition_ok planned
  refine ⟨target, confidence, rfl, legal, ?_⟩
  simp only [StatusCommand.outcome, kind] at asked
  split at asked
  · cases asked
  · split at asked
    · cases asked
    · obtain ⟨rfl, -⟩ := Prod.mk.inj (Except.ok.inj asked)
      split <;> decide

theorem reopen_planned {store : Store P} (kind : command.command = .reopen) (record : IncidentRecord) :
    StatusCommand.planTransition store command c = .ok record ↔
      c.state = .resolved ∧ record = StatusCommand.commandedRecord command c .suspected c.confidence := by
  simp only [StatusCommand.planTransition, StatusCommand.outcome, kind]
  by_cases resolved : c.state = .resolved
  · simp [resolved, allowed, eq_comm]
  · simp [resolved]

/-- A transition is planned and fits exactly when its kind proceeds. -/
theorem transition_proceeds_iff {budget : Int} (inv : Invariant e) (posting : Posting budget e)
    (accepted : Accepted e command c) (transition : StatusCommand.isRelating command = false) :
    (∃ record, StatusCommand.planTransition e.store command c = .ok record ∧
      Fits e.store record (StatusCommand.intent e command c record)) ↔ Proceeds e command c := by
  have keeping (confidence : ℚ) (asked : StatusCommand.outcome command c (e.store.reviewState c.incidentId) =
      .ok (c.state, confidence)) : ∃ record, StatusCommand.planTransition e.store command c = .ok record ∧
        Fits e.store record (StatusCommand.intent e command c record) := by
    refine ⟨StatusCommand.commandedRecord command c c.state confidence, ?_,
      commandedRecord_fits inv accepted (allowed_self c.state) (.inr rfl)⟩
    simp [StatusCommand.planTransition, asked, allowed_self]
  cases kind : command.command with
  | corroborate =>
      apply iff_of_true (keeping _ (by simp only [StatusCommand.outcome, kind]; rfl))
      simp [Proceeds, kind]
  | contradict =>
      apply iff_of_true (keeping _ (by simp only [StatusCommand.outcome, kind]; rfl))
      simp [Proceeds, kind]
  | control =>
      apply iff_of_true (keeping _ (by simp only [StatusCommand.outcome, kind]; rfl))
      simp [Proceeds, kind]
  | link => simp [StatusCommand.isRelating, kind] at transition
  | merge => simp [StatusCommand.isRelating, kind] at transition
  | resolve =>
      simp only [Proceeds, kind]
      rw [← resolve_planned_iff kind]
      refine exists_congr fun record => and_iff_left_of_imp fun planned => ?_
      obtain ⟨target, confidence, rfl, legal, quiet⟩ := resolve_planned_quiet kind planned
      exact commandedRecord_fits inv accepted legal (.inl quiet)
  | reopen =>
      simp only [Proceeds, kind, reopen_planned kind, and_assoc]
      constructor
      · rintro ⟨record, resolved, rfl, fits⟩
        exact ⟨resolved, (reopened_fits_iff inv posting accepted resolved).mp fits⟩
      · rintro ⟨resolved, distinct⟩
        exact ⟨_, resolved, rfl, (reopened_fits_iff inv posting accepted resolved).mpr distinct⟩

end Transition

section Relation

variable {command : IncidentStatusCommand} {c : IncidentRecord}

/-- Incidents of one hazard are one incident, so a merge is never planned. -/
theorem merge_unplanned (inv : Invariant e) (accepted : Accepted e command c) (kind : command.command = .merge)
    (relation : IncidentRelation) : StatusCommand.planRelation e command c ≠ .ok relation := by
  intro planned
  obtain ⟨holds, -⟩ := inv.incidentById_some accepted.found
  unfold StatusCommand.planRelation at planned
  split at planned
  · split at planned
    · cases planned
    · next related found =>
        split at planned
        · cases planned
        · split at planned
          · cases planned
          · next same =>
              obtain ⟨holds', -⟩ := inv.incidentById_some found
              rw [Decidable.not_not.mp same, holds] at holds'
              obtain rfl := Option.some.inj holds'
              simp [IncidentRelation.validate, StatusCommand.relationFor] at planned
  · cases planned

theorem temporalAssociation_valid_iff (command : IncidentStatusCommand) {related : IncidentRecord} (apart : c.incidentId ≠ related.incidentId)
    (other : related.hazard ≠ c.hazard) (relation : IncidentRelation) :
    (StatusCommand.relationFor P command c related .temporalAssociation).validate = .ok relation ↔
      isBlank command.actor = false ∧ isBlank command.reason = false ∧
        relation = StatusCommand.relationFor P command c related .temporalAssociation := by
  have source : (StatusCommand.relationFor P command c related .temporalAssociation).sourceIncidentId ≠
      (StatusCommand.relationFor P command c related .temporalAssociation).targetIncidentId := apart
  have hazards : (StatusCommand.relationFor P command c related .temporalAssociation).sourceHazard ≠
      (StatusCommand.relationFor P command c related .temporalAssociation).targetHazard := Ne.symm other
  rw [IncidentRelation.validate, if_neg source]
  cases actor : isBlank command.actor with
  | true => simp [StatusCommand.relationFor, actor]
  | false =>
      cases reason : isBlank command.reason with
      | true => simp [StatusCommand.relationFor, actor, reason]
      | false =>
          rw [if_neg (by simp [StatusCommand.relationFor, actor, reason]), if_neg (fun both => hazards both.2)]
          simp [eq_comm]

/-- What a link plans. -/
theorem link_planned_iff (inv : Invariant e) (accepted : Accepted e command c) (kind : command.command = .link)
    (relation : IncidentRelation) :
    StatusCommand.planRelation e command c = .ok relation ↔
      isBlank command.actor = false ∧ isBlank command.reason = false ∧
        ∃ related, (command.relatedIncidentId.bind e.incidentById) = some related ∧
          command.relatedHazard = some related.hazard ∧ related.hazard ≠ c.hazard ∧
          relation = StatusCommand.relationFor P command c related .temporalAssociation := by
  have distinct {related : IncidentRecord} {relatedId : UUID} (found : e.incidentById relatedId = some related)
      (other : related.hazard ≠ c.hazard) : c.incidentId ≠ related.incidentId := by
    obtain ⟨holds, -⟩ := inv.incidentById_some accepted.found
    obtain ⟨holds', -⟩ := inv.incidentById_some found
    intro same
    exact other (inv.owner c (inv.current_mem holds).1 related (inv.current_mem holds').1 same).symm
  unfold StatusCommand.planRelation
  cases relatedId : command.relatedIncidentId with
  | none => simp
  | some id =>
      cases relatedHazard : command.relatedHazard with
      | none => simp
      | some hazard =>
          cases found : e.incidentById id with
          | none => simp [found]
          | some related =>
              by_cases joined : related.hazard = hazard
              · by_cases other : related.hazard = c.hazard
                · simp [found, kind, joined, joined.symm.trans other]
                · have valid := temporalAssociation_valid_iff (P := P) command (distinct found other) other relation
                  subst joined
                  simp [found, kind, other, valid]
              · simp [found, joined, Ne.symm joined]

/-- A relation is planned and written exactly when its kind proceeds. -/
theorem relation_proceeds_iff (inv : Invariant e) (accepted : Accepted e command c)
    (relating : StatusCommand.isRelating command = true) :
    (∃ relation, StatusCommand.planRelation e command c = .ok relation ∧ e.store.relationLike relation = none ∧
      ∀ row ∈ e.store.incidentRelations, relation.relationId ≠ row.record.relationId) ↔ Proceeds e command c := by
  cases kind : command.command with
  | corroborate | contradict | control | resolve | reopen => simp [StatusCommand.isRelating, kind] at relating
  | merge =>
      refine iff_of_false ?_ (by simp [Proceeds, kind])
      rintro ⟨relation, planned, -⟩
      exact merge_unplanned inv accepted kind relation planned
  | link =>
      simp only [Proceeds, kind, link_planned_iff inv accepted kind, Store.relationLike, List.find?_eq_none]
      constructor
      · rintro ⟨relation, ⟨actor, reason, related, found, hazard, other, rfl⟩, unlike, free⟩
        refine ⟨actor, reason, related, found, hazard, other, ?_⟩
        intro row member
        refine ⟨(free row member).symm, ?_⟩
        rintro ⟨source, target, same⟩
        exact unlike row member (by simp [StatusCommand.relationFor, source, target, same])
      · rintro ⟨actor, reason, related, found, hazard, other, rows⟩
        refine ⟨_, ⟨actor, reason, related, found, hazard, other, rfl⟩, ?_, ?_⟩
        · intro row member like
          rw [Bool.and_eq_true, Bool.and_eq_true] at like
          exact (rows row member).2
            ⟨of_decide_eq_true like.1.1, of_decide_eq_true like.1.2, of_decide_eq_true like.2⟩
        · intro row member
          exact (rows row member).1.symm

end Relation

/-! ## Exactly when a rejection leaves something behind -/

theorem allOrNothing_of_ok {α : Type} {call : EngineCall P α} {a : α} {e' : Engine P} (returned : call e = (.ok a, e')) :
    AllOrNothing call e := by
  intro error raised
  rw [returned] at raised
  cases raised

theorem allOrNothing_of_same {α : Type} {call : EngineCall P α} (same : (call e).2 = e) : AllOrNothing call e := by
  intro error raised
  rw [same]
  exact Unchanged.refl e

theorem allOrNothing_congr {α : Type} {call call' : EngineCall P α} (same : call e = call' e) :
    AllOrNothing call e ↔ AllOrNothing call' e := by
  rw [AllOrNothing, same, AllOrNothing]

theorem idTaken_iff {s : Store P} {commandId : UUID} :
    IdTaken s commandId ↔ ¬ ∀ r ∈ s.commandReceipts, commandId ≠ r.commandId := by
  simp [IdTaken, eq_comm]

section StatusCommand

variable {command : IncidentStatusCommand} {c : IncidentRecord}

theorem transition_allOrNothing_iff {budget : Int} (inv : Invariant e) (posting : Posting budget e)
    (accepted : Accepted e command c) (transition : StatusCommand.isRelating command = false) :
    AllOrNothing (StatusCommand.transition command c) e ↔ ¬ (IdTaken e.store command.commandId ∧ Proceeds e command c) := by
  rw [← transition_proceeds_iff inv posting accepted transition]
  cases planned : StatusCommand.planTransition e.store command c with
  | error error =>
      refine iff_of_true (allOrNothing_of_same ?_) (by simp)
      rw [StatusCommand.transition_rejected planned]
  | ok record =>
      by_cases fits : Fits e.store record (StatusCommand.intent e command c record)
      · obtain ⟨s', appended, committed, uncommitted⟩ :=
          StatusCommand.transition_of_fits inv.well planned fits accepted.unreceipted
        by_cases fresh : ∀ r ∈ e.store.commandReceipts, command.commandId ≠ r.commandId
        · obtain ⟨s'', returned, -⟩ := committed fresh
          exact iff_of_true (allOrNothing_of_ok returned) (fun half => idTaken_iff.mp half.1 fresh)
        · refine iff_of_false ?_ (not_not.mpr ⟨idTaken_iff.mpr fresh, record, rfl, fits⟩)
          intro atomic
          have same := (atomic _ (congrArg Prod.fst (uncommitted fresh))).incidents
          rw [uncommitted fresh] at same
          have journal : s'.journal = e.store.journal := congrArg (List.map IncidentEvent.incident) same
          simp [appended.journal] at journal
      · refine iff_of_true (allOrNothing_of_same ?_) ?_
        · obtain ⟨table, raised⟩ := StatusCommand.transition_of_not_fits inv.well planned fits
          rw [raised]
        · rintro ⟨-, other, same, fits'⟩
          obtain rfl := Except.ok.inj same
          exact fits fits'

/-- A relation that is already stored is not written again. -/
theorem relate_known_allOrNothing (inv : Invariant e) (accepted : Accepted e command c) {relation : IncidentRelation}
    {row : Stored P IncidentRelation} (planned : StatusCommand.planRelation e command c = .ok relation)
    (known : e.store.relationLike relation = some row) : AllOrNothing (StatusCommand.relate command c) e := by
  have answer := recordIncidentRelation_of_known known
  by_cases same : row.payloadSha256 = P.sha256 (relation.modelDump P)
  · simp only [same, ne_eq, not_true, if_false] at answer
    obtain ⟨committed, uncommitted⟩ := StatusCommand.relate_receipt planned answer inv.well rfl accepted.unreceipted
    by_cases fresh : ∀ r ∈ e.store.commandReceipts, command.commandId ≠ r.commandId
    · obtain ⟨s'', returned, -⟩ := committed fresh
      exact allOrNothing_of_ok returned
    · exact allOrNothing_of_same (congrArg Prod.snd (uncommitted fresh))
  · simp only [same, ne_eq, not_false_eq_true, if_true] at answer
    exact allOrNothing_of_same (congrArg Prod.snd (StatusCommand.relate_unstored planned answer))

theorem relate_allOrNothing_iff (inv : Invariant e) (accepted : Accepted e command c)
    (relating : StatusCommand.isRelating command = true) :
    AllOrNothing (StatusCommand.relate command c) e ↔ ¬ (IdTaken e.store command.commandId ∧ Proceeds e command c) := by
  rw [← relation_proceeds_iff inv accepted relating]
  cases planned : StatusCommand.planRelation e command c with
  | error error =>
      refine iff_of_true (allOrNothing_of_same ?_) (by simp)
      rw [StatusCommand.relate_rejected planned]
  | ok relation =>
      cases known : e.store.relationLike relation with
      | some row =>
          apply iff_of_true (relate_known_allOrNothing inv accepted planned known)
          · rintro ⟨-, other, same, unlike, -⟩
            obtain rfl := Except.ok.inj same
            rw [known] at unlike
            cases unlike
      | none =>
          by_cases new : ∀ row ∈ e.store.incidentRelations, relation.relationId ≠ row.record.relationId
          · obtain ⟨s', recorded, well, domain⟩ := recordIncidentRelation_of_fresh inv.well known new
            have receipts : s'.commandReceipts = e.store.commandReceipts :=
              field_of_domain domain Store.commandReceipts rfl
            obtain ⟨committed, uncommitted⟩ :=
              StatusCommand.relate_receipt planned recorded well receipts accepted.unreceipted
            by_cases fresh : ∀ r ∈ e.store.commandReceipts, command.commandId ≠ r.commandId
            · obtain ⟨s'', returned, -⟩ := committed fresh
              exact iff_of_true (allOrNothing_of_ok returned) (fun half => idTaken_iff.mp half.1 fresh)
            · refine iff_of_false ?_ (not_not.mpr ⟨idTaken_iff.mpr fresh, relation, rfl, known, new⟩)
              intro atomic
              have same := (atomic _ (congrArg Prod.fst (uncommitted fresh))).relations
              rw [uncommitted fresh] at same
              have rows : s'.incidentRelations = e.store.incidentRelations ++ [⟨relation, P.sha256 (relation.modelDump P)⟩] :=
                field_of_domain domain Store.incidentRelations rfl
              simp [rows] at same
          · refine iff_of_true (allOrNothing_of_same ?_) ?_
            · rw [StatusCommand.relate_unstored planned (recordIncidentRelation_of_clash inv.well known new)]
            · rintro ⟨-, other, same, -, free⟩
              obtain rfl := Except.ok.inj same
              exact new free

/-- A command that is not accepted leaves the engine alone. -/
theorem applyStatusCommand_unaccepted (command : IncidentStatusCommand) (refused : ∀ c, ¬ Accepted e command c) :
    (applyStatusCommand command e).2 = e := by
  by_cases target : ∃ c ∈ e.incidentById command.incidentId, c.hazard = command.hazard
  · obtain ⟨c, found, hazard⟩ := target
    cases key : e.store.commandReceipt (StatusCommand.scopedKey P command) with
    | some receipt => exact applyStatusCommand_receipted key
    | none =>
        have stale : c.version ≠ command.expectedVersion := fun version => refused c ⟨found, hazard, key, version⟩
        rw [applyStatusCommand_stale found hazard key stale]
  · rw [applyStatusCommand_unknown (fun c found hazard => target ⟨c, found, hazard⟩)]

theorem applyStatusCommand_allOrNothing_iff {budget : Int} (inv : Invariant e) (posting : Posting budget e)
    (command : IncidentStatusCommand) : AllOrNothing (applyStatusCommand command) e ↔ ¬ HalfCommits e command := by
  by_cases accepts : ∃ c, Accepted e command c
  · obtain ⟨c, accepted⟩ := accepts
    have only : HalfCommits e command ↔ IdTaken e.store command.commandId ∧ Proceeds e command c := by
      refine and_congr_right fun _ => ⟨?_, fun proceeds => ⟨c, accepted, proceeds⟩⟩
      rintro ⟨c', accepted', proceeds⟩
      rwa [Option.some.inj (accepted.found.symm.trans accepted'.found)]
    have call := applyStatusCommand_accepted accepted.found accepted.hazard accepted.unreceipted accepted.version
    rw [only]
    cases relating : StatusCommand.isRelating command with
    | true =>
        rw [relating, if_pos rfl] at call
        rw [allOrNothing_congr call]
        exact relate_allOrNothing_iff inv accepted relating
    | false =>
        rw [relating, if_neg (by decide)] at call
        rw [allOrNothing_congr call]
        exact transition_allOrNothing_iff inv posting accepted relating
  · apply iff_of_true (allOrNothing_of_same (applyStatusCommand_unaccepted command (not_exists.mp accepts)))
    rintro ⟨-, c, accepted, -⟩
    exact accepts ⟨c, accepted⟩

end StatusCommand

/-- The review is committed and its receipt is not: every check passes, the
    review id is new, and the same id is taken among the receipts. -/
def ReviewHalfCommits (e : Engine P) (command : AuthorizedReviewCommand P) : Prop :=
  IdTaken e.store command.commandId ∧ AuthorizedReview.verify e.commandAuthorizer command = .ok () ∧
    e.store.commandReceipt (AuthorizedReview.scopedKey command) = none ∧
    (∃ action, (AuthorizedReview.action command).validate = .ok action) ∧
    (∃ c ∈ e.current.get? command.hazard, c.incidentId = command.incidentId) ∧
    ∀ r ∈ e.store.reviewActions, command.commandId ≠ r.reviewId

/-- A review goes through exactly when it targets the current incident under a new id. -/
theorem review_goes_iff (well : WellJournalled e.store) (action : ReviewAction) :
    ((∃ c ∈ e.current.get? action.hazard, c.incidentId = action.incidentId) ∧
      ∀ r ∈ e.store.reviewActions, action.reviewId ≠ r.reviewId) ↔ ∃ state e', review action e = (.ok state, e') := by
  constructor
  · rintro ⟨⟨c, found, target⟩, fresh⟩
    obtain ⟨s', recorded, -⟩ := recordReview_of_fresh well fresh
    exact ⟨_, _, (review_targeted found target).trans (onStore_of_ok recorded)⟩
  · rintro ⟨state, e', returned⟩
    rcases review_cases well action with ⟨error, raised⟩ | ⟨c, s', found, target, fresh, -⟩
    · rw [raised] at returned
      cases returned
    · exact ⟨⟨c, found, target⟩, fresh⟩

theorem applyAuthorizedReview_allOrNothing_iff (inv : Invariant e) (command : AuthorizedReviewCommand P) :
    AllOrNothing (applyAuthorizedReview command) e ↔ ¬ ReviewHalfCommits e command := by
  have goes := review_goes_iff inv.well (AuthorizedReview.action command)
  cases verified : AuthorizedReview.verify e.commandAuthorizer command with
  | error error =>
      refine iff_of_true (allOrNothing_of_same (congrArg Prod.snd (applyAuthorizedReview_unverified verified))) ?_
      rintro ⟨-, ok, -⟩
      rw [verified] at ok
      cases ok
  | ok u =>
      cases key : e.store.commandReceipt (AuthorizedReview.scopedKey command) with
      | some receipt =>
          refine iff_of_true (allOrNothing_of_same (congrArg Prod.snd (applyAuthorizedReview_replay verified key))) ?_
          rintro ⟨-, -, unreceipted, -⟩
          rw [key] at unreceipted
          cases unreceipted
      | none =>
          cases valid : (AuthorizedReview.action command).validate with
          | error error =>
              refine iff_of_true
                (allOrNothing_of_same (congrArg Prod.snd (applyAuthorizedReview_invalid verified key valid))) ?_
              rintro ⟨-, -, -, ⟨action, ok⟩, -⟩
              rw [valid] at ok
              cases ok
          | ok action =>
              rcases review_cases inv.well (AuthorizedReview.action command) with
                ⟨error, raised⟩ | ⟨c, s', found, target, new, recorded, well, domain⟩
              · refine iff_of_true
                  (allOrNothing_of_same (congrArg Prod.snd (applyAuthorizedReview_refused verified key valid raised))) ?_
                rintro ⟨-, -, -, -, targeted, new⟩
                obtain ⟨state, e', returned⟩ := goes.mp ⟨targeted, new⟩
                rw [raised] at returned
                cases returned
              · have receipts : s'.commandReceipts = e.store.commandReceipts :=
                  field_of_domain domain Store.commandReceipts rfl
                obtain ⟨committed, uncommitted⟩ :=
                  applyAuthorizedReview_recorded verified key valid recorded well receipts
                by_cases fresh : ∀ r ∈ e.store.commandReceipts, command.commandId ≠ r.commandId
                · obtain ⟨s'', returned, -⟩ := committed fresh
                  exact iff_of_true (allOrNothing_of_ok returned) (fun half => idTaken_iff.mp half.1 fresh)
                · refine iff_of_false ?_ (not_not.mpr
                    ⟨idTaken_iff.mpr fresh, verified, key, ⟨action, valid⟩, ⟨c, found, target⟩, new⟩)
                  intro atomic
                  have same := (atomic _ (congrArg Prod.fst (uncommitted fresh))).reviewActions
                  rw [uncommitted fresh] at same
                  have rows : s'.reviewActions = e.store.reviewActions ++ [AuthorizedReview.action command] :=
                    field_of_domain domain Store.reviewActions rfl
                  simp [rows] at same

/-- In every reachable state a raising command leaves everything unchanged,
    except one that proceeds under a command id some receipt already has. -/
theorem rejected_unchanged_iff (budget : Int) (authorizer : Security.CommandAuthorizer) (ops : List (Operation P)) :
    let e := after budget authorizer ops
    (∀ command, AllOrNothing (applyStatusCommand command) e ↔ ¬ HalfCommits e command) ∧
    (∀ command, AllOrNothing (applyAuthorizedReview command) e ↔ ¬ ReviewHalfCommits e command) := by
  intro e
  have inv : Invariant e := after_invariant budget authorizer ops
  exact ⟨applyStatusCommand_allOrNothing_iff inv (after_posting budget authorizer ops),
    applyAuthorizedReview_allOrNothing_iff inv⟩

/-- An alert under one control command, whose id the operator then uses again. -/
def controlledAlert : List (Operation Platform.transparent) :=
  [.applyAnalysis (gaugeReading 1 .confirmed) 1, .applyStatusCommand (gaugeCommand 4 .control 1)]

theorem reused_commandId_half_commits : ¬ AllOrNothing (applyStatusCommand (gaugeCommand 4 .corroborate 2))
    (after 3 gaugeAuthorizer controlledAlert) := by
  intro atomic
  have raised : (applyStatusCommand (gaugeCommand 4 .corroborate 2) (after 3 gaugeAuthorizer controlledAlert)).1.isOk =
      false := by decide +kernel
  have before : (after 3 gaugeAuthorizer controlledAlert).store.incidentEvents.length = 2 := by decide +kernel
  have left : (applyStatusCommand (gaugeCommand 4 .corroborate 2)
      (after 3 gaugeAuthorizer controlledAlert)).2.store.incidentEvents.length = 3 := by decide +kernel
  cases result : (applyStatusCommand (gaugeCommand 4 .corroborate 2) (after 3 gaugeAuthorizer controlledAlert)).1 with
  | ok answer =>
      rw [result] at raised
      cases raised
  | error error =>
      rw [(atomic error result).incidents, before] at left
      cases left

/-! ## Committed commands -/

/-- The payload of a command names its incident and hazard. -/
theorem StatusCommand.payload_target {command command' : IncidentStatusCommand}
    (same : StatusCommand.payload command = StatusCommand.payload command') :
    command.incidentId = command'.incidentId ∧ command.hazard = command'.hazard := by
  simp only [StatusCommand.payload, Json.obj.injEq, List.cons.injEq, Prod.mk.injEq, Json.str.injEq, Dump.uuid,
    true_and, and_true] at same
  obtain ⟨-, -, -, hazards, -, ids, -⟩ := same
  refine ⟨UUID.str_injective (congrArg String.toList ids), ?_⟩
  revert hazards
  cases command.hazard <;> cases command'.hazard <;> decide

/-- Keys of status commands and of reviews are digests of different documents. -/
theorem scopedKeyDocument_ne (command : IncidentStatusCommand) (principal : PrincipalRef)
    (operation target clientKey : String) : StatusCommand.scopedKeyDocument command ≠
      Security.CommandAuthorizer.scopedKeyDocument principal operation target clientKey := by
  simp [StatusCommand.scopedKeyDocument, Security.CommandAuthorizer.scopedKeyDocument]

/-- The incident behind a receipt with the command's own payload is still found. -/
theorem receipt_target (inv : Invariant e) (injective : Function.Injective P.sha256) {command : IncidentStatusCommand}
    {receipt : CommandReceipt P} (key : e.store.commandReceipt (StatusCommand.scopedKey P command) = some receipt)
    (same : receipt.payloadSha256 = P.sha256 (StatusCommand.payload command)) :
    ∃ c, e.incidentById command.incidentId = some c ∧ c.hazard = command.hazard := by
  have here : receipt.scopedIdempotencyKey = StatusCommand.scopedKey P command := by
    simpa using List.find?_some key
  cases inv.receipts receipt (List.mem_of_find?_eq_some key) with
  | review review key' payload named =>
      exact absurd (injective (here.symm.trans key')) (scopedKeyDocument_ne command _ _ _ _)
  | status command' key' payload named target =>
      obtain ⟨ids, hazards⟩ := StatusCommand.payload_target (injective (same.symm.trans payload))
      obtain ⟨v, member, id, hazard⟩ := target
      obtain ⟨c, found, joined⟩ := inv.incidentById_of_mem member
      exact ⟨c, by rw [ids, ← id, found], by rw [joined, hazard, hazards]⟩

theorem applyStatusCommand_receipt_differs {command : IncidentStatusCommand} {receipt : CommandReceipt P}
    (key : e.store.commandReceipt (StatusCommand.scopedKey P command) = some receipt)
    (differs : receipt.payloadSha256 ≠ P.sha256 (StatusCommand.payload command)) :
    ∃ error, applyStatusCommand command e = (.error error, e) := by
  by_cases target : ∃ c ∈ e.incidentById command.incidentId, c.hazard = command.hazard
  · obtain ⟨c, found, hazard⟩ := target
    exact ⟨_, (applyStatusCommand_replay found hazard key).trans (StatusCommand.replay_conflict differs)⟩
  · exact ⟨_, applyStatusCommand_unknown (fun c found hazard => target ⟨c, found, hazard⟩)⟩

/-- A command whose key has a receipt changes nothing: with the payload of the
    receipt it returns, with another it raises. A review has to verify first. -/
theorem committed_idempotent (injective : Function.Injective P.sha256) (budget : Int)
    (authorizer : Security.CommandAuthorizer) (ops : List (Operation P)) :
    let e := after budget authorizer ops
    (∀ command receipt, e.store.commandReceipt (StatusCommand.scopedKey P command) = some receipt →
      (receipt.payloadSha256 = P.sha256 (StatusCommand.payload command) →
        ∃ answer, applyStatusCommand command e = (.ok answer, e)) ∧
      (receipt.payloadSha256 ≠ P.sha256 (StatusCommand.payload command) →
        ∃ error, applyStatusCommand command e = (.error error, e))) ∧
    (∀ command receipt, e.store.commandReceipt (AuthorizedReview.scopedKey command) = some receipt →
      (AuthorizedReview.verify e.commandAuthorizer command = .ok () → receipt.payloadSha256 = command.payloadSha256 →
        ∃ answer, applyAuthorizedReview command e = (.ok answer, e)) ∧
      (receipt.payloadSha256 ≠ command.payloadSha256 →
        ∃ error, applyAuthorizedReview command e = (.error error, e)) ∧
      (∀ error, AuthorizedReview.verify e.commandAuthorizer command = .error error →
        applyAuthorizedReview command e = (.error error, e))) := by
  intro e
  have inv : Invariant e := after_invariant budget authorizer ops
  constructor
  · intro command receipt key
    refine ⟨?_, applyStatusCommand_receipt_differs key⟩
    intro same
    obtain ⟨c, found, hazard⟩ := receipt_target inv injective key same
    obtain ⟨answer, returned⟩ := StatusCommand.replay_same (e := e) same found
    exact ⟨answer, (applyStatusCommand_replay found hazard key).trans returned⟩
  · intro command receipt key
    refine ⟨?_, ?_, fun error refused => applyAuthorizedReview_unverified refused⟩
    · intro verified same
      refine ⟨(e.store.reviewState command.incidentId, receipt), ?_⟩
      rw [applyAuthorizedReview_replay verified key, if_neg (not_not.mpr same)]
    · intro differs
      cases verified : AuthorizedReview.verify e.commandAuthorizer command with
      | error error => exact ⟨error, applyAuthorizedReview_unverified verified⟩
      | ok u =>
          refine ⟨.valueError "idempotency key conflict", ?_⟩
          rw [applyAuthorizedReview_replay verified key, if_pos differs]

/-- A status command that was committed and comes again under another id. -/
theorem resubmitted_control_returns : ∃ answer,
    applyStatusCommand (gaugeCommand 9 .control 1) (after 3 gaugeAuthorizer controlledAlert) =
      (.ok answer, after 3 gaugeAuthorizer controlledAlert) := by
  have view : ((after 3 gaugeAuthorizer controlledAlert).store.commandReceipt
      (StatusCommand.scopedKey Platform.transparent (gaugeCommand 9 .control 1))).map CommandReceipt.payloadSha256 =
        some (Platform.transparent.sha256 (StatusCommand.payload (gaugeCommand 9 .control 1))) := by decide +kernel
  obtain ⟨receipt, key, same⟩ := Option.map_eq_some_iff.mp view
  exact ((committed_idempotent Function.injective_id 3 gaugeAuthorizer controlledAlert).1 _ receipt key).1 same

/-- An acknowledgement that an operator was authorized for at time 1. -/
def gaugeReview (id : Nat) (submittedAt : DateTime) : AuthorizedReviewCommand Platform.transparent :=
  let payload : Json := .obj [("action", .str "acknowledge"), ("comment", .null), ("hazard", .str "flood"),
    ("idempotency_key", .str "key"), ("incident_id", Dump.uuid (UUID.ofNat 1)), ("snooze_until", .null)]
  { commandId := UUID.ofNat id
    incidentId := UUID.ofNat 1
    hazard := .flood
    action := .acknowledge
    snoozeUntil := none
    comment := none
    idempotencyKey := "key"
    authorization := gaugeAuthorizer.decide (UUID.ofNat 100) { principalId := "operator", roles := [.operator] }
      "incidents:acknowledge" ("incident:" ++ (UUID.ofNat 1).str) payload 1
    payloadSha256 := payload
    submittedAt := submittedAt }

def acknowledgedAlert : List (Operation Platform.transparent) :=
  [.applyAnalysis (gaugeReading 1 .confirmed) 1, .applyAuthorizedReview (gaugeReview 2 2)]

/-- A committed review that comes again after its authorization expired. -/
theorem expired_resubmission_raises :
    ((after 3 gaugeAuthorizer acknowledgedAlert).store.commandReceipt
      (AuthorizedReview.scopedKey (gaugeReview 9 60000000))).map CommandReceipt.payloadSha256 =
        some (gaugeReview 9 60000000).payloadSha256 ∧
    (applyAuthorizedReview (gaugeReview 9 60000000) (after 3 gaugeAuthorizer acknowledgedAlert)).1 =
      .error (.authorizationError "authorization decision expired") := by
  refine ⟨by decide +kernel, congrArg Prod.fst (applyAuthorizedReview_unverified ?_)⟩
  rfl

end SentinelEdge.Incidents
