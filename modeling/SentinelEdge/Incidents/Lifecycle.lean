import SentinelEdge.Incidents.Outbox

/-! # Closing an incident, and analyses the lifecycle refuses

An incident reaches RESOLVED only out of RESOLVING, by a resolve command or by an
analysis that hints RESOLVED. The guard against closing an unreviewed alert looks
at the current state alone, so it does not see an alert that has already moved on
to RESOLVING.
-/

namespace SentinelEdge.Incidents

open Foundation Domain Storage

variable {P : Platform} {e : Engine P}

/-! ## Closing -/

/-- An acknowledgement of the incident is on record. -/
def Acknowledged (s : Store P) (incidentId : UUID) : Prop :=
  ∃ a ∈ s.reviewActions, a.incidentId = incidentId ∧ a.action = .acknowledge

/-- No version after a CONFIRMED one is RESOLVED unless the incident was acknowledged. -/
def ClosedOnlyReviewed (s : Store P) : Prop :=
  ∀ r ∈ s.journal, ∀ r' ∈ s.journal, r.incidentId = r'.incidentId → r.version < r'.version →
    r.state = .confirmed → r'.state = .resolved → Acknowledged s r.incidentId

instance (s : Store P) (incidentId : UUID) : Decidable (Acknowledged s incidentId) :=
  inferInstanceAs (Decidable (∃ a ∈ s.reviewActions, a.incidentId = incidentId ∧ a.action = .acknowledge))

instance (s : Store P) : Decidable (ClosedOnlyReviewed s) :=
  inferInstanceAs (Decidable (∀ r ∈ s.journal, ∀ r' ∈ s.journal, r.incidentId = r'.incidentId →
    r.version < r'.version → r.state = .confirmed → r'.state = .resolved → Acknowledged s r.incidentId))

/-- The command is accepted and closes this incident. -/
structure CommandCloses (e : Engine P) (command : IncidentStatusCommand) (c : IncidentRecord) : Prop
    extends Accepted e command c where
  kind : command.command = .resolve
  sighted : c.coverage ≠ .blind
  resolving : c.state = .resolving

/-- The analysis is applied in order and closes this incident. -/
structure AnalysisCloses (e : Engine P) (analysis : AnalysisResult) (c : IncidentRecord) : Prop where
  found : e.current.get? analysis.hazard = some c
  inOrder : InOrder e analysis
  hint : analysis.stateHint = .resolved
  certain : ¬ (analysis.abstained ∨ analysis.coverage = .blind)
  resolving : c.state = .resolving

def Closes (e : Engine P) : Operation P → IncidentRecord → Prop
  | .applyStatusCommand command, c => CommandCloses e command c
  | .applyAnalysis analysis _, c => AnalysisCloses e analysis c
  | _, _ => False

/-- The operation closes no incident with an alert that nobody acknowledged. -/
def ClosesReviewed (e : Engine P) (op : Operation P) : Prop :=
  ∀ c, Closes e op c → (∃ r ∈ e.store.journal, r.incidentId = c.incidentId ∧ r.state = .confirmed) →
    Acknowledged e.store c.incidentId

theorem assess_resolved {current : Option IncidentRecord} {analysis : AnalysisResult}
    (target : (assess current analysis).1 = .resolved) :
    analysis.stateHint = .resolved ∧ ¬ (analysis.abstained ∨ analysis.coverage = .blind) := by
  unfold assess at target
  by_cases uncertain : analysis.abstained ∨ analysis.coverage = .blind
  · simp [uncertain] at target
  · simp only [uncertain, if_false] at target
    split at target
    · cases target
    · exact ⟨target, uncertain⟩

theorem outcome_resolved {command : IncidentStatusCommand} {current : IncidentRecord} {review : IncidentReviewState}
    {confidence : ℚ} (resolving : current.state = .resolving)
    (asked : StatusCommand.outcome command current review = .ok (.resolved, confidence)) :
    command.command = .resolve ∧ current.coverage ≠ .blind := by
  unfold StatusCommand.outcome at asked
  split at asked
  · simp [resolving] at asked
  · simp [resolving] at asked
  · next kind =>
      split at asked
      · cases asked
      · next sighted => exact ⟨kind, sighted⟩
  · split at asked
    · cases asked
    · simp at asked
  all_goals simp [resolving] at asked

/-- A version that an operation adds to the journal. -/
structure Adds (e : Engine P) (op : Operation P) (record : IncidentRecord) : Prop where
  journal : (step e op).store.journal = e.store.journal ++ [record]
  succeeds : Succeeds (e.current.get? record.hazard) record
  owner : ∀ r ∈ e.store.journal, r.incidentId = record.incidentId → r.hazard = record.hazard
  closes : ∀ c, e.current.get? record.hazard = some c → c.state = .resolving → record.state = .resolved → Closes e op c

theorem applyAnalysis_adds (inv : Invariant e) (analysis : AnalysisResult) (acceptedAt : DateTime) :
    (applyAnalysis analysis acceptedAt e).2.store.journal = e.store.journal ∨
      ∃ record, Adds e (.applyAnalysis analysis acceptedAt) record := by
  rcases applyAnalysis_cases inv.well analysis acceptedAt with
    unchanged | ⟨c, s', found, new, late, fits, appended, after⟩ | ⟨s', inOrder, legal, fits, appended, after⟩
  · exact .inl (by rw [unchanged])
  · have hazard : (lateCorrection c analysis acceptedAt).hazard = analysis.hazard := (inv.current_mem found).2
    have succeeds : Succeeds (e.current.get? (lateCorrection c analysis acceptedAt).hazard)
        (lateCorrection c analysis acceptedAt) := by
      rw [hazard, found]
      exact lateCorrection_succeeds (inv.stamped found) new
    refine .inr ⟨lateCorrection c analysis acceptedAt, ?_, succeeds, inv.owner_of_succeeds succeeds fits, ?_⟩
    · show (applyAnalysis analysis acceptedAt e).2.store.journal = _
      rw [after]
      exact appended.journal
    · intro c' found' resolving resolved
      rw [hazard, found] at found'
      obtain rfl := Option.some.inj found'
      rw [show (lateCorrection c analysis acceptedAt).state = c.state from rfl, resolving] at resolved
      cases resolved
  · have succeeds := nextRecord_succeeds (P := P) acceptedAt
      (fun c found => ((inv.current_mem found).2).symm) (fun c found => (inOrder c found).1) legal
    refine .inr ⟨nextRecord P (e.current.get? analysis.hazard) analysis acceptedAt, ?_, succeeds,
      inv.owner_of_succeeds succeeds fits, ?_⟩
    · show (applyAnalysis analysis acceptedAt e).2.store.journal = _
      rw [after]
      exact appended.journal
    · intro c found resolving resolved
      obtain ⟨hint, certain⟩ := assess_resolved resolved
      exact ⟨found, inOrder, hint, certain, resolving⟩

/-- The version of an accepted command. -/
theorem version_adds (inv : Invariant e) {command : IncidentStatusCommand} {c record : IncidentRecord}
    {notification : Option NotificationIntent} (accepted : Accepted e command c)
    (planned : StatusCommand.planTransition e.store command c = .ok record)
    (fits : Fits e.store record notification)
    (journal : (applyStatusCommand command e).2.store.journal = e.store.journal ++ [record]) :
    Adds e (.applyStatusCommand command) record := by
  obtain ⟨holds, -⟩ := inv.incidentById_some accepted.found
  obtain ⟨target, confidence, asked, legal, rfl⟩ := planTransition_ok planned
  have succeeds : Succeeds (e.current.get? (StatusCommand.commandedRecord command c target confidence).hazard)
      (StatusCommand.commandedRecord command c target confidence) := by
    rw [show (StatusCommand.commandedRecord command c target confidence).hazard = c.hazard from rfl, holds]
    exact commandedRecord_succeeds (inv.stamped holds) legal
  refine ⟨journal, succeeds, inv.owner_of_succeeds succeeds fits, ?_⟩
  intro c' found resolving resolved
  obtain rfl : c = c' := Option.some.inj (holds.symm.trans found)
  obtain rfl : target = .resolved := resolved
  obtain ⟨kind, sighted⟩ := outcome_resolved resolving asked
  exact ⟨accepted, kind, sighted, resolving⟩

theorem applyStatusCommand_adds (inv : Invariant e) (command : IncidentStatusCommand) :
    (applyStatusCommand command e).2.store.journal = e.store.journal ∨
      ∃ record, Adds e (.applyStatusCommand command) record := by
  generalize left : (applyStatusCommand command e).2 = e'
  have leaves : Leaves e command e' := left ▸ applyStatusCommand_leaves inv.well command
  cases leaves with
  | unchanged => exact .inl rfl
  | receipt accepted well domain => exact .inl (journal_of_domain domain rfl)
  | relation well domain => exact .inl (journal_of_domain domain rfl)
  | relationReceipt accepted well domain well' domain' =>
      have first := journal_of_domain (s := e.store) domain rfl
      exact .inl ((journal_of_domain domain' rfl).trans first)
  | version accepted planned fits appended =>
      exact .inr ⟨_, version_adds inv accepted planned fits (left ▸ appended.journal)⟩
  | versionReceipt accepted planned fits appended well' domain' =>
      have journal := (journal_of_domain domain' rfl).trans appended.journal
      exact .inr ⟨_, version_adds inv accepted planned fits (left ▸ journal)⟩

theorem step_adds (inv : Invariant e) (op : Operation P) :
    (step e op).store.journal = e.store.journal ∨ ∃ record, Adds e op record := by
  cases op with
  | applyAnalysis analysis acceptedAt => exact applyAnalysis_adds inv analysis acceptedAt
  | applyStatusCommand command => exact applyStatusCommand_adds inv command
  | review action => exact .inl (Elsewhere.journal (review_elsewhere inv action))
  | applyAuthorizedReview command => exact .inl (Elsewhere.journal (applyAuthorizedReview_elsewhere inv command))
  | dispatchNotifications sender now clock =>
      exact .inl (dispatchNotifications_dispatched inv sender now clock).journal

theorem Acknowledged.mono {s s' : Store P} {incidentId : UUID} (reviews : ∀ a ∈ s.reviewActions, a ∈ s'.reviewActions)
    (acknowledged : Acknowledged s incidentId) : Acknowledged s' incidentId := by
  obtain ⟨a, member, target, kind⟩ := acknowledged
  exact ⟨a, reviews a member, target, kind⟩

theorem before_resolved {state : IncidentState} (legal : IncidentState.resolved ∈ allowed state) :
    state = .resolving ∨ state = .resolved := by
  cases state <;> simp [allowed] at legal ⊢

/-- A closing version that comes after an alert finds it acknowledged. -/
theorem Adds.acknowledged (inv : Invariant e) (closed : ClosedOnlyReviewed e.store) {op : Operation P}
    (reviewed : ClosesReviewed e op) {record r : IncidentRecord} (adds : Adds e op record)
    (member : r ∈ e.store.journal) (ids : r.incidentId = record.incidentId) (confirmed : r.state = .confirmed)
    (resolved : record.state = .resolved) : Acknowledged e.store r.incidentId := by
  have hazard := adds.owner r member ids
  obtain ⟨c, found, same⟩ := inv.current_of_mem member
  have state := adds.succeeds.state
  rw [← hazard, found, resolved] at state
  rcases before_resolved state with resolving | resolved'
  · rw [← same]
    exact reviewed c (adds.closes c (hazard ▸ found) resolving resolved) ⟨r, member, same.symm, confirmed⟩
  · -- the incident was closed before, after the alert
    have earlier : r.version < c.version := by
      refine lt_of_le_of_ne (inv.version_le found member) fun equal => ?_
      rw [inv.eq_of_version found member equal] at confirmed
      rw [show c.state = .resolved from resolved'] at confirmed
      cases confirmed
    exact closed r member c (inv.current_mem found).1 same.symm earlier confirmed resolved'

theorem step_closedOnlyReviewed (inv : Invariant e) (closed : ClosedOnlyReviewed e.store) (op : Operation P)
    (reviewed : ClosesReviewed e op) : ClosedOnlyReviewed (step e op).store := by
  have reviews := step_reviews inv op
  intro r hr r' hr' ids older confirmed resolved
  rcases step_adds inv op with same | ⟨record, adds⟩
  · rw [same] at hr hr'
    exact (closed r hr r' hr' ids older confirmed resolved).mono reviews
  · rw [adds.journal] at hr hr'
    rcases List.mem_append.mp hr with old | new <;> rcases List.mem_append.mp hr' with old' | new'
    · exact (closed r old r' old' ids older confirmed resolved).mono reviews
    · obtain rfl := List.mem_singleton.mp new'
      exact (adds.acknowledged inv closed reviewed old ids confirmed resolved).mono reviews
    · -- the new version has the highest number of its incident
      obtain rfl := List.mem_singleton.mp new
      obtain ⟨c, found, -⟩ := inv.current_of_mem old'
      have top := inv.version_le found old'
      have version := adds.succeeds.version
      rw [← adds.owner r' old' ids.symm, found] at version
      simp only [Option.map_some, Option.getD_some] at version
      omega
    · obtain rfl := List.mem_singleton.mp new
      obtain rfl := List.mem_singleton.mp new'
      exact absurd older (lt_irrefl _)

/-- In a run that closes no unacknowledged alert, no state reached has one closed. -/
theorem closedOnlyReviewed_of_meets (budget : Int) (authorizer : Security.CommandAuthorizer)
    (ops : List (Operation P))
    (meets : Meets step ClosesReviewed (Engine.init (Store.empty : Store P) budget authorizer) ops) (n : Nat) :
    ClosedOnlyReviewed (after budget authorizer (ops.take n) : Engine P).store := by
  have kept : Invariant (after budget authorizer (ops.take n) : Engine P) ∧
      ClosedOnlyReviewed (after budget authorizer (ops.take n) : Engine P).store := by
    refine Meets.invariant (I := fun e => Invariant e ∧ ClosedOnlyReviewed e.store) ?_ ?_ (meets.take n)
    · rintro e op reviewed ⟨inv, closed⟩
      exact ⟨step_invariant e op inv, step_closedOnlyReviewed inv closed op reviewed⟩
    · refine ⟨invariant_init budget authorizer, ?_⟩
      intro r member
      cases member
  exact kept.2

/-- A reading of one river gauge; `id` is also its time. -/
def gaugeReading (id : Nat) (hint : IncidentState) : AnalysisResult where
  analysisId := UUID.ofNat id
  observationId := UUID.ofNat id
  correlationId := UUID.ofNat id
  bootId := "boot"
  sourceMode := .live
  hazard := .flood
  score := if hint = .normal then 0 else 9 / 10
  stateHint := hint
  features := []
  coverage := .sufficient
  abstained := false
  reasonCodes := []
  modelProfileId := "gauge"
  sourceLineage := "gauge"
  configHashes := []
  incidentIdHint := some (UUID.ofNat 1)
  producedAt := id
  eventTime := some id

/-- An operator's command on the incident that the gauge opens. -/
def gaugeCommand (id : Nat) (kind : IncidentCommandKind) (expectedVersion : Nat) : IncidentStatusCommand where
  commandId := UUID.ofNat id
  incidentId := UUID.ofNat 1
  hazard := .flood
  command := kind
  expectedVersion := expectedVersion
  actor := "operator"
  reason := "checked on site"
  relatedIncidentId := none
  relatedHazard := none
  idempotencyKey := "key"
  submittedAt := id

def gaugeAcknowledgement (id : Nat) : ReviewAction where
  reviewId := UUID.ofNat id
  incidentId := UUID.ofNat 1
  hazard := .flood
  action := .acknowledge
  actor := "operator"
  createdAt := id
  snoozeUntil := none
  comment := none

def gaugeAuthorizer : Security.CommandAuthorizer where
  secret := "secret"

/-- An alert that recedes and is closed, acknowledged in between or not. -/
def closedAlert (acknowledged : Bool) : List (Operation Platform.transparent) :=
  [.applyAnalysis (gaugeReading 1 .confirmed) 1, .applyAnalysis (gaugeReading 2 .normal) 2] ++
    (if acknowledged then [.review (gaugeAcknowledgement 3)] else []) ++
    [.applyStatusCommand (gaugeCommand 4 .resolve 2)]

theorem closedOnlyReviewed_acknowledged :
    ClosedOnlyReviewed (after 3 gaugeAuthorizer ((closedAlert true).take 4)).store := by
  refine closedOnlyReviewed_of_meets 3 gaugeAuthorizer (closedAlert true) ⟨?_, ?_, ?_, ?_, trivial⟩ 4
  · rintro c ⟨-, -, hint, -, -⟩
    cases hint
  · rintro c ⟨-, -, hint, -, -⟩
    cases hint
  · rintro c ⟨⟩
  · rintro c closes -
    have found : (after 3 gaugeAuthorizer ((closedAlert true).take 3)).incidentById (UUID.ofNat 1) = some c :=
      closes.found
    have inv : Invariant (after 3 gaugeAuthorizer ((closedAlert true).take 3)) := after_invariant _ _ _
    rw [(inv.incidentById_some found).2]
    decide +kernel

/-- The negative reading alone opens the resolution, and the command then closes it. -/
theorem unacknowledged_alert_closed :
    ¬ ClosedOnlyReviewed (after 3 gaugeAuthorizer (closedAlert false)).store := by
  decide +kernel

/-! ## Analyses the lifecycle refuses -/

/-- The hints the hazard adapters give. -/
def adapterHints : List IncidentState := [.normal, .watch, .suspected, .confirmed]

/-- Pairs of a state and an adapter's hint with no transition. -/
def jams : IncidentState → IncidentState → Bool
  | .confirmed, .watch | .confirmed, .suspected => true
  | .resolving, .normal | .resolving, .watch | .resolving, .suspected => true
  | .resolved, .normal | .degraded, .normal => true
  | _, _ => false

/-- A new analysis, neither abstained nor blind, finds no transition. -/
def Jams (c : IncidentRecord) (analysis : AnalysisResult) : Prop :=
  analysis.analysisId ∉ c.analysisIds ∧ ¬ (analysis.abstained ∨ analysis.coverage = .blind) ∧
    jams c.state analysis.stateHint = true

theorem assess_uncertain {current : Option IncidentRecord} {analysis : AnalysisResult}
    (uncertain : analysis.abstained ∨ analysis.coverage = .blind) : (assess current analysis).1 = .degraded := by
  simp [assess, uncertain]

theorem degraded_allowed (state : IncidentState) : .degraded ∈ allowed state := by
  cases state <;> decide

/-- A hint that jams is not rewritten on the way to the transition table. -/
theorem assess_jams {c : IncidentRecord} {analysis : AnalysisResult}
    (certain : ¬ (analysis.abstained ∨ analysis.coverage = .blind)) (jammed : jams c.state analysis.stateHint = true) :
    (assess (some c) analysis).1 = analysis.stateHint ∧ analysis.stateHint ∉ allowed c.state := by
  revert jammed
  simp only [assess, certain, if_false, Option.any_some]
  cases c.state <;> cases analysis.stateHint <;> simp [jams, allowed]

theorem assess_legal {current : Option IncidentRecord} {analysis : AnalysisResult}
    (emitted : analysis.stateHint ∈ adapterHints)
    (open_ : ∀ c ∈ current, ¬ (analysis.abstained ∨ analysis.coverage = .blind) →
      jams c.state analysis.stateHint = false) :
    (assess current analysis).1 ∈ allowed (previousState current) := by
  by_cases certain : analysis.abstained ∨ analysis.coverage = .blind
  · rw [assess_uncertain certain]
    exact degraded_allowed _
  · revert emitted
    cases current with
    | none =>
        simp only [assess, certain, if_false, previousState, Option.any_none, Option.map_none, Option.getD_none]
        cases analysis.stateHint <;> simp [adapterHints, allowed]
    | some c =>
        have free := open_ c rfl certain
        revert free
        simp only [assess, certain, if_false, previousState, Option.any_some, Option.map_some, Option.getD_some]
        cases c.state <;> cases analysis.stateHint <;> simp [adapterHints, jams, allowed]

theorem after_posting (budget : Int) (authorizer : Security.CommandAuthorizer) (ops : List (Operation P)) :
    Posting budget (after budget authorizer ops) :=
  Outbox.after_engine budget authorizer ops ▸ (Outbox.after_sound budget authorizer ops).posting

/-- The version an analysis in order asks for can be stored, unless it opens an
    incident under an id that is in use or its intent's id collides. -/
theorem nextRecord_fits {budget : Int} (inv : Invariant e) (posting : Posting budget e) {analysis : AnalysisResult}
    {acceptedAt : DateTime} (inOrder : InOrder e analysis)
    (legal : (assess (e.current.get? analysis.hazard) analysis).1 ∈ allowed (previousState (e.current.get? analysis.hazard)))
    (opens : e.current.get? analysis.hazard = none →
      ∀ r ∈ e.store.journal, r.incidentId ≠ (nextRecord P none analysis acceptedAt).incidentId)
    (distinct : ¬ Collides e.store (nextRecord P (e.current.get? analysis.hazard) analysis acceptedAt)) :
    Fits e.store (nextRecord P (e.current.get? analysis.hazard) analysis acceptedAt)
      (analysisIntent e (e.current.get? analysis.hazard) analysis acceptedAt) := by
  apply posting.fits distinct acceptedAt rfl
  have succeeds := nextRecord_succeeds (P := P) acceptedAt
    (fun c found => ((inv.current_mem found).2).symm) (fun c found => (inOrder c found).1) legal
  cases found : e.current.get? analysis.hazard with
  | none =>
      rintro r member ⟨ids, -⟩
      exact opens found r member ids.symm
  | some c =>
      rw [← found]
      exact inv.fresh_version succeeds found

/-- An analysis that is not late and has an adapter's hint is refused for its
    transition exactly when it jams. Otherwise it returns a version, unless it
    opens an incident under an id that is in use or its intent's id collides. -/
theorem applyAnalysis_refused_iff_jams (budget : Int) (authorizer : Security.CommandAuthorizer)
    (ops : List (Operation P)) (analysis : AnalysisResult) (acceptedAt : DateTime)
    (emitted : analysis.stateHint ∈ adapterHints)
    (timely : ∀ c ∈ (after budget authorizer ops).current.get? analysis.hazard,
      ∀ w ∈ c.eventTimeWatermark, w ≤ eventTime analysis) :
    let e := after budget authorizer ops
    let current := e.current.get? analysis.hazard
    (∀ c ∈ current, Jams c analysis → applyAnalysis analysis acceptedAt e =
      (.error (.valueError ("illegal incident transition " ++ c.state.value ++ "->" ++ analysis.stateHint.value)), e)) ∧
    ((∀ c ∈ current, ¬ Jams c analysis) →
      (∃ record, (applyAnalysis analysis acceptedAt e).1 = .ok record) ∨
      ((∃ table, applyAnalysis analysis acceptedAt e = (.error (.integrityError table), e)) ∧
        ((current = none ∧ ∃ r ∈ e.store.journal, r.incidentId = (nextRecord P none analysis acceptedAt).incidentId) ∨
          Collides e.store (nextRecord P current analysis acceptedAt)))) := by
  intro e current
  have inv : Invariant e := after_invariant budget authorizer ops
  have posting : Posting budget e := after_posting budget authorizer ops
  have onTime : ∀ c ∈ current, isLate c analysis = false := by
    intro c found
    cases stamped : c.eventTimeWatermark with
    | none => simp [isLate, stamped]
    | some w => simpa [isLate, stamped] using timely c found w stamped
  constructor
  · rintro c found ⟨new, certain, jammed⟩
    obtain ⟨target, illegal⟩ := assess_jams certain jammed
    rw [applyAnalysis_inOrder found new (onTime c found), applyInOrder_illegal (target ▸ illegal), target]
    rfl
  · intro free
    by_cases known : ∃ c ∈ current, analysis.analysisId ∈ c.analysisIds
    · obtain ⟨c, found, member⟩ := known
      rw [applyAnalysis_duplicate found member]
      exact .inl ⟨c, rfl⟩
    · have inOrder : InOrder e analysis := fun c found => ⟨fun member => known ⟨c, found, member⟩, onTime c found⟩
      have legal : (assess current analysis).1 ∈ allowed (previousState current) := by
        refine assess_legal emitted fun c found certain => ?_
        by_contra jammed
        exact free c found ⟨(inOrder c found).1, certain, Bool.eq_true_of_not_eq_false jammed⟩
      rw [applyAnalysis_of_inOrder inOrder]
      by_cases fits : Fits e.store (nextRecord P current analysis acceptedAt) (analysisIntent e current analysis acceptedAt)
      · obtain ⟨s', -, written⟩ := applyInOrder_of_fits inv.well legal fits
        exact .inl ⟨_, congrArg Prod.fst written⟩
      · refine .inr ⟨applyInOrder_of_not_fits inv.well legal fits, ?_⟩
        by_contra clear
        rw [not_or] at clear
        refine fits (nextRecord_fits inv posting inOrder legal ?_ clear.2)
        intro opens r member same
        exact clear.1 ⟨opens, r, member, same⟩

/-- A second all-clear is refused: RESOLVING has no transition to NORMAL. -/
theorem resolving_normal_refused : ∃ c,
    (after 3 gaugeAuthorizer ((closedAlert false).take 2)).current.get? .flood = some c ∧ c.state = .resolving ∧
    applyAnalysis (gaugeReading 3 .normal) 3 (after 3 gaugeAuthorizer ((closedAlert false).take 2)) =
      (.error (.valueError ("illegal incident transition " ++ c.state.value ++ "->" ++ IncidentState.normal.value)),
        after 3 gaugeAuthorizer ((closedAlert false).take 2)) := by
  have view : ((after 3 gaugeAuthorizer ((closedAlert false).take 2)).current.get? .flood).map
      (fun c => (c.state, c.analysisIds, c.eventTimeWatermark)) =
        some (.resolving, [UUID.ofNat 1, UUID.ofNat 2], some 2) := by decide +kernel
  obtain ⟨c, found, fields⟩ := Option.map_eq_some_iff.mp view
  obtain ⟨state, ids, watermark⟩ : c.state = .resolving ∧ c.analysisIds = [UUID.ofNat 1, UUID.ofNat 2] ∧
      c.eventTimeWatermark = some 2 := by simpa using fields
  refine ⟨c, found, state, ?_⟩
  refine (applyAnalysis_refused_iff_jams 3 gaugeAuthorizer ((closedAlert false).take 2) (gaugeReading 3 .normal) 3
    (by decide) ?_).1 c found ⟨?_, by decide, by rw [state]; rfl⟩
  · intro c' found' w stamped
    rw [Option.some.inj (found'.symm.trans found), watermark] at stamped
    rw [← Option.some.inj stamped]
    decide
  · rw [ids]
    decide +kernel

/-- A reading that only calls for a watch raises while the alert is confirmed. -/
theorem confirmed_watch_refused : (gaugeReading 2 .watch).stateHint ∈ adapterHints ∧
    (∀ c ∈ (after 3 gaugeAuthorizer ((closedAlert false).take 1)).current.get? .flood,
      ∀ w ∈ c.eventTimeWatermark, w ≤ eventTime (gaugeReading 2 .watch)) ∧
    (applyAnalysis (gaugeReading 2 .watch) 2 (after 3 gaugeAuthorizer ((closedAlert false).take 1))).1 =
      .error (.valueError "illegal incident transition confirmed->watch") := by
  have view : ((after 3 gaugeAuthorizer ((closedAlert false).take 1)).current.get? .flood).map
      (fun c => (c.state, c.analysisIds, c.eventTimeWatermark)) = some (.confirmed, [UUID.ofNat 1], some 1) := by
    decide +kernel
  obtain ⟨c, found, fields⟩ := Option.map_eq_some_iff.mp view
  obtain ⟨state, ids, watermark⟩ : c.state = .confirmed ∧ c.analysisIds = [UUID.ofNat 1] ∧
      c.eventTimeWatermark = some 1 := by simpa using fields
  have new : (gaugeReading 2 .watch).analysisId ∉ c.analysisIds := by
    rw [ids]
    decide +kernel
  have timely : isLate c (gaugeReading 2 .watch) = false := by
    rw [isLate, watermark]
    decide
  have certain : ¬ ((gaugeReading 2 .watch).abstained ∨ (gaugeReading 2 .watch).coverage = .blind) := by decide
  obtain ⟨target, illegal⟩ := assess_jams (c := c) certain (by rw [state]; rfl)
  refine ⟨by decide, ?_, ?_⟩
  · intro c' found' w stamped
    rw [Option.some.inj (found'.symm.trans found), watermark] at stamped
    rw [← Option.some.inj stamped]
    decide
  · rw [applyAnalysis_inOrder found new timely, applyInOrder_illegal (target ▸ illegal), target]
    simp only [previousState, Option.map_some, Option.getD_some, state]
    decide

end SentinelEdge.Incidents
