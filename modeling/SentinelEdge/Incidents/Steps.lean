import SentinelEdge.Incidents.Calls

/-! # Runs of the engine

Every operation is a sequence of effects, so the invariant holds after any run
from an empty store, whatever the operations raise.
-/

namespace SentinelEdge.Incidents

open Foundation Domain Storage

variable {P : Platform} {e : Engine P}

/-! ## Operations as effects -/

theorem notificationFor_same_state {store : Store P} {budget : Int} {record : IncidentRecord} {previous : IncidentState}
    {acceptedAt : DateTime} (same : record.state = previous) :
    notificationFor store budget record previous acceptedAt = none := by
  simp [notificationFor, same]

theorem applyAnalysis_effects (inv : Invariant e) (analysis : AnalysisResult) (acceptedAt : DateTime) :
    Effects e (applyAnalysis analysis acceptedAt e).2 := by
  rcases applyAnalysis_cases inv.well analysis acceptedAt with
    unchanged | ⟨c, s', found, new, late, fits, appended, after⟩ | ⟨s', inOrder, legal, fits, appended, after⟩
  · rw [unchanged]
  · have hazard : (lateCorrection c analysis acceptedAt).hazard = analysis.hazard := (inv.current_mem found).2
    rw [after, ← hazard]
    refine .single (.incident acceptedAt ?_ ?_ fits appended)
    · rw [hazard, found]
      exact lateCorrection_succeeds (inv.stamped found) new
    · rw [hazard, found]
      exact (notificationFor_same_state rfl).symm
  · rw [after]
    refine .single (.incident (e := e) acceptedAt ?_ rfl fits appended)
    exact nextRecord_succeeds acceptedAt (fun c found => ((inv.current_mem found).2).symm) (fun c found => (inOrder c found).1) legal

theorem planTransition_ok {store : Store P} {command : IncidentStatusCommand} {current record : IncidentRecord}
    (planned : StatusCommand.planTransition store command current = .ok record) :
    ∃ target confidence,
      StatusCommand.outcome command current (store.reviewState current.incidentId) = .ok (target, confidence) ∧
      target ∈ allowed current.state ∧ record = StatusCommand.commandedRecord command current target confidence := by
  unfold StatusCommand.planTransition at planned
  split at planned
  · cases planned
  · next target confidence asked =>
      split at planned
      · cases planned
      · next legal => exact ⟨target, confidence, asked, Decidable.not_not.mp legal, (Except.ok.inj planned).symm⟩

/-- The receipt of an accepted command has its origin in that command. -/
theorem receiptOrigin_status (inv : Invariant e) {command : IncidentStatusCommand} {current : IncidentRecord}
    (accepted : Accepted e command current) {store : Store P} (journal : ∀ v ∈ e.store.journal, v ∈ store.journal)
    (version : Nat) (result : ResultRef P) (committed : String) :
    ReceiptOrigin store (StatusCommand.receipt P command version result committed) := by
  obtain ⟨holds, id⟩ := inv.incidentById_some accepted.found
  exact .status command rfl rfl rfl ⟨current, journal current (inv.current_mem holds).1, id, accepted.hazard⟩

/-- The version of an accepted command is an effect. -/
theorem version_effect (inv : Invariant e) {command : IncidentStatusCommand} {current record : IncidentRecord}
    {s' : Store P} (accepted : Accepted e command current)
    (planned : StatusCommand.planTransition e.store command current = .ok record)
    (fits : Fits e.store record (StatusCommand.intent e command current record))
    (appended : Appended e.store record (StatusCommand.intent e command current record) s') :
    Effect e (e.advanced s' current.hazard record) := by
  obtain ⟨holds, -⟩ := inv.incidentById_some accepted.found
  obtain ⟨target, confidence, -, legal, rfl⟩ := planTransition_ok planned
  have hazard : (StatusCommand.commandedRecord command current target confidence).hazard = current.hazard := rfl
  refine .incident command.submittedAt ?_ ?_ fits appended
  · rw [hazard, holds]
    exact commandedRecord_succeeds (inv.stamped holds) legal
  · rw [hazard, holds]
    rfl

theorem applyStatusCommand_effects (inv : Invariant e) (command : IncidentStatusCommand) :
    Effects e (applyStatusCommand command e).2 := by
  generalize left : (applyStatusCommand command e).2 = e'
  have leaves : Leaves e command e' := left ▸ applyStatusCommand_leaves inv.well command
  clear left
  cases leaves with
  | unchanged => exact .refl
  | receipt accepted well domain =>
      exact .single (.receipt (receiptOrigin_status inv accepted (fun _ h => h) _ _ _) well domain)
  | relation well domain => exact .single (.relation well domain)
  | relationReceipt accepted well domain well' domain' =>
      refine .tail (.single (.relation well domain)) (.receipt ?_ well' domain')
      refine receiptOrigin_status inv accepted ?_ _ _ _
      have incidents := field_of_domain domain Store.incidentEvents rfl
      intro v known
      rwa [Store.journal, incidents]
  | version accepted planned fits appended => exact .single (version_effect inv accepted planned fits appended)
  | versionReceipt accepted planned fits appended well' domain' =>
      refine .tail (.single (version_effect inv accepted planned fits appended)) (.receipt ?_ well' domain')
      refine receiptOrigin_status inv accepted ?_ _ _ _
      intro v known
      exact appended.journal ▸ List.mem_append_left _ known

theorem review_elsewhere (inv : Invariant e) (action : ReviewAction) :
    Relation.ReflTransGen Elsewhere e (review action e).2 := by
  rcases review_cases inv.well action with ⟨error, raised⟩ | ⟨c, s', found, target, fresh, recorded, well, domain⟩
  · rw [raised]
  · rw [recorded]
    exact .single ⟨.review well domain, journal_of_domain domain rfl⟩

theorem applyAuthorizedReview_elsewhere (inv : Invariant e) (command : AuthorizedReviewCommand P) :
    Relation.ReflTransGen Elsewhere e (applyAuthorizedReview command e).2 := by
  cases verified : AuthorizedReview.verify e.commandAuthorizer command with
  | error error => rw [applyAuthorizedReview_unverified verified]
  | ok u =>
      cases key : e.store.commandReceipt (AuthorizedReview.scopedKey command) with
      | some receipt => rw [applyAuthorizedReview_replay verified key]
      | none =>
          cases valid : (AuthorizedReview.action command).validate with
          | error error => rw [applyAuthorizedReview_invalid verified key valid]
          | ok action =>
              rcases review_cases inv.well (AuthorizedReview.action command) with
                ⟨error, raised⟩ | ⟨c, s', found, target, new, recorded, well', domain'⟩
              · rw [applyAuthorizedReview_refused verified key valid raised]
              · have receipts : s'.commandReceipts = e.store.commandReceipts :=
                  field_of_domain domain' Store.commandReceipts rfl
                obtain ⟨committed, uncommitted⟩ :=
                  applyAuthorizedReview_recorded verified key valid recorded well' receipts
                have first : Elsewhere e { e with store := s' } :=
                  ⟨.review well' domain', journal_of_domain domain' rfl⟩
                by_cases fresh : ∀ r ∈ e.store.commandReceipts, command.commandId ≠ r.commandId
                · obtain ⟨s'', returned, well, domain⟩ := committed fresh
                  rw [returned]
                  exact .tail (.single first)
                    ⟨.receipt (.review command rfl rfl rfl) well domain, journal_of_domain domain rfl⟩
                · rw [uncommitted fresh]
                  exact .single first

/-! ## Dispatch -/

/-- A recorded outcome updates the row of one intent, or nothing. -/
theorem recordDelivery_cases {s : Store P} (well : WellJournalled s) (notificationId : UUID) (isDelivered : Bool)
    (receiptId error : Option String) (acceptedAt : DateTime) :
    (recordDelivery notificationId isDelivered receiptId error acceptedAt s).2 = s ∨
    ∃ updated, WellJournalled (recordDelivery notificationId isDelivered receiptId error acceptedAt s).2 ∧
      (recordDelivery notificationId isDelivered receiptId error acceptedAt s).2.domain =
        (s.withDelivery updated).domain := by
  cases found : s.notification notificationId with
  | none =>
      left
      simp [recordDelivery, Call.atomically, recordDeliveryBody, found]
  | some current =>
      by_cases done : current.status = .delivered
      · left
        simp [recordDelivery, Call.atomically, recordDeliveryBody, found, done]
      · right
        obtain ⟨s', recorded, well', domain⟩ :=
          recordDelivery_of_open well found done isDelivered receiptId error acceptedAt
        rw [recorded]
        exact ⟨_, well', domain⟩

/-- How a call of the sender is recorded. -/
theorem recordOutcome_eq (sender : NotificationSender) (clock : Nat → DateTime) (k : Nat)
    (intent : NotificationIntent) : ∃ receiptId error, (Dispatcher.recordOutcome sender clock k intent : StoreCall P _) =
      recordDelivery intent.notificationId (sender k intent).isOk receiptId error (clock k) := by
  unfold Dispatcher.recordOutcome
  cases sender k intent with
  | error text => exact ⟨none, some text, rfl⟩
  | ok receipt => exact ⟨some receipt, none, rfl⟩

theorem recordOutcome_dispatched (well : WellJournalled e.store) (sender : NotificationSender)
    (clock : Nat → DateTime) (k : Nat) (intent : NotificationIntent) :
    Dispatched e { e with store := (Dispatcher.recordOutcome sender clock k intent e.store).2 } := by
  obtain ⟨receiptId, error, same⟩ := recordOutcome_eq (P := P) sender clock k intent
  rw [same]
  rcases recordDelivery_cases well intent.notificationId (sender k intent).isOk receiptId error (clock k) with
    unchanged | ⟨updated, well', domain⟩
  · rw [unchanged]
    exact ⟨rfl, well, rfl⟩
  · refine ⟨rfl, well', domain.trans ?_⟩
    show _ = Store.domain { e.store with notificationIntents := _ }
    rw [field_of_domain domain Store.notificationIntents rfl]
    rfl

/-- The dispatcher after handing over one intent, before the outcome is recorded. -/
def handOver (sender : NotificationSender) (k : Nat) (intent : NotificationIntent) (d : Dispatcher P) : Dispatcher P :=
  { d with handed := d.handed ++ [⟨intent, d.store.notification intent.notificationId, (sender k intent).isOk⟩] }

theorem deliver_cons (sender : NotificationSender) (clock : Nat → DateTime) (k : Nat) (intent : NotificationIntent)
    (rest : List NotificationIntent) (d : Dispatcher P) :
    (Dispatcher.deliver sender clock k (intent :: rest) d).2 =
      match Dispatcher.recordOutcome sender clock k intent d.store with
      | (.ok _, s') => (Dispatcher.deliver sender clock (k + 1) rest { handOver sender k intent d with store := s' }).2
      | (.error _, s') => { handOver sender k intent d with store := s' } := by
  have head : Dispatcher.deliver sender clock k (intent :: rest) d = ((do
      let updated ← Call.zoom Dispatcher.store (fun d s => { d with store := s })
        (Dispatcher.recordOutcome sender clock k intent)
      let later ← Dispatcher.deliver sender clock (k + 1) rest
      pure (updated :: later)) : Dispatcher.DispatcherCall P _) (handOver sender k intent d) := rfl
  rw [head]
  rcases outcome : Dispatcher.recordOutcome sender clock k intent d.store with ⟨r, s'⟩
  have zoomed : Call.zoom Dispatcher.store (fun d s => { d with store := s })
      (Dispatcher.recordOutcome sender clock k intent) (handOver sender k intent d) =
        (r, { handOver sender k intent d with store := s' }) := Call.zoom_of_eq outcome
  cases r with
  | ok updated => rw [Call.bind_of_ok zoomed, Call.bind_pure_state]
  | error error => rw [Call.bind_of_error zoomed]

theorem Dispatched.trans {e e' e'' : Engine P} (first : Dispatched e e') (second : Dispatched e' e'') :
    Dispatched e e'' where
  projection := by
    rw [second.projection, first.projection]
  well := second.well
  domain := by
    have through : e''.store.domain = { e'.store.domain with notificationIntents := e''.store.notificationIntents } :=
      second.domain
    rw [through, first.domain]
    rfl

theorem deliver_dispatched (sender : NotificationSender) (clock : Nat → DateTime) (k : Nat)
    (intents : List NotificationIntent) (d : Dispatcher P) (well : WellJournalled d.store) :
    Dispatched { e with store := d.store }
      { e with store := (Dispatcher.deliver sender clock k intents d).2.store } := by
  induction intents generalizing k d with
  | nil => exact ⟨rfl, well, rfl⟩
  | cons intent rest ih =>
      have first := recordOutcome_dispatched (e := { e with store := d.store }) well sender clock k intent
      rw [deliver_cons]
      rcases outcome : Dispatcher.recordOutcome sender clock k intent d.store with ⟨r, s'⟩
      simp only [outcome] at first
      cases r with
      | ok updated => exact first.trans (ih (k + 1) { handOver sender k intent d with store := s' } first.well)
      | error error => exact first

theorem dispatchNotifications_dispatched (inv : Invariant e) (sender : NotificationSender) (now : DateTime)
    (clock : Nat → DateTime) : Dispatched e (dispatchNotifications sender now clock e).2 :=
  deliver_dispatched sender clock 0 (e.store.dispatchableNotifications now) ⟨e.store, []⟩ inv.well

/-! ## Whole runs -/

theorem step_cases (inv : Invariant e) (op : Operation P) : Effects e (step e op) ∨ Dispatched e (step e op) := by
  cases op with
  | applyAnalysis analysis acceptedAt => exact .inl (applyAnalysis_effects inv analysis acceptedAt)
  | applyStatusCommand command => exact .inl (applyStatusCommand_effects inv command)
  | review action => exact .inl (Elsewhere.effects (review_elsewhere inv action))
  | applyAuthorizedReview command => exact .inl (Elsewhere.effects (applyAuthorizedReview_elsewhere inv command))
  | dispatchNotifications sender now clock => exact .inr (dispatchNotifications_dispatched inv sender now clock)

theorem step_invariant (e : Engine P) (op : Operation P) (inv : Invariant e) : Invariant (step e op) := by
  rcases step_cases inv op with effects | dispatched
  · exact effects.invariant inv
  · exact dispatched.invariant inv

/-- Reviews are only added. -/
theorem step_reviews (inv : Invariant e) (op : Operation P) :
    ∀ a ∈ e.store.reviewActions, a ∈ (step e op).store.reviewActions := by
  rcases step_cases inv op with effects | dispatched
  · exact effects.reviews
  · rw [field_of_domain dispatched.domain Store.reviewActions rfl]
    exact fun _ member => member

/-- Receipts are only added. -/
theorem step_receipts (inv : Invariant e) (op : Operation P) :
    ∀ r ∈ e.store.commandReceipts, r ∈ (step e op).store.commandReceipts := by
  rcases step_cases inv op with effects | dispatched
  · exact effects.receipts
  · rw [field_of_domain dispatched.domain Store.commandReceipts rfl]
    exact fun _ member => member

/-- The engine after a run from an empty store. -/
def after (budget : Int) (authorizer : Security.CommandAuthorizer) (ops : List (Operation P)) : Engine P :=
  run step (Engine.init Store.empty budget authorizer) ops

theorem after_invariant (budget : Int) (authorizer : Security.CommandAuthorizer) (ops : List (Operation P)) :
    Invariant (after budget authorizer ops) :=
  run_invariant step_invariant (invariant_init budget authorizer) ops

end SentinelEdge.Incidents
