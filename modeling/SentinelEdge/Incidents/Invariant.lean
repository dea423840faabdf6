import Mathlib.Logic.Relation
import SentinelEdge.Incidents.History
import SentinelEdge.Storage.Effects

/-! # Effects of the engine and what they preserve

Every method of the engine but dispatch is a sequence of committed effects: a new
version, a review, a receipt or a relation. `Invariant` ties the projection in
memory to the durable journal and is kept by each effect.
-/

namespace SentinelEdge.Incidents

open Foundation Domain Storage

variable {P : Platform}

/-- The command behind a receipt. A status command named a journalled incident
    of its hazard when it was accepted. -/
inductive ReceiptOrigin (s : Store P) (r : CommandReceipt P) : Prop where
  | status (command : IncidentStatusCommand) (key : r.scopedIdempotencyKey = StatusCommand.scopedKey P command)
      (payload : r.payloadSha256 = P.sha256 (StatusCommand.payload command)) (named : r.target = StatusCommand.targetKey command)
      (target : ∃ v ∈ s.journal, v.incidentId = command.incidentId ∧ v.hazard = command.hazard)
  | review (command : AuthorizedReviewCommand P) (key : r.scopedIdempotencyKey = AuthorizedReview.scopedKey command)
      (payload : r.payloadSha256 = command.payloadSha256) (named : r.target = AuthorizedReview.target command)

theorem ReceiptOrigin.mono {s s' : Store P} {r : CommandReceipt P} (journal : ∀ v ∈ s.journal, v ∈ s'.journal)
    (origin : ReceiptOrigin s r) : ReceiptOrigin s' r := by
  cases origin with
  | status command key payload named target =>
      obtain ⟨v, member, same⟩ := target
      exact .status command key payload named ⟨v, journal v member, same⟩
  | review command key payload named => exact .review command key payload named

/-- One committed effect. -/
inductive Effect : Engine P → Engine P → Prop where
  | incident {e : Engine P} {s' : Store P} {record : IncidentRecord} {notification : Option NotificationIntent}
      (acceptedAt : DateTime) (succeeds : Succeeds (e.current.get? record.hazard) record)
      (notified : notification = notificationFor e.store e.notificationBudget record
        (previousState (e.current.get? record.hazard)) acceptedAt)
      (fits : Fits e.store record notification) (appended : Appended e.store record notification s') :
      Effect e (e.advanced s' record.hazard record)
  | review {e : Engine P} {s' : Store P} {action : ReviewAction} (well : WellJournalled s')
      (domain : s'.domain = (e.store.reviewed action).domain) : Effect e { e with store := s' }
  | receipt {e : Engine P} {s' : Store P} {receipt : CommandReceipt P} (origin : ReceiptOrigin e.store receipt)
      (well : WellJournalled s')
      (domain : s'.domain = (e.store.withReceipt receipt).domain) : Effect e { e with store := s' }
  | relation {e : Engine P} {s' : Store P} {relation : IncidentRelation} (well : WellJournalled s')
      (domain : s'.domain = (e.store.withRelation relation).domain) : Effect e { e with store := s' }

/-- The projection is the last version of each durable history, histories are
    legal, and an incident belongs to one hazard. -/
structure Invariant (e : Engine P) : Prop where
  well : WellJournalled e.store
  current : ∀ hazard, e.current.get? hazard = (history e.store hazard).getLast?
  legal : ∀ hazard, Legal (history e.store hazard)
  owner : ∀ r ∈ e.store.journal, ∀ r' ∈ e.store.journal, r.incidentId = r'.incidentId → r.hazard = r'.hazard
  receipts : ∀ r ∈ e.store.commandReceipts, ReceiptOrigin e.store r

theorem invariant_init (budget : Int) (authorizer : Security.CommandAuthorizer) :
    Invariant (Engine.init (Store.empty : Store P) budget authorizer) where
  well := wellJournalled_empty
  current := fun _ => rfl
  legal := fun _ => legal_nil
  owner := by
    intro r member
    cases member
  receipts := by
    intro r member
    cases member

theorem mem_history {s : Store P} {hazard : HazardKind} {r : IncidentRecord} :
    r ∈ history s hazard ↔ r ∈ s.journal ∧ r.hazard = hazard := by
  simp [history, List.mem_filter]

/-- Effects that leave incidents alone keep the invariant. -/
theorem Invariant.frame {e : Engine P} {s' : Store P} (inv : Invariant e) (well : WellJournalled s')
    (incidents : s'.incidentEvents = e.store.incidentEvents)
    (receipts : ∀ r ∈ s'.commandReceipts, ReceiptOrigin s' r) : Invariant { e with store := s' } := by
  have journal : s'.journal = e.store.journal := by rw [Store.journal, incidents, Store.journal]
  have histories (hazard : HazardKind) : history s' hazard = history e.store hazard := by
    rw [history, journal, history]
  refine ⟨well, ?_, ?_, ?_, receipts⟩
  · intro hazard
    rw [histories hazard]
    exact inv.current hazard
  · intro hazard
    rw [histories hazard]
    exact inv.legal hazard
  · rw [journal]
    exact inv.owner

theorem Invariant.keeps_receipts {e : Engine P} {s' : Store P} (inv : Invariant e)
    (incidents : s'.incidentEvents = e.store.incidentEvents) (same : s'.commandReceipts = e.store.commandReceipts) :
    ∀ r ∈ s'.commandReceipts, ReceiptOrigin s' r := by
  intro r member
  refine (inv.receipts r (same ▸ member)).mono ?_
  rw [Store.journal, Store.journal, incidents]
  exact fun v h => h

/-! ## A new version -/

theorem history_appended {s s' : Store P} {record : IncidentRecord} {notification : Option NotificationIntent}
    (appended : Appended s record notification s') (hazard : HazardKind) :
    history s' hazard = history s hazard ++ if record.hazard = hazard then [record] else [] := by
  rw [history, appended.journal, List.filter_append, history]
  by_cases same : record.hazard = hazard <;> simp [same]

/-- An incident id that is already journalled has its first version journalled too. -/
theorem Invariant.first_version {e : Engine P} (inv : Invariant e) {r : IncidentRecord} (member : r ∈ e.store.journal) :
    ∃ first ∈ e.store.journal, first.incidentId = r.incidentId ∧ first.version = 1 := by
  have here : r ∈ history e.store r.hazard := mem_history.mpr ⟨member, rfl⟩
  have legal := inv.legal r.hazard
  cases versions : history e.store r.hazard with
  | nil =>
      rw [versions] at here
      cases here
  | cons first rest =>
      rw [versions] at legal here
      have known : first ∈ history e.store r.hazard := by rw [versions]; exact List.mem_cons_self
      refine ⟨first, (mem_history.mp known).1, ?_, legal.numbered 0 first rfl⟩
      exact legal.incident first List.mem_cons_self r here

/-- A version that fits and succeeds the current one keeps an incident with its hazard. -/
theorem Invariant.owner_of_succeeds {e : Engine P} (inv : Invariant e) {record : IncidentRecord}
    {notification : Option NotificationIntent} (succeeds : Succeeds (e.current.get? record.hazard) record)
    (fits : Fits e.store record notification) :
    ∀ r ∈ e.store.journal, r.incidentId = record.incidentId → r.hazard = record.hazard := by
  intro r member same
  cases found : e.current.get? record.hazard with
  | some c =>
      have last : c ∈ history e.store record.hazard :=
        List.mem_of_getLast? ((inv.current record.hazard).symm.trans found)
      have joins := succeeds.incident c found
      rw [inv.owner r member c (mem_history.mp last).1 (same.trans joins), (mem_history.mp last).2]
  | none =>
      -- a new incident starts at version 1, which a journalled id has used
      obtain ⟨first, known, id, one⟩ := inv.first_version member
      have version : record.version = 1 := by simpa [found] using succeeds.version
      exact absurd ⟨(id.trans same).symm, version.trans one.symm⟩ (fits.version first known)

theorem Invariant.incident {e : Engine P} (inv : Invariant e) {s' : Store P} {record : IncidentRecord}
    {notification : Option NotificationIntent} (succeeds : Succeeds (e.current.get? record.hazard) record)
    (fits : Fits e.store record notification) (appended : Appended e.store record notification s') :
    Invariant (e.advanced s' record.hazard record) where
  well := appended.well
  current := by
    intro hazard
    show (e.current.insert record.hazard record).get? hazard = (history s' hazard).getLast?
    rw [Dict.get?_insert, history_appended appended hazard]
    by_cases same : hazard = record.hazard
    · simp [same]
    · simp [same, Ne.symm same, inv.current hazard]
  legal := by
    intro hazard
    show Legal (history s' hazard)
    rw [history_appended appended hazard]
    by_cases same : record.hazard = hazard
    · subst same
      rw [if_pos rfl]
      exact (inv.legal record.hazard).snoc (inv.current record.hazard ▸ succeeds)
    · rw [if_neg same, List.append_nil]
      exact inv.legal hazard
  owner := by
    have joins := inv.owner_of_succeeds succeeds fits
    show ∀ a ∈ s'.journal, ∀ b ∈ s'.journal, a.incidentId = b.incidentId → a.hazard = b.hazard
    rw [appended.journal]
    intro a ha b hb ids
    rcases List.mem_append.mp ha with ha | ha <;> rcases List.mem_append.mp hb with hb | hb
    · exact inv.owner a ha b hb ids
    · rw [List.mem_singleton.mp hb] at ids ⊢
      exact joins a ha ids
    · rw [List.mem_singleton.mp ha] at ids ⊢
      exact (joins b hb ids.symm).symm
    · rw [List.mem_singleton.mp ha, List.mem_singleton.mp hb]
  receipts := by
    show ∀ r ∈ s'.commandReceipts, ReceiptOrigin s' r
    rw [appended.frame.2.2.2.1]
    intro r member
    refine (inv.receipts r member).mono ?_
    intro v known
    rw [appended.journal]
    exact List.mem_append_left _ known

/-! ## Every effect -/

/-- Effects on other tables than the incidents' and the receipts'. -/
theorem Invariant.elsewhere {e : Engine P} {s' s'' : Store P} (inv : Invariant e) (well : WellJournalled s')
    (domain : s'.domain = s''.domain) (incidents : s''.incidentEvents = e.store.incidentEvents)
    (receipts : s''.commandReceipts = e.store.commandReceipts) : Invariant { e with store := s' } := by
  have incidents' := field_of_domain domain Store.incidentEvents incidents
  have receipts' := field_of_domain domain Store.commandReceipts receipts
  exact inv.frame well incidents' (inv.keeps_receipts incidents' receipts')

theorem Effect.invariant {e e' : Engine P} (effect : Effect e e') (inv : Invariant e) : Invariant e' := by
  cases effect with
  | incident acceptedAt succeeds notified fits appended => exact inv.incident succeeds fits appended
  | review well domain => exact inv.elsewhere well domain rfl rfl
  | relation well domain => exact inv.elsewhere well domain rfl rfl
  | @receipt s' receipt origin well domain =>
      have incidents : s'.incidentEvents = e.store.incidentEvents := field_of_domain domain Store.incidentEvents rfl
      have receipts : s'.commandReceipts = e.store.commandReceipts ++ [receipt] :=
        field_of_domain domain Store.commandReceipts rfl
      have journal : ∀ v ∈ e.store.journal, v ∈ s'.journal := by
        rw [Store.journal, Store.journal, incidents]
        exact fun v h => h
      apply inv.frame well incidents
      intro r member
      rw [receipts] at member
      rcases List.mem_append.mp member with old | new
      · exact (inv.receipts r old).mono journal
      · rw [List.mem_singleton.mp new]
        exact origin.mono journal

/-- A write that leaves the incidents alone leaves the journal alone. -/
theorem journal_of_domain {s s' s'' : Store P} (domain : s'.domain = s''.domain)
    (incidents : s''.incidentEvents = s.incidentEvents) : s'.journal = s.journal := by
  rw [Store.journal, Store.journal, field_of_domain domain Store.incidentEvents incidents]

/-- An effect that adds no version. -/
def Elsewhere (e e' : Engine P) : Prop := Effect e e' ∧ e'.store.journal = e.store.journal

theorem Elsewhere.journal {e e' : Engine P} (effects : Relation.ReflTransGen Elsewhere e e') :
    e'.store.journal = e.store.journal := by
  induction effects with
  | refl => rfl
  | tail _ effect ih => exact effect.2.trans ih

/-- Reviews are only added. -/
theorem Effect.reviews {e e' : Engine P} (effect : Effect e e') :
    ∀ a ∈ e.store.reviewActions, a ∈ e'.store.reviewActions := by
  intro a member
  cases effect with
  | incident acceptedAt succeeds notified fits appended => exact appended.frame.2.1 ▸ member
  | @review s' action well domain =>
      have reviews : s'.reviewActions = e.store.reviewActions ++ [action] :=
        field_of_domain domain Store.reviewActions rfl
      exact reviews ▸ List.mem_append_left _ member
  | relation well domain => exact (field_of_domain domain Store.reviewActions rfl) ▸ member
  | receipt origin well domain => exact (field_of_domain domain Store.reviewActions rfl) ▸ member

/-- Receipts are only added. -/
theorem Effect.receipts {e e' : Engine P} (effect : Effect e e') :
    ∀ r ∈ e.store.commandReceipts, r ∈ e'.store.commandReceipts := by
  intro r member
  cases effect with
  | incident acceptedAt succeeds notified fits appended => exact appended.frame.2.2.2.1 ▸ member
  | @receipt s' receipt origin well domain =>
      have receipts : s'.commandReceipts = e.store.commandReceipts ++ [receipt] :=
        field_of_domain domain Store.commandReceipts rfl
      exact receipts ▸ List.mem_append_left _ member
  | relation well domain => exact (field_of_domain domain Store.commandReceipts rfl) ▸ member
  | review well domain => exact (field_of_domain domain Store.commandReceipts rfl) ▸ member

/-- A sequence of effects. -/
abbrev Effects : Engine P → Engine P → Prop := Relation.ReflTransGen Effect

theorem Effects.invariant {e e' : Engine P} (effects : Effects e e') (inv : Invariant e) : Invariant e' := by
  induction effects with
  | refl => exact inv
  | tail _ effect ih => exact effect.invariant ih

theorem Effects.reviews {e e' : Engine P} (effects : Effects e e') :
    ∀ a ∈ e.store.reviewActions, a ∈ e'.store.reviewActions := by
  induction effects with
  | refl => exact fun _ member => member
  | tail _ effect ih => exact fun a member => effect.reviews a (ih a member)

theorem Effects.receipts {e e' : Engine P} (effects : Effects e e') :
    ∀ r ∈ e.store.commandReceipts, r ∈ e'.store.commandReceipts := by
  induction effects with
  | refl => exact fun _ member => member
  | tail _ effect ih => exact fun r member => effect.receipts r (ih r member)

theorem Elsewhere.effects {e e' : Engine P} (effects : Relation.ReflTransGen Elsewhere e e') : Effects e e' := by
  induction effects with
  | refl => exact .refl
  | tail _ effect ih => exact ih.tail effect.1

/-- A dispatch changes nothing but the rows of the intents. -/
structure Dispatched (e e' : Engine P) : Prop where
  projection : e' = { e with store := e'.store }
  well : WellJournalled e'.store
  domain : e'.store.domain = Store.domain { e.store with notificationIntents := e'.store.notificationIntents }

theorem Dispatched.invariant {e e' : Engine P} (dispatched : Dispatched e e') (inv : Invariant e) : Invariant e' := by
  rw [dispatched.projection]
  exact inv.elsewhere dispatched.well dispatched.domain rfl rfl

theorem Dispatched.journal {e e' : Engine P} (dispatched : Dispatched e e') : e'.store.journal = e.store.journal :=
  journal_of_domain dispatched.domain rfl

end SentinelEdge.Incidents
