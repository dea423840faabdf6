import SentinelEdge.Incidents.Steps

/-! # The notification outbox

Intents are created with the version that calls for them and change only when a
dispatch records what the sender did. Beside the engine, an `Outbox` keeps the
log of all hand-overs since the start, over which the delivery limits are stated.
-/

namespace SentinelEdge.Incidents

open Foundation Domain Storage

variable {P : Platform} {e : Engine P}

/-! ## Intents and the versions they announce -/

/-- A key determines the incident and the version it was made for. -/
theorem idempotencyKey_injective {r r' : IncidentRecord} (same : idempotencyKey r = idempotencyKey r') :
    r.incidentId = r'.incidentId ∧ r.version = r'.version := by
  have chars := congrArg String.toList same
  simp only [idempotencyKey, String.toList_append, List.append_assoc] at chars
  have tail := List.append_cancel_left chars
  obtain ⟨ids, rest⟩ := split_at_separator (UUID.str_noColon r.incidentId) (UUID.str_noColon r'.incidentId) tail
  have digits (n : Nat) : ':' ∉ (toString n).toList := by
    intro member
    have := decimal_isDigit member
    revert this
    decide
  obtain ⟨versions, -⟩ := split_at_separator (digits r.version) (digits r'.version)
    ((List.append_right_inj "version:".toList).mp rest)
  exact ⟨UUID.str_injective ids, decimal_injective versions⟩

/-- The intent announces this version. -/
structure Announces (P : Platform) (n : NotificationIntent) (r : IncidentRecord) : Prop where
  incident : n.incidentId = r.incidentId
  version : n.incidentVersion = r.version
  state : n.incidentState = r.state
  key : n.idempotencyKey = idempotencyKey r
  id : n.notificationId = P.uuid5 ("sentinel-notification:" ++ idempotencyKey r)

/-- An intent as `_notification_for` makes it. -/
structure Created (s : Store P) (budget : Int) (record : IncidentRecord) (item : NotificationIntent) : Prop where
  announces : Announces P item record
  unsent : item.attemptCount = 0
  confirmed : record.state = .confirmed → item.status ≠ .suppressed
  budgeted : record.state ≠ .confirmed → item.status ≠ .suppressed → (s.notificationCount record.incidentId : Int) < budget

theorem notificationStatus_confirmed (review : IncidentReviewState) (count : Nat) (budget : Int)
    (acceptedAt : DateTime) : (notificationStatus review count budget .confirmed acceptedAt).1 ≠ .suppressed := by
  simp only [notificationStatus, ne_eq, not_true, and_false, if_false, if_true]
  split <;> simp

theorem notificationStatus_budget {review : IncidentReviewState} {count : Nat} {budget : Int} {state : IncidentState}
    {acceptedAt : DateTime} (other : state ≠ .confirmed)
    (sendable : (notificationStatus review count budget state acceptedAt).1 ≠ .suppressed) : (count : Int) < budget := by
  by_contra exhausted
  exact sendable (by simp [notificationStatus, other, not_lt.mp exhausted])

theorem notificationFor_some {s : Store P} {budget : Int} {record : IncidentRecord} {previous : IncidentState}
    {acceptedAt : DateTime} {item : NotificationIntent}
    (made : notificationFor s budget record previous acceptedAt = some item) : Created s budget record item := by
  unfold notificationFor at made
  split at made
  · cases made
  · obtain rfl := Option.some.inj made
    refine ⟨⟨rfl, rfl, rfl, rfl, rfl⟩, rfl, ?_, ?_⟩
    · intro confirmed
      show (notificationStatus _ _ _ record.state _).1 ≠ _
      rw [confirmed]
      exact notificationStatus_confirmed _ _ _ _
    · intro other sendable
      exact notificationStatus_budget other sendable

/-- Entering CONFIRMED always calls for an intent. -/
theorem notificationFor_confirmed (s : Store P) (budget : Int) {record : IncidentRecord} {previous : IncidentState}
    (acceptedAt : DateTime) (confirmed : record.state = .confirmed) (entered : previous ≠ .confirmed) :
    ∃ item, notificationFor s budget record previous acceptedAt = some item := by
  have called : ¬ (record.state ∉ notifyStates ∨ record.state = previous) := by
    rw [confirmed, not_or]
    exact ⟨by decide, entered.symm⟩
  exact ⟨_, by rw [notificationFor, if_neg called]⟩

/-! ## The table of intents -/

/-- The incident was not CONFIRMED in the version before. -/
def Enters (s : Store P) (r : IncidentRecord) : Prop :=
  r.state = .confirmed ∧ ∀ p ∈ s.journal, p.incidentId = r.incidentId → p.version + 1 = r.version → p.state ≠ .confirmed

def announces (r : IncidentRecord) (n : NotificationIntent) : Bool :=
  n.incidentId = r.incidentId ∧ n.incidentVersion = r.version

/-- An intent below CONFIRMED that may be sent, or was. -/
def sendable (incidentId : UUID) (n : NotificationIntent) : Bool :=
  n.incidentId = incidentId ∧ n.incidentState ≠ .confirmed ∧ n.status ≠ .suppressed

/-- Every intent announces a journalled version, the budget limits what may be
    sent below CONFIRMED, and an entry into CONFIRMED has its one intent. -/
structure Posting (budget : Int) (e : Engine P) : Prop where
  configured : e.notificationBudget = budget
  announced : ∀ n ∈ e.store.notificationIntents, ∃ r ∈ e.store.journal, Announces P n r
  limited : ∀ incidentId, (e.store.notificationIntents.countP (sendable incidentId) : Int) ≤ max 0 budget
  entered : ∀ r ∈ e.store.journal, Enters e.store r →
    ∃ n, e.store.notificationIntents.filter (announces r) = [n] ∧ n.status ≠ .suppressed

theorem posting_init (budget : Int) (authorizer : Security.CommandAuthorizer) :
    Posting budget (Engine.init (Store.empty : Store P) budget authorizer) where
  configured := rfl
  announced := by
    intro n member
    cases member
  limited := fun _ => le_max_left _ _
  entered := by
    intro r member
    cases member

/-- No intent announces a version that is not journalled yet. -/
theorem Posting.unannounced {budget : Int} (posting : Posting budget e) {record : IncidentRecord}
    (fresh : ∀ r ∈ e.store.journal, ¬ (record.incidentId = r.incidentId ∧ record.version = r.version)) :
    ∀ n ∈ e.store.notificationIntents, announces record n = false ∧ n.idempotencyKey ≠ idempotencyKey record := by
  intro n member
  obtain ⟨r, known, posted⟩ := posting.announced n member
  have differs := fresh r known
  constructor
  · rw [announces, decide_eq_false_iff_not, posted.incident, posted.version]
    exact fun same => differs ⟨same.1.symm, same.2.symm⟩
  · intro same
    have fields := idempotencyKey_injective (posted.key.symm.trans same)
    exact differs ⟨fields.1.symm, fields.2.symm⟩

/-- The intent of a version that fits is added. -/
theorem Posting.added {budget : Int} (posting : Posting budget e) {record : IncidentRecord} {item : NotificationIntent}
    (fresh : ∀ r ∈ e.store.journal, ¬ (record.incidentId = r.incidentId ∧ record.version = r.version))
    (key : item.idempotencyKey = idempotencyKey record) : addedIntents e.store (some item) = [item] := by
  have unused : e.store.notificationIntents.any (fun n => n.idempotencyKey = item.idempotencyKey) = false := by
    rw [List.any_eq_false]
    intro n member
    simpa [key] using (posting.unannounced fresh n member).2
  rw [addedIntents, unused]
  rfl

section Version

variable {budget : Int} {record : IncidentRecord} {notification : Option NotificationIntent} {acceptedAt : DateTime}
  {s' : Store P}

/-- What a version adds to the intents: nothing, or the one intent made for it. -/
theorem Posting.addition (posting : Posting budget e)
    (notified : notification = notificationFor e.store e.notificationBudget record
      (previousState (e.current.get? record.hazard)) acceptedAt) (fits : Fits e.store record notification) :
    (notification = none ∧ addedIntents e.store notification = []) ∨
      ∃ item, notification = some item ∧ addedIntents e.store notification = [item] ∧
        Created e.store budget record item := by
  cases notification with
  | none => exact .inl ⟨rfl, rfl⟩
  | some item =>
      have created := notificationFor_some notified.symm
      exact .inr ⟨item, rfl, posting.added fits.version created.announces.key, posting.configured ▸ created⟩

/-- A version that enters CONFIRMED comes with an intent. -/
theorem entering_notified (inv : Invariant e) (succeeds : Succeeds (e.current.get? record.hazard) record)
    (notified : notification = notificationFor e.store e.notificationBudget record
      (previousState (e.current.get? record.hazard)) acceptedAt)
    (appended : Appended e.store record notification s') (enters : Enters s' record) : notification ≠ none := by
  have before : previousState (e.current.get? record.hazard) ≠ .confirmed := by
    cases found : e.current.get? record.hazard with
    | none => decide
    | some c =>
        have version := succeeds.version
        rw [found] at version
        refine enters.2 c ?_ (succeeds.incident c found).symm version.symm
        exact appended.journal ▸ List.mem_append_left _ (inv.current_mem found).1
  obtain ⟨item, made⟩ := notificationFor_confirmed e.store e.notificationBudget acceptedAt enters.1 before
  rw [notified, made]
  exact Option.some_ne_none item

/-- The count that has to stay below the budget includes every intent of the incident. -/
theorem Posting.limited_add (posting : Posting budget e) {item : NotificationIntent}
    (created : Created e.store budget record item) (incidentId : UUID) :
    (((e.store.notificationIntents ++ [item]).countP (sendable incidentId) : Nat) : Int) ≤ max 0 budget := by
  have before := posting.limited incidentId
  rw [List.countP_append, List.countP_singleton]
  split
  · next counts =>
      simp only [sendable, decide_eq_true_eq, created.announces.incident, created.announces.state] at counts
      obtain ⟨rfl, other, unsuppressed⟩ := counts
      have below := created.budgeted other unsuppressed
      have all : e.store.notificationIntents.countP (sendable record.incidentId) ≤
          e.store.notificationCount record.incidentId := by
        refine List.countP_mono_left fun n _ counted => ?_
        simp only [sendable, decide_eq_true_eq] at counted
        simpa using counted.1
      have top := le_max_right 0 budget
      push_cast
      omega
  · simpa using before

/-- An entry journalled before keeps its one intent. -/
theorem Posting.entered_old (posting : Posting budget e) (fits : Fits e.store record notification)
    (appended : Appended e.store record notification s') {added : List NotificationIntent}
    (announced : ∀ item ∈ added, Announces P item record) {r : IncidentRecord} (old : r ∈ e.store.journal)
    (enters : Enters s' r) :
    ∃ n, (e.store.notificationIntents ++ added).filter (announces r) = [n] ∧ n.status ≠ .suppressed := by
  have earlier : Enters e.store r :=
    ⟨enters.1, fun p known => enters.2 p (appended.journal ▸ List.mem_append_left _ known)⟩
  obtain ⟨n, only, unsuppressed⟩ := posting.entered r old earlier
  have others : added.filter (announces r) = [] := by
    rw [List.filter_eq_nil_iff]
    intro item member
    have posted := announced item member
    rw [announces, decide_eq_true_eq, posted.incident, posted.version]
    exact fits.version r old
  rw [List.filter_append, only, others]
  exact ⟨n, rfl, unsuppressed⟩

/-- A version that enters CONFIRMED gets its one intent. -/
theorem Posting.entered_new (posting : Posting budget e) (fits : Fits e.store record notification)
    {item : NotificationIntent} (created : Created e.store budget record item) (confirmed : record.state = .confirmed) :
    ∃ n, (e.store.notificationIntents ++ [item]).filter (announces record) = [n] ∧ n.status ≠ .suppressed := by
  have old : e.store.notificationIntents.filter (announces record) = [] := by
    rw [List.filter_eq_nil_iff]
    intro n known
    simp [(posting.unannounced fits.version n known).1]
  have self : announces record item = true := by
    simp [announces, created.announces.incident, created.announces.version]
  rw [List.filter_append, old, List.filter_singleton, self]
  exact ⟨item, rfl, created.confirmed confirmed⟩

theorem Posting.incident (posting : Posting budget e) (inv : Invariant e)
    (succeeds : Succeeds (e.current.get? record.hazard) record)
    (notified : notification = notificationFor e.store e.notificationBudget record
      (previousState (e.current.get? record.hazard)) acceptedAt)
    (fits : Fits e.store record notification) (appended : Appended e.store record notification s') :
    Posting budget (e.advanced s' record.hazard record) := by
  have addition := posting.addition notified fits
  have announced : ∀ item ∈ addedIntents e.store notification, Announces P item record := by
    intro item member
    rcases addition with ⟨-, nothing⟩ | ⟨made, -, one, created⟩
    · rw [nothing] at member
      cases member
    · rw [one] at member
      exact List.mem_singleton.mp member ▸ created.announces
  refine ⟨posting.configured, ?_, ?_, ?_⟩
  · show ∀ n ∈ s'.notificationIntents, ∃ r ∈ s'.journal, Announces P n r
    rw [appended.frame.1, appended.journal]
    intro n member
    rcases List.mem_append.mp member with old | new
    · obtain ⟨r, known, posted⟩ := posting.announced n old
      exact ⟨r, List.mem_append_left _ known, posted⟩
    · exact ⟨record, by simp, announced n new⟩
  · intro incidentId
    show ((s'.notificationIntents.countP (sendable incidentId) : Nat) : Int) ≤ max 0 budget
    rw [appended.frame.1]
    rcases addition with ⟨-, nothing⟩ | ⟨item, -, one, created⟩
    · rw [nothing, List.append_nil]
      exact posting.limited incidentId
    · rw [one]
      exact posting.limited_add created incidentId
  · show ∀ r ∈ s'.journal, Enters s' r → ∃ n, s'.notificationIntents.filter (announces r) = [n] ∧ n.status ≠ .suppressed
    intro r member enters
    rw [appended.frame.1]
    rw [appended.journal] at member
    rcases List.mem_append.mp member with old | new
    · exact posting.entered_old fits appended announced old enters
    · rw [List.mem_singleton.mp new] at enters ⊢
      rcases addition with ⟨none, -⟩ | ⟨item, -, one, created⟩
      · exact absurd none (entering_notified inv succeeds notified appended enters)
      · rw [one]
        exact posting.entered_new fits created enters.1

/-- A stored intent has the id of the intent for this version, but another key. -/
def Collides (s : Store P) (record : IncidentRecord) : Prop :=
  ∃ n ∈ s.notificationIntents, n.notificationId = P.uuid5 ("sentinel-notification:" ++ idempotencyKey record) ∧
    n.idempotencyKey ≠ idempotencyKey record

/-- A new version fits unless ids of intents collide. -/
theorem Posting.fits (posting : Posting budget e) (distinct : ¬ Collides e.store record) (acceptedAt : DateTime)
    (notified : notification = notificationFor e.store e.notificationBudget record
      (previousState (e.current.get? record.hazard)) acceptedAt)
    (fresh : ∀ r ∈ e.store.journal, ¬ (record.incidentId = r.incidentId ∧ record.version = r.version)) :
    Fits e.store record notification := by
  refine ⟨fresh, ?_⟩
  intro item added n member same
  cases notification with
  | none => cases added
  | some made =>
      have created := notificationFor_some notified.symm
      rw [posting.added fresh created.announces.key] at added
      obtain rfl := List.mem_singleton.mp added
      exact distinct ⟨n, member, same.symm.trans created.announces.id, (posting.unannounced fresh n member).2⟩

end Version

/-- Rows may change in what a delivery records, as long as none becomes
    suppressed or stops being so. -/
structure Redelivered (n n' : NotificationIntent) : Prop where
  id : n'.notificationId = n.notificationId
  incident : n'.incidentId = n.incidentId
  version : n'.incidentVersion = n.incidentVersion
  state : n'.incidentState = n.incidentState
  key : n'.idempotencyKey = n.idempotencyKey
  suppressed : n'.status = .suppressed ↔ n.status = .suppressed

theorem Posting.rows {budget : Int} (posting : Posting budget e) {s' : Store P} {f : NotificationIntent → NotificationIntent}
    (journal : s'.journal = e.store.journal)
    (intents : s'.notificationIntents = e.store.notificationIntents.map f)
    (rows : ∀ n ∈ e.store.notificationIntents, Redelivered n (f n)) : Posting budget { e with store := s' } := by
  refine ⟨posting.configured, ?_, ?_, ?_⟩
  · show ∀ n ∈ s'.notificationIntents, ∃ r ∈ s'.journal, Announces P n r
    rw [intents, journal, List.forall_mem_map]
    intro n member
    obtain ⟨r, known, posted⟩ := posting.announced n member
    have row := rows n member
    exact ⟨r, known, row.incident.trans posted.incident, row.version.trans posted.version, row.state.trans posted.state,
      row.key.trans posted.key, row.id.trans posted.id⟩
  · intro incidentId
    show ((s'.notificationIntents.countP (sendable incidentId) : Nat) : Int) ≤ max 0 budget
    have same : (e.store.notificationIntents.map f).countP (sendable incidentId) =
        e.store.notificationIntents.countP (sendable incidentId) := by
      rw [List.countP_map]
      refine List.countP_congr fun n member => ?_
      have row := rows n member
      simp [sendable, row.incident, row.state, row.suppressed]
    rw [intents, same]
    exact posting.limited incidentId
  · show ∀ r ∈ s'.journal, Enters s' r → ∃ n, s'.notificationIntents.filter (announces r) = [n] ∧ n.status ≠ .suppressed
    intro r member enters
    rw [journal] at member
    obtain ⟨n, only, unsuppressed⟩ := posting.entered r member (by rwa [Enters, ← journal])
    have known : n ∈ e.store.notificationIntents :=
      (List.mem_filter.mp (only ▸ List.mem_singleton_self n : n ∈ e.store.notificationIntents.filter (announces r))).1
    have same : (e.store.notificationIntents.map f).filter (announces r) =
        (e.store.notificationIntents.filter (announces r)).map f := by
      rw [List.filter_map]
      refine congrArg (List.map f) (List.filter_congr fun n member => ?_)
      have row := rows n member
      simp [announces, row.incident, row.version]
    refine ⟨f n, by rw [intents, same, only]; rfl, ?_⟩
    exact fun suppressed => unsuppressed ((rows n known).suppressed.mp suppressed)

theorem Posting.frame {budget : Int} (posting : Posting budget e) {s' : Store P} (journal : s'.journal = e.store.journal)
    (intents : s'.notificationIntents = e.store.notificationIntents) : Posting budget { e with store := s' } :=
  posting.rows (f := id) journal (by rw [intents, List.map_id]) (fun _ _ => ⟨rfl, rfl, rfl, rfl, rfl, Iff.rfl⟩)

/-! ## The log of hand-overs -/

/-- The rows `dispatchable_notifications` selects, their time apart. -/
def Dispatchable (n : NotificationIntent) : Prop :=
  (n.status = .pending ∨ n.status = .failed) ∧ n.attemptCount < n.maxAttempts

/-- How often an intent was handed over. -/
def handovers (handed : List Handover) (notificationId : UUID) : Nat :=
  handed.countP (fun h => h.intent.notificationId = notificationId)

/-- The log agrees with the attempts the rows count, and a row was open whenever
    its intent was handed over. -/
structure Tracked (intents : List NotificationIntent) (handed : List Handover) : Prop where
  ids : (intents.map NotificationIntent.notificationId).Nodup
  attempts : ∀ n ∈ intents, n.attemptCount = handovers handed n.notificationId
  limit : ∀ n ∈ intents, n.attemptCount ≤ n.maxAttempts
  known : ∀ h ∈ handed, ∃ n ∈ intents, n.notificationId = h.intent.notificationId
  settled : ∀ h ∈ handed, h.delivered = true → ∀ n ∈ intents, n.notificationId = h.intent.notificationId →
    n.status = .delivered
  undone : ∀ h ∈ handed, ∃ row ∈ h.row, row.notificationId = h.intent.notificationId ∧ Dispatchable row
  final : handed.Pairwise (fun h h' => h.intent.notificationId = h'.intent.notificationId → h.delivered = false)

theorem tracked_nil : Tracked [] [] where
  ids := .nil
  attempts := by simp
  limit := by simp
  known := by simp
  settled := by simp
  undone := by simp
  final := .nil

/-- A new intent has not been handed over. -/
theorem Tracked.add {intents : List NotificationIntent} {handed : List Handover} (tracked : Tracked intents handed)
    {item : NotificationIntent} (new : ∀ n ∈ intents, item.notificationId ≠ n.notificationId)
    (unsent : item.attemptCount = 0) : Tracked (intents ++ [item]) handed := by
  have unhanded : ∀ h ∈ handed, item.notificationId ≠ h.intent.notificationId := by
    intro h member
    obtain ⟨n, known, same⟩ := tracked.known h member
    exact same ▸ new n known
  refine ⟨?_, ?_, ?_, ?_, ?_, tracked.undone, tracked.final⟩
  · rw [List.map_append, List.map_singleton, ← List.concat_eq_append]
    apply tracked.ids.concat
    intro member
    obtain ⟨n, known, same⟩ := List.mem_map.mp member
    exact new n known same.symm
  · intro n member
    rcases List.mem_append.mp member with old | fresh
    · exact tracked.attempts n old
    · rw [List.mem_singleton.mp fresh, unsent, eq_comm, handovers, List.countP_eq_zero]
      intro h handed
      simpa using (unhanded h handed).symm
  · intro n member
    rcases List.mem_append.mp member with old | fresh
    · exact tracked.limit n old
    · rw [List.mem_singleton.mp fresh, unsent]
      exact Nat.zero_le _
  · intro h member
    obtain ⟨n, known, same⟩ := tracked.known h member
    exact ⟨n, List.mem_append_left _ known, same⟩
  · intro h member done n known same
    rcases List.mem_append.mp known with old | fresh
    · exact tracked.settled h member done n old same
    · rw [List.mem_singleton.mp fresh] at same
      exact absurd same (unhanded h member)

section Hand

variable {intents : List NotificationIntent} {handed : List Handover} {intent : NotificationIntent} {isDelivered : Bool}
  {receiptId error : Option String} {acceptedAt : DateTime}

theorem delivered_self : delivered (deliveryUpdate intent isDelivered receiptId error acceptedAt) intent =
    deliveryUpdate intent isDelivered receiptId error acceptedAt := by
  simp [delivered, deliveryUpdate]

theorem delivered_other {n : NotificationIntent} (other : n.notificationId ≠ intent.notificationId) :
    delivered (deliveryUpdate intent isDelivered receiptId error acceptedAt) n = n :=
  if_neg other

theorem delivered_id (updated n : NotificationIntent) : (delivered updated n).notificationId = n.notificationId := by
  unfold delivered
  split <;> rfl

theorem deliveryUpdate_unsuppressed :
    (deliveryUpdate intent isDelivered receiptId error acceptedAt).status ≠ .suppressed := by
  simp only [deliveryUpdate]
  split
  · decide
  · split <;> decide

theorem Tracked.row_eq (tracked : Tracked intents handed) {n : NotificationIntent} (member : n ∈ intents)
    (member' : intent ∈ intents) (same : n.notificationId = intent.notificationId) : n = intent :=
  List.inj_on_of_nodup_map tracked.ids member member' same

theorem Tracked.undelivered (tracked : Tracked intents handed) (member : intent ∈ intents)
    (dispatchable : Dispatchable intent) {h : Handover} (known : h ∈ handed)
    (same : h.intent.notificationId = intent.notificationId) : h.delivered = false := by
  by_contra done
  have status := tracked.settled h known (Bool.eq_true_of_not_eq_false done) intent member same.symm
  rcases dispatchable.1 with pending | failed
  · rw [pending] at status
    cases status
  · rw [failed] at status
    cases status

theorem handovers_append (handed : List Handover) (h : Handover) (notificationId : UUID) :
    handovers (handed ++ [h]) notificationId =
      handovers handed notificationId + if h.intent.notificationId = notificationId then 1 else 0 := by
  rw [handovers, List.countP_append, List.countP_singleton, handovers]
  simp

/-- Handing over a dispatchable intent and recording the outcome. -/
theorem Tracked.hand (tracked : Tracked intents handed) (member : intent ∈ intents) (dispatchable : Dispatchable intent) :
    Tracked (intents.map (delivered (deliveryUpdate intent isDelivered receiptId error acceptedAt)))
      (handed ++ [⟨intent, some intent, isDelivered⟩]) := by
  have unchanged {n : NotificationIntent} (known : n ∈ intents) (other : n ≠ intent) :
      n.notificationId ≠ intent.notificationId := fun same => other (tracked.row_eq known member same)
  refine ⟨?_, ?_, ?_, ?_, ?_, ?_, ?_⟩
  · rw [List.map_map]
    have same : (NotificationIntent.notificationId ∘
        delivered (deliveryUpdate intent isDelivered receiptId error acceptedAt)) = NotificationIntent.notificationId :=
      funext (delivered_id _)
    rw [same]
    exact tracked.ids
  · rw [List.forall_mem_map]
    intro n known
    rw [delivered_id, handovers_append]
    by_cases this : n = intent
    · subst this
      rw [delivered_self, ← tracked.attempts n known, if_pos rfl]
      rfl
    · have other := unchanged known this
      rw [delivered_other other, tracked.attempts n known, if_neg other.symm]
      rfl
  · rw [List.forall_mem_map]
    intro n known
    by_cases this : n = intent
    · subst this
      rw [delivered_self]
      exact dispatchable.2
    · rw [delivered_other (unchanged known this)]
      exact tracked.limit n known
  · intro h listed
    have exists_row : ∃ n ∈ intents, n.notificationId = h.intent.notificationId := by
      rcases List.mem_append.mp listed with old | new
      · exact tracked.known h old
      · rw [List.mem_singleton.mp new]
        exact ⟨intent, member, rfl⟩
    obtain ⟨n, known, same⟩ := exists_row
    exact ⟨_, List.mem_map_of_mem known, (delivered_id _ n).trans same⟩
  · intro h listed done
    rw [List.forall_mem_map]
    intro n known same
    rw [delivered_id] at same
    rcases List.mem_append.mp listed with old | new
    · have other : n.notificationId ≠ intent.notificationId := by
        intro this
        rw [tracked.undelivered member dispatchable old (same.symm.trans this)] at done
        cases done
      rw [delivered_other other]
      exact tracked.settled h old done n known same
    · rw [List.mem_singleton.mp new] at same done
      rw [tracked.row_eq known member same, delivered_self]
      simp [deliveryUpdate, show isDelivered = true from done]
  · intro h listed
    rcases List.mem_append.mp listed with old | new
    · exact tracked.undone h old
    · rw [List.mem_singleton.mp new]
      exact ⟨intent, rfl, rfl, dispatchable⟩
  · rw [List.pairwise_append]
    refine ⟨tracked.final, List.pairwise_singleton _ _, ?_⟩
    intro h old h' new
    rw [List.mem_singleton.mp new]
    exact tracked.undelivered member dispatchable old

theorem hand_redelivered (tracked : Tracked intents handed) (member : intent ∈ intents) (dispatchable : Dispatchable intent) :
    ∀ n ∈ intents, Redelivered n (delivered (deliveryUpdate intent isDelivered receiptId error acceptedAt) n) := by
  intro n known
  by_cases same : n.notificationId = intent.notificationId
  · rw [tracked.row_eq known member same, delivered_self]
    refine ⟨rfl, rfl, rfl, rfl, rfl, iff_of_false deliveryUpdate_unsuppressed ?_⟩
    rcases dispatchable.1 with pending | failed
    · simp [pending]
    · simp [failed]
  · rw [delivered_other same]
    exact ⟨rfl, rfl, rfl, rfl, rfl, Iff.rfl⟩

theorem Tracked.find (tracked : Tracked intents handed) (member : intent ∈ intents) :
    intents.find? (fun n => n.notificationId = intent.notificationId) = some intent := by
  cases found : intents.find? (fun n => n.notificationId = intent.notificationId) with
  | none => simpa using List.find?_eq_none.mp found intent member
  | some n =>
      have same : n.notificationId = intent.notificationId := by simpa using List.find?_some found
      rw [tracked.row_eq (List.mem_of_find?_eq_some found) member same]

end Hand

/-! ## Runs with the log -/

/-- The engine and the log of all hand-overs. -/
structure Outbox (P : Platform) where
  engine : Engine P
  handed : List Handover

def Outbox.step (o : Outbox P) : Operation P → Outbox P
  | .dispatchNotifications sender now clock =>
      let d := (Dispatcher.dispatch sender now clock ⟨o.engine.store, o.handed⟩).2
      ⟨{ o.engine with store := d.store }, d.handed⟩
  | .applyAnalysis analysis acceptedAt => { o with engine := Incidents.step o.engine (.applyAnalysis analysis acceptedAt) }
  | .applyStatusCommand command => { o with engine := Incidents.step o.engine (.applyStatusCommand command) }
  | .review action => { o with engine := Incidents.step o.engine (.review action) }
  | .applyAuthorizedReview command => { o with engine := Incidents.step o.engine (.applyAuthorizedReview command) }

structure Outbox.Sound (budget : Int) (o : Outbox P) : Prop where
  invariant : Invariant o.engine
  posting : Posting budget o.engine
  tracked : Tracked o.engine.store.notificationIntents o.handed

theorem Outbox.sound_init (budget : Int) (authorizer : Security.CommandAuthorizer) :
    Outbox.Sound budget ⟨Engine.init (Store.empty : Store P) budget authorizer, []⟩ :=
  ⟨invariant_init budget authorizer, posting_init budget authorizer, tracked_nil⟩

/-- A write elsewhere leaves the outbox alone. -/
theorem Outbox.Sound.elsewhere {budget : Int} {s' s'' : Store P} {handed : List Handover}
    (sound : Outbox.Sound budget ⟨e, handed⟩) (inv : Invariant { e with store := s' })
    (domain : s'.domain = s''.domain) (incidents : s''.incidentEvents = e.store.incidentEvents)
    (intents : s''.notificationIntents = e.store.notificationIntents) :
    Outbox.Sound budget ⟨{ e with store := s' }, handed⟩ := by
  have intents' : s'.notificationIntents = e.store.notificationIntents :=
    field_of_domain domain Store.notificationIntents intents
  refine ⟨inv, sound.posting.frame (journal_of_domain domain incidents) intents', ?_⟩
  show Tracked s'.notificationIntents handed
  rw [intents']
  exact sound.tracked

theorem Outbox.Sound.effect {budget : Int} {e' : Engine P} {handed : List Handover}
    (sound : Outbox.Sound budget ⟨e, handed⟩) (effect : Effect e e') : Outbox.Sound budget ⟨e', handed⟩ := by
  have inv := effect.invariant sound.invariant
  cases effect with
  | review well domain => exact sound.elsewhere inv domain rfl rfl
  | receipt origin well domain => exact sound.elsewhere inv domain rfl rfl
  | relation well domain => exact sound.elsewhere inv domain rfl rfl
  | @incident s' record notification acceptedAt succeeds notified fits appended =>
      refine ⟨inv, sound.posting.incident sound.invariant succeeds notified fits appended, ?_⟩
      show Tracked s'.notificationIntents handed
      rw [appended.frame.1]
      rcases sound.posting.addition notified fits with ⟨-, nothing⟩ | ⟨item, -, one, created⟩
      · rw [show addedIntents e.store notification = [] from nothing, List.append_nil]
        exact sound.tracked
      · have new := fits.intent item (one ▸ List.mem_singleton_self item)
        rw [show addedIntents e.store notification = [item] from one]
        exact sound.tracked.add new created.unsent

theorem Outbox.Sound.effects {budget : Int} {e' : Engine P} {handed : List Handover}
    (sound : Outbox.Sound budget ⟨e, handed⟩) (effects : Effects e e') : Outbox.Sound budget ⟨e', handed⟩ := by
  induction effects with
  | refl => exact sound
  | tail _ effect ih => exact ih.effect effect

/-- One intent of the snapshot: its row is still as it was read. -/
theorem Outbox.Sound.handOver {budget : Int} {d : Dispatcher P} {intent : NotificationIntent}
    (sound : Outbox.Sound budget ⟨{ e with store := d.store }, d.handed⟩)
    (member : intent ∈ d.store.notificationIntents) (dispatchable : Dispatchable intent) (sender : NotificationSender)
    (clock : Nat → DateTime) (k : Nat) :
    ∃ updated s', Dispatcher.recordOutcome sender clock k intent d.store = (.ok updated, s') ∧
      Outbox.Sound budget ⟨{ e with store := s' }, (Incidents.handOver sender k intent d).handed⟩ ∧
      ∀ n ∈ d.store.notificationIntents, n.notificationId ≠ intent.notificationId → n ∈ s'.notificationIntents ∧
        handovers (Incidents.handOver sender k intent d).handed n.notificationId = handovers d.handed n.notificationId := by
  obtain ⟨inv, posting, tracked⟩ := sound
  have found : d.store.notification intent.notificationId = some intent := tracked.find member
  have undelivered : intent.status ≠ .delivered := by
    rcases dispatchable.1 with pending | failed
    · simp [pending]
    · simp [failed]
  obtain ⟨receiptId, error, same⟩ := recordOutcome_eq (P := P) sender clock k intent
  obtain ⟨s', recorded, well, domain⟩ :=
    recordDelivery_of_open inv.well found undelivered (sender k intent).isOk receiptId error (clock k)
  have intents := field_of_domain domain Store.notificationIntents rfl
  refine ⟨_, s', same ▸ recorded, ⟨?_, ?_, ?_⟩, ?_⟩
  · exact inv.elsewhere well domain rfl rfl
  · exact posting.rows (journal_of_domain domain rfl) intents (hand_redelivered tracked member dispatchable)
  · show Tracked s'.notificationIntents (d.handed ++ [⟨intent, d.store.notification intent.notificationId, _⟩])
    rw [found, intents]
    exact tracked.hand member dispatchable
  · intro n known other
    refine ⟨intents ▸ List.mem_map.mpr ⟨n, known, delivered_other other⟩, ?_⟩
    exact (handovers_append _ _ _).trans (by simp [other.symm])

theorem Outbox.Sound.deliver {budget : Int} (sender : NotificationSender) (clock : Nat → DateTime) (k : Nat)
    (intents : List NotificationIntent) (d : Dispatcher P)
    (sound : Outbox.Sound budget ⟨{ e with store := d.store }, d.handed⟩)
    (snapshot : ∀ n ∈ intents, n ∈ d.store.notificationIntents ∧ Dispatchable n)
    (distinct : (intents.map NotificationIntent.notificationId).Nodup) :
    let d' := (Dispatcher.deliver sender clock k intents d).2
    Outbox.Sound budget ⟨{ e with store := d'.store }, d'.handed⟩ ∧
      ∀ n ∈ d.store.notificationIntents, n.notificationId ∉ intents.map NotificationIntent.notificationId →
        n ∈ d'.store.notificationIntents ∧
          handovers d'.handed n.notificationId = handovers d.handed n.notificationId := by
  induction intents generalizing k d with
  | nil => exact ⟨sound, fun n known _ => ⟨known, rfl⟩⟩
  | cons intent rest ih =>
      obtain ⟨member, dispatchable⟩ := snapshot intent List.mem_cons_self
      obtain ⟨new, later⟩ := List.nodup_cons.mp distinct
      obtain ⟨updated, s', recorded, sound', kept⟩ := sound.handOver member dispatchable sender clock k
      have snapshot' : ∀ n ∈ rest, n ∈ s'.notificationIntents ∧ Dispatchable n := by
        intro n listed
        obtain ⟨known, free⟩ := snapshot n (List.mem_cons_of_mem _ listed)
        have other : n.notificationId ≠ intent.notificationId := fun same => new (same ▸ List.mem_map_of_mem listed)
        exact ⟨(kept n known other).1, free⟩
      rw [deliver_cons, recorded]
      obtain ⟨sound'', kept'⟩ :=
        ih (k + 1) { Incidents.handOver sender k intent d with store := s' } sound' snapshot' later
      refine ⟨sound'', ?_⟩
      intro n known unlisted
      rw [List.map_cons, List.mem_cons, not_or] at unlisted
      obtain ⟨known', first⟩ := kept n known unlisted.1
      obtain ⟨known'', rest⟩ := kept' n known' unlisted.2
      exact ⟨known'', rest.trans first⟩

theorem mem_dispatchableNotifications {s : Store P} {now : DateTime} {n : NotificationIntent}
    (member : n ∈ s.dispatchableNotifications now) : n ∈ s.notificationIntents ∧ Dispatchable n := by
  have sorted := (List.mem_filter.mp member).1
  rw [List.mem_insertionSort, List.mem_filter, decide_eq_true_eq] at sorted
  exact sorted

theorem dispatchableNotifications_nodup {s : Store P} (now : DateTime)
    (ids : (s.notificationIntents.map NotificationIntent.notificationId).Nodup) :
    ((s.dispatchableNotifications now).map NotificationIntent.notificationId).Nodup := by
  apply List.Nodup.sublist (List.filter_sublist.map _)
  refine ((List.perm_insertionSort _ _).map _).nodup_iff.mpr ?_
  exact List.Nodup.sublist (List.filter_sublist.map _) ids

/-- The dispatcher never selects a row in one of these statuses. -/
def Closed (n : NotificationIntent) : Prop :=
  n.status = .suppressed ∨ n.status = .delivered ∨ n.status = .deadLetter

theorem Closed.not_dispatchable {n : NotificationIntent} (closed : Closed n) : ¬ Dispatchable n := by
  rintro ⟨pending | failed, -⟩
  · simp [Closed, pending] at closed
  · simp [Closed, failed] at closed

theorem Outbox.Sound.dispatch {budget : Int} {o : Outbox P} (sound : o.Sound budget) (sender : NotificationSender)
    (now : DateTime) (clock : Nat → DateTime) :
    (o.step (.dispatchNotifications sender now clock)).Sound budget ∧
      ∀ n ∈ o.engine.store.notificationIntents, Closed n →
        n ∈ (o.step (.dispatchNotifications sender now clock)).engine.store.notificationIntents ∧
          handovers (o.step (.dispatchNotifications sender now clock)).handed n.notificationId =
            handovers o.handed n.notificationId := by
  obtain ⟨sound', kept⟩ := Outbox.Sound.deliver sender clock 0 (o.engine.store.dispatchableNotifications now)
    ⟨o.engine.store, o.handed⟩ sound (fun n listed => mem_dispatchableNotifications listed)
    (dispatchableNotifications_nodup now sound.tracked.ids)
  refine ⟨sound', ?_⟩
  intro n known closed
  refine kept n known fun listed => ?_
  obtain ⟨n', selected, same⟩ := List.mem_map.mp listed
  obtain ⟨known', dispatchable⟩ := mem_dispatchableNotifications selected
  rw [sound.tracked.row_eq known' known same] at dispatchable
  exact closed.not_dispatchable dispatchable

/-- Every other operation is a sequence of effects and hands nothing over. -/
theorem Outbox.step_cases {budget : Int} {o : Outbox P} (sound : o.Sound budget) (op : Operation P) :
    (∃ sender now clock, op = .dispatchNotifications sender now clock) ∨
      ∃ e', Effects o.engine e' ∧ o.step op = ⟨e', o.handed⟩ := by
  have inv := sound.invariant
  cases op with
  | applyAnalysis analysis acceptedAt => exact .inr ⟨_, applyAnalysis_effects inv analysis acceptedAt, rfl⟩
  | applyStatusCommand command => exact .inr ⟨_, applyStatusCommand_effects inv command, rfl⟩
  | review action => exact .inr ⟨_, Elsewhere.effects (review_elsewhere inv action), rfl⟩
  | applyAuthorizedReview command =>
      exact .inr ⟨_, Elsewhere.effects (applyAuthorizedReview_elsewhere inv command), rfl⟩
  | dispatchNotifications sender now clock => exact .inl ⟨sender, now, clock, rfl⟩

theorem Outbox.step_sound {budget : Int} (o : Outbox P) (op : Operation P) (sound : o.Sound budget) :
    (o.step op).Sound budget := by
  rcases Outbox.step_cases sound op with ⟨sender, now, clock, rfl⟩ | ⟨e', effects, same⟩
  · exact (sound.dispatch sender now clock).1
  · rw [same]
    exact sound.effects effects

theorem Effect.intents {e e' : Engine P} (effect : Effect e e') :
    ∀ n ∈ e.store.notificationIntents, n ∈ e'.store.notificationIntents := by
  intro n member
  cases effect with
  | incident acceptedAt succeeds notified fits appended => exact appended.frame.1 ▸ List.mem_append_left _ member
  | review well domain => exact (field_of_domain domain Store.notificationIntents rfl) ▸ member
  | receipt origin well domain => exact (field_of_domain domain Store.notificationIntents rfl) ▸ member
  | relation well domain => exact (field_of_domain domain Store.notificationIntents rfl) ▸ member

theorem Effects.intents {e e' : Engine P} (effects : Effects e e') :
    ∀ n ∈ e.store.notificationIntents, n ∈ e'.store.notificationIntents := by
  induction effects with
  | refl => exact fun _ member => member
  | tail _ effect ih => exact fun n member => effect.intents n (ih n member)

/-- A closed row stays as it is and its intent is not handed over again. -/
theorem Outbox.step_closed {budget : Int} {o : Outbox P} (sound : o.Sound budget) (op : Operation P)
    {n : NotificationIntent} (known : n ∈ o.engine.store.notificationIntents) (closed : Closed n) :
    n ∈ (o.step op).engine.store.notificationIntents ∧
      handovers (o.step op).handed n.notificationId = handovers o.handed n.notificationId := by
  rcases Outbox.step_cases sound op with ⟨sender, now, clock, rfl⟩ | ⟨e', effects, same⟩
  · exact (sound.dispatch sender now clock).2 n known closed
  · rw [same]
    exact ⟨effects.intents n known, rfl⟩

/-- The log does not influence what is delivered. -/
theorem deliver_store (sender : NotificationSender) (clock : Nat → DateTime) (k : Nat)
    (intents : List NotificationIntent) (d d' : Dispatcher P) (same : d.store = d'.store) :
    (Dispatcher.deliver sender clock k intents d).2.store = (Dispatcher.deliver sender clock k intents d').2.store := by
  induction intents generalizing k d d' with
  | nil => exact same
  | cons intent rest ih =>
      rw [deliver_cons, deliver_cons, same]
      rcases Dispatcher.recordOutcome sender clock k intent d'.store with ⟨r, s'⟩
      cases r with
      | ok updated => exact ih (k + 1) _ _ rfl
      | error error => rfl

theorem Outbox.step_engine (o : Outbox P) (op : Operation P) : (o.step op).engine = Incidents.step o.engine op := by
  cases op with
  | dispatchNotifications sender now clock =>
      have same := deliver_store sender clock 0 (o.engine.store.dispatchableNotifications now)
        ⟨o.engine.store, o.handed⟩ ⟨o.engine.store, []⟩ rfl
      exact congrArg (fun s => { o.engine with store := s }) same
  | applyAnalysis | applyStatusCommand | review | applyAuthorizedReview => rfl

/-- The engine and its log after a run from an empty store. -/
def Outbox.after (budget : Int) (authorizer : Security.CommandAuthorizer) (ops : List (Operation P)) : Outbox P :=
  run Outbox.step ⟨Engine.init Store.empty budget authorizer, []⟩ ops

theorem Outbox.after_engine (budget : Int) (authorizer : Security.CommandAuthorizer) (ops : List (Operation P)) :
    (Outbox.after budget authorizer ops).engine = Incidents.after budget authorizer ops := by
  induction ops using List.reverseRecOn with
  | nil => rfl
  | append_singleton ops op ih =>
      rw [Outbox.after, Incidents.after, run_append, run_append]
      exact (Outbox.step_engine _ op).trans (congrArg (fun e => Incidents.step e op) ih)

theorem Outbox.after_sound (budget : Int) (authorizer : Security.CommandAuthorizer) (ops : List (Operation P)) :
    (Outbox.after budget authorizer ops).Sound budget :=
  run_invariant Outbox.step_sound (Outbox.sound_init budget authorizer) ops

theorem Outbox.after_closed (budget : Int) (authorizer : Security.CommandAuthorizer) (ops more : List (Operation P))
    {n : NotificationIntent} (known : n ∈ (Outbox.after budget authorizer ops).engine.store.notificationIntents)
    (closed : Closed n) :
    n ∈ (Outbox.after budget authorizer (ops ++ more)).engine.store.notificationIntents ∧
      handovers (Outbox.after budget authorizer (ops ++ more)).handed n.notificationId =
        handovers (Outbox.after budget authorizer ops).handed n.notificationId := by
  rw [Outbox.after, run_append]
  refine (run_invariant (I := fun o : Outbox P => o.Sound budget ∧ n ∈ o.engine.store.notificationIntents ∧
    handovers o.handed n.notificationId = _) ?_ ⟨Outbox.after_sound budget authorizer ops, known, rfl⟩ more).2
  rintro o op ⟨sound, here, same⟩
  obtain ⟨here', same'⟩ := Outbox.step_closed sound op here closed
  exact ⟨Outbox.step_sound o op sound, here', same'.trans same⟩

end SentinelEdge.Incidents
