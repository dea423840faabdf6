import Mathlib.Data.String.Basic
import SentinelEdge.Privacy.Contacts

/-! # Contact with external recipients is bounded

The attempts of a node for a request are a course of retries, and every contact but a
lost one has its attempt. So the limits on attempts are limits on contacts.
-/

namespace SentinelEdge.Privacy

open Foundation Domain Storage Evidence EvidenceTrustService PrivacyDispositionService

variable {P : Platform} {limits : Limits} {sys sys' : PrivacySystem P} {seen : List (Observation P)}

/-- Attempts as retries: a scheduled one allows another from its time on. -/
def retrying (P : Platform) : Retrying (ExternalRecipientReconciliationAttempt P) where
  number := ExternalRecipientReconciliationAttempt.attemptNo
  made := ExternalRecipientReconciliationAttempt.createdAt
  again := ExternalRecipientReconciliationAttempt.nextRetryAt
  lapsed a := a.state = .deadlineExpired

def PrivacyDispositionService.Limits.maximum (limits : Limits) : Nat := limits.maxAttempts.toNat

def PrivacyDispositionService.Limits.delay (limits : Limits) : Int := limits.retryDelaySeconds * 1000000

/-- The attempts of a node for a request, in the order they were stored. -/
def DispositionStore.history (d : DispositionStore P) (requestId nodeId : UUID) :
    List (ExternalRecipientReconciliationAttempt P) :=
  d.attempts.filter (fun a => a.requestId = requestId ∧ a.nodeId = nodeId)

namespace Observation

def attempt : Observation P → Option (ExternalRecipientReconciliationAttempt P)
  | .attempted attempt => some attempt
  | _ => none

/-- When the recipient of a node was contacted for a request. -/
def contactTime (requestId nodeId : UUID) : Observation P → Option DateTime
  | .contacted forRequest forNode contactedAt => if forRequest = requestId ∧ forNode = nodeId then some contactedAt else none
  | _ => none

/-- What an observation demands of a later one: a recipient that answered is not
    contacted again, one that did not is not contacted before the retry is due. -/
def Before : Observation P → Observation P → Prop
  | .attempted attempt, .contacted requestId nodeId contactedAt => attempt.requestId = requestId → attempt.nodeId = nodeId →
      ∀ due, attempt.nextRetryAt = some due → due ≤ contactedAt
  | .acknowledged receipt, .contacted _ nodeId _ => receipt.nodeId ≠ nodeId
  | _, _ => True

end Observation

def PrivacySystem.contactTimes (sys : PrivacySystem P) (requestId nodeId : UUID) : List DateTime :=
  sys.observed.filterMap (Observation.contactTime requestId nodeId)

/-- Different attempts and receipts have different ids, and the texts of the instants
    of attempts are ordered as the instants. -/
structure Legible (P : Platform) (seen : List (Observation P)) : Prop where
  attempts : ∀ a b, .attempted a ∈ seen → .attempted b ∈ seen → a.attemptId = b.attemptId → a = b
  receipts : ∀ a b, .acknowledged a ∈ seen → .acknowledged b ∈ seen → a.receiptId = b.receiptId → a = b
  instants : ∀ a b, .attempted a ∈ seen → .attempted b ∈ seen → a.createdAt < b.createdAt →
    P.isoformat a.createdAt < P.isoformat b.createdAt

/-- An attempt as it is stored: only a scheduled one has a next retry. -/
structure Noted (a : ExternalRecipientReconciliationAttempt P) : Prop where
  state : a.state ∈ [.acknowledged, .retryScheduled, .exhausted, .deadlineExpired]
  again : a.nextRetryAt.isSome = true ↔ a.state = .retryScheduled

/-- What the tables and the observations keep to, in every state. -/
structure Disciplined (limits : Limits) (sys : PrivacySystem P) : Prop where
  stored : sys.disposition.attempts = sys.observed.filterMap Observation.attempt
  courses : ∀ requestId nodeId, Course (retrying P) limits.maximum limits.delay (sys.disposition.history requestId nodeId)
  bounded : ∀ requestId nodeId, (sys.disposition.history requestId nodeId).length ≤ limits.maximum
  noted : ∀ a ∈ sys.disposition.attempts, Noted a
  timely : ∀ a ∈ sys.disposition.attempts, ∃ request ∈ sys.disposition.requests, request.requestId = a.requestId ∧
    (a.state ≠ .deadlineExpired → a.createdAt < request.deadline)
  acknowledged : ∀ a ∈ sys.disposition.attempts, a.state = .acknowledged → ∃ row ∈ sys.disposition.receipts, row.nodeId = a.nodeId
  contacts : ∀ requestId nodeId, sys.contactTimes requestId nodeId =
    ((sys.disposition.history requestId nodeId).filter (fun a => a.state ≠ .deadlineExpired)).map
      ExternalRecipientReconciliationAttempt.createdAt
  receipts : ∀ row ∈ sys.disposition.receipts, .acknowledged row ∈ sys.observed
  answered : ∀ row, .acknowledged row ∈ sys.observed → (∃ stored ∈ sys.disposition.receipts, stored.nodeId = row.nodeId) ∨
    ∃ node ∈ sys.disposition.lineageNodes, node.nodeId = row.nodeId ∧ node.externalRecipientDigest = none
  ordered : sys.observed.Pairwise Observation.Before

namespace Disciplined

variable {a b : ExternalRecipientReconciliationAttempt P} {requestId nodeId : UUID}

theorem mem_history : a ∈ sys.disposition.history requestId nodeId ↔
    a ∈ sys.disposition.attempts ∧ a.requestId = requestId ∧ a.nodeId = nodeId := by
  simp [DispositionStore.history]

theorem attempted_iff (d : Disciplined limits sys) : a ∈ sys.disposition.attempts ↔ .attempted a ∈ sys.observed := by
  rw [d.stored, List.mem_filterMap]
  constructor
  · rintro ⟨o, member, same⟩
    cases o with
    | attempted attempt =>
        cases same
        exact member
    | _ => cases same
  · intro member
    exact ⟨_, member, rfl⟩

/-- Read in the order of their timestamps, the attempts of a node are in the order
    they were stored in. -/
theorem previous_eq (d : Disciplined limits sys) (legible : Legible P seen) (within : ∀ o ∈ sys.observed, o ∈ seen)
    (requestId nodeId : UUID) : sys.disposition.previous requestId nodeId = sys.disposition.history requestId nodeId := by
  let earlier (a b : ExternalRecipientReconciliationAttempt P) : Prop := P.isoformat a.createdAt < P.isoformat b.createdAt ∨
    (P.isoformat a.createdAt = P.isoformat b.createdAt ∧ a.attemptId.str ≤ b.attemptId.str)
  have : Std.Total earlier := ⟨by
    intro a b
    rcases lt_trichotomy (P.isoformat a.createdAt) (P.isoformat b.createdAt) with less | same | more
    · exact .inl (.inl less)
    · rcases le_total a.attemptId.str b.attemptId.str with below | above
      · exact .inl (.inr ⟨same, below⟩)
      · exact .inr (.inr ⟨same.symm, above⟩)
    · exact .inr (.inl more)⟩
  have : IsTrans _ earlier := ⟨by
    rintro a b c (first | ⟨same, below⟩) (second | ⟨same', below'⟩)
    · exact .inl (first.trans second)
    · exact .inl (same' ▸ first)
    · exact .inl (same ▸ second)
    · exact .inr ⟨same.trans same', below.trans below'⟩⟩
  have increasing : (sys.disposition.history requestId nodeId).Pairwise
      (fun a b => P.isoformat a.createdAt < P.isoformat b.createdAt) := by
    refine (d.courses requestId nodeId).increasing.imp_of_mem ?_
    intro a b first second less
    exact legible.instants a b (within _ (d.attempted_iff.mp (mem_history.mp first).1))
      (within _ (d.attempted_iff.mp (mem_history.mp second).1)) less
  have perm : (sys.disposition.previous requestId nodeId).Perm (sys.disposition.history requestId nodeId) := by
    have sorted := (List.perm_insertionSort earlier (sys.disposition.attempts.filter (fun a => a.requestId = requestId))).filter
      (fun a => a.nodeId = nodeId)
    rw [List.filter_filter] at sorted
    refine sorted.trans (List.Perm.of_eq ?_)
    unfold DispositionStore.history
    congr 1
    funext a
    simp [Bool.and_comm]
  have sortedPrevious : (sys.disposition.previous requestId nodeId).Pairwise earlier :=
    (List.pairwise_insertionSort earlier _).filter _
  refine List.Perm.eq_of_pairwise ?_ sortedPrevious (increasing.imp (fun less => .inl less)) perm
  intro a b first second before after
  have distinct := increasing.imp (S := fun a b => P.isoformat a.createdAt ≠ P.isoformat b.createdAt) (fun less => less.ne)
  by_contra apart
  have : Std.Symm (fun a b : ExternalRecipientReconciliationAttempt P => P.isoformat a.createdAt ≠ P.isoformat b.createdAt) :=
    ⟨fun _ _ differ => differ.symm⟩
  have different := distinct.forall (perm.mem_iff.mp first) second apart
  rcases before with less | ⟨same, -⟩
  · rcases after with more | ⟨same, -⟩
    · exact lt_asymm less more
    · exact different same.symm
  · exact different same

/-- What a turn that records an attempt lets be observed, and the receipt it brings. -/
inductive Trace (b : ExternalRecipientReconciliationAttempt P) : List (Observation P) → List (ExternalReceipt P) → Prop where
  | expired (state : b.state = .deadlineExpired) : Trace b [] []
  | refused (tried : b.state ≠ .deadlineExpired) (refused : b.state ≠ .acknowledged) :
      Trace b [.contacted b.requestId b.nodeId b.createdAt] []
  | accepted {row : ExternalReceipt P} (state : b.state = .acknowledged) (nodeId : row.nodeId = b.nodeId) :
      Trace b [.contacted b.requestId b.nodeId b.createdAt, .acknowledged row] [row]

/-- A turn that records an attempt. -/
structure Records (limits : Limits) (sys : PrivacySystem P) (request : DispositionRequest P)
    (b : ExternalRecipientReconciliationAttempt P) (trace : List (Observation P)) (rows : List (ExternalReceipt P))
    (sys' : PrivacySystem P) : Prop where
  traced : Trace b trace rows
  noted : Noted b
  again : ∀ due, b.nextRetryAt = some due → due = b.createdAt + limits.delay ∧ b.attemptNo < limits.maximum
  number : b.attemptNo = (sys.disposition.history b.requestId b.nodeId).length + 1
  requested : request ∈ sys.disposition.requests ∧ request.requestId = b.requestId
  before : b.state ≠ .deadlineExpired → b.createdAt < request.deadline
  after : b.state = .deadlineExpired → request.deadline ≤ b.createdAt
  unsettled : ∀ last, (sys.disposition.history b.requestId b.nodeId).getLast? = some last → isSettled last.state = false ∧
    (b.state ≠ .deadlineExpired → ∀ due, last.nextRetryAt = some due → due ≤ b.createdAt)
  unanswered : ∀ row ∈ sys.disposition.receipts, row.nodeId ≠ b.nodeId
  addressed : b.state ≠ .deadlineExpired →
    ∀ node ∈ sys.disposition.lineageNodes, node.nodeId = b.nodeId → node.externalRecipientDigest ≠ none
  nodes : sys'.disposition.lineageNodes = sys.disposition.lineageNodes
  requests : sys'.disposition.requests = sys.disposition.requests
  attempts : sys'.disposition.attempts = sys.disposition.attempts ++ [b]
  receipts : sys'.disposition.receipts = sys.disposition.receipts ++ rows
  observed : sys'.observed = sys.observed ++ (trace ++ [.attempted b])

variable {request : DispositionRequest P} {trace : List (Observation P)} {rows : List (ExternalReceipt P)}

theorem Records.history (records : Records limits sys request b trace rows sys') (requestId nodeId : UUID) :
    sys'.disposition.history requestId nodeId = sys.disposition.history requestId nodeId ++
      if b.requestId = requestId ∧ b.nodeId = nodeId then [b] else [] := by
  unfold DispositionStore.history
  rw [records.attempts, List.filter_append]
  by_cases own : b.requestId = requestId ∧ b.nodeId = nodeId
  · simp [own]
  · simp [own]

theorem Records.contactTimes (records : Records limits sys request b trace rows sys') (requestId nodeId : UUID) :
    sys'.contactTimes requestId nodeId = sys.contactTimes requestId nodeId ++
      if b.state ≠ .deadlineExpired ∧ b.requestId = requestId ∧ b.nodeId = nodeId then [b.createdAt] else [] := by
  unfold PrivacySystem.contactTimes
  rw [records.observed, List.filterMap_append]
  congr 1
  cases records.traced with
  | expired state => simp [state, Observation.contactTime]
  | refused tried refused =>
      by_cases own : b.requestId = requestId ∧ b.nodeId = nodeId
      · simp [Observation.contactTime, tried, own]
      · simp [Observation.contactTime, own]
  | accepted state row =>
      by_cases own : b.requestId = requestId ∧ b.nodeId = nodeId
      · simp [Observation.contactTime, state, own]
      · simp [Observation.contactTime, own]

/-- The last attempt of a node that is neither settled nor answered is a scheduled one. -/
theorem scheduled (d : Disciplined limits sys) (unanswered : ∀ row ∈ sys.disposition.receipts, row.nodeId ≠ nodeId)
    (member : a ∈ sys.disposition.history requestId nodeId) (unsettled : isSettled a.state = false) :
    ∃ due, a.nextRetryAt = some due ∧ due = a.createdAt + limits.delay ∧ a.state = .retryScheduled := by
  obtain ⟨stored, -, own⟩ := mem_history.mp member
  have noted := d.noted a stored
  have state : a.state = .retryScheduled := by
    cases known : a.state with
    | retryScheduled => rfl
    | acknowledged =>
        obtain ⟨row, kept, same⟩ := d.acknowledged a stored known
        exact absurd (same.trans own) (unanswered row kept)
    | exhausted => simp [isSettled, known] at unsettled
    | deadlineExpired => simp [isSettled, known] at unsettled
    | alreadyAcknowledged =>
        have one := noted.state
        simp [known] at one
    | notDue =>
        have one := noted.state
        simp [known] at one
  obtain ⟨due, again⟩ := Option.isSome_iff_exists.mp (noted.again.mpr state)
  exact ⟨due, again, (((d.courses requestId nodeId).allows a member).retried due again).1, state⟩

/-- The recorded attempt continues the course of its node. -/
theorem Records.course (d : Disciplined limits sys) (sound : sys.Sound) (positive : 0 < limits.delay)
    (records : Records limits sys request b trace rows sys') :
    Course (retrying P) limits.maximum limits.delay (sys.disposition.history b.requestId b.nodeId ++ [b]) := by
  refine (d.courses b.requestId b.nodeId).snoc positive records.number ⟨records.again, ?_⟩ ?_
  · intro lapsed
    have state : b.state = .deadlineExpired := by simpa [retrying] using lapsed
    cases again : b.nextRetryAt with
    | none => exact again
    | some due =>
        have retry := records.noted.again.mp (by rw [again]; rfl)
        rw [state] at retry
        cases retry
  · intro last found
    have member := List.mem_of_getLast? found
    obtain ⟨unsettled, reached⟩ := records.unsettled last found
    obtain ⟨due, again, late, state⟩ := d.scheduled records.unanswered member unsettled
    refine ⟨due, again, ?_, ?_⟩
    · show last.createdAt < b.createdAt
      by_cases expired : b.state = .deadlineExpired
      · obtain ⟨stored, own, -⟩ := mem_history.mp member
        obtain ⟨request', listed, same, inTime⟩ := d.timely last stored
        obtain rfl : request' = request := List.inj_on_of_nodup_map sound.tidy.requests listed records.requested.1
          ((same.trans own).trans records.requested.2.symm)
        exact (inTime (by simp [state])).trans_le (records.after expired)
      · have sooner : last.createdAt < due := by
          rw [late]
          exact Int.lt_add_of_pos_right _ positive
        exact sooner.trans_le (reached expired due again)
    · intro inTime
      have tried : b.state ≠ .deadlineExpired := by simpa [retrying] using inTime
      exact reached tried due again

/-- A recorded attempt keeps the discipline. -/
theorem recorded (d : Disciplined limits sys) (sound : sys.Sound) (positive : 0 < limits.delay) (allowed : 0 < limits.maximum)
    (records : Records limits sys request b trace rows sys') : Disciplined limits sys' where
  stored := by
    have none : trace.filterMap Observation.attempt = [] := by cases records.traced <;> rfl
    rw [records.attempts, records.observed, d.stored, List.filterMap_append, List.filterMap_append, none]
    rfl
  courses := by
    intro requestId nodeId
    rw [records.history]
    by_cases own : b.requestId = requestId ∧ b.nodeId = nodeId
    · obtain ⟨rfl, rfl⟩ := own
      simpa using records.course d sound positive
    · simpa [own] using d.courses requestId nodeId
  bounded := by
    intro requestId nodeId
    rw [records.history]
    by_cases own : b.requestId = requestId ∧ b.nodeId = nodeId
    · obtain ⟨rfl, rfl⟩ := own
      simpa using (records.course d sound positive).length_le allowed
    · simpa [own] using d.bounded requestId nodeId
  noted := by
    rw [records.attempts]
    intro a member
    rcases List.mem_append.mp member with old | new
    · exact d.noted a old
    · exact List.mem_singleton.mp new ▸ records.noted
  timely := by
    rw [records.attempts, records.requests]
    intro a member
    rcases List.mem_append.mp member with old | new
    · exact d.timely a old
    · rw [List.mem_singleton.mp new]
      exact ⟨request, records.requested.1, records.requested.2, records.before⟩
  acknowledged := by
    rw [records.attempts, records.receipts]
    intro a member state
    rcases List.mem_append.mp member with old | new
    · obtain ⟨row, kept, own⟩ := d.acknowledged a old state
      exact ⟨row, List.mem_append_left _ kept, own⟩
    · rw [List.mem_singleton.mp new] at state ⊢
      cases records.traced with
      | expired expired =>
          rw [expired] at state
          cases state
      | refused tried refused => exact absurd state refused
      | accepted _ nodeId => exact ⟨_, by simp, nodeId⟩
  contacts := by
    intro requestId nodeId
    rw [records.contactTimes, records.history, d.contacts, List.filter_append, List.map_append]
    congr 1
    by_cases own : b.requestId = requestId ∧ b.nodeId = nodeId
    · by_cases expired : b.state = .deadlineExpired
      · simp [own, expired]
      · simp [own, expired]
    · simp [own]
  receipts := by
    rw [records.receipts, records.observed]
    intro row member
    rcases List.mem_append.mp member with old | new
    · exact List.mem_append_left _ (d.receipts row old)
    · refine List.mem_append_right _ ?_
      cases records.traced with
      | expired _ => cases new
      | refused _ _ => cases new
      | accepted _ _ =>
          rw [List.mem_singleton.mp new]
          simp
  answered := by
    rw [records.receipts, records.observed, records.nodes]
    intro row member
    rcases List.mem_append.mp member with old | new
    · rcases d.answered row old with ⟨stored, kept, own⟩ | nobody
      · exact .inl ⟨stored, List.mem_append_left _ kept, own⟩
      · exact .inr nobody
    · left
      cases records.traced with
      | expired _ => simp at new
      | refused _ _ => simp at new
      | accepted _ nodeId =>
          obtain rfl : row = _ := by simpa using new
          exact ⟨_, by simp, rfl⟩
  ordered := by
    rw [records.observed]
    refine List.pairwise_append.mpr ⟨d.ordered, ?_, ?_⟩
    · cases records.traced <;> simp [Observation.Before]
    · -- only the contact itself is demanded something of
      have demanded : b.state ≠ .deadlineExpired →
          ∀ o ∈ sys.observed, o.Before (.contacted b.requestId b.nodeId b.createdAt) := by
        intro tried o member
        cases o with
        | attempted a =>
            intro sameRequest sameNode due again
            have inHistory : a ∈ sys.disposition.history b.requestId b.nodeId :=
              mem_history.mpr ⟨d.attempted_iff.mpr member, sameRequest, sameNode⟩
            obtain ⟨last, found⟩ := Option.isSome_iff_exists.mp
              (List.getLast?_isSome.mpr (List.ne_nil_of_mem inHistory))
            obtain ⟨unsettled, reached⟩ := records.unsettled last found
            obtain ⟨due', again', -, -⟩ := d.scheduled records.unanswered (List.mem_of_getLast? found) unsettled
            have sooner := ((d.courses b.requestId b.nodeId).dues positive found again' inHistory).2 due again
            exact sooner.trans (reached tried due' again')
        | acknowledged row =>
            intro same
            rcases d.answered row member with ⟨stored, kept, own⟩ | ⟨node, listed, own, nobody⟩
            · exact records.unanswered stored kept (own.trans same)
            · exact records.addressed tried node listed (own.trans same) nobody
        | contacted _ _ _ => trivial
        | completed _ => trivial
      intro o member o' later
      cases records.traced with
      | expired _ =>
          obtain rfl : o' = _ := by simpa using later
          cases o <;> trivial
      | refused tried _ =>
          rcases List.mem_cons.mp later with rfl | last
          · exact demanded tried o member
          · rw [List.mem_singleton.mp last]
            cases o <;> trivial
      | accepted state _ =>
          rcases List.mem_cons.mp later with rfl | rest
          · exact demanded (by simp [state]) o member
          · rcases List.mem_cons.mp rest with rfl | last
            · cases o <;> trivial
            · rw [List.mem_singleton.mp last]
              cases o <;> trivial

/-- Calls that neither contact a recipient nor record an attempt. -/
theorem extended (d : Disciplined limits sys) (more : List (Observation P))
    (attempts : sys'.disposition.attempts = sys.disposition.attempts)
    (nodes : ∀ node ∈ sys.disposition.lineageNodes, node ∈ sys'.disposition.lineageNodes)
    (requests : ∀ request ∈ sys.disposition.requests, ∃ request' ∈ sys'.disposition.requests,
      request'.requestId = request.requestId ∧ request'.deadline = request.deadline)
    (kept : ∀ row ∈ sys.disposition.receipts, row ∈ sys'.disposition.receipts)
    (observed : sys'.observed = sys.observed ++ more)
    (quiet : ∀ o ∈ more, o.attempt = none ∧ ∀ requestId nodeId contactedAt, o ≠ .contacted requestId nodeId contactedAt)
    (receipts : ∀ row ∈ sys'.disposition.receipts, row ∈ sys.disposition.receipts ∨ .acknowledged row ∈ more)
    (answered : ∀ row, .acknowledged row ∈ more → (∃ stored ∈ sys'.disposition.receipts, stored.nodeId = row.nodeId) ∨
      ∃ node ∈ sys'.disposition.lineageNodes, node.nodeId = row.nodeId ∧ node.externalRecipientDigest = none) :
    Disciplined limits sys' := by
  have history : ∀ requestId nodeId, sys'.disposition.history requestId nodeId = sys.disposition.history requestId nodeId :=
    fun _ _ => by rw [DispositionStore.history, DispositionStore.history, attempts]
  have silent : ∀ requestId nodeId, more.filterMap (Observation.contactTime requestId nodeId) = [] := by
    intro requestId nodeId
    rw [List.filterMap_eq_nil_iff]
    intro o member
    cases o with
    | contacted forRequest forNode contactedAt => exact absurd rfl ((quiet _ member).2 forRequest forNode contactedAt)
    | _ => rfl
  refine {
    stored := ?_, courses := fun r n => history r n ▸ d.courses r n, bounded := fun r n => history r n ▸ d.bounded r n
    noted := attempts ▸ d.noted, timely := ?_, acknowledged := ?_, contacts := ?_, receipts := ?_, answered := ?_
    ordered := ?_ }
  · have none : more.filterMap Observation.attempt = [] :=
      List.filterMap_eq_nil_iff.mpr (fun o member => (quiet o member).1)
    rw [attempts, observed, List.filterMap_append, none, List.append_nil, d.stored]
  · intro a member
    rw [attempts] at member
    obtain ⟨request, listed, own, inTime⟩ := d.timely a member
    obtain ⟨request', listed', same, deadline⟩ := requests request listed
    exact ⟨request', listed', same.trans own, deadline ▸ inTime⟩
  · intro a member state
    rw [attempts] at member
    obtain ⟨row, stored, own⟩ := d.acknowledged a member state
    exact ⟨row, kept row stored, own⟩
  · intro requestId nodeId
    rw [history, ← d.contacts, PrivacySystem.contactTimes, observed, List.filterMap_append, silent, List.append_nil]
    rfl
  · intro row member
    rw [observed]
    rcases receipts row member with old | new
    · exact List.mem_append_left _ (d.receipts row old)
    · exact List.mem_append_right _ new
  · intro row member
    rw [observed] at member
    rcases List.mem_append.mp member with old | new
    · rcases d.answered row old with ⟨stored, listed, own⟩ | ⟨node, listed, own⟩
      · exact .inl ⟨stored, kept stored listed, own⟩
      · exact .inr ⟨node, nodes node listed, own⟩
    · exact answered row new
  · rw [observed]
    have undemanding : ∀ o, ∀ o' ∈ more, Observation.Before o o' := by
      intro o o' member
      cases o' with
      | contacted forRequest forNode contactedAt => exact absurd rfl ((quiet _ member).2 forRequest forNode contactedAt)
      | _ => cases o <;> trivial
    refine List.pairwise_append.mpr ⟨d.ordered, ?_, fun o _ o' member => undemanding o o' member⟩
    exact List.pairwise_of_forall_mem_list (fun o _ o' member => undemanding o o' member)

/-- The same tables and observations. -/
theorem of_eq (d : Disciplined limits sys) (disposition : sys'.disposition = sys.disposition)
    (observed : sys'.observed = sys.observed) : Disciplined limits sys' := by
  refine d.extended [] (by rw [disposition]) ?_ ?_ ?_ (by simp [observed]) (by simp) ?_ (by simp)
  · rw [disposition]
    exact fun _ listed => listed
  · rw [disposition]
    exact fun request listed => ⟨request, listed, rfl, rfl⟩
  · rw [disposition]
    exact fun _ stored => stored
  · rw [disposition]
    exact fun _ stored => .inl stored

/-! ## A turn -/

/-- A new attempt is stored: neither its id nor its number is taken. -/
theorem insertAttempt_eq (d : Disciplined limits sys) (legible : Legible P seen) (within : ∀ o ∈ sys.observed, o ∈ seen)
    (own : .attempted b ∈ seen) (number : b.attemptNo = (sys.disposition.history b.requestId b.nodeId).length + 1)
    {t : DispositionStore P} (same : t.attempts = sys.disposition.attempts) :
    t.insertAttempt b = { t with attempts := t.attempts ++ [b] } := by
  have unnumbered : ∀ a ∈ sys.disposition.attempts, a.requestId = b.requestId → a.nodeId = b.nodeId →
      a.attemptNo ≠ b.attemptNo := by
    intro a stored sameRequest sameNode taken
    have member := List.mem_map_of_mem (f := (retrying P).number) (mem_history.mpr ⟨stored, sameRequest, sameNode⟩)
    rw [(d.courses b.requestId b.nodeId).numbered, List.mem_range'_1] at member
    have numberOf : (retrying P).number a = a.attemptNo := rfl
    omega
  have new : t.attempts.any (fun a => a.attemptId = b.attemptId ||
      (a.requestId = b.requestId && a.nodeId = b.nodeId && a.attemptNo = b.attemptNo)) = false := by
    rw [same, List.any_eq_false]
    intro a stored taken
    rcases Bool.or_eq_true _ _ |>.mp taken with id | numbered
    · obtain rfl := legible.attempts a b (within _ (d.attempted_iff.mp stored)) own (by simpa using id)
      exact unnumbered a stored rfl rfl rfl
    · simp only [Bool.and_eq_true, decide_eq_true_eq] at numbered
      exact unnumbered a stored numbered.1.1 numbered.1.2 numbered.2
  rw [DispositionStore.insertAttempt, new]
  rfl

/-- A receipt of a recipient who has not answered before is stored. -/
theorem insertReceipt_eq (d : Disciplined limits sys) (legible : Legible P seen) (within : ∀ o ∈ sys.observed, o ∈ seen)
    {row : ExternalReceipt P} (own : .acknowledged row ∈ seen) (recipient : row.recipientDigest.isSome = true)
    (unanswered : ∀ stored ∈ sys.disposition.receipts, stored.nodeId ≠ row.nodeId) :
    sys.disposition.insertReceipt row =
      { sys.disposition with receipts := sys.disposition.receipts ++ [row] } := by
  have new : sys.disposition.receipts.any (fun r => r.receiptId = row.receiptId) = false := by
    rw [List.any_eq_false]
    intro r stored taken
    obtain rfl := legible.receipts r row (within _ (d.receipts r stored)) own (by simpa using taken)
    exact unanswered r stored rfl
  rw [DispositionStore.insertReceipt, new, Bool.or_false, Option.isNone_eq_false_iff.mpr recipient]
  rfl

/-- A turn that does not overflow keeps the discipline. -/
theorem turn (d : Disciplined limits sys) (sound : sys.Sound) (legible : Legible P seen)
    (within : ∀ o ∈ sys'.observed, o ∈ seen) (positive : 0 < limits.delay) (allowed : 0 < limits.maximum) (turn : Turn P)
    (requested : turn.request ∈ sys.disposition.requests ∧ turn.request.requestId = turn.requestId)
    (listed : turn.node ∈ sys.disposition.lineageNodes) (leaves : turn.Leaves limits sys sys')
    (inRange : ¬ turn.Overflows limits sys.disposition) : Disciplined limits sys' := by
  have before : ∀ {more}, sys'.observed = sys.observed ++ more → ∀ o ∈ sys.observed, o ∈ seen :=
    fun observed o member => within o (observed ▸ List.mem_append_left _ member)
  have addressedBy : ∀ {nodeId}, turn.node.externalRecipientDigest.isSome = true → nodeId = turn.node.nodeId →
      ∀ node ∈ sys.disposition.lineageNodes, node.nodeId = nodeId → node.externalRecipientDigest ≠ none := by
    intro nodeId addressed same node known own none
    obtain rfl : node = turn.node := List.inj_on_of_nodup_map sound.tidy.nodes known listed (own.trans same)
    rw [none] at addressed
    cases addressed
  have unanswered : (sys.disposition.externalAck turn.node.nodeId).isSome = false →
      ∀ row ∈ sys.disposition.receipts, row.nodeId ≠ turn.node.nodeId :=
    fun silent => DispositionStore.externalAck_none.mp (by simpa using silent)
  have previous : ∀ {more}, sys'.observed = sys.observed ++ more →
      sys.disposition.previous turn.requestId turn.node.nodeId = sys.disposition.history turn.requestId turn.node.nodeId :=
    fun observed => d.previous_eq legible (before observed) _ _
  cases leaves with
  | idle disposition observed => exact d.of_eq disposition observed
  | overflowed overflows disposition observed => exact absurd overflows inRange
  | @expired b step makes state final disposition observed =>
      obtain ⟨silent, late, unsettled⟩ := nextStep_deadlineExpired step
      have number := makes.attemptNo
      rw [previous observed, ← makes.requestId, ← makes.nodeId] at number
      have stored := d.insertAttempt_eq legible (before observed) (within _ (by simp [observed])) number rfl
      rw [stored] at disposition
      refine d.recorded sound positive allowed <|
        show Records limits sys turn.request b [] [] sys' from ⟨.expired state, ?_, ?_, number, ⟨requested.1, requested.2.trans makes.requestId.symm⟩, ?_, ?_, ?_, ?_, ?_,
          by rw [disposition], by rw [disposition], by rw [disposition], by simp [disposition], by simpa using observed⟩
      · exact ⟨by simp [state], by simp [final, state]⟩
      · intro due again
        rw [final] at again
        cases again
      · exact fun tried => absurd state tried
      · rw [makes.createdAt]
        exact fun _ => late
      · intro last found
        rw [makes.requestId, makes.nodeId, ← previous observed] at found
        exact ⟨unsettled last found, fun tried => absurd state tried⟩
      · rw [makes.nodeId]
        exact unanswered silent
      · exact fun tried => absurd state tried
  | @refused b step addressed makes outcome disposition observed =>
      obtain ⟨silent, early, reached⟩ := nextStep_contact step
      have number := makes.attemptNo
      rw [previous observed, ← makes.requestId, ← makes.nodeId] at number
      have stored := d.insertAttempt_eq legible (before observed) (within _ (by simp [observed])) number rfl
      rw [stored] at disposition
      rw [← makes.requestId, ← makes.nodeId, ← makes.createdAt] at observed
      have tried : b.state ≠ .deadlineExpired ∧ b.state ≠ .acknowledged := by
        cases outcome with
        | exhausted state final => simp [state]
        | retry state again retries => simp [state]
      refine d.recorded sound positive allowed <|
        show Records limits sys turn.request b [.contacted b.requestId b.nodeId b.createdAt] [] sys' from
        ⟨.refused tried.1 tried.2, ?_, ?_, number, ⟨requested.1, requested.2.trans makes.requestId.symm⟩, ?_, ?_, ?_, ?_, ?_,
          by rw [disposition], by rw [disposition], by rw [disposition], by simp [disposition], observed⟩
      · cases outcome with
        | exhausted state final => exact ⟨by simp [state], by simp [final, state]⟩
        | retry state again retries => exact ⟨by simp [state], by simp [again, state]⟩
      · intro due again
        cases outcome with
        | exhausted state final =>
            rw [final] at again
            cases again
        | retry state scheduled retries =>
            rw [scheduled, Option.some.injEq] at again
            refine ⟨again.symm, ?_⟩
            unfold PrivacyDispositionService.Limits.maximum
            omega
      · rw [makes.createdAt]
        exact fun _ => early
      · exact fun expired => absurd expired tried.1
      · intro last found
        rw [makes.requestId, makes.nodeId, ← previous observed] at found
        rw [makes.createdAt]
        exact ⟨(reached last found).1, fun _ => (reached last found).2⟩
      · rw [makes.nodeId]
        exact unanswered silent
      · exact fun _ => addressedBy addressed makes.nodeId
  | @accepted b row step addressed makes state final nodeId recipient disposition observed =>
      obtain ⟨silent, early, reached⟩ := nextStep_contact step
      have number := makes.attemptNo
      rw [previous observed, ← makes.requestId, ← makes.nodeId] at number
      have received := d.insertReceipt_eq legible (before observed) (within _ (by simp [observed])) recipient
        (nodeId ▸ unanswered silent)
      have stored := d.insertAttempt_eq legible (before observed) (within _ (by simp [observed])) number
        (t := { sys.disposition with receipts := sys.disposition.receipts ++ [row] }) rfl
      rw [received, stored] at disposition
      rw [← makes.requestId, ← makes.nodeId, ← makes.createdAt] at observed
      refine d.recorded sound positive allowed <|
        show Records limits sys turn.request b [.contacted b.requestId b.nodeId b.createdAt, .acknowledged row] [row] sys' from
        ⟨.accepted state (nodeId.trans makes.nodeId.symm), ?_, ?_, number,
          ⟨requested.1, requested.2.trans makes.requestId.symm⟩, ?_, ?_, ?_, ?_, ?_,
          by rw [disposition], by rw [disposition], by rw [disposition], by rw [disposition], observed⟩
      · exact ⟨by simp [state], by simp [final, state]⟩
      · intro due again
        rw [final] at again
        cases again
      · rw [makes.createdAt]
        exact fun _ => early
      · intro expired
        rw [state] at expired
        cases expired
      · intro last found
        rw [makes.requestId, makes.nodeId, ← previous observed] at found
        rw [makes.createdAt]
        exact ⟨(reached last found).1, fun _ => (reached last found).2⟩
      · rw [makes.nodeId]
        exact unanswered silent
      · exact fun _ => addressedBy addressed makes.nodeId

end Disciplined

end SentinelEdge.Privacy
