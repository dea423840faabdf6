import SentinelEdge.Foundation.Deque
import SentinelEdge.Projections.Service

/-! # Client buffers

`ProjectionClientBuffer` keeps the projections that a client has not fetched yet. It
gives them out in order and without a gap; when it overflows it gives out nothing more
until the client has resynchronised.
-/

namespace SentinelEdge.Projections

open Foundation Domain

variable {P : Platform}

structure ProjectionClientBuffer (P : Platform) where
  capacity : Nat := 32
  positive : 0 < capacity := by decide
  items : Deque (SignedProjection P) capacity := {}
  resyncRequired : Bool := false

inductive OfferAnswer where
  | queued | resyncRequired
  deriving DecidableEq, Repr

def OfferAnswer.value : OfferAnswer → String
  | .queued => "queued"
  | .resyncRequired => "resync_required"

namespace ProjectionClientBuffer

/-- `ProjectionClientBuffer(capacity)` -/
def create (capacity : Int) : Except Error (ProjectionClientBuffer P) :=
  if valid : 1 ≤ capacity then .ok { capacity := capacity.toNat, positive := by omega }
  else .error (.valueError "projection client buffer capacity must be positive")

/-- `offer`, with the buffer it leaves. -/
def offer (projection : SignedProjection P) (b : ProjectionClientBuffer P) : OfferAnswer × ProjectionClientBuffer P :=
  if b.resyncRequired then (.resyncRequired, b)
  else if b.capacity ≤ b.items.items.length then (.resyncRequired, { b with items := {}, resyncRequired := true })
  else (.queued, { b with items := b.items.append projection })

/-- How many items a call of `drain` asks for. -/
def drainCount (limit : Option Int) (b : ProjectionClientBuffer P) : Nat :=
  match limit with
  | none => b.items.items.length
  | some limit => (max 0 limit).toNat

/-- `drain`, with the buffer it leaves. -/
def drain (limit : Option Int) (b : ProjectionClientBuffer P) : List (SignedProjection P) × ProjectionClientBuffer P :=
  if b.resyncRequired then ([], b)
  else
    let popped := b.items.popLeft (min (b.drainCount limit) b.items.items.length)
    (popped.1, { b with items := popped.2 })

def resetAfterResync (b : ProjectionClientBuffer P) : ProjectionClientBuffer P :=
  { b with items := {}, resyncRequired := false }

/-! ## Runs -/

inductive Operation (P : Platform) where
  | offer (projection : SignedProjection P)
  | drain (limit : Option Int)
  | resetAfterResync

def step (b : ProjectionClientBuffer P) : Operation P → ProjectionClientBuffer P
  | .offer projection => (b.offer projection).2
  | .drain limit => (b.drain limit).2
  | .resetAfterResync => b.resetAfterResync

/-- What the operation gives to the client. -/
def drained (b : ProjectionClientBuffer P) : Operation P → List (SignedProjection P)
  | .offer _ => []
  | .drain limit => (b.drain limit).1
  | .resetAfterResync => []

def Operation.offered : Operation P → List (SignedProjection P)
  | .offer projection => [projection]
  | .drain _ => []
  | .resetAfterResync => []

def Operation.isReset : Operation P → Bool
  | .resetAfterResync => true
  | _ => false

/-- The buffer after the operations, with all that it has given out. -/
def delivered (b : ProjectionClientBuffer P) (ops : List (Operation P)) :
    ProjectionClientBuffer P × List (SignedProjection P) :=
  Foundation.run (traced step drained) (b, []) ops

/-- What holds from one reset to the next, of the projections offered since: what was given
    out and what is held are the offers so far, until an overflow lets the held ones go. -/
structure InStep (offers : List (SignedProjection P)) (x : ProjectionClientBuffer P × List (SignedProjection P)) : Prop where
  whole : x.1.resyncRequired = false → x.2 ++ x.1.items.items = offers
  cut : x.1.resyncRequired = true → x.1.items.items = [] ∧ x.2 <+: offers

variable {b : ProjectionClientBuffer P} {offers : List (SignedProjection P)} {given : List (SignedProjection P)}

theorem InStep.starts (inStep : InStep offers (b, given)) : given <+: offers := by
  cases mode : b.resyncRequired with
  | true => exact (inStep.cut mode).2
  | false => exact ⟨b.items.items, inStep.whole mode⟩

theorem InStep.step (inStep : InStep offers (b, given)) (op : Operation P) (ordinary : op.isReset = false) :
    InStep (offers ++ op.offered) (traced step drained (b, given) op) := by
  cases op with
  | resetAfterResync => cases ordinary
  | offer projection =>
      have nothing : given ++ drained b (.offer projection) = given := List.append_nil given
      have here : traced ProjectionClientBuffer.step drained (b, given) (.offer projection) =
          ((b.offer projection).2, given) :=
        congrArg (Prod.mk _) nothing
      have starts : given <+: offers ++ (Operation.offer projection).offered :=
        inStep.starts.trans (List.prefix_append _ _)
      rw [here, offer]
      cases mode : b.resyncRequired with
      | true =>
          rw [if_pos rfl]
          exact ⟨fun off => Bool.noConfusion (mode.symm.trans off), fun _ => ⟨(inStep.cut mode).1, starts⟩⟩
      | false =>
          rw [if_neg Bool.false_ne_true]
          split
          · exact ⟨nofun, fun _ => ⟨rfl, starts⟩⟩
          · next room =>
              refine ⟨fun _ => ?_, fun on => absurd on Bool.false_ne_true⟩
              show given ++ (b.items.append projection).items = _
              rw [Deque.append_of_room (Nat.not_le.mp room), ← List.append_assoc, inStep.whole mode]
              rfl
  | drain limit =>
      have offered : offers ++ (Operation.drain (P := P) limit).offered = offers := List.append_nil offers
      have here : traced ProjectionClientBuffer.step drained (b, given) (.drain limit) =
        ((b.drain limit).2, given ++ (b.drain limit).1) := rfl
      rw [offered, here, drain]
      cases mode : b.resyncRequired with
      | true =>
          rw [if_pos rfl, List.append_nil]
          exact inStep
      | false =>
          rw [if_neg Bool.false_ne_true]
          refine ⟨fun _ => ?_, fun on => absurd on Bool.false_ne_true⟩
          dsimp only
          rw [List.append_assoc, Deque.popLeft_items]
          exact inStep.whole mode

theorem InStep.run (inStep : InStep offers (b, given)) (ops : List (Operation P))
    (ordinary : ∀ op ∈ ops, op.isReset = false) :
    InStep (offers ++ ops.flatMap Operation.offered)
      (Foundation.run (traced ProjectionClientBuffer.step drained) (b, given) ops) := by
  induction ops generalizing b given offers with
  | nil =>
      rw [List.flatMap_nil, List.append_nil]
      exact inStep
  | cons op ops ih =>
      have first := inStep.step op (ordinary op List.mem_cons_self)
      have later := ih first fun op member => ordinary op (List.mem_cons_of_mem _ member)
      rw [List.flatMap_cons, ← List.append_assoc]
      exact later

/-- Between resets a buffer keeps its room, and once it asks for a resync it holds nothing. -/
structure Kept (capacity : Nat) (b : ProjectionClientBuffer P) : Prop where
  room : b.capacity = capacity
  quiet : b.resyncRequired = true → b.items.items = []

theorem Kept.step {capacity : Nat} (kept : Kept capacity b) (op : Operation P) : Kept capacity (b.step op) := by
  cases op with
  | offer projection =>
      show Kept capacity (b.offer projection).2
      unfold offer
      split
      · exact kept
      · split
        · exact ⟨kept.room, fun _ => rfl⟩
        · next mode _ => exact ⟨kept.room, fun on => absurd on mode⟩
  | drain limit =>
      show Kept capacity (b.drain limit).2
      unfold drain
      split
      · exact kept
      · next mode => exact ⟨kept.room, fun on => absurd on mode⟩
  | resetAfterResync => exact ⟨kept.room, fun _ => rfl⟩

theorem offer_overflows {projection : SignedProjection P} (overflows : (b.offer projection).1 = .resyncRequired) :
    (b.step (.offer projection)).resyncRequired = true := by
  show (b.offer projection).2.resyncRequired = true
  unfold offer at overflows ⊢
  split
  · next mode => exact mode
  · next mode =>
      rw [if_neg mode] at overflows
      split
      · rfl
      · next room =>
          rw [if_neg room] at overflows
          cases overflows

/-- A buffer that asks for a resync takes nothing and gives nothing out. -/
theorem silent_until_reset (required : b.resyncRequired = true) (ops : List (Operation P))
    (ordinary : ∀ op ∈ ops, op.isReset = false) : b.delivered ops = (b, []) := by
  induction ops with
  | nil => rfl
  | cons op ops ih =>
      have same : traced step drained (b, []) op = (b, []) := by
        cases op with
        | resetAfterResync => exact Bool.noConfusion (ordinary _ List.mem_cons_self)
        | offer projection => simp [traced, step, drained, offer, required]
        | drain limit => simp [traced, step, drained, drain, required]
      rw [delivered, Foundation.run, List.foldl_cons, same]
      exact ih fun op member => ordinary op (List.mem_cons_of_mem _ member)

/-- After any operations a buffer holds no more than its capacity. From its creation and from
    each reset on, what it gives out is a prefix of what it is offered, as long as there is no
    other reset. Once it has answered an offer with `resync_required`, it holds nothing, takes
    nothing and gives nothing out until the next one. -/
theorem delivers_no_gap {capacity : Int} {made : ProjectionClientBuffer P} (created : create capacity = .ok made)
    (before : List (Operation P)) :
    ((Foundation.run step made before).items.items.length : Int) ≤ capacity ∧
    (before = [] ∨ before.getLast? = some .resetAfterResync → ∀ ops : List (Operation P), (∀ op ∈ ops, op.isReset = false) →
      ((Foundation.run step made before).delivered ops).2 <+: ops.flatMap Operation.offered) ∧
    ∀ projection, ((Foundation.run step made before).offer projection).1 = .resyncRequired →
      ((Foundation.run step made before).offer projection).2.items.items = [] ∧
      ∀ ops : List (Operation P), (∀ op ∈ ops, op.isReset = false) →
        ((Foundation.run step made before).offer projection).2.delivered ops =
          (((Foundation.run step made before).offer projection).2, []) := by
  have fresh : made.items.items = [] ∧ made.resyncRequired = false ∧ (made.capacity : Int) = capacity := by
    unfold create at created
    split at created
    · next valid =>
        cases created
        exact ⟨rfl, rfl, Int.toNat_of_nonneg (by omega)⟩
    · cases created
  have kept : Kept made.capacity (Foundation.run step made before) :=
    run_invariant (fun _ op kept => kept.step op) ⟨rfl, fun on => absurd (fresh.2.1.symm.trans on) Bool.false_ne_true⟩ before
  refine ⟨?_, ?_, ?_⟩
  · have bounded := (Foundation.run step made before).items.bounded
    have room := kept.room
    omega
  · intro starts ops ordinary
    have restarted : (Foundation.run step made before).items.items = [] ∧
        (Foundation.run step made before).resyncRequired = false := by
      cases starts with
      | inl none =>
          rw [none]
          exact ⟨fresh.1, fresh.2.1⟩
      | inr last =>
          obtain ⟨earlier, rfl⟩ := List.getLast?_eq_some_iff.mp last
          rw [run_append]
          exact ⟨rfl, rfl⟩
    have inStep : InStep [] (Foundation.run step made before, []) :=
      ⟨fun _ => restarted.1, fun on => absurd (restarted.2.symm.trans on) Bool.false_ne_true⟩
    exact (inStep.run ops ordinary).starts
  · intro projection overflows
    have required := offer_overflows overflows
    exact ⟨(kept.step (.offer projection)).quiet required, silent_until_reset required⟩

/-- The projection of an empty engine at a position of the journal. -/
def emptyProjection (position : Int) : SignedProjection Platform.mixing where
  cursor := { streamEpoch := ⟨0, by decide⟩, authorityPosition := position, projectionVersion := 0 }
  generatedAt := 0
  rebuildState := "ready"
  projectionLag := 0
  lastAppliedAuthorityPosition := position
  authorityWatermark := {
    epochId := "epoch", highestContiguousPosition := position, acceptedEventCount := 0, valid := true, failures := [] }
  incidents := []
  commandIds := []
  aggregateVersions := Dict.empty
  causationCommandIds := Dict.empty
  payloadSha256 := Platform.mixing.zeroDigest
  authenticationTag := Platform.mixing.zeroDigest

/-- Two projections fill a buffer, one of them is fetched, and the fourth one overflows it. -/
theorem second_client_resyncs :
    (delivered ({ capacity := 2 } : ProjectionClientBuffer Platform.mixing)
      [.offer (emptyProjection 1), .offer (emptyProjection 2), .drain (some 1), .offer (emptyProjection 3),
        .offer (emptyProjection 4), .drain none]).2 <+:
      [emptyProjection 1, emptyProjection 2, emptyProjection 3, emptyProjection 4] :=
  (@delivers_no_gap Platform.mixing 2 { capacity := 2 } rfl []).2.1 (Or.inl rfl) _ (by decide)

end ProjectionClientBuffer

end SentinelEdge.Projections
