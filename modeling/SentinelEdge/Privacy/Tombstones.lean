import Mathlib.Data.String.Basic
import SentinelEdge.Evidence.History

/-! # Tombstone journals

A tombstone journal carries the lifecycle events that follow registrations from a
live store to a restored one. Replaying it compares version numbers and nothing
else: an event whose number the store has reached is skipped, whatever happened
there under that number.
-/

namespace SentinelEdge.Privacy

open Foundation Domain Storage Evidence EvidenceTrustService

structure TombstoneJournal (P : Platform) where
  schemaVersion : String := "sentinel-edge-privacy-tombstones/1.0"
  journalId : UUID
  generatedAt : DateTime
  sourceAuthorityPosition : Int
  lifecycleEventCount : Nat
  events : List EvidenceLifecycleEvent
  payloadSha256 : P.Digest

/-- What `apply_tombstone_journal` returns. -/
structure ReplayReceipt (P : Platform) where
  journalId : String
  journalSha256 : P.Digest
  journalAuthorityPosition : Int
  applied : Nat
  skipped : Nat

variable {P : Platform}

/-- The key `(str(evidence_id), resulting_version)` of one event is at most that of
    the other. -/
def canonicalOrder (a b : EvidenceLifecycleEvent) : Prop :=
  a.evidenceId.str < b.evidenceId.str ∨ (a.evidenceId.str = b.evidenceId.str ∧ a.resultingVersion ≤ b.resultingVersion)

instance (a b : EvidenceLifecycleEvent) : Decidable (canonicalOrder a b) :=
  inferInstanceAs (Decidable (_ ∨ _))

instance : Std.Total canonicalOrder where
  total a b := by
    rcases lt_trichotomy a.evidenceId.str b.evidenceId.str with less | same | greater
    · exact .inl (.inl less)
    · rcases Nat.le_total a.resultingVersion b.resultingVersion with below | above
      · exact .inl (.inr ⟨same, below⟩)
      · exact .inr (.inr ⟨same.symm, above⟩)
    · exact .inr (.inl greater)

instance : IsTrans EvidenceLifecycleEvent canonicalOrder where
  trans := by
    rintro a b c (ab | ⟨ab, versionAB⟩) (bc | ⟨bc, versionBC⟩)
    · exact .inl (lt_trans ab bc)
    · exact .inl (lt_of_lt_of_eq ab bc)
    · exact .inl (lt_of_eq_of_lt ab bc)
    · exact .inr ⟨ab.trans bc, versionAB.trans versionBC⟩

/-- `tombstone_payload_sha256`, of the events as the payload writes them. -/
def tombstonePayloadSha256 (P : Platform) (schemaVersion : String) (sourceAuthorityPosition : Int)
    (lifecycleEventCount : Nat) (events : Json) : P.Digest :=
  P.sha256 (.obj [
    ("events", events),
    ("lifecycle_event_count", .int lifecycleEventCount),
    ("schema", .str schemaVersion),
    ("source_authority_position", .int sourceAuthorityPosition)])

/-- Every event is built, and with that validated, before the journal is. -/
def validateEvents (P : Platform) : List EvidenceLifecycleEvent → Except Error Unit
  | [] => .ok ()
  | event :: events => match event.validate P with
      | .error e => .error e
      | .ok _ => validateEvents P events

/-- The loop of `validate_integrity`. -/
def checkTombstones : List (UUID × Nat) → List EvidenceLifecycleEvent → Except Error Unit
  | _, [] => .ok ()
  | seen, event :: events =>
      if (event.evidenceId, event.resultingVersion) ∈ seen then
        .error (.validationError "duplicate tombstone lifecycle version")
      else if event.action = .register then
        .error (.validationError "registration events are not privacy tombstones")
      else checkTombstones ((event.evidenceId, event.resultingVersion) :: seen) events

namespace TombstoneJournal

/-- The checks of `TombstoneJournal.model_validate` on a payload whose events are
    written as given; the digest is compared before anything is parsed. -/
def validate (j : TombstoneJournal P) (written : Json) : Except Error (TombstoneJournal P) :=
  if j.payloadSha256 ≠ tombstonePayloadSha256 P j.schemaVersion j.sourceAuthorityPosition j.lifecycleEventCount written then
    .error (.validationError "tombstone payload digest mismatch")
  else if j.sourceAuthorityPosition < 0 then
    .error (.validationError "Input should be greater than or equal to 0")
  else match validateEvents P j.events with
    | .error e => .error e
    | .ok _ =>
        if j.lifecycleEventCount ≠ j.events.length then
          .error (.validationError "tombstone lifecycle_event_count mismatch")
        else if j.events ≠ j.events.insertionSort canonicalOrder then
          .error (.validationError "tombstone events must use canonical ordering")
        else match checkTombstones [] j.events with
          | .error e => .error e
          | .ok _ => .ok j

/-- The events of one item. -/
def eventsOf (j : TombstoneJournal P) (evidenceId : UUID) : List EvidenceLifecycleEvent :=
  j.events.filter (fun event => event.evidenceId = evidenceId)

end TombstoneJournal

/-- `evidence_lifecycle_events()`: all of them, in the order of the texts of both columns. -/
def allLifecycleEvents (s : Store P) : List EvidenceLifecycleEvent :=
  (s.evidenceLifecycleEvents.map Stored.record).insertionSort
    (fun a b => P.isoformat a.createdAt < P.isoformat b.createdAt ∨
      (P.isoformat a.createdAt = P.isoformat b.createdAt ∧ a.lifecycleEventId.str ≤ b.lifecycleEventId.str))

/-- The events a journal is built from. -/
def tombstones (s : Store P) : List EvidenceLifecycleEvent :=
  ((allLifecycleEvents s).filter (fun event => event.action ≠ .register)).insertionSort canonicalOrder

/-- `build_tombstone_journal` -/
def buildTombstoneJournal (s : Store P) (generatedAt : DateTime) : Except Error (TombstoneJournal P) :=
  let events := tombstones s
  let written := Json.arr (events.map (EvidenceLifecycleEvent.modelDump P))
  match authorityConformance s with
  | .error e => .error e
  | .ok authority => TombstoneJournal.validate {
      journalId := P.uuid5 ("sentinel-privacy-tombstones:" ++ P.hexdigest (P.sha256 (.obj [
        ("event_ids", .arr (events.map (fun event => .str event.lifecycleEventId.str))),
        ("source_authority_position", .int authority.highestContiguousPosition)])))
      generatedAt := generatedAt
      sourceAuthorityPosition := authority.highestContiguousPosition
      lifecycleEventCount := events.length
      events := events
      payloadSha256 := tombstonePayloadSha256 P "sentinel-edge-privacy-tombstones/1.0"
        authority.highestContiguousPosition events.length written } written

/-- One turn of the loop of `apply_tombstone_journal`: whether the event was applied. -/
def applyTombstone (event : EvidenceLifecycleEvent) (now : DateTime) : StoreCall P Bool := do
  let s ← Call.read id
  match s.lifecycleProjection event.evidenceId now with
  | .error (.keyError _) =>
      Call.raise (.valueError ("tombstone target evidence is missing: " ++ event.evidenceId.str))
  | .error e => Call.raise e
  | .ok current =>
      if current.version ≥ event.resultingVersion then pure false
      else if current.version ≠ event.expectedVersion then
        Call.raise (.valueError ("tombstone lifecycle gap for " ++ event.evidenceId.str ++ ": current=" ++
          toString current.version ++ " expected=" ++ toString event.expectedVersion))
      else do
        let _ ← recordEvidenceLifecycle event
        pure true

/-- The loop, with the counts of applied and skipped events. -/
def applyTombstones (now : DateTime) : List EvidenceLifecycleEvent → Nat → Nat → StoreCall P (Nat × Nat)
  | [], applied, skipped => pure (applied, skipped)
  | event :: events, applied, skipped => do
      let done ← applyTombstone event now
      if done then applyTombstones now events (applied + 1) skipped else applyTombstones now events applied (skipped + 1)

/-- `apply_tombstone_journal`, with the clock of the projections at `now`. -/
def applyTombstoneJournal (journal : TombstoneJournal P) (now : DateTime) : StoreCall P (ReplayReceipt P) := do
  let counts ← applyTombstones now journal.events 0 0
  pure {
    journalId := journal.journalId.str
    journalSha256 := journal.payloadSha256
    journalAuthorityPosition := journal.sourceAuthorityPosition
    applied := counts.1
    skipped := counts.2 }

/-! ## Valid journals -/

theorem validateEvents_ok {events : List EvidenceLifecycleEvent} (h : validateEvents P events = .ok ()) :
    ∀ event ∈ events, event.validate P = .ok event := by
  induction events with
  | nil => simp
  | cons event events ih =>
      unfold validateEvents at h
      cases valid : event.validate P with
      | error e =>
          rw [valid] at h
          cases h
      | ok built =>
          rw [valid] at h
          intro other member
          rcases List.mem_cons.mp member with rfl | later
          · rw [valid, (validate_ok valid).1]
          · exact ih h other later

theorem checkTombstones_ok {seen : List (UUID × Nat)} {events : List EvidenceLifecycleEvent}
    (h : checkTombstones seen events = .ok ()) :
    (events.map (fun event => (event.evidenceId, event.resultingVersion))).Nodup ∧
      (∀ event ∈ events, (event.evidenceId, event.resultingVersion) ∉ seen) ∧
      ∀ event ∈ events, event.action ≠ .register := by
  induction events generalizing seen with
  | nil => simp
  | cons event events ih =>
      unfold checkTombstones at h
      split at h
      · cases h
      · next fresh =>
          split at h
          · cases h
          · next plain =>
              obtain ⟨nodup, unseen, plainRest⟩ := ih h
              refine ⟨?_, ?_, ?_⟩
              · rw [List.map_cons, List.nodup_cons]
                refine ⟨?_, nodup⟩
                intro repeated
                obtain ⟨other, member, same⟩ := List.mem_map.mp repeated
                exact unseen other member (same ▸ List.mem_cons_self)
              · intro other member
                rcases List.mem_cons.mp member with rfl | later
                · exact fresh
                · exact fun inSeen => unseen other later (List.mem_cons_of_mem _ inSeen)
              · intro other member
                rcases List.mem_cons.mp member with rfl | later
                · exact plain
                · exact plainRest other later

/-- What a validated journal has passed. -/
structure ValidJournal (j : TombstoneJournal P) : Prop where
  events : ∀ event ∈ j.events, event.validate P = .ok event
  ordered : j.events.Pairwise canonicalOrder
  distinct : (j.events.map (fun event => (event.evidenceId, event.resultingVersion))).Nodup
  tombstones : ∀ event ∈ j.events, event.action ≠ .register

theorem validJournal {j j' : TombstoneJournal P} {written : Json} (h : j.validate written = .ok j') : ValidJournal j ∧ j' = j := by
  unfold TombstoneJournal.validate at h
  split at h
  · cases h
  · split at h
    · cases h
    · cases built : validateEvents P j.events with
      | error e =>
          rw [built] at h
          cases h
      | ok _ =>
          rw [built] at h
          simp only at h
          split at h
          · cases h
          · split at h
            · cases h
            · next ordered =>
                cases checked : checkTombstones [] j.events with
                | error e =>
                    rw [checked] at h
                    cases h
                | ok _ =>
                    rw [checked] at h
                    cases h
                    obtain ⟨distinct, -, tombstones⟩ := checkTombstones_ok checked
                    refine ⟨⟨validateEvents_ok built, ?_, distinct, tombstones⟩, rfl⟩
                    rw [not_not.mp ordered]
                    exact List.pairwise_insertionSort _ _

/-- The events of one item stand in the order of their versions. -/
theorem ValidJournal.increasing {j : TombstoneJournal P} (valid : ValidJournal j) (evidenceId : UUID) :
    (j.eventsOf evidenceId).Pairwise (fun a b => a.resultingVersion < b.resultingVersion) := by
  have both := valid.ordered.and (List.pairwise_map.mp valid.distinct)
  have own := both.filter (fun event => event.evidenceId = evidenceId)
  refine own.imp_of_mem ?_
  intro a b memberA memberB related
  have ownA : a.evidenceId = evidenceId := of_decide_eq_true (List.mem_filter.mp memberA).2
  have ownB : b.evidenceId = evidenceId := of_decide_eq_true (List.mem_filter.mp memberB).2
  obtain ⟨less | ⟨-, below⟩, apart⟩ := related
  · rw [ownA, ownB] at less
    exact absurd less (lt_irrefl _)
  · refine lt_of_le_of_ne below ?_
    intro same
    exact apart (by rw [ownA, ownB, same])

/-! ## Replaying into any store -/

/-- The constraints of the lifecycle table, and the digests its writers put beside
    the payloads. -/
structure Intact (s : Store P) : Prop where
  versions : ∀ evidenceId, ((s.lifecycleLog evidenceId).map EvidenceLifecycleEvent.resultingVersion).Nodup
  digested : ∀ row ∈ s.evidenceLifecycleEvents, row.payloadSha256 = P.sha256 (row.record.modelDump P)

/-- The version an item has reached. -/
def reached (s : Store P) (evidenceId : UUID) : Nat :=
  ((s.latestLifecycle evidenceId).map EvidenceLifecycleEvent.resultingVersion).getD 0

/-- The state an item is in. -/
def contentState (s : Store P) (evidenceId : UUID) : Option EvidenceContentState :=
  (s.latestLifecycle evidenceId).map EvidenceLifecycleEvent.toState

theorem reached_spec (s : Store P) (evidenceId : UUID) :
    ∀ event ∈ s.lifecycleLog evidenceId, event.resultingVersion ≤ reached s evidenceId := by
  intro event member
  unfold reached
  rw [Store.latestLifecycle_eq]
  rcases @latest_spec _ EvidenceLifecycleEvent.resultingVersion (s.lifecycleLog evidenceId) with
    ⟨-, empty⟩ | ⟨last, found, highest⟩
  · rw [empty] at member
    cases member
  · rw [found]
    exact highest.highest event member

/-- Both versions are read off the payload. -/
theorem version_of_modelDump {a b : EvidenceLifecycleEvent} (same : a.modelDump P = b.modelDump P) :
    a.resultingVersion = b.resultingVersion := by
  have fields := Json.obj.inj same
  simp only [List.cons.injEq, Prod.mk.injEq, Json.int.injEq, true_and] at fields
  exact Int.ofNat.inj fields.2.2.2.2.2.2.2.2.2.2.2.2.1

theorem projection_version {s : Store P} (intact : Intact s) {evidenceId : UUID} {now : DateTime}
    {current : EvidenceLifecycleProjection} (projected : s.lifecycleProjection evidenceId now = .ok current) :
    current.version = reached s evidenceId := by
  unfold Store.lifecycleProjection at projected
  cases stored : s.evidenceRow evidenceId with
  | none =>
      rw [stored] at projected
      cases projected
  | some row =>
      rw [stored] at projected
      simp only [Store.lifecycleEvents, getLast?_byVersion (intact.versions evidenceId)] at projected
      unfold reached
      rw [Store.latestLifecycle_eq]
      cases found : latest EvidenceLifecycleEvent.resultingVersion (s.lifecycleLog evidenceId) with
      | none =>
          rw [found] at projected
          cases projected
      | some last =>
          rw [found] at projected
          cases projected
          rfl

/-- One turn: the event is skipped where its version is reached, and otherwise
    becomes the latest of its item. -/
theorem applyTombstone_ok (collisionFree : Function.Injective P.sha256) {s s' : Store P} (intact : Intact s)
    {event : EvidenceLifecycleEvent} (next : event.resultingVersion = event.expectedVersion + 1) {now : DateTime}
    {done : Bool} (h : applyTombstone event now s = (.ok done, s')) :
    (event.resultingVersion ≤ reached s event.evidenceId ∧ s' = s) ∨
      (reached s event.evidenceId < event.resultingVersion ∧ s'.domain = (s.withLifecycle event).domain) := by
  simp only [applyTombstone, Call.read_bind, id] at h
  cases projected : s.lifecycleProjection event.evidenceId now with
  | error e =>
      rw [projected] at h
      cases e <;> cases h
  | ok current =>
      have version := projection_version intact projected
      rw [projected] at h
      simp only at h
      split at h
      · next behind =>
          cases h
          exact .inl ⟨version ▸ behind, rfl⟩
      · next ahead =>
          have below : reached s event.evidenceId < event.resultingVersion := by omega
          split at h
          · cases h
          · obtain ⟨result, t, recorded, rest⟩ := Call.bind_ok.mp h
            cases rest
            refine .inr ⟨below, ?_⟩
            rcases (recordEvidenceLifecycle_ok recorded).2 with ⟨-, row, stored, -, digest⟩ | ⟨-, -, domain⟩
            · -- a recorded event would be in the log under a version that is not reached
              rw [intact.digested row stored] at digest
              have same := collisionFree digest
              have member : row.record ∈ s.lifecycleLog event.evidenceId :=
                Store.mem_lifecycleLog.mpr ⟨⟨row, stored, rfl⟩, evidenceId_of_modelDump same⟩
              have bound := reached_spec s event.evidenceId row.record member
              rw [version_of_modelDump same] at bound
              omega
            · exact domain

/-- What one turn does to the log of each item. -/
theorem applyTombstone_log (collisionFree : Function.Injective P.sha256) {s s' : Store P} (intact : Intact s)
    {event : EvidenceLifecycleEvent} (next : event.resultingVersion = event.expectedVersion + 1) {now : DateTime}
    {done : Bool} (h : applyTombstone event now s = (.ok done, s')) (evidenceId : UUID) :
    s'.lifecycleLog evidenceId = s.lifecycleLog evidenceId ++
      if event.evidenceId = evidenceId ∧ reached s evidenceId < event.resultingVersion then [event] else [] := by
  rcases applyTombstone_ok collisionFree intact next h with ⟨behind, rfl⟩ | ⟨ahead, domain⟩
  · by_cases own : event.evidenceId = evidenceId
    · subst own
      simp [behind]
    · simp [own]
  · have log : s'.lifecycleLog evidenceId = (s.withLifecycle event).lifecycleLog evidenceId :=
      field_of_domain domain (fun t => t.lifecycleLog evidenceId) rfl
    rw [log, Store.lifecycleLog_withLifecycle]
    by_cases own : event.evidenceId = evidenceId
    · subst own
      simp [ahead]
    · simp [own]

theorem applyTombstone_intact (collisionFree : Function.Injective P.sha256) {s s' : Store P} (intact : Intact s)
    {event : EvidenceLifecycleEvent} (next : event.resultingVersion = event.expectedVersion + 1) {now : DateTime}
    {done : Bool} (h : applyTombstone event now s = (.ok done, s')) : Intact s' where
  versions := by
    intro evidenceId
    rw [applyTombstone_log collisionFree intact next h evidenceId]
    by_cases taken : event.evidenceId = evidenceId ∧ reached s evidenceId < event.resultingVersion
    · rw [if_pos taken, List.map_append, List.nodup_append]
      refine ⟨intact.versions evidenceId, List.nodup_singleton _, ?_⟩
      intro old memberOld new memberNew
      obtain ⟨earlier, member, rfl⟩ := List.mem_map.mp memberOld
      rw [List.mem_singleton.mp memberNew]
      have below := reached_spec s evidenceId earlier member
      omega
    · rw [if_neg taken, List.append_nil]
      exact intact.versions evidenceId
  digested := by
    rcases applyTombstone_ok collisionFree intact next h with ⟨-, rfl⟩ | ⟨-, domain⟩
    · exact intact.digested
    · have rows : s'.evidenceLifecycleEvents = (s.withLifecycle event).evidenceLifecycleEvents :=
        field_of_domain domain Store.evidenceLifecycleEvents rfl
      rw [rows]
      intro row member
      rcases List.mem_append.mp member with old | new
      · exact intact.digested row old
      · rw [List.mem_singleton.mp new]

/-- An event above every version of the log becomes the latest. -/
theorem latestLifecycle_of_snoc {s s' : Store P} {evidenceId : UUID} {event : EvidenceLifecycleEvent}
    (ahead : reached s evidenceId < event.resultingVersion) (intact : Intact s')
    (log : s'.lifecycleLog evidenceId = s.lifecycleLog evidenceId ++ [event]) :
    s'.latestLifecycle evidenceId = some event := by
  have distinct := intact.versions evidenceId
  rw [Store.latestLifecycle_eq, log] at *
  refine Latest.latest_eq (Latest.snoc ?_) distinct
  intro other member
  have below := reached_spec s evidenceId other member
  omega

theorem reached_of_log {s s' : Store P} {evidenceId : UUID} (log : s'.lifecycleLog evidenceId = s.lifecycleLog evidenceId) :
    s'.latestLifecycle evidenceId = s.latestLifecycle evidenceId := by
  rw [Store.latestLifecycle_eq, Store.latestLifecycle_eq, log]

section Replay

variable (collisionFree : Function.Injective P.sha256) {now : DateTime} {evidenceId : UUID}
include collisionFree

/-- A replay leaves the log of an item alone that has reached all its versions. -/
theorem applyTombstones_behind {events : List EvidenceLifecycleEvent} {applied skipped : Nat} {counts : Nat × Nat}
    {s s' : Store P} (intact : Intact s)
    (steps : ∀ event ∈ events, event.resultingVersion = event.expectedVersion + 1)
    (behind : ∀ event ∈ events, event.evidenceId = evidenceId → event.resultingVersion ≤ reached s evidenceId)
    (h : applyTombstones now events applied skipped s = (.ok counts, s')) :
    s'.lifecycleLog evidenceId = s.lifecycleLog evidenceId := by
  induction events generalizing s applied skipped with
  | nil =>
      cases h
      rfl
  | cons event events ih =>
      obtain ⟨done, t, turn, rest⟩ := Call.bind_ok.mp h
      have next := steps event List.mem_cons_self
      have log := applyTombstone_log collisionFree intact next turn evidenceId
      have same : t.lifecycleLog evidenceId = s.lifecycleLog evidenceId := by
        rw [log, if_neg, List.append_nil]
        rintro ⟨own, ahead⟩
        have bound := behind event List.mem_cons_self own
        omega
      have version : reached t evidenceId = reached s evidenceId := by
        rw [reached, reached, reached_of_log same]
      have later : ∀ event ∈ events, event.evidenceId = evidenceId → event.resultingVersion ≤ reached t evidenceId := by
        intro other member own
        rw [version]
        exact behind other (List.mem_cons_of_mem _ member) own
      have intactT := applyTombstone_intact collisionFree intact next turn
      have stepsLater := fun other member => steps other (List.mem_cons_of_mem _ member)
      rw [← same]
      cases done with
      | true => exact ih intactT stepsLater later rest
      | false => exact ih intactT stepsLater later rest

/-- An item that has not reached its last version ends with the last event. -/
theorem applyTombstones_ahead {events : List EvidenceLifecycleEvent} {applied skipped : Nat} {counts : Nat × Nat}
    {s s' : Store P} {last : EvidenceLifecycleEvent} (intact : Intact s)
    (steps : ∀ event ∈ events, event.resultingVersion = event.expectedVersion + 1)
    (increasing : (events.filter (fun event => event.evidenceId = evidenceId)).Pairwise
      (fun a b => a.resultingVersion < b.resultingVersion))
    (found : (events.filter (fun event => event.evidenceId = evidenceId)).getLast? = some last)
    (ahead : reached s evidenceId < last.resultingVersion)
    (h : applyTombstones now events applied skipped s = (.ok counts, s')) :
    s'.latestLifecycle evidenceId = some last := by
  induction events generalizing s applied skipped with
  | nil => cases found
  | cons event events ih =>
      obtain ⟨done, t, turn, rest⟩ := Call.bind_ok.mp h
      have next := steps event List.mem_cons_self
      have log := applyTombstone_log collisionFree intact next turn evidenceId
      have intactT := applyTombstone_intact collisionFree intact next turn
      have stepsLater := fun other member => steps other (List.mem_cons_of_mem _ member)
      have continued : applyTombstones now events (if done then applied + 1 else applied)
          (if done then skipped else skipped + 1) t = (.ok counts, s') := by
        cases done <;> exact rest
      by_cases own : event.evidenceId = evidenceId
      · rw [List.filter_cons_of_pos (by simpa using own)] at increasing found
        obtain ⟨first, increasingLater⟩ := List.pairwise_cons.mp increasing
        cases remaining : (events.filter (fun event => event.evidenceId = evidenceId)).getLast? with
        | none =>
            -- the event is the last one of its item: it is taken, and nothing follows
            rw [List.getLast?_eq_none_iff] at remaining
            rw [remaining] at found
            obtain rfl := Option.some.inj found
            rw [if_pos ⟨own, ahead⟩] at log
            rw [← latestLifecycle_of_snoc ahead intactT log]
            refine reached_of_log (applyTombstones_behind collisionFree intactT stepsLater ?_ continued)
            intro other member ownOther
            have listed : other ∈ events.filter (fun event => event.evidenceId = evidenceId) :=
              List.mem_filter.mpr ⟨member, decide_eq_true ownOther⟩
            rw [remaining] at listed
            cases listed
        | some final =>
            have sameLast : final = last := by
              rw [List.getLast?_cons, remaining] at found
              exact Option.some.inj found
            subst sameLast
            refine ih intactT stepsLater increasingLater remaining ?_ continued
            have less := first final (List.mem_of_getLast? remaining)
            by_cases taken : reached s evidenceId < event.resultingVersion
            · rw [if_pos ⟨own, taken⟩] at log
              rw [reached, latestLifecycle_of_snoc taken intactT log]
              exact less
            · rw [if_neg (fun both => taken both.2), List.append_nil] at log
              rw [reached, reached_of_log log]
              exact ahead
      · rw [List.filter_cons_of_neg (by simpa using own)] at increasing found
        refine ih intactT stepsLater increasing found ?_ continued
        rw [if_neg (fun both => own both.1), List.append_nil] at log
        rw [reached, reached_of_log log]
        exact ahead

/-- Where the last version of an item is reached already, the replay changes nothing
    of it; otherwise the item ends with the last event of the journal. -/
theorem applyTombstoneJournal_latest {s s' : Store P} (intact : Intact s) {journal : TombstoneJournal P}
    (valid : ValidJournal journal) {receipt : ReplayReceipt P} {last : EvidenceLifecycleEvent}
    (applied : applyTombstoneJournal journal now s = (.ok receipt, s'))
    (found : (journal.eventsOf evidenceId).getLast? = some last) :
    s'.latestLifecycle evidenceId =
      if reached s evidenceId < last.resultingVersion then some last else s.latestLifecycle evidenceId := by
  obtain ⟨counts, t, replayed, done⟩ := Call.bind_ok.mp applied
  obtain rfl : t = s' := congrArg Prod.snd done
  have steps : ∀ event ∈ journal.events, event.resultingVersion = event.expectedVersion + 1 :=
    fun event member => (validate_ok (valid.events event member)).2.2.2.1
  have increasing := valid.increasing evidenceId
  by_cases ahead : reached s evidenceId < last.resultingVersion
  · rw [if_pos ahead]
    exact applyTombstones_ahead collisionFree intact steps increasing found ahead replayed
  · rw [if_neg ahead]
    refine reached_of_log (applyTombstones_behind collisionFree intact steps ?_ replayed)
    intro event member own
    have listed : event ∈ journal.eventsOf evidenceId := List.mem_filter.mpr ⟨member, decide_eq_true own⟩
    obtain ⟨front, parts⟩ := List.getLast?_eq_some_iff.mp found
    rw [parts] at listed increasing
    rcases List.mem_append.mp listed with earlier | final
    · have below := (List.pairwise_append.mp increasing).2.2 event earlier last (List.mem_singleton_self _)
      omega
    · rw [List.mem_singleton.mp final]
      omega

end Replay

/-- The journal deletes the item and the store has it. -/
structure Tombstoned (journal : TombstoneJournal P) (s : Store P) (evidenceId : UUID) (last : EvidenceLifecycleEvent) :
    Prop where
  stored : (s.evidenceRow evidenceId).isSome = true
  journalled : (journal.eventsOf evidenceId).getLast? = some last
  deleted : last.toState = .deleted

/-- A replay that returns deletes every item the journal deletes exactly when no such
    item had reached the version of its tombstone in another state. -/
theorem replay_deletes_iff (P : Platform) (collisionFree : Function.Injective P.sha256) {s s' : Store P}
    (intact : Intact s) {journal : TombstoneJournal P} {written : Json} (valid : journal.validate written = .ok journal)
    {now : DateTime} {receipt : ReplayReceipt P} (applied : applyTombstoneJournal journal now s = (.ok receipt, s')) :
    (∀ evidenceId last, Tombstoned journal s evidenceId last → contentState s' evidenceId = some .deleted) ↔
      ∀ evidenceId last, Tombstoned journal s evidenceId last →
        reached s evidenceId < last.resultingVersion ∨ contentState s evidenceId = some .deleted := by
  have latest := fun {evidenceId last} (target : Tombstoned journal s evidenceId last) =>
    applyTombstoneJournal_latest collisionFree intact (validJournal valid).1 applied target.journalled
  constructor
  · intro deleted evidenceId last target
    have ended := deleted evidenceId last target
    rw [contentState, latest target] at ended
    by_cases ahead : reached s evidenceId < last.resultingVersion
    · exact .inl ahead
    · rw [if_neg ahead] at ended
      exact .inr ended
  · intro condition evidenceId last target
    rw [contentState, latest target]
    by_cases ahead : reached s evidenceId < last.resultingVersion
    · rw [if_pos ahead, Option.map_some, target.deleted]
    · rw [if_neg ahead]
      exact (condition evidenceId last target).resolve_left ahead

/-- Every store that the service and the journal writes reach is intact. -/
theorem Lawful.intact {s : Store P} (lawful : Lawful s) : Intact s where
  versions := by
    intro evidenceId
    cases stored : s.evidenceRow evidenceId with
    | none =>
        rw [lawful.log_of_unstored stored]
        exact List.nodup_nil
    | some row =>
        obtain ⟨member, rfl⟩ := evidenceRow_some stored
        exact (lawful.legal row member).numbered.nodup
  digested := lawful.digested

/-- A report is taken in, and then what is given happens to it. -/
def ridgeStore (later : List TransitionRequest) : Store Platform.hexadecimal :=
  (EvidenceSystem.run shelf false ([openRidgeFire, .ingest {} (report 1 'a' "post-1") (UUID.ofNat 101) 1] ++
    later.map (fun request => .transition request (draw 1)))).store

/-- The source of the report is gone. -/
def goneMissing : TransitionRequest := { deletion 1 1 with toState := .missingExternal }

/-- The journal of a store where the report was deleted. -/
def ridgeTombstones : TombstoneJournal Platform.hexadecimal where
  journalId := UUID.ofNat 900
  generatedAt := 20
  sourceAuthorityPosition := 4
  lifecycleEventCount := 1
  events := tombstones (ridgeStore [deletion 1 1])
  payloadSha256 := tombstonePayloadSha256 Platform.hexadecimal "sentinel-edge-privacy-tombstones/1.0" 4 1
    (.arr ((tombstones (ridgeStore [deletion 1 1])).map (EvidenceLifecycleEvent.modelDump Platform.hexadecimal)))

/-- The events of the journal as its payload writes them. -/
def ridgeTombstonesWritten : Json :=
  .arr (ridgeTombstones.events.map (EvidenceLifecycleEvent.modelDump Platform.hexadecimal))

theorem ridgeTombstones_valid : ridgeTombstones.validate ridgeTombstonesWritten = .ok ridgeTombstones := by
  cases validated : ridgeTombstones.validate ridgeTombstonesWritten with
  | error e =>
      have accepted : (ridgeTombstones.validate ridgeTombstonesWritten).isOk = true := by decide +kernel
      rw [validated] at accepted
      cases accepted
  | ok journal => rw [(validJournal validated).2]

theorem ridgeStore_intact (later : List TransitionRequest) : Intact (ridgeStore later) :=
  Lawful.intact (run_lawful (fun _ _ same => same) _ _ _)

/-- A store restored from before the deletion ends with the report deleted. -/
theorem restored_report_is_deleted :
    (applyTombstoneJournal ridgeTombstones 20 (ridgeStore [])).1.isOk = true ∧
    ∀ receipt s', applyTombstoneJournal ridgeTombstones 20 (ridgeStore []) = (.ok receipt, s') →
      ∀ evidenceId last, Tombstoned ridgeTombstones (ridgeStore []) evidenceId last →
        contentState s' evidenceId = some .deleted := by
  obtain ⟨applies, ahead⟩ : (applyTombstoneJournal ridgeTombstones 20 (ridgeStore [])).1.isOk = true ∧
      ∀ event ∈ ridgeTombstones.events, reached (ridgeStore []) event.evidenceId < event.resultingVersion := by
    decide +kernel
  refine ⟨applies, ?_⟩
  intro receipt s' applied
  refine (replay_deletes_iff Platform.hexadecimal (fun _ _ same => same) (ridgeStore_intact []) ridgeTombstones_valid
    applied).mpr ?_
  intro evidenceId last target
  obtain ⟨listed, own⟩ := List.mem_filter.mp (List.mem_of_getLast? target.journalled)
  rw [← of_decide_eq_true own]
  exact .inl (ahead last listed)

/-- Where the report went missing under the number of its deletion, it stays missing. -/
theorem missing_report_passes_for_deleted :
    ridgeTombstones.validate ridgeTombstonesWritten = .ok ridgeTombstones ∧ Intact (ridgeStore [goneMissing]) ∧
    (applyTombstoneJournal ridgeTombstones 20 (ridgeStore [goneMissing])).1.isOk = true ∧
    ((ridgeStore [goneMissing]).evidenceRow (UUID.ofNat 1)).isSome = true ∧
    ((ridgeTombstones.eventsOf (UUID.ofNat 1)).getLast?).map EvidenceLifecycleEvent.toState = some .deleted ∧
    contentState (applyTombstoneJournal ridgeTombstones 20 (ridgeStore [goneMissing])).2 (UUID.ofNat 1) =
      some .missingExternal :=
  ⟨ridgeTombstones_valid, ridgeStore_intact [goneMissing], by decide +kernel⟩

end SentinelEdge.Privacy
