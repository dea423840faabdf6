import SentinelEdge.Privacy.Tombstones

/-! # A backup and the tombstones of the live store

A backup is the journal store at an earlier point of the same history. The journal
that the live store exports holds, item by item, what follows the registration;
replaying it into the backup completes the log of every item the backup has.
-/

namespace SentinelEdge.Privacy

open Foundation Domain Storage Evidence EvidenceTrustService

variable {P : Platform} {s s' backup live : Store P}

/-- The rows of lifecycle events, beside what is lawful: one row for each id, and
    every event but a registration has passed the checks of its class. -/
structure Recorded (s : Store P) : Prop where
  lawful : Lawful s
  distinct : (s.evidenceLifecycleEvents.map (fun row => row.record.lifecycleEventId)).Nodup
  validated : ∀ row ∈ s.evidenceLifecycleEvents, row.record.action ≠ .register → row.record.validate P = .ok row.record

/-- Rows are only ever added. -/
structure Extends (s s' : Store P) : Prop where
  items : s.evidenceItems <+: s'.evidenceItems
  events : s.evidenceLifecycleEvents <+: s'.evidenceLifecycleEvents

theorem Extends.refl (s : Store P) : Extends s s := ⟨List.prefix_refl _, List.prefix_refl _⟩

theorem Extends.log (earlier : Extends s s') (evidenceId : UUID) : s.lifecycleLog evidenceId <+: s'.lifecycleLog evidenceId :=
  (earlier.events.map _).filter _

theorem Warranted.validated {event : EvidenceLifecycleEvent} (warranted : Warranted s event) :
    event.validate P = .ok event := by
  obtain ⟨request, drawn, now, item, current, deletion, -, built⟩ := warranted
  unfold buildEvent at built
  cases action : actionForState request.toState with
  | none =>
      rw [action] at built
      cases built
  | some act =>
      rw [action] at built
      have same := (validate_ok built).1
      rw [same] at built ⊢
      exact built

theorem Recorded.grows (recorded : Recorded s) (lawful : Lawful s') (grows : Grows s s') : Recorded s' := by
  have added : ∀ event : EvidenceLifecycleEvent, IsNew s event →
      (event.action ≠ .register → event.validate P = .ok event) →
      s'.evidenceLifecycleEvents = (s.withLifecycle event).evidenceLifecycleEvents → Recorded s' := by
    intro event new valid events
    refine ⟨lawful, ?_, ?_⟩
    · rw [events, Store.withLifecycle, List.map_append, List.nodup_append]
      refine ⟨recorded.distinct, List.nodup_singleton _, ?_⟩
      intro old memberOld fresh memberNew
      obtain ⟨row, member, rfl⟩ := List.mem_map.mp memberOld
      rw [List.mem_singleton.mp memberNew]
      exact new row member
    · rw [events]
      intro row member plain
      rcases List.mem_append.mp member with old | fresh
      · exact recorded.validated row old plain
      · rw [List.mem_singleton.mp fresh] at plain ⊢
        exact valid plain
  cases grows with
  | same items events =>
      exact ⟨lawful, by rw [events]; exact recorded.distinct, by rw [events]; exact recorded.validated⟩
  | event warranted new items events => exact added _ new (fun _ => Warranted.validated warranted) events
  | item new items events => exact added _ new (fun plain => absurd rfl plain) events

theorem Extends.grows (earlier : Extends backup s) (grows : Grows s s') : Extends backup s' := by
  cases grows with
  | same items events => exact ⟨items ▸ earlier.items, events ▸ earlier.events⟩
  | event warranted new items events =>
      exact ⟨items ▸ earlier.items, events ▸ earlier.events.trans (List.prefix_append _ _)⟩
  | item new items events =>
      exact ⟨items ▸ earlier.items.trans (List.prefix_append _ _), events ▸ earlier.events.trans (List.prefix_append _ _)⟩

theorem recorded_empty : Recorded (Store.empty : Store P) where
  lawful := lawful_empty
  distinct := List.nodup_nil
  validated := by
    intro row member
    cases member

/-- The writes from the backup on keep the rows of the backup. -/
theorem Leads.extends (collisionFree : Function.Injective P.sha256) (leads : Leads backup s) (recorded : Recorded backup) :
    Recorded s ∧ Extends backup s := by
  refine leads.invariant (I := fun t => Recorded t ∧ Extends backup t) ⟨recorded, Extends.refl backup⟩ ?_
  intro a w ⟨recorded, earlier⟩ warranted
  have grows := recorded.lawful.grows collisionFree warranted
  exact ⟨recorded.grows (recorded.lawful.step collisionFree warranted) grows, earlier.grows grows⟩

/-! ## The journal of a store -/

/-- A valid journal of the tombstones of a store. -/
theorem validateEvents_of {events : List EvidenceLifecycleEvent} (valid : ∀ event ∈ events, event.validate P = .ok event) :
    validateEvents P events = .ok () := by
  induction events with
  | nil => rfl
  | cons event events ih =>
      rw [validateEvents, valid event List.mem_cons_self]
      exact ih (fun other member => valid other (List.mem_cons_of_mem _ member))

theorem checkTombstones_of {seen : List (UUID × Nat)} {events : List EvidenceLifecycleEvent}
    (distinct : (events.map (fun event => (event.evidenceId, event.resultingVersion))).Nodup)
    (unseen : ∀ event ∈ events, (event.evidenceId, event.resultingVersion) ∉ seen)
    (plain : ∀ event ∈ events, event.action ≠ .register) : checkTombstones seen events = .ok () := by
  induction events generalizing seen with
  | nil => rfl
  | cons event events ih =>
      obtain ⟨fresh, distinctLater⟩ := List.nodup_cons.mp distinct
      rw [checkTombstones, if_neg (unseen event List.mem_cons_self), if_neg (plain event List.mem_cons_self)]
      refine ih distinctLater ?_ (fun other member => plain other (List.mem_cons_of_mem _ member))
      intro other member known
      rcases List.mem_cons.mp known with same | old
      · exact fresh (List.mem_map.mpr ⟨other, member, same⟩)
      · exact unseen other (List.mem_cons_of_mem _ member) old

theorem mem_tombstones {event : EvidenceLifecycleEvent} :
    event ∈ tombstones live ↔ (∃ row ∈ live.evidenceLifecycleEvents, row.record = event) ∧ event.action ≠ .register := by
  simp [tombstones, allLifecycleEvents, List.mem_insertionSort]

theorem tombstones_perm (live : Store P) :
    (tombstones live).Perm ((live.evidenceLifecycleEvents.map Stored.record).filter (fun event => event.action ≠ .register)) :=
  (List.perm_insertionSort _ _).trans ((List.perm_insertionSort _ _).filter _)

/-- Event and version identify a tombstone. -/
theorem Recorded.tombstones_distinct (recorded : Recorded live) :
    ((tombstones live).map (fun event => (event.evidenceId, event.resultingVersion))).Nodup := by
  apply ((tombstones_perm live).map _).nodup_iff.mpr
  refine List.Nodup.sublist (List.filter_sublist.map _) (nodup_of_keys ?_)
  exact (Lawful.intact recorded.lawful).versions

theorem Recorded.tombstones_valid (recorded : Recorded live) :
    ∀ event ∈ tombstones live, event.validate P = .ok event := by
  intro event member
  obtain ⟨⟨row, stored, rfl⟩, plain⟩ := mem_tombstones.mp member
  exact recorded.validated row stored plain

theorem TombstoneJournal.validate_of {j : TombstoneJournal P} {written : Json}
    (digest : j.payloadSha256 =
      tombstonePayloadSha256 P j.schemaVersion j.sourceAuthorityPosition j.lifecycleEventCount written)
    (position : 0 ≤ j.sourceAuthorityPosition) (count : j.lifecycleEventCount = j.events.length)
    (valid : ValidJournal j) : j.validate written = .ok j := by
  have ordered : j.events = j.events.insertionSort canonicalOrder := valid.ordered.insertionSort_eq.symm
  have checked : checkTombstones [] j.events = .ok () :=
    checkTombstones_of valid.distinct (fun _ _ => List.not_mem_nil) valid.tombstones
  rw [TombstoneJournal.validate, if_neg (not_not.mpr digest), if_neg (by omega), validateEvents_of valid.events]
  simp only [ne_eq, count, not_true_eq_false, if_false, ← ordered, checked]

/-- Exporting the journal succeeds. -/
theorem buildTombstoneJournal_returns (recorded : Recorded live) (generatedAt : DateTime) :
    ∃ journal, buildTombstoneJournal live generatedAt = .ok journal ∧ ValidJournal journal ∧
      journal.events = tombstones live := by
  obtain ⟨log, rep⟩ := recorded.lawful.represented
  have valid : ∀ j : TombstoneJournal P, j.events = tombstones live → ValidJournal j := by
    rintro j same
    exact {
      events := by rw [same]; exact recorded.tombstones_valid
      ordered := by rw [same]; exact List.pairwise_insertionSort canonicalOrder _
      distinct := by rw [same]; exact recorded.tombstones_distinct
      tombstones := by rw [same]; exact fun event member => (mem_tombstones.mp member).2 }
  unfold buildTombstoneJournal
  rw [rep.conforms]
  refine ⟨_, TombstoneJournal.validate_of rfl ?_ rfl (valid _ rfl), valid _ rfl, rfl⟩
  exact Int.natCast_nonneg _

/-- The journal holds what follows the registration of an item. -/
theorem eventsOf_exported (recorded : Recorded live) {journal : TombstoneJournal P} (valid : ValidJournal journal)
    (exported : journal.events = tombstones live) {row : Stored P EvidenceItem} (member : row ∈ live.evidenceItems) :
    ∃ first, live.lifecycleLog row.record.evidenceId = first :: journal.eventsOf row.record.evidenceId := by
  have legal := recorded.lawful.legal row member
  obtain ⟨first, rest, log, register, -, -, later⟩ := legal.registered
  have plain : (live.lifecycleLog row.record.evidenceId).filter (fun event => event.action ≠ .register) = rest := by
    rw [log, List.filter_cons_of_neg (by simp [register]), List.filter_eq_self]
    intro event member
    exact decide_eq_true (later event member)
  refine ⟨first, ?_⟩
  rw [log]
  congr 1
  refine @eq_of_increasing _ EvidenceLifecycleEvent.resultingVersion _ _ ?_ ?_ (valid.increasing _)
  · rw [← plain, TombstoneJournal.eventsOf, exported, Store.lifecycleLog, List.filter_filter]
    refine List.Perm.trans ?_ ((tombstones_perm live).filter _).symm
    rw [List.filter_filter]
    simp only [Bool.and_comm]
    exact List.Perm.refl _
  · have increasing := legal.numbered.pairwise
    rw [log] at increasing
    exact (List.pairwise_cons.mp increasing).2

/-! ## Replaying it into the backup -/

/-- A store on the way from the backup to the live one, with the events still to be
    replayed: of each item it has at least the events that are behind. -/
structure Replaying (live t : Store P) (remaining : List EvidenceLifecycleEvent) : Prop where
  represented : ∃ log, Represents t log
  items : ∀ row ∈ t.evidenceItems, row ∈ live.evidenceItems
  rows : ∀ row ∈ t.evidenceLifecycleEvents, row ∈ live.evidenceLifecycleEvents
  logs : ∀ row ∈ t.evidenceItems, ∃ done, done ≠ [] ∧
    live.lifecycleLog row.record.evidenceId =
      done ++ remaining.filter (fun event => event.evidenceId = row.record.evidenceId) ∧
    t.lifecycleLog row.record.evidenceId <+: live.lifecycleLog row.record.evidenceId ∧
    done.length ≤ (t.lifecycleLog row.record.evidenceId).length

/-- The event is skipped: its item has it already. -/
theorem Replaying.skip {t : Store P} {event : EvidenceLifecycleEvent} {remaining : List EvidenceLifecycleEvent}
    (replaying : Replaying live t (event :: remaining)) {done : List EvidenceLifecycleEvent}
    (split : live.lifecycleLog event.evidenceId =
      done ++ event :: remaining.filter (fun other => other.evidenceId = event.evidenceId))
    (behind : done.length < (t.lifecycleLog event.evidenceId).length) : Replaying live t remaining where
  represented := replaying.represented
  items := replaying.items
  rows := replaying.rows
  logs := by
    intro row member
    obtain ⟨before, nonempty, log, pre, covered⟩ := replaying.logs row member
    by_cases own : event.evidenceId = row.record.evidenceId
    · rw [own] at split behind
      refine ⟨done ++ [event], by simp, by simpa using split, pre, ?_⟩
      rw [List.length_append]
      exact behind
    · rw [List.filter_cons_of_neg (by simpa using own)] at log
      exact ⟨before, nonempty, log, pre, covered⟩

/-- The event is taken: it is the next one of its item. -/
theorem Replaying.take (digested : ∀ row ∈ live.evidenceLifecycleEvents, row.payloadSha256 = P.sha256 (row.record.modelDump P))
    {t t' : Store P} {event : EvidenceLifecycleEvent} {remaining : List EvidenceLifecycleEvent}
    (replaying : Replaying live t (event :: remaining)) (represented : ∃ log, Represents t' log)
    (domain : t'.domain = (t.withLifecycle event).domain)
    (split : live.lifecycleLog event.evidenceId = t.lifecycleLog event.evidenceId ++
      event :: remaining.filter (fun other => other.evidenceId = event.evidenceId)) : Replaying live t' remaining := by
  have items : t'.evidenceItems = t.evidenceItems := field_of_domain domain Store.evidenceItems rfl
  have rows : t'.evidenceLifecycleEvents = (t.withLifecycle event).evidenceLifecycleEvents :=
    field_of_domain domain Store.evidenceLifecycleEvents rfl
  have logs : ∀ evidenceId, t'.lifecycleLog evidenceId =
      t.lifecycleLog evidenceId ++ if event.evidenceId = evidenceId then [event] else [] := by
    intro evidenceId
    rw [← Store.lifecycleLog_withLifecycle, Store.lifecycleLog, rows]
    rfl
  refine ⟨represented, items ▸ replaying.items, ?_, ?_⟩
  · rw [rows]
    intro row member
    rcases List.mem_append.mp member with old | new
    · exact replaying.rows row old
    · have listed : event ∈ live.lifecycleLog event.evidenceId := by rw [split]; simp
      obtain ⟨⟨source, stored, rfl⟩, -⟩ := Store.mem_lifecycleLog.mp listed
      rw [List.mem_singleton.mp new, ← digested source stored]
      exact stored
  · rw [items]
    intro row member
    obtain ⟨before, nonempty, log, pre, covered⟩ := replaying.logs row member
    rw [logs]
    by_cases own : event.evidenceId = row.record.evidenceId
    · rw [own] at split
      rw [if_pos own]
      refine ⟨t.lifecycleLog row.record.evidenceId ++ [event], by simp, by simpa using split, ?_, Nat.le_refl _⟩
      rw [split]
      exact ⟨remaining.filter (fun other => other.evidenceId = row.record.evidenceId), by simp⟩
    · rw [if_neg own, List.append_nil]
      rw [List.filter_cons_of_neg (by simpa using own)] at log
      exact ⟨before, nonempty, log, pre, covered⟩

section Turn

variable {t : Store P} {event : EvidenceLifecycleEvent} {remaining : List EvidenceLifecycleEvent}
  (replaying : Replaying live t (event :: remaining)) (now : DateTime)

/-- An item that the store lacks ends the replay. -/
theorem applyTombstone_missing (missing : t.evidenceRow event.evidenceId = none) :
    applyTombstone event now t =
      (.error (.valueError ("tombstone target evidence is missing: " ++ event.evidenceId.str)), t) := by
  simp only [applyTombstone, Call.read_bind, id, Store.lifecycleProjection, missing]
  rfl

include replaying

/-- What the replay knows of a stored item: its log so far and the place of the
    event in the log of the live store. -/
theorem Replaying.target (recorded : Recorded live) {row : Stored P EvidenceItem}
    (stored : t.evidenceRow event.evidenceId = some row) :
    row ∈ live.evidenceItems ∧ row.record.evidenceId = event.evidenceId ∧
    ∃ done, done ≠ [] ∧
      live.lifecycleLog event.evidenceId =
        done ++ event :: remaining.filter (fun other => other.evidenceId = event.evidenceId) ∧
      t.lifecycleLog event.evidenceId <+: live.lifecycleLog event.evidenceId ∧
      done.length ≤ (t.lifecycleLog event.evidenceId).length ∧
      LegalLog P row.record (live.lifecycleLog event.evidenceId) := by
  obtain ⟨member, own⟩ := evidenceRow_some stored
  obtain ⟨done, nonempty, log, pre, covered⟩ := replaying.logs row member
  have legal := recorded.lawful.legal row (replaying.items row member)
  rw [own] at log pre covered legal
  rw [List.filter_cons_of_pos (by simp)] at log
  exact ⟨replaying.items row member, own, done, nonempty, log, pre, covered, legal⟩

/-- The next event of an item is one the store takes. -/
theorem Replaying.recordEvidenceLifecycle (recorded : Recorded live) {row : Stored P EvidenceItem}
    (stored : t.evidenceRow event.evidenceId = some row) {last : EvidenceLifecycleEvent}
    (found : (t.lifecycleLog event.evidenceId).getLast? = some last) (next : Follows last event)
    (split : live.lifecycleLog event.evidenceId = t.lifecycleLog event.evidenceId ++
      event :: remaining.filter (fun other => other.evidenceId = event.evidenceId))
    (legal : LegalLog P row.record (live.lifecycleLog event.evidenceId)) :
    ∃ t', Storage.recordEvidenceLifecycle event t = (.ok event, t') ∧ Replaying live t' remaining ∧
      t'.evidenceItems = t.evidenceItems := by
  obtain ⟨member, own⟩ := evidenceRow_some stored
  obtain ⟨log, rep⟩ := replaying.represented
  have numbered : Numbered EvidenceLifecycleEvent.resultingVersion (t.lifecycleLog event.evidenceId) :=
    legal.numbered.of_prefix ⟨_, split.symm⟩
  have latestEq : t.latestLifecycle event.evidenceId = some last := by
    rw [Store.latestLifecycle_eq, numbered.latest_eq, found]
  have apart : ∀ old ∈ t.lifecycleLog event.evidenceId, old.resultingVersion ≠ event.resultingVersion := by
    intro old listed
    have increasing := legal.numbered.pairwise
    rw [split] at increasing
    have less := (List.pairwise_append.mp increasing).2.2 old listed event List.mem_cons_self
    omega
  obtain ⟨⟨source, sourced, same⟩, -⟩ := Store.mem_lifecycleLog.mp
    (show event ∈ live.lifecycleLog event.evidenceId by rw [split]; simp)
  have incident : row.record.incidentId = event.incidentId := by
    obtain ⟨target, targeted, ownTarget, incident⟩ := recorded.lawful.owned source sourced
    rw [same] at ownTarget incident
    rw [recorded.lawful.kept.unique row (replaying.items row member) target targeted (own.trans ownTarget.symm), incident]
  have new : IsNew t event := by
    intro old memberOld repeated
    rw [← same] at repeated
    obtain rfl := List.inj_on_of_nodup_map recorded.distinct (replaying.rows old memberOld) sourced repeated
    exact apart event (Store.mem_lifecycleLog.mpr ⟨⟨old, memberOld, same⟩, rfl⟩) rfl
  have continues : Continues t event := by
    refine ⟨?_, ?_⟩
    · rw [latestEq]
      exact next.version
    · rw [latestEq]
      exact next.state
  obtain ⟨t', returned, domain⟩ := recordEvidenceLifecycle_of_continues rep stored incident new continues apart
  refine ⟨t', returned, ?_, field_of_domain domain Store.evidenceItems rfl⟩
  refine replaying.take recorded.lawful.digested ?_ domain split
  obtain ⟨more, stepped⟩ := rep.step (.recordEvidenceLifecycle event)
  rw [Write.step, Write.exec, discard_step, returned] at stepped
  exact ⟨log ++ more, stepped⟩

/-- One turn on a stored item skips or takes the event, and goes on. -/
theorem Replaying.turn (recorded : Recorded live) (valid : event.validate P = .ok event) {row : Stored P EvidenceItem}
    (stored : t.evidenceRow event.evidenceId = some row) :
    ∃ taken t', applyTombstone event now t = (.ok taken, t') ∧ Replaying live t' remaining ∧
      t'.evidenceItems = t.evidenceItems := by
  obtain ⟨-, own, done, nonempty, log, pre, covered, legal⟩ := replaying.target recorded stored
  have numbered := legal.numbered.of_prefix pre
  obtain ⟨last, found⟩ : ∃ last, (t.lifecycleLog event.evidenceId).getLast? = some last := by
    apply Option.isSome_iff_exists.mp
    rw [List.getLast?_isSome]
    have positive := List.length_pos_of_ne_nil nonempty
    exact List.ne_nil_of_length_pos (by omega)
  have place : event.resultingVersion = done.length + 1 := by
    apply legal.numbered.version_getElem
    rw [log]
    simp
  have expected : event.resultingVersion = event.expectedVersion + 1 := (validate_ok valid).2.2.2.1
  have version : last.resultingVersion = (t.lifecycleLog event.evidenceId).length := numbered.version_last found
  have projected : t.lifecycleProjection event.evidenceId now = .ok (Store.projectionOf row.record last now) := by
    simp only [Store.lifecycleProjection, stored, Store.lifecycleEvents, numbered.byVersion_eq, found]
  have read : (Store.projectionOf row.record last now).version = (t.lifecycleLog event.evidenceId).length := version
  simp only [applyTombstone, Call.read_bind, id, projected, read]
  by_cases behind : event.resultingVersion ≤ (t.lifecycleLog event.evidenceId).length
  · rw [if_pos behind]
    exact ⟨false, t, rfl, replaying.skip log (by omega), rfl⟩
  · have length : done.length = (t.lifecycleLog event.evidenceId).length := by omega
    have here : t.lifecycleLog event.evidenceId = done := by
      rw [List.prefix_iff_eq_take.mp pre, ← length, log, List.take_left']
      rfl
    have next : Follows last event := by
      have chained := legal.chained
      rw [log, List.isChain_append] at chained
      exact chained.2.2 last (by rw [← here, found]; rfl) event rfl
    have split := log
    rw [← here] at split
    obtain ⟨t', returned, after, items⟩ := replaying.recordEvidenceLifecycle recorded stored found next split legal
    rw [if_neg behind, if_neg (by omega)]
    exact ⟨true, t', Call.bind_of_ok returned, after, items⟩

end Turn

/-- The replay gets through where every item of the journal is stored, and otherwise
    ends at the first that is missing. -/
theorem Replaying.run (recorded : Recorded live) (now : DateTime) {events : List EvidenceLifecycleEvent}
    (valid : ∀ event ∈ events, event.validate P = .ok event) {t : Store P} (replaying : Replaying live t events)
    (applied skipped : Nat) :
    ((∀ event ∈ events, (t.evidenceRow event.evidenceId).isSome = true) ∧
      ∃ counts t', applyTombstones now events applied skipped t = (.ok counts, t') ∧ Replaying live t' [] ∧
        t'.evidenceItems = t.evidenceItems) ∨
    ∃ event ∈ events, t.evidenceRow event.evidenceId = none ∧
      ∃ t', applyTombstones now events applied skipped t =
        (.error (.valueError ("tombstone target evidence is missing: " ++ event.evidenceId.str)), t') := by
  induction events generalizing t applied skipped with
  | nil => exact .inl ⟨by simp, (applied, skipped), t, rfl, replaying, rfl⟩
  | cons event events ih =>
      cases stored : t.evidenceRow event.evidenceId with
      | none =>
          refine .inr ⟨event, List.mem_cons_self, stored, t, ?_⟩
          exact Call.bind_of_error (applyTombstone_missing now stored)
      | some row =>
          obtain ⟨taken, t', turned, after, items⟩ :=
            replaying.turn now recorded (valid event List.mem_cons_self) stored
          have rows : ∀ evidenceId, t'.evidenceRow evidenceId = t.evidenceRow evidenceId := by
            intro evidenceId
            rw [Store.evidenceRow, Store.evidenceRow, items]
          have continued : applyTombstones now (event :: events) applied skipped t = applyTombstones now events
              (if taken then applied + 1 else applied) (if taken then skipped else skipped + 1) t' := by
            rw [applyTombstones, Call.bind_of_ok turned]
            cases taken <;> rfl
          rw [continued]
          rcases ih (fun other member => valid other (List.mem_cons_of_mem _ member)) after
              (if taken then applied + 1 else applied) (if taken then skipped else skipped + 1) with
            ⟨known, counts, final, returned, finished, itemsLater⟩ | ⟨other, member, missing, final, raised⟩
          · refine .inl ⟨?_, counts, final, returned, finished, itemsLater.trans items⟩
            intro other member
            rcases List.mem_cons.mp member with rfl | later
            · rw [stored]
              rfl
            · rw [← rows]
              exact known other later
          · exact .inr ⟨other, List.mem_cons_of_mem _ member, (rows _).symm.trans missing, final, raised⟩

/-- Nothing happens where every version is reached. -/
theorem applyTombstones_settled {t : Store P} {now : DateTime} {events : List EvidenceLifecycleEvent}
    (settled : ∀ event ∈ events, ∃ current, t.lifecycleProjection event.evidenceId now = .ok current ∧
      event.resultingVersion ≤ current.version) (applied skipped : Nat) :
    applyTombstones now events applied skipped t = (.ok (applied, skipped + events.length), t) := by
  induction events generalizing skipped with
  | nil => rfl
  | cons event events ih =>
      obtain ⟨current, projected, reached⟩ := settled event List.mem_cons_self
      have turned : applyTombstone event now t = (.ok false, t) := by
        simp only [applyTombstone, Call.read_bind, id, projected]
        rw [if_pos reached]
        rfl
      rw [applyTombstones, Call.bind_of_ok turned]
      simp only [Bool.false_eq_true, if_false]
      rw [ih (fun other member => settled other (List.mem_cons_of_mem _ member)) (skipped + 1), List.length_cons,
        Nat.add_assoc, Nat.add_comm 1]

/-- With nothing left to replay, an item has the log it has in the live store. -/
theorem Replaying.log_eq {t : Store P} (replaying : Replaying live t []) {row : Stored P EvidenceItem}
    (member : row ∈ t.evidenceItems) : t.lifecycleLog row.record.evidenceId = live.lifecycleLog row.record.evidenceId := by
  obtain ⟨done, -, log, pre, covered⟩ := replaying.logs row member
  rw [List.filter_nil, List.append_nil] at log
  exact pre.eq_of_length_le (by rw [log]; exact covered)

/-- The state and version of an item are those of the live store. -/
theorem Replaying.projection (recorded : Recorded live) {t : Store P} (replaying : Replaying live t [])
    {evidenceId : UUID} {row : Stored P EvidenceItem} (stored : t.evidenceRow evidenceId = some row) (now : DateTime) :
    ∃ last, (live.lifecycleLog evidenceId).getLast? = some last ∧
      last.resultingVersion = (live.lifecycleLog evidenceId).length ∧
      t.lifecycleProjection evidenceId now = .ok (Store.projectionOf row.record last now) ∧
      live.lifecycleProjection evidenceId now = .ok (Store.projectionOf row.record last now) := by
  obtain ⟨member, rfl⟩ := evidenceRow_some stored
  have inLive := replaying.items row member
  have legal := recorded.lawful.legal row inLive
  obtain ⟨last, found, -, projected⟩ := recorded.lawful.lastEvent inLive
  refine ⟨last, found, legal.numbered.version_last found, ?_, projected now⟩
  have log := replaying.log_eq member
  simp only [Store.lifecycleProjection, stored, Store.lifecycleEvents, log, legal.numbered.byVersion_eq, found]

/-- A backup of a history, before anything is replayed. -/
theorem Extends.replaying (recordedBackup : Recorded backup) (recorded : Recorded live) (earlier : Extends backup live)
    {journal : TombstoneJournal P} (valid : ValidJournal journal) (exported : journal.events = tombstones live) :
    Replaying live backup journal.events where
  represented := recordedBackup.lawful.represented
  items := fun row member => earlier.items.subset member
  rows := fun row member => earlier.events.subset member
  logs := by
    intro row member
    obtain ⟨first, log⟩ := eventsOf_exported recorded valid exported (earlier.items.subset member)
    refine ⟨[first], by simp, log, earlier.log _, ?_⟩
    exact List.length_pos_of_ne_nil (recordedBackup.lawful.legal row member).ne_nil

/-- The store the journal is replayed into has the item. -/
def Known (backup : Store P) (event : EvidenceLifecycleEvent) : Prop := (backup.evidenceRow event.evidenceId).isSome = true

instance (backup : Store P) (event : EvidenceLifecycleEvent) : Decidable (Known backup event) :=
  inferInstanceAs (Decidable (_ = true))

/-- Replaying the journal of the live store into a backup gets through when the backup
    has every item of the journal: then every item of the backup has the projection it
    has in the live store, and a second replay changes nothing. Otherwise it raises for
    an item that the backup lacks. -/
theorem backup_with_tombstones_equals_live (P : Platform) (collisionFree : Function.Injective P.sha256)
    (artifacts : ContentAddressedArtifactStore P) (attached : Bool) (ops more : List (SystemOperation P))
    (generatedAt now : DateTime) :
    let backup := (EvidenceSystem.run artifacts attached ops).store
    let live := (EvidenceSystem.run artifacts attached (ops ++ more)).store
    ∃ journal, buildTombstoneJournal live generatedAt = .ok journal ∧
      (∀ event, event ∈ journal.events ↔ event ∈ live.lifecycleLog event.evidenceId ∧ event.action ≠ .register) ∧
      ((∀ event ∈ journal.events, Known backup event) →
        ∃ receipt restored, applyTombstoneJournal journal now backup = (.ok receipt, restored) ∧
          restored.evidenceItems = backup.evidenceItems ∧
          (∀ item ∈ backup.allEvidence, ∀ later, ∃ current,
            restored.lifecycleProjection item.evidenceId later = .ok current ∧
            live.lifecycleProjection item.evidenceId later = .ok current) ∧
          ∀ later, applyTombstoneJournal journal later restored =
            (.ok { receipt with applied := 0, skipped := journal.events.length }, restored)) ∧
      ∀ event ∈ journal.events, ¬ Known backup event →
        ∃ missing ∈ journal.events, ¬ Known backup missing ∧ (applyTombstoneJournal journal now backup).1 =
          .error (.valueError ("tombstone target evidence is missing: " ++ missing.evidenceId.str)) := by
  intro backup live
  obtain ⟨recordedBackup, -⟩ : Recorded backup ∧ Extends Store.empty backup :=
    Leads.extends collisionFree (EvidenceSystem.run_leads artifacts attached ops) recorded_empty
  have leads : Leads backup live := by
    show Leads backup (EvidenceSystem.run artifacts attached (ops ++ more)).store
    rw [EvidenceSystem.run, run_append]
    exact run_invariant (I := fun sys : EvidenceSystem P => Leads backup sys.store)
      (fun sys op leads => leads.trans (sys.step_leads op)) (Leads.refl backup) more
  obtain ⟨recorded, earlier⟩ := Leads.extends collisionFree leads recordedBackup
  obtain ⟨journal, built, valid, exported⟩ := buildTombstoneJournal_returns recorded generatedAt
  have replay := (earlier.replaying recordedBackup recorded valid exported).run recorded now valid.events 0 0
  refine ⟨journal, built, ?_, ?_, ?_⟩
  · intro event
    rw [exported, mem_tombstones, Store.mem_lifecycleLog, and_iff_left rfl]
  · intro known
    rcases replay with ⟨-, counts, restored, returned, finished, items⟩ | ⟨event, member, missing, -⟩
    · have rows : ∀ evidenceId, restored.evidenceRow evidenceId = backup.evidenceRow evidenceId := by
        intro evidenceId
        rw [Store.evidenceRow, Store.evidenceRow, items]
      refine ⟨_, restored, Call.bind_of_ok returned, items, ?_, ?_⟩
      · intro item member later
        obtain ⟨row, stored, rfl⟩ := List.mem_map.mp (Store.mem_allEvidence.mp member)
        have found := (rows _).trans (recordedBackup.lawful.evidenceRow stored)
        obtain ⟨last, -, -, projected, inLive⟩ := finished.projection recorded found later
        exact ⟨_, projected, inLive⟩
      · intro later
        refine Call.bind_of_ok (applyTombstones_settled ?_ 0 0) |>.trans ?_
        · intro event member
          obtain ⟨row, stored⟩ := Option.isSome_iff_exists.mp (known event member)
          obtain ⟨last, -, version, projected, -⟩ := finished.projection recorded ((rows _).trans stored) later
          refine ⟨_, projected, ?_⟩
          -- the number of an event of the log is at most the length of the log
          obtain ⟨present, own⟩ := mem_tombstones.mp (exported ▸ member)
          have listed := Store.mem_lifecycleLog.mpr ⟨present, rfl⟩
          obtain ⟨inBackup, sameId⟩ := evidenceRow_some stored
          have legal := recorded.lawful.legal row (earlier.items.subset inBackup)
          rw [sameId] at legal
          obtain ⟨i, place⟩ := List.getElem?_of_mem listed
          have numbered := legal.numbered.version_getElem place
          have inside := (List.getElem?_eq_some_iff.mp place).1
          show event.resultingVersion ≤ last.resultingVersion
          omega
        · rw [Nat.zero_add]
          rfl
    · have stored := known event member
      rw [Known, missing] at stored
      cases stored
  · intro event member unknown
    rcases replay with ⟨known, -⟩ | ⟨missing, listed, absent, restored, raised⟩
    · exact absurd (known event member) unknown
    · refine ⟨missing, listed, ?_, ?_⟩
      · rw [Known, absent]
        exact Bool.false_ne_true
      · rw [applyTombstoneJournal, Call.bind_of_error raised]

/-- The ridge fire is opened and the report taken in; later it is deleted. -/
def takenIn : List (SystemOperation Platform.hexadecimal) :=
  [openRidgeFire, .ingest {} (report 1 'a' "post-1") (UUID.ofNat 101) 1]

def deletedLater : List (SystemOperation Platform.hexadecimal) := [.transition (deletion 1 1) (draw 1)]

theorem deleted_report_is_restored_deleted :
    ∃ journal, buildTombstoneJournal (EvidenceSystem.run shelf false (takenIn ++ deletedLater)).store 20 = .ok journal ∧
      ∃ receipt restored,
        applyTombstoneJournal journal 20 (EvidenceSystem.run shelf false takenIn).store = (.ok receipt, restored) ∧
        ∃ current, restored.lifecycleProjection (UUID.ofNat 1) 20 = .ok current ∧ current.state = .deleted := by
  obtain ⟨journal, built, listed, replayed, -⟩ :=
    backup_with_tombstones_equals_live Platform.hexadecimal (fun _ _ same => same) shelf false takenIn deletedLater 20 20
  have known : ∀ row ∈ (EvidenceSystem.run shelf false (takenIn ++ deletedLater)).store.evidenceLifecycleEvents,
      Known (EvidenceSystem.run shelf false takenIn).store row.record := by decide +kernel
  obtain ⟨receipt, restored, applied, -, projections, -⟩ := replayed (by
    intro event member
    obtain ⟨⟨row, stored, rfl⟩, -⟩ := Store.mem_lifecycleLog.mp ((listed event).mp member).1
    exact known row stored)
  have stored : ∃ item ∈ (EvidenceSystem.run shelf false takenIn).store.allEvidence, item.evidenceId = UUID.ofNat 1 := by
    decide +kernel
  obtain ⟨item, member, own⟩ := stored
  obtain ⟨current, projected, inLive⟩ := projections item member 20
  rw [own] at projected inLive
  have state : ((EvidenceSystem.run shelf false (takenIn ++ deletedLater)).store.lifecycleProjection (UUID.ofNat 1) 20).toOption.map
      EvidenceLifecycleProjection.state = some .deleted := by decide +kernel
  rw [inLive] at state
  exact ⟨journal, built, receipt, restored, applied, current, projected, Option.some.inj state⟩

/-- A backup from before the report was taken in does not take its tombstone. -/
theorem report_after_the_backup_stops_the_replay :
    ∃ journal, buildTombstoneJournal (EvidenceSystem.run shelf false (takenIn ++ deletedLater)).store 20 = .ok journal ∧
      (applyTombstoneJournal journal 20 (EvidenceSystem.run shelf false (takenIn.take 1)).store).1.isOk = false := by
  have outcome : (match buildTombstoneJournal (EvidenceSystem.run shelf false (takenIn ++ deletedLater)).store 20 with
      | .ok journal =>
          (applyTombstoneJournal journal 20 (EvidenceSystem.run shelf false (takenIn.take 1)).store).1.isOk
      | .error _ => true) = false := by decide +kernel
  cases built : buildTombstoneJournal (EvidenceSystem.run shelf false (takenIn ++ deletedLater)).store 20 with
  | error e =>
      rw [built] at outcome
      cases outcome
  | ok journal =>
      rw [built] at outcome
      exact ⟨journal, rfl, outcome⟩

end SentinelEdge.Privacy
