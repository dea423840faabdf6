import SentinelEdge.Collector.Lateness
import SentinelEdge.Foundation.HashChain

/-! # Restarting the collector

A new collector on the store of another one reads its health from the cursors. It
knows what the other one knows as long as no late observation is accepted, whose
watermark no cursor keeps, and no mark is refused by the store after memory has
taken it; its events are whole as long as they have no clock uncertainty.
-/

namespace SentinelEdge.Collector

open Foundation Domain Analysis

variable {P : Platform}

namespace StreamingSourceCollector

variable {c c' : StreamingSourceCollector} {o : Observation}

/-- A new collector on the same store, with the same configurations. -/
def restarted (c : StreamingSourceCollector) : StreamingSourceCollector :=
  { create c.capacity c.measurements c.cursorStore with sourceConfigurations := c.sourceConfigurations }

/-- The event that a health record would write. -/
def eventOf (P : Platform) (c : StreamingSourceCollector) (health : SourceHealth) (recordedAt : DateTime) :
    Option SourceHealthEvent :=
  SourceCursorStore.healthEvent P (c.cursorStore.cursors.get? health.sourceId) health (health.lastSequence.getD 0) recordedAt

/-- The events of `mark_stale`. -/
def staleEvents (P : Platform) (now : DateTime) (thresholdSeconds : Int) (items : List (String × SourceHealth))
    (c : StreamingSourceCollector) : List SourceHealthEvent :=
  (items.filter (fun item => overdue now thresholdSeconds item.2)).filterMap (fun item => c.eventOf P (staled item.2) now)

/-- The event of `mark_failed`. -/
def failedEvents (P : Platform) (sourceId reason : String) (now : DateTime) (c : StreamingSourceCollector) :
    List SourceHealthEvent :=
  ((c.health.get? sourceId).bind (fun current => c.eventOf P (failed reason current) now)).toList

/-- The store takes the events and gives them back: their ids are new and they have
    no clock uncertainty. -/
def Storable (s : SourceCursorStore) (events : List SourceHealthEvent) : Prop :=
  (events.map SourceHealthEvent.eventId).Nodup ∧
    ∀ event ∈ events, event.clockUncertaintyMs = 0 ∧ ∀ old ∈ s.healthEvents, event.eventId ≠ old.eventId

/-- What is recorded of the observation comes back: it is not before the watermark and
    its event, if there is one, has no clock uncertainty. -/
def DurableAs (P : Platform) (c : StreamingSourceCollector) (o : Observation) : Examination → Prop
  | .refused _ => True
  | .late rejected => ∀ event ∈ c.eventOf P rejected o.receivedAt,
      (∀ old ∈ c.cursorStore.healthEvents, event.eventId ≠ old.eventId) → event.clockUncertaintyMs = 0
  | .admitted state reasons =>
      0 < c.capacity → c.cursorStore.Recordable P (c.recorded o state reasons) o.clockEpoch o.sequence o.observedAt →
        (∀ watermark ∈ (c.health.get? o.sourceId).bind SourceHealth.eventTimeWatermark, watermark ≤ o.observedAt) ∧
          ∀ event ∈ c.eventOf P (c.recorded o state reasons) o.observedAt, event.clockUncertaintyMs = 0

def Durable (P : Platform) (c : StreamingSourceCollector) : Operation → Prop
  | .ingest o => DurableAs P c o (c.examine o)
  | .markStale now thresholdSeconds => Storable c.cursorStore (staleEvents P now thresholdSeconds c.health.items c)
  | .markFailed sourceId reason now => Storable c.cursorStore (failedEvents P sourceId reason now c)

/-! ## Memory and cursors -/

def fits (row : SourceCursor) : Prop :=
  row.clockEpoch < SourceCursorStore.integerLimit ∧ row.lastSequence < SourceCursorStore.integerLimit

/-- Memory is what the cursors say, and the events are whole. -/
structure Synced (c : StreamingSourceCollector) : Prop where
  mirrored : ∀ source, c.health.get? source = (c.cursorStore.cursors.get? source).map SourceCursorStore.load
  keyed : ∀ source row, c.cursorStore.cursors.get? source = some row → row.sourceId = source ∧ fits row
  whole : ∀ event ∈ c.cursorStore.healthEvents, event.clockUncertaintyMs = 0

/-- The collector with a cursor recorded. -/
def put (P : Platform) (c : StreamingSourceCollector) (row : SourceCursor) (recordedAt : DateTime) : StreamingSourceCollector :=
  { c with
    cursorStore := {
      cursors := c.cursorStore.cursors.insert row.sourceId row
      healthEvents := c.cursorStore.healthEvents ++ (c.eventOf P (SourceCursorStore.load row) recordedAt).toList }
    health := c.health.insert row.sourceId (SourceCursorStore.load row) }

theorem Synced.known (synced : Synced c) {source : String} {h : SourceHealth} (known : c.health.get? source = some h) :
    ∃ row, c.cursorStore.cursors.get? source = some row ∧ h = SourceCursorStore.load row ∧ row.sourceId = source ∧ fits row := by
  rw [synced.mirrored] at known
  obtain ⟨row, stored, rfl⟩ := Option.map_eq_some_iff.mp known
  exact ⟨row, stored, rfl, synced.keyed source row stored⟩

theorem Synced.put (synced : Synced c) {row : SourceCursor} (recordedAt : DateTime) (small : fits row)
    (certain : ∀ event ∈ c.eventOf P (SourceCursorStore.load row) recordedAt, event.clockUncertaintyMs = 0) :
    Synced (c.put P row recordedAt) where
  mirrored source := by
    show (c.health.insert row.sourceId (SourceCursorStore.load row)).get? source =
      ((c.cursorStore.cursors.insert row.sourceId row).get? source).map SourceCursorStore.load
    rw [Dict.get?_insert, Dict.get?_insert]
    split
    · rfl
    · exact synced.mirrored source
  keyed source other stored := by
    change (c.cursorStore.cursors.insert row.sourceId row).get? source = some other at stored
    rw [Dict.get?_insert] at stored
    split at stored
    · next here =>
        cases stored
        exact ⟨here.symm, small⟩
    · exact synced.keyed source other stored
  whole event member := by
    cases List.mem_append.mp member with
    | inl old => exact synced.whole event old
    | inr new => exact certain event (Option.mem_toList.mp new)

theorem Synced.of_same (synced : Synced c) (health : c'.health = c.health) (store : c'.cursorStore = c.cursorStore) :
    Synced c' := by
  constructor
  · rw [health, store]
    exact synced.mirrored
  · rw [store]
    exact synced.keyed
  · rw [store]
    exact synced.whole

/-- A cursor with a new state keeps its place. -/
theorem upsert_load (P : Platform) (s : SourceCursorStore) (row : SourceCursor) (recordedAt : Option DateTime) :
    (¬ s.Recordable P (SourceCursorStore.load row) row.clockEpoch row.lastSequence (recordedAt.getD row.lastObservedAt) ∧
      ∃ e, SourceCursorStore.upsert P (SourceCursorStore.load row) recordedAt s = (.error e, s)) ∨
    s.Recordable P (SourceCursorStore.load row) row.clockEpoch row.lastSequence (recordedAt.getD row.lastObservedAt) ∧
      SourceCursorStore.upsert P (SourceCursorStore.load row) recordedAt s = (.ok (), {
        cursors := s.cursors.insert row.sourceId row
        healthEvents := s.healthEvents ++ (SourceCursorStore.healthEvent P (s.cursors.get? row.sourceId)
          (SourceCursorStore.load row) row.lastSequence (recordedAt.getD row.lastObservedAt)).toList }) :=
  SourceCursorStore.upsert_complete rfl rfl rfl rfl

/-! ## Marks -/

theorem record_put {row : SourceCursor} {now : DateTime} (small : fits row)
    (new : ∀ event ∈ c.eventOf P (SourceCursorStore.load row) now, ∀ old ∈ c.cursorStore.healthEvents,
      event.eventId ≠ old.eventId) :
    record P row.sourceId (SourceCursorStore.load row) now c = (.ok (), c.put P row now) := by
  unfold record
  rw [Call.modify_bind]
  cases upsert_load P c.cursorStore row (some now) with
  | inl refused => exact absurd ⟨small.1, small.2, new⟩ refused.1
  | inr done =>
      exact @onCursors_of_eq { c with health := c.health.insert row.sourceId (SourceCursorStore.load row) } _ _ _ _ done.2

/-- A row with another state and reasons. -/
def restated (row : SourceCursor) (state : HealthState) (reasonCodes : List String) : SourceCursor :=
  { row with state := state, reasonCodes := reasonCodes }

theorem staleEvents_cons (P : Platform) {now : DateTime} {thresholdSeconds : Int} {item : String × SourceHealth}
    (due : overdue now thresholdSeconds item.2 = true) (items : List (String × SourceHealth)) (c : StreamingSourceCollector) :
    staleEvents P now thresholdSeconds (item :: items) c =
      (c.eventOf P (staled item.2) now).toList ++ staleEvents P now thresholdSeconds items c := by
  rw [staleEvents, List.filter_cons, if_pos due, List.filterMap_cons]
  cases c.eventOf P (staled item.2) now with
  | none => rfl
  | some event => rfl

/-- A cursor of another source does not change the events to come. -/
theorem staleEvents_put (P : Platform) (now : DateTime) (thresholdSeconds : Int) {items : List (String × SourceHealth)}
    {row : SourceCursor} {recordedAt : DateTime} (other : ∀ item ∈ items, item.2.sourceId ≠ row.sourceId) :
    staleEvents P now thresholdSeconds items (c.put P row recordedAt) = staleEvents P now thresholdSeconds items c := by
  apply List.filterMap_congr
  intro item member
  have apart : (staled item.2).sourceId ≠ row.sourceId := other item (List.mem_of_mem_filter member)
  have unchanged : (c.put P row recordedAt).cursorStore.cursors.get? (staled item.2).sourceId =
      c.cursorStore.cursors.get? (staled item.2).sourceId := by
    show (c.cursorStore.cursors.insert row.sourceId row).get? _ = _
    rw [Dict.get?_insert, if_neg apart]
  rw [eventOf, eventOf, unchanged]

theorem Storable.later {s : SourceCursorStore} {first later : List SourceHealthEvent} (storable : Storable s (first ++ later))
    (cursors : Dict String SourceCursor) : Storable ⟨cursors, s.healthEvents ++ first⟩ later := by
  obtain ⟨distinct, new⟩ := storable
  rw [List.map_append, List.nodup_append] at distinct
  refine ⟨distinct.2.1, fun event member => ⟨(new event (List.mem_append_right _ member)).1, fun old among => ?_⟩⟩
  cases List.mem_append.mp among with
  | inl before => exact (new event (List.mem_append_right _ member)).2 old before
  | inr same =>
      exact Ne.symm (distinct.2.2 _ (List.mem_map_of_mem same) _ (List.mem_map_of_mem member))

theorem markOverdue_synced (P : Platform) (now : DateTime) (thresholdSeconds : Int) (items : List (String × SourceHealth)) :
    ∀ c : StreamingSourceCollector, Synced c → (items.map Prod.fst).Nodup →
      (∀ item ∈ items, c.health.get? item.1 = some item.2) →
      Storable c.cursorStore (staleEvents P now thresholdSeconds items c) →
      Synced (markOverdue P now thresholdSeconds items c).2 := by
  induction items with
  | nil => exact fun c synced _ _ _ => synced
  | cons item items ih =>
      intro c synced distinct known storable
      have later := List.nodup_cons.mp distinct
      have knownLater : ∀ item ∈ items, c.health.get? item.1 = some item.2 :=
        fun item member => known item (List.mem_cons_of_mem _ member)
      unfold markOverdue
      cases due : overdue now thresholdSeconds item.2 with
      | false =>
          have stays : markOne P now thresholdSeconds item c = (.ok (), c) := by
            unfold markOne
            rw [due]
            rfl
          rw [Call.bind_of_ok stays]
          rw [staleEvents, List.filter_cons_of_neg (by simp [due])] at storable
          exact ih c synced later.2 knownLater storable
      | true =>
          obtain ⟨row, stored, same, here, small⟩ := synced.known (known item List.mem_cons_self)
          rw [staleEvents_cons P due] at storable
          obtain ⟨row', marked, keeps, smaller⟩ : ∃ row', staled item.2 = SourceCursorStore.load row' ∧
              row'.sourceId = item.1 ∧ fits row' :=
            ⟨restated row .stale (sortedSet (row.reasonCodes ++ ["timeout"])), by rw [same]; rfl, here, small⟩
          rw [marked] at storable
          have puts : markOne P now thresholdSeconds item c = (.ok (), c.put P row' now) := by
            unfold markOne
            rw [if_pos due, marked, ← keeps]
            exact record_put smaller (fun event made => (storable.2 event (List.mem_append_left _ (Option.mem_toList.mpr made))).2)
          rw [Call.bind_of_ok puts]
          have apart : ∀ other ∈ items, other.1 ≠ item.1 := by
            rintro other member equal
            exact later.1 (equal ▸ List.mem_map_of_mem member)
          refine ih _ (synced.put now smaller fun event made =>
            (storable.2 event (List.mem_append_left _ (Option.mem_toList.mpr made))).1) later.2 ?_ ?_
          · intro other member
            show (c.health.insert row'.sourceId _).get? other.1 = some other.2
            rw [Dict.get?_insert, keeps, if_neg (apart other member)]
            exact knownLater other member
          · rw [staleEvents_put P now thresholdSeconds]
            · exact storable.later _
            · intro other member
              obtain ⟨row₂, -, same₂, here₂, -⟩ := synced.known (knownLater other member)
              rw [same₂, keeps, SourceCursorStore.load, here₂]
              exact apart other member

theorem markStale_synced (synced : Synced c) {now : DateTime} {thresholdSeconds : Int}
    (storable : Storable c.cursorStore (staleEvents P now thresholdSeconds c.health.items c)) :
    Synced (markStale P now thresholdSeconds c).2 := by
  unfold markStale
  rw [Call.read_bind]
  exact markOverdue_synced P now thresholdSeconds c.health.items c synced c.health.nodup
    (fun item member => Dict.get?_eq_some_iff.mpr member) storable

theorem markFailed_synced (synced : Synced c) {sourceId reason : String} {now : DateTime}
    (storable : Storable c.cursorStore (failedEvents P sourceId reason now c)) :
    Synced (markFailed P sourceId reason now c).2 := by
  unfold markFailed
  rw [Call.read_bind]
  cases known : c.health.get? sourceId with
  | none => exact synced
  | some current =>
      obtain ⟨row, stored, same, here, small⟩ := synced.known known
      obtain ⟨row', marked, keeps, smaller⟩ : ∃ row', failed reason current = SourceCursorStore.load row' ∧
          row'.sourceId = sourceId ∧ fits row' :=
        ⟨restated row .failed (sortedSet (row.reasonCodes ++ [reason])), by rw [same]; rfl, here, small⟩
      rw [failedEvents, known, Option.bind_some, marked] at storable
      have puts : record P sourceId (failed reason current) now c = (.ok (), c.put P row' now) := by
        rw [marked, ← keeps]
        exact record_put smaller (fun event made => (storable.2 event (Option.mem_toList.mpr made)).2)
      dsimp only
      rw [puts]
      exact synced.put now smaller fun event made => (storable.2 event (Option.mem_toList.mpr made)).1

/-! ## Observations -/

theorem eq_load {h : SourceHealth} {bootId : String} {clockEpoch lastSequence : Nat} {last : DateTime}
    (boot : h.bootId = some bootId) (epoch : h.clockEpoch = some clockEpoch) (sequence : h.lastSequence = some lastSequence)
    (observed : h.lastObservedAt = some last) (watermark : h.eventTimeWatermark = some last) :
    h = SourceCursorStore.load (SourceCursorStore.cursorOf h bootId clockEpoch lastSequence last) := by
  cases h
  cases boot
  cases epoch
  cases sequence
  cases observed
  cases watermark
  rfl

theorem recorded_load (c : StreamingSourceCollector) (o : Observation) (state : HealthState) (reasons : List String)
    (ahead : ∀ watermark ∈ (c.health.get? o.sourceId).bind SourceHealth.eventTimeWatermark, watermark ≤ o.observedAt) :
    c.recorded o state reasons = SourceCursorStore.load
      (SourceCursorStore.cursorOf (c.recorded o state reasons) o.bootId o.clockEpoch o.sequence o.observedAt) := by
  refine eq_load rfl rfl rfl rfl ?_
  unfold recorded
  cases before : (c.health.get? o.sourceId).bind SourceHealth.eventTimeWatermark with
  | none => rfl
  | some watermark => exact congrArg some (if_neg (not_lt.mpr (ahead watermark before)))

theorem ingest_synced (synced : Synced c) (durable : DurableAs P c o (c.examine o)) : Synced (ingest P o c).2 := by
  have ingests := ingest_ingests P c o
  generalize (ingest P o c).1 = r at ingests
  generalize (ingest P o c).2 = c' at ingests ⊢
  cases ingests with
  | refuses examined => exact synced
  | unrecorded examined raised => exact synced
  | raises not examined => exact synced.of_same rfl rfl
  | @degrades rejected e s examined recorded =>
      rw [examined] at durable
      obtain ⟨previous, known, same⟩ := examine_late examined
      obtain ⟨row, stored, loaded, here, small⟩ := synced.known known
      obtain ⟨row', marked, keeps, smaller⟩ : ∃ row', rejected = SourceCursorStore.load row' ∧ row'.sourceId = o.sourceId ∧
          fits row' :=
        ⟨restated row .degraded (sortedSet (row.reasonCodes ++ ["late_event_exceeded"])), by rw [same, loaded]; rfl, here, small⟩
      subst marked
      cases upsert_load P c.cursorStore row' (some o.receivedAt) with
      | inl refused =>
          obtain ⟨-, e, raised⟩ := refused
          rw [raised] at recorded
          cases recorded
      | inr done =>
          rw [done.2] at recorded
          cases recorded
          rw [← keeps]
          exact synced.put (c := c) o.receivedAt smaller fun event made =>
            durable event made (done.1.2.2 event made)
  | @accepts state reasons accepts examined =>
      rw [examined] at durable
      obtain ⟨state', reasons', same, room, recordable⟩ := accepts
      rw [examined] at same
      cases same
      obtain ⟨ahead, certain⟩ := durable room recordable
      have loaded := recorded_load c o state reasons ahead
      have small : fits (SourceCursorStore.cursorOf (c.recorded o state reasons) o.bootId o.clockEpoch o.sequence o.observedAt) :=
        ⟨recordable.1, recordable.2.1⟩
      rw [loaded] at certain
      have puts := synced.put o.observedAt small certain
      refine Synced.of_same puts ?_ ?_
      · exact congrArg (c.health.insert o.sourceId) loaded
      · exact congrArg (fun health : SourceHealth => ({
          cursors := c.cursorStore.cursors.insert o.sourceId
            (SourceCursorStore.cursorOf (c.recorded o state reasons) o.bootId o.clockEpoch o.sequence o.observedAt)
          healthEvents := c.cursorStore.healthEvents ++ (SourceCursorStore.healthEvent P
            (c.cursorStore.cursors.get? o.sourceId) health o.sequence o.observedAt).toList } : SourceCursorStore)) loaded

theorem Synced.step (P : Platform) (synced : Synced c) (op : Operation) (durable : Durable P c op) : Synced (step P c op) := by
  cases op with
  | ingest o => exact ingest_synced synced durable
  | markStale now thresholdSeconds => exact markStale_synced synced durable
  | markFailed sourceId reason now => exact markFailed_synced synced durable

/-! ## The new collector -/

theorem rows_distinct (synced : Synced c) : (c.cursorStore.loadAll.map SourceHealth.sourceId).Nodup := by
  have named : c.cursorStore.cursors.values.map SourceCursor.sourceId = c.cursorStore.cursors.keys := by
    rw [Dict.values, Dict.keys, List.map_map]
    apply List.map_congr_left
    intro item member
    exact (synced.keyed item.1 item.2 (Dict.get?_eq_some_iff.mpr member)).1
  have distinct : (c.cursorStore.cursors.values.map SourceCursor.sourceId).Nodup := by
    rw [named]
    exact c.cursorStore.cursors.nodup
  rw [SourceCursorStore.loadAll, List.map_map]
  exact ((List.perm_insertionSort _ _).map _).nodup_iff.mpr distinct

theorem restarted_get? (synced : Synced c) (source : String) : c.restarted.health.get? source = c.health.get? source := by
  rw [synced.mirrored]
  apply Option.ext
  intro h
  show (Dict.ofList SourceHealth.sourceId c.cursorStore.loadAll).get? source = some h ↔ _
  rw [Dict.get?_ofList_of_nodup (rows_distinct synced), Option.map_eq_some_iff]
  simp only [SourceCursorStore.loadAll, List.mem_map, List.mem_insertionSort, Dict.mem_values_iff]
  constructor
  · rintro ⟨⟨row, ⟨key, stored⟩, rfl⟩, here⟩
    exact ⟨row, (synced.keyed key row stored).1.symm.trans here ▸ stored, rfl⟩
  · rintro ⟨row, stored, rfl⟩
    exact ⟨⟨row, ⟨source, stored⟩, rfl⟩, (synced.keyed source row stored).1⟩

theorem restarted_health (synced : Synced c) : c.restarted.healthRecords = c.healthRecords := by
  have named : ∀ item ∈ c.restarted.health.items, item.2.sourceId = item.1 := by
    intro item member
    have found := Dict.get?_eq_some_iff.mpr member
    rw [restarted_get? synced] at found
    obtain ⟨row, -, same, here, -⟩ := synced.known found
    rw [same]
    exact here
  have perm : c.restarted.health.items.Perm c.health.items := by
    rw [List.perm_ext_iff_of_nodup (List.Nodup.of_map _ c.restarted.health.nodup) (List.Nodup.of_map _ c.health.nodup)]
    rintro ⟨source, h⟩
    rw [← Dict.get?_eq_some_iff, ← Dict.get?_eq_some_iff, restarted_get? synced]
  have keys : c.restarted.health.values.map SourceHealth.sourceId = c.restarted.health.keys := by
    rw [Dict.values, Dict.keys, List.map_map]
    exact List.map_congr_left named
  have sorted (c : StreamingSourceCollector) : c.healthRecords.Pairwise (fun a b => a.sourceId ≤ b.sourceId) :=
    List.pairwise_insertionSort _ _
  have same : c.restarted.healthRecords.Perm c.healthRecords :=
    ((List.perm_insertionSort _ _).trans (perm.map Prod.snd)).trans (List.perm_insertionSort _ _).symm
  have unique : (c.restarted.healthRecords.map SourceHealth.sourceId).Nodup := by
    refine ((List.perm_insertionSort _ _).map _).nodup_iff.mpr ?_
    rw [keys]
    exact c.restarted.health.nodup
  apply List.Perm.eq_of_pairwise _ (sorted c.restarted) (sorted c) same
  intro a b memberA memberB below above
  exact List.inj_on_of_nodup_map unique memberA (same.mem_iff.mpr memberB) (String.le_antisymm below above)

theorem events_whole (P : Platform) (synced : Synced c) : (c.cursorStore.events P).Perm c.cursorStore.healthEvents := by
  have read : ∀ event ∈ c.cursorStore.healthEvents, ({ event with clockUncertaintyMs := 0 } : SourceHealthEvent) = event := by
    intro event member
    rw [← synced.whole event member]
  rw [SourceCursorStore.events]
  refine (List.Perm.map _ (List.perm_insertionSort _ _)).trans (List.Perm.of_eq ?_)
  exact (List.map_congr_left read).trans (List.map_id _)

theorem restarted_examine (synced : Synced c) (o : Observation) : c.restarted.examine o = c.examine o := by
  have measurements : c.restarted.measurements = c.measurements := rfl
  have bound : c.restarted.latenessBound o.sourceId = c.latenessBound o.sourceId := rfl
  unfold examine compared continued
  rw [measurements, bound, restarted_get? synced]

/-- The event of the observation is taken with the overwriting of the buffer, which a
    new collector does not know of, exactly when it is taken without. -/
def SeenAlike (P : Platform) (c : StreamingSourceCollector) (o : Observation) : Prop :=
  ∀ state reasons, c.examine o = .admitted state reasons →
    (c.cursorStore.Recordable P (c.restarted.recorded o state reasons) o.clockEpoch o.sequence o.observedAt ↔
      c.cursorStore.Recordable P (c.recorded o state reasons) o.clockEpoch o.sequence o.observedAt)

theorem restarted_accepted (synced : Synced c) {o : Observation} (alike : SeenAlike P c o) :
    accepted P c.restarted (.ingest o) = accepted P c (.ingest o) := by
  have accepts : c.restarted.Accepts P o ↔ c.Accepts P o := by
    unfold Accepts
    rw [restarted_examine synced]
    constructor
    · rintro ⟨state, reasons, examined, room, recordable⟩
      exact ⟨state, reasons, examined, room, (alike state reasons examined).mp recordable⟩
    · rintro ⟨state, reasons, examined, room, recordable⟩
      exact ⟨state, reasons, examined, room, (alike state reasons examined).mpr recordable⟩
  cases accepted_ingest P c o with
  | inl refused => cases accepted_ingest P c.restarted o with
    | inl also => rw [also.1, refused.1]
    | inr done => exact absurd (accepts.mp done.2) refused.2
  | inr done => cases accepted_ingest P c.restarted o with
    | inl refused => exact absurd (accepts.mpr done.2) refused.2
    | inr also => rw [also.1, done.1]

/-- A new collector on the store has the same health, takes the same observations, and
    the events of the store come back as they were recorded. -/
structure Lossless (P : Platform) (c : StreamingSourceCollector) : Prop where
  health : c.restarted.healthRecords = c.healthRecords
  events : (c.cursorStore.events P).Perm c.cursorStore.healthEvents
  accepts : ∀ o, SeenAlike P c o → accepted P c.restarted (.ingest o) = accepted P c (.ingest o)

theorem restart_lossless (P : Platform) (capacity : Int) (measurements : Domain.Observation → MeasurementContractReport)
    (configurations : Dict String SourceConfiguration) (ops : List Operation)
    (durable : Meets (step P) (Durable P) (start capacity measurements configurations) ops) :
    Lossless P (Foundation.run (step P) (start capacity measurements configurations) ops) := by
  have initial : Synced (start capacity measurements configurations) :=
    ⟨fun source => rfl, fun source row none => (by cases none), fun event none => absurd none List.not_mem_nil⟩
  have synced : Synced (Foundation.run (step P) (start capacity measurements configurations) ops) :=
    Meets.invariant (fun c op durable synced => synced.step P op durable) initial durable
  exact ⟨restarted_health synced, events_whole P synced, fun o alike => restarted_accepted synced alike⟩

instance (s : SourceCursorStore) (health : SourceHealth) (clockEpoch lastSequence : Nat) (recordedAt : DateTime) :
    Decidable (s.Recordable P health clockEpoch lastSequence recordedAt) :=
  inferInstanceAs (Decidable (_ ∧ _ ∧ ∀ event ∈ SourceCursorStore.healthEvent P _ _ _ _, _))

instance (s : SourceCursorStore) (events : List SourceHealthEvent) : Decidable (Storable s events) :=
  inferInstanceAs (Decidable (_ ∧ _))

instance (c : StreamingSourceCollector) (o : Observation) : ∀ examination, Decidable (DurableAs P c o examination)
  | .refused _ => isTrue trivial
  | .late rejected => inferInstanceAs (Decidable (∀ event ∈ c.eventOf P rejected o.receivedAt, _))
  | .admitted state reasons => inferInstanceAs (Decidable (_ → _ → (∀ watermark ∈ Option.bind _ _, _) ∧
      ∀ event ∈ c.eventOf P (c.recorded o state reasons) o.observedAt, _))

instance (c : StreamingSourceCollector) : ∀ op, Decidable (Durable P c op)
  | .ingest o => inferInstanceAs (Decidable (DurableAs P c o (c.examine o)))
  | .markStale _ _ => inferInstanceAs (Decidable (Storable _ _))
  | .markFailed _ _ _ => inferInstanceAs (Decidable (Storable _ _))

/-- Frames in order, then silence and a failure. -/
def silencedFrames : List Operation := [
  .ingest (frame "boot" 1 1000000),
  .ingest (frame "boot" 2 2000000),
  .markStale 60000000 30,
  .markFailed "camera-1" "unplugged" 61000000]

theorem silenced_camera_restarts :
    Lossless Platform.mixing (Foundation.run (step Platform.mixing) (start 256 validate camera) silencedFrames) :=
  restart_lossless Platform.mixing 256 validate camera silencedFrames (by decide +kernel)

/-- The last two boots fail alike, at the same moment. -/
def failingBoots : List Operation := [
  .ingest (frame "boot-a" 1 1000000), .markFailed "camera-1" "unplugged" 9000000,
  .ingest (frame "boot-b" 1 1000000), .markFailed "camera-1" "unplugged" 9000000,
  .ingest (frame "boot-c" 1 2000000), .markFailed "camera-1" "unplugged" 9000000]

/-- The watermark after late frames, the clock uncertainty of an event, and a mark whose
    event the store refuses are lost. -/
theorem restart_loses :
    ¬ Lossless Platform.mixing (Foundation.run (step Platform.mixing) (start 256 validate camera) lateFrames) ∧
    ¬ Lossless Platform.mixing (Foundation.run (step Platform.mixing) (start 256 validate camera)
      [.ingest { frame "boot" 1 1000000 with clockUncertaintyMs := 5 }]) ∧
    ¬ Lossless Platform.mixing (Foundation.run (step Platform.mixing) (start 256 validate camera) failingBoots) := by
  refine ⟨fun lossless => ?_, fun lossless => ?_, fun lossless => ?_⟩
  · exact absurd (congrArg (List.map SourceHealth.eventTimeWatermark) lossless.health) (by decide +kernel)
  · exact absurd (lossless.events.map SourceHealthEvent.clockUncertaintyMs) (by decide +kernel)
  · exact absurd (congrArg (List.map SourceHealth.state) lossless.health) (by decide +kernel)

end StreamingSourceCollector

end SentinelEdge.Collector
