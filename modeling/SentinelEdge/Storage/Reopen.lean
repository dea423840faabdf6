import SentinelEdge.Storage.Conformance

/-! # Re-opening a database

The constructor of `IncidentJournalStore` on an existing database: renumber the
authority events, journal incident rows of an older schema, and give every
event without a subtype row a new one. Each pass commits on its own.
-/

namespace SentinelEdge.Storage

open Foundation Domain

variable {P : Platform}

/-! ## The three passes -/

/-- What one `UPDATE` of `_migrate_authority_schema` makes of its row. -/
def AuthorityEvent.renumbered (row : AuthorityEvent P) (ordinal : Int) (previous : Option Int)
    (digest : P.Digest) : AuthorityEvent P :=
  { row with
    epochId := authorityEpoch
    epochOrdinal := some ordinal
    predecessorPosition := previous
    payloadSha256 := some digest }

/-- `UPDATE authority_events … WHERE position=?`, which raises when another row
    holds the ordinal. -/
def updateAuthorityEvent (position ordinal : Int) (previous : Option Int) (digest : P.Digest) :
    StoreCall P Unit := fun s =>
  if s.authorityEvents.any (fun row => row.position ≠ position && row.epochId = authorityEpoch &&
      row.epochOrdinal = some ordinal) then
    (.error (.integrityError "authority_events"), s)
  else
    (.ok (), { s with authorityEvents := s.authorityEvents.map (fun row =>
      if row.position = position then row.renumbered ordinal previous digest else row) })

/-- The loop of `_migrate_authority_schema` over the selected rows. -/
def renumberRows : Int → Option Int → List (Int × P.Text) → StoreCall P Unit
  | _, _, [] => pure ()
  | ordinal, previous, (position, payloadJson) :: rows =>
      match P.loads payloadJson with
      | none => Call.raise .jsonDecodeError
      | some payload => do
          updateAuthorityEvent position ordinal previous (P.sha256 payload)
          renumberRows (ordinal + 1) (some position) rows

/-- `_migrate_authority_schema` -/
def migrateAuthoritySchema : StoreCall P Unit := do
  let rows ← Call.read (fun s => s.authorityEvents.map (fun row => (row.position, row.payloadJson)))
  Call.atomically (renumberRows 1 none rows)

/-- The incident row at this place, its event id, gets the position. -/
def Store.positioned (s : Store P) (eventId : Nat) (position : Int) : Store P :=
  { s with incidentEvents := s.incidentEvents.modify eventId (fun row =>
    { row with authorityPosition := some position }) }

/-- `UPDATE incident_events SET authority_position=? WHERE event_id=?` -/
def updateIncidentPosition (eventId : Nat) (position : Int) : StoreCall P Unit := fun s =>
  if s.incidentEvents.any (fun row => row.authorityPosition = some position) then
    (.error (.integrityError "incident_events"), s)
  else
    (.ok (), s.positioned eventId position)

def migrateIncidents : List (IncidentRecord × Nat) → StoreCall P Unit
  | [] => pure ()
  | (incident, eventId) :: rows => do
      let position ← appendAuthority .incident incident.incidentId.str incident.lastObservedAt (incident.modelDump P)
      updateIncidentPosition eventId position
      migrateIncidents rows

/-- Incident rows without an authority position, with their event ids. -/
def legacyRows (s : Store P) : List (IncidentRecord × Nat) :=
  (s.incidentEvents.zipIdx.filter (fun item => item.1.authorityPosition.isNone)).map
    (fun item => (item.1.incident, item.2))

/-- `_migrate_legacy_incident_journal` -/
def migrateLegacyIncidentJournal : StoreCall P Unit := do
  let rows ← Call.read legacyRows
  Call.atomically (migrateIncidents rows)

/-- One insert of `_backfill_authority_subtypes`. The first pass has just given
    the event a digest, so the fallback on a missing one is not taken. -/
def backfillRow (row : AuthorityEvent P) : StoreCall P Unit := do
  let digest ← match row.payloadSha256 with
    | some digest => pure digest
    | none => match P.loads row.payloadJson with
        | none => Call.raise .jsonDecodeError
        | some payload => pure (P.sha256 payload)
  Tables.authorityEventSubtypes.insert (.integrityError "authority_event_subtypes") {
    authorityPosition := row.position
    kind := row.kind
    subtypeId := row.entityId
    payloadSha256 := digest
    payloadJson := row.payloadJson }

def backfillRows : List (AuthorityEvent P) → StoreCall P Unit
  | [] => pure ()
  | row :: rows => do
      backfillRow row
      backfillRows rows

/-- Events whose position has no subtype row. -/
def missingSubtypes (s : Store P) : List (AuthorityEvent P) :=
  s.authorityEvents.filter (fun row => !s.authorityEventSubtypes.any (fun sub => sub.authorityPosition = row.position))

/-- `_backfill_authority_subtypes` -/
def backfillAuthoritySubtypes : StoreCall P Unit := do
  let rows ← Call.read missingSubtypes
  Call.atomically (backfillRows rows)

/-- `IncidentJournalStore(path)` on a database that has its tables. -/
def reopen : StoreCall P Unit := do
  migrateAuthoritySchema
  migrateLegacyIncidentJournal
  backfillAuthoritySubtypes

/-- Rows in strict order of position, as `ORDER BY position` lists a table with
    that primary key. -/
def Ascending (rows : List (AuthorityEvent P)) : Prop := (rows.map AuthorityEvent.position).Pairwise (· < ·)

/-- A database content that the schema admits: both authority tables are in
    order of their primary key, which occurs once. -/
structure Database (P : Platform) where
  store : Store P
  events : Ascending store.authorityEvents
  subtypes : store.authorityEventSubtypes.Pairwise (fun a b => a.authorityPosition ≠ b.authorityPosition)

/-! ## Renumbering -/

/-- All events after the first pass; the digest is the one of the payload. -/
def relabel : Int → Option Int → List (AuthorityEvent P) → List (AuthorityEvent P)
  | _, _, [] => []
  | ordinal, previous, row :: rows =>
      { row with
        epochId := authorityEpoch
        epochOrdinal := some ordinal
        predecessorPosition := previous
        payloadSha256 := (P.loads row.payloadJson).map P.sha256 } ::
      relabel (ordinal + 1) (some row.position) rows

/-- No later row holds an ordinal before its turn, so no `UPDATE` raises. -/
def Renumberable : Int → List (AuthorityEvent P) → Prop
  | _, [] => True
  | ordinal, _ :: rows =>
      (∀ later ∈ rows, ¬ (later.epochId = authorityEpoch ∧ later.epochOrdinal = some ordinal)) ∧
        Renumberable (ordinal + 1) rows

/-- Every payload is JSON text. -/
def Decodable (rows : List (AuthorityEvent P)) : Prop := ∀ row ∈ rows, (P.loads row.payloadJson).isSome

private theorem update_at {done rows : List (AuthorityEvent P)} {row : AuthorityEvent P}
    (sorted : Ascending (done ++ row :: rows)) (f : AuthorityEvent P → AuthorityEvent P) :
    (done ++ row :: rows).map (fun other => if other.position = row.position then f other else other) =
      done ++ f row :: rows := by
  obtain ⟨-, after, before⟩ := List.pairwise_append.mp (List.pairwise_map.mp sorted)
  rw [List.map_append, List.map_cons, if_pos rfl]
  congr 1
  · conv_rhs => rw [← List.map_id done]
    refine List.map_congr_left fun other member => ?_
    have lower := before other member row List.mem_cons_self
    simp [ne_of_lt lower]
  · congr 1
    conv_rhs => rw [← List.map_id rows]
    refine List.map_congr_left fun other member => ?_
    have higher := (List.pairwise_cons.mp after).1 other member
    simp [ne_of_gt higher]

private theorem update_clash {done rows : List (AuthorityEvent P)} {row : AuthorityEvent P} {ordinal : Int}
    (sorted : Ascending (done ++ row :: rows))
    (numbered : ∀ other ∈ done, ∃ earlier < ordinal, other.epochOrdinal = some earlier) :
    (done ++ row :: rows).any (fun other => other.position ≠ row.position && other.epochId = authorityEpoch &&
        other.epochOrdinal = some ordinal) = false ↔
      ∀ later ∈ rows, ¬ (later.epochId = authorityEpoch ∧ later.epochOrdinal = some ordinal) := by
  obtain ⟨-, after, -⟩ := List.pairwise_append.mp (List.pairwise_map.mp sorted)
  rw [List.any_eq_false]
  constructor
  · intro free later member taken
    have higher := (List.pairwise_cons.mp after).1 later member
    have := free later (by simp [member])
    simp [taken.1, taken.2, ne_of_gt higher] at this
  · intro free other member
    simp only [ne_eq, decide_not, Bool.and_eq_true, Bool.not_eq_true', decide_eq_false_iff_not, decide_eq_true_eq]
    rintro ⟨⟨apart, epoch⟩, holds⟩
    rcases List.mem_append.mp member with early | late
    · obtain ⟨earlier, below, at_earlier⟩ := numbered other early
      rw [holds] at at_earlier
      exact absurd (Option.some.inj at_earlier) (by omega)
    · rcases List.mem_cons.mp late with rfl | later
      · exact apart rfl
      · exact free other later ⟨epoch, holds⟩

/-- The loop returns exactly when every payload decodes and no ordinal clashes,
    and then all remaining rows are relabelled. -/
theorem renumberRows_ok {rows done : List (AuthorityEvent P)} {ordinal : Int} {previous : Option Int} {s s' : Store P}
    (here : s.authorityEvents = done ++ rows)
    (sorted : Ascending (done ++ rows))
    (numbered : ∀ row ∈ done, ∃ earlier < ordinal, row.epochOrdinal = some earlier) :
    renumberRows ordinal previous (rows.map (fun row => (row.position, row.payloadJson))) s = (.ok (), s') ↔
      Decodable rows ∧ Renumberable ordinal rows ∧
        s' = { s with authorityEvents := done ++ relabel ordinal previous rows } := by
  induction rows generalizing done ordinal previous s with
  | nil =>
      have same : ({ s with authorityEvents := done ++ relabel ordinal previous [] } : Store P) = s := by
        rw [relabel, ← here]
      rw [same]
      constructor
      · intro h
        cases h
        exact ⟨fun _ member => absurd member List.not_mem_nil, trivial, rfl⟩
      · rintro ⟨-, -, rfl⟩
        rfl
  | cons row rows ih =>
      cases decoded : P.loads row.payloadJson with
      | none =>
          constructor
          · intro h
            simp only [renumberRows, List.map_cons, decoded] at h
            cases h
          · rintro ⟨decodable, -⟩
            simpa [decoded] using decodable row List.mem_cons_self
      | some payload =>
          have split : Decodable (row :: rows) ↔ Decodable rows := by simp [Decodable, decoded]
          simp only [renumberRows, List.map_cons, decoded, split, Renumberable, ← update_clash sorted numbered]
          cases clash : (done ++ row :: rows).any (fun other => other.position ≠ row.position &&
              other.epochId = authorityEpoch && other.epochOrdinal = some ordinal) with
          | true =>
              have raised : updateAuthorityEvent row.position ordinal previous (P.sha256 payload) s =
                  (.error (.integrityError "authority_events"), s) := by
                rw [updateAuthorityEvent, here, if_pos clash]
              rw [Call.bind_of_error raised]
              simp
          | false =>
              have updated : updateAuthorityEvent row.position ordinal previous (P.sha256 payload) s =
                  (.ok (), { s with authorityEvents :=
                    done ++ row.renumbered ordinal previous (P.sha256 payload) :: rows }) := by
                rw [updateAuthorityEvent, here, if_neg (Bool.eq_false_iff.mp clash), update_at sorted]
              have relabelled : relabel ordinal previous (row :: rows) =
                  row.renumbered ordinal previous (P.sha256 payload) :: relabel (ordinal + 1) (some row.position) rows := by
                simp [relabel, decoded, AuthorityEvent.renumbered]
              rw [Call.bind_of_ok updated, ih (List.append_assoc done [row.renumbered ordinal previous (P.sha256 payload)] rows).symm ?_ ?_,
                relabelled]
              · simp
              · simpa [Ascending, AuthorityEvent.renumbered] using sorted
              · intro other member
                rcases List.mem_append.mp member with early | this
                · obtain ⟨earlier, below, holds⟩ := numbered other early
                  exact ⟨earlier, by omega, holds⟩
                · obtain rfl := List.mem_singleton.mp this
                  exact ⟨ordinal, by omega, rfl⟩

theorem migrateAuthoritySchema_ok {s s' : Store P} (sorted : Ascending s.authorityEvents) :
    migrateAuthoritySchema s = (.ok (), s') ↔
      Decodable s.authorityEvents ∧ Renumberable 1 s.authorityEvents ∧
        s' = { s with authorityEvents := relabel 1 none s.authorityEvents } := by
  rw [migrateAuthoritySchema, Call.read_bind, Call.atomically_ok]
  exact renumberRows_ok (List.nil_append _).symm sorted (fun _ member => absurd member List.not_mem_nil)

/-! ## The mirror of an event -/

/-- The subtype row an event calls for, when its payload decodes. -/
def AuthorityEvent.mirror (row : AuthorityEvent P) : Option (AuthoritySubtype P) :=
  (P.loads row.payloadJson).map row.subtype

theorem AuthorityEvent.mirror_position {row : AuthorityEvent P} {sub : AuthoritySubtype P}
    (h : row.mirror = some sub) : sub.authorityPosition = row.position := by
  obtain ⟨payload, -, rfl⟩ := Option.map_eq_some_iff.mp h
  rfl

/-- Every subtype row belongs to an event and repeats it. -/
def Agreeing (s : Store P) : Prop :=
  ∀ sub ∈ s.authorityEventSubtypes, ∃ row ∈ s.authorityEvents, row.mirror = some sub

theorem positions_relabel (ordinal : Int) (previous : Option Int) (rows : List (AuthorityEvent P)) :
    (relabel ordinal previous rows).map AuthorityEvent.position = rows.map AuthorityEvent.position := by
  induction rows generalizing ordinal previous with
  | nil => rfl
  | cons row rows ih => simp [relabel, ih]

theorem mirrors_relabel (ordinal : Int) (previous : Option Int) (rows : List (AuthorityEvent P)) :
    (relabel ordinal previous rows).map AuthorityEvent.mirror = rows.map AuthorityEvent.mirror := by
  induction rows generalizing ordinal previous with
  | nil => rfl
  | cons row rows ih =>
      simp only [relabel, List.map_cons, ih]
      rfl

theorem texts_relabel (ordinal : Int) (previous : Option Int) (rows : List (AuthorityEvent P)) :
    (relabel ordinal previous rows).map AuthorityEvent.payloadJson = rows.map AuthorityEvent.payloadJson := by
  induction rows generalizing ordinal previous with
  | nil => rfl
  | cons row rows ih => simp [relabel, ih]

theorem relabel_idempotent (ordinal : Int) (previous : Option Int) (rows : List (AuthorityEvent P)) :
    relabel ordinal previous (relabel ordinal previous rows) = relabel ordinal previous rows := by
  induction rows generalizing ordinal previous with
  | nil => rfl
  | cons row rows ih => simp [relabel, ih]

theorem relabel_append (ordinal : Int) (previous : Option Int) (rows more : List (AuthorityEvent P)) :
    relabel ordinal previous (rows ++ more) = relabel ordinal previous rows ++
      relabel (ordinal + rows.length) ((rows.getLast?.map AuthorityEvent.position).or previous) more := by
  induction rows generalizing ordinal previous with
  | nil => simp [relabel]
  | cons row rows ih =>
      have last : ((row :: rows).getLast?.map AuthorityEvent.position).or previous =
          (rows.getLast?.map AuthorityEvent.position).or (some row.position) := by
        rw [List.getLast?_cons]
        cases rows.getLast? <;> rfl
      rw [last]
      simp [relabel, ih, Int.add_assoc, Int.add_comm (1 : Int)]

theorem ordinals_relabel {ordinal : Int} {previous : Option Int} {rows : List (AuthorityEvent P)}
    {row : AuthorityEvent P} (member : row ∈ relabel ordinal previous rows) :
    ∃ k : Int, ordinal ≤ k ∧ k < ordinal + rows.length ∧ row.epochOrdinal = some k := by
  induction rows generalizing ordinal previous with
  | nil => cases member
  | cons first rows ih =>
      rw [List.length_cons]
      rcases List.mem_cons.mp member with rfl | later
      · exact ⟨ordinal, by omega, by omega, rfl⟩
      · obtain ⟨k, low, high, holds⟩ := ih later
        exact ⟨k, by omega, by omega, holds⟩

/-- A relabelled journal conforms when every event finds its mirror. -/
theorem conforming_relabel (subtypes : List (AuthoritySubtype P)) (ordinal : Int) (previous : Option Int)
    (rows : List (AuthorityEvent P)) :
    Conforming subtypes ordinal previous (relabel ordinal previous rows) ↔
      ∀ row ∈ rows, row.mirror.isSome ∧ subtypeAt subtypes row.position = row.mirror := by
  induction rows generalizing ordinal previous with
  | nil => simp [relabel, Conforming]
  | cons row rows ih =>
      simp only [relabel, Conforming, List.forall_mem_cons, ih]
      apply and_congr_left'
      cases decoded : P.loads row.payloadJson with
      | none => simp [AuthorityEvent.mirror, decoded]
      | some payload =>
          simp only [AuthorityEvent.mirror, decoded, Option.map_some, Option.some.injEq, exists_eq_left',
            Option.isSome_some, true_and]
          constructor
          · intro conforms
            exact conforms.mirrored
          · intro mirrored
            exact ⟨rfl, rfl, rfl, rfl, mirrored⟩

/-! ## A journal after the first pass -/

/-- The state between two passes: the journal is numbered, its payloads decode
    and the keys of both tables are unique. -/
structure Settled (s : Store P) : Prop where
  sorted : Ascending s.authorityEvents
  fixed : relabel 1 none s.authorityEvents = s.authorityEvents
  decodable : Decodable s.authorityEvents
  unique : s.authorityEventSubtypes.Pairwise (fun a b => a.authorityPosition ≠ b.authorityPosition)

theorem decodable_of_texts {rows rows' : List (AuthorityEvent P)}
    (same : rows'.map AuthorityEvent.payloadJson = rows.map AuthorityEvent.payloadJson) (decodable : Decodable rows) :
    Decodable rows' := by
  intro row member
  have text : row.payloadJson ∈ rows.map AuthorityEvent.payloadJson := same ▸ List.mem_map_of_mem member
  obtain ⟨other, known, equal⟩ := List.mem_map.mp text
  rw [← equal]
  exact decodable other known

theorem settled_migrated (d : Database P) (decodable : Decodable d.store.authorityEvents) :
    Settled { d.store with authorityEvents := relabel 1 none d.store.authorityEvents } where
  sorted := by
    rw [Ascending, positions_relabel]
    exact d.events
  fixed := relabel_idempotent 1 none _
  decodable := decodable_of_texts (texts_relabel 1 none _) decodable
  unique := d.subtypes

theorem agreeing_migrated (s : Store P) :
    Agreeing { s with authorityEvents := relabel 1 none s.authorityEvents } ↔ Agreeing s := by
  have same (sub : AuthoritySubtype P) : (∃ row ∈ relabel 1 none s.authorityEvents, row.mirror = some sub) ↔
      ∃ row ∈ s.authorityEvents, row.mirror = some sub := by
    have := mirrors_relabel 1 none s.authorityEvents
    rw [← List.mem_map (f := AuthorityEvent.mirror), ← List.mem_map (f := AuthorityEvent.mirror), this]
  simp only [Agreeing, same]

theorem Ascending.unique {rows : List (AuthorityEvent P)} (sorted : Ascending rows) {a b : AuthorityEvent P}
    (ha : a ∈ rows) (hb : b ∈ rows) (same : a.position = b.position) : a = b := by
  have nodup : (rows.map AuthorityEvent.position).Nodup := sorted.imp (fun h => ne_of_lt h)
  exact List.inj_on_of_nodup_map nodup ha hb same

theorem subtypeAt_of_mem {subtypes : List (AuthoritySubtype P)} {sub : AuthoritySubtype P}
    (unique : subtypes.Pairwise (fun a b => a.authorityPosition ≠ b.authorityPosition)) (member : sub ∈ subtypes) :
    subtypeAt subtypes sub.authorityPosition = some sub := by
  cases found : subtypeAt subtypes sub.authorityPosition with
  | none =>
      have absent := List.find?_eq_none.mp found sub member
      simp at absent
  | some other =>
      have nodup : (subtypes.map AuthoritySubtype.authorityPosition).Nodup := List.pairwise_map.mpr unique
      have known := List.mem_of_find?_eq_some found
      exact congrArg some (List.inj_on_of_nodup_map nodup known member (subtypeAt_position found))

/-- Once every event has a subtype row, the checker accepts the journal exactly
    when all subtype rows agree with their events. -/
theorem Settled.sound_iff {s : Store P} (settled : Settled s)
    (complete : ∀ row ∈ s.authorityEvents, (subtypeAt s.authorityEventSubtypes row.position).isSome) :
    Sound s ↔ Agreeing s := by
  have walk := conforming_relabel s.authorityEventSubtypes 1 none s.authorityEvents
  rw [settled.fixed] at walk
  constructor
  · intro sound sub member
    obtain ⟨row, known, same⟩ := sound.owned sub member
    obtain ⟨-, mirrored⟩ := walk.mp sound.events row known
    refine ⟨row, known, ?_⟩
    rw [← mirrored, same]
    exact subtypeAt_of_mem settled.unique member
  · intro agreeing
    refine ⟨walk.mpr ?_, ?_⟩
    · intro row known
      obtain ⟨sub, found⟩ := Option.isSome_iff_exists.mp (complete row known)
      obtain ⟨other, other_known, mirror⟩ := agreeing sub (List.mem_of_find?_eq_some found)
      have same : other.position = row.position :=
        (AuthorityEvent.mirror_position mirror).symm.trans (subtypeAt_position found)
      obtain rfl := settled.sorted.unique other_known known same
      rw [mirror]
      exact ⟨rfl, found⟩
    · intro sub member
      obtain ⟨row, known, mirror⟩ := agreeing sub member
      exact ⟨row, known, (AuthorityEvent.mirror_position mirror).symm⟩

/-! ## Journalling legacy incidents -/

/-- The event `_append_authority` writes to this store. -/
def Store.nextEvent (s : Store P) (kind : AuthorityMutationKind) (entityId : String) (acceptedAt : DateTime)
    (payload : Json) : AuthorityEvent P where
  position := s.nextPosition
  epochId := authorityEpoch
  epochOrdinal := some (nextOrdinal s.authorityEvents.getLast?)
  predecessorPosition := s.authorityEvents.getLast?.map AuthorityEvent.position
  kind := kind.value
  entityId := entityId
  acceptedAt := acceptedAt
  payloadSha256 := some (P.sha256 payload)
  payloadJson := P.dumps payload

/-- The store with that event and its subtype row appended. -/
def Store.appended (s : Store P) (kind : AuthorityMutationKind) (entityId : String) (acceptedAt : DateTime)
    (payload : Json) : Store P :=
  { s with
    authoritySequence := s.nextPosition
    authorityEvents := s.authorityEvents ++ [s.nextEvent kind entityId acceptedAt payload]
    authorityEventSubtypes :=
      s.authorityEventSubtypes ++ [(s.nextEvent kind entityId acceptedAt payload).subtype payload] }

theorem appendAuthority_ok {s s' : Store P} {kind : AuthorityMutationKind} {entityId : String} {acceptedAt : DateTime}
    {payload : Json} {position : Int} (h : appendAuthority kind entityId acceptedAt payload s = (.ok position, s')) :
    position = s.nextPosition ∧ s' = s.appended kind entityId acceptedAt payload ∧
      ∀ sub ∈ s.authorityEventSubtypes, sub.authorityPosition ≠ s.nextPosition := by
  simp only [appendAuthority, Call.read_bind] at h
  obtain ⟨_, s₁, first, rest⟩ := Call.bind_ok.mp h
  obtain ⟨_, s₂, event, moved⟩ := Call.bind_ok.mp first
  obtain ⟨_, s₃, sub, done⟩ := Call.bind_ok.mp rest
  obtain ⟨-, rfl⟩ := Table.insert_ok event
  cases moved
  obtain ⟨fresh, rfl⟩ := Table.insert_ok sub
  cases done
  refine ⟨rfl, rfl, ?_⟩
  intro other member same
  have := List.any_eq_false.mp fresh other member
  simp [Tables.authorityEventSubtypes, same] at this

theorem Settled.position_lt {s : Store P} (settled : Settled s) {row : AuthorityEvent P}
    (member : row ∈ s.authorityEvents) : row.position < s.nextPosition := by
  rcases List.eq_nil_or_concat' s.authorityEvents with nil | ⟨front, last, concat⟩
  · rw [nil] at member
    cases member
  · have bound : row.position ≤ last.position := by
      have sorted := List.pairwise_map.mp settled.sorted
      rw [concat] at sorted member
      obtain ⟨-, -, before⟩ := List.pairwise_append.mp sorted
      rcases List.mem_append.mp member with early | this
      · exact le_of_lt (before row early last (List.mem_singleton.mpr rfl))
      · rw [List.mem_singleton.mp this]
    have next : s.nextPosition = max s.authoritySequence last.position + 1 := by
      simp [Store.nextPosition, concat]
    omega

theorem Settled.nextOrdinal_eq {s : Store P} (settled : Settled s) :
    nextOrdinal s.authorityEvents.getLast? = s.authorityEvents.length + 1 := by
  rcases List.eq_nil_or_concat' s.authorityEvents with nil | ⟨front, last, concat⟩
  · simp [nil, nextOrdinal]
  · have fixed := settled.fixed
    rw [concat, relabel_append] at fixed
    have tail := (List.append_inj' fixed rfl).2
    have ordinal : last.epochOrdinal = some (1 + (front.length : Int)) := by
      rw [← (List.cons.inj tail).1]
    have nonzero : 1 + (front.length : Int) ≠ 0 := by omega
    simp [concat, nextOrdinal, ordinal, nonzero, Int.add_comm]

theorem Settled.appended {s : Store P} (settled : Settled s) {kind : AuthorityMutationKind} {entityId : String}
    {acceptedAt : DateTime} {payload : Json}
    (fresh : ∀ sub ∈ s.authorityEventSubtypes, sub.authorityPosition ≠ s.nextPosition) :
    Settled (s.appended kind entityId acceptedAt payload) where
  sorted := by
    refine List.pairwise_map.mpr (List.pairwise_append.mpr ⟨List.pairwise_map.mp settled.sorted, by simp, ?_⟩)
    intro row member new is_new
    rw [List.mem_singleton.mp is_new]
    exact settled.position_lt member
  fixed := by
    simp only [Store.appended]
    rw [relabel_append, settled.fixed]
    congr 1
    simp [relabel, Store.nextEvent, settled.nextOrdinal_eq, P.loads_dumps, Int.add_comm]
  decodable := by
    intro row member
    rcases List.mem_append.mp member with old | new
    · exact settled.decodable row old
    · rw [List.mem_singleton.mp new]
      simp [Store.nextEvent, P.loads_dumps]
  unique := by
    refine List.pairwise_append.mpr ⟨settled.unique, by simp, ?_⟩
    intro sub member new is_new
    rw [List.mem_singleton.mp is_new]
    exact fresh sub member

theorem Settled.positioned {s : Store P} (settled : Settled s) (eventId : Nat) (position : Int) :
    Settled (s.positioned eventId position) :=
  ⟨settled.sorted, settled.fixed, settled.decodable, settled.unique⟩

theorem nextPosition_appended {s : Store P} {kind : AuthorityMutationKind} {entityId : String} {acceptedAt : DateTime}
    {payload : Json} : (s.appended kind entityId acceptedAt payload).nextPosition = s.nextPosition + 1 := by
  simp [Store.nextPosition, Store.appended, Store.nextEvent]

theorem agreeing_appended {s : Store P} {kind : AuthorityMutationKind} {entityId : String}
    {acceptedAt : DateTime} {payload : Json}
    (fresh : ∀ sub ∈ s.authorityEventSubtypes, sub.authorityPosition ≠ s.nextPosition) :
    Agreeing (s.appended kind entityId acceptedAt payload) ↔ Agreeing s := by
  have mirror : (s.nextEvent kind entityId acceptedAt payload).mirror =
      some ((s.nextEvent kind entityId acceptedAt payload).subtype payload) := by
    simp [AuthorityEvent.mirror, Store.nextEvent, P.loads_dumps]
  constructor
  · intro agreeing sub member
    obtain ⟨row, known, same⟩ := agreeing sub (List.mem_append_left _ member)
    rcases List.mem_append.mp known with old | new
    · exact ⟨row, old, same⟩
    · -- the new event took a position that no subtype row held
      rw [List.mem_singleton.mp new] at same
      exact absurd (AuthorityEvent.mirror_position same) (fresh sub member)
  · intro agreeing sub member
    rcases List.mem_append.mp member with old | new
    · obtain ⟨row, known, same⟩ := agreeing sub old
      exact ⟨row, List.mem_append_left _ known, same⟩
    · rw [List.mem_singleton.mp new]
      exact ⟨_, List.mem_append_right _ (List.mem_singleton.mpr rfl), mirror⟩

/-- Authority positions that incident rows hold. -/
def incidentPositions (s : Store P) : List Int := s.incidentEvents.filterMap IncidentEvent.authorityPosition

/-- An incident row holds a position that the second pass is about to assign. -/
def PositionTaken (s : Store P) (count : Nat) : Prop :=
  ∃ position ∈ incidentPositions s, s.nextPosition ≤ position ∧ position < s.nextPosition + count

theorem updateIncidentPosition_ok {s s' : Store P} {eventId : Nat} {position : Int} :
    updateIncidentPosition eventId position s = (.ok (), s') ↔
      position ∉ incidentPositions s ∧ s' = s.positioned eventId position := by
  have taken : (s.incidentEvents.any (fun row => row.authorityPosition = some position)) = true ↔
      position ∈ incidentPositions s := by
    simp [incidentPositions]
  unfold updateIncidentPosition
  split
  · next held => simp [taken.mp held]
  · next free =>
      rw [← taken]
      simp [free, eq_comm]

/-- The incident rows still to be journalled: distinct places without a position. -/
structure Pending (s : Store P) (rows : List (IncidentRecord × Nat)) : Prop where
  distinct : (rows.map Prod.snd).Nodup
  unset : ∀ item ∈ rows, ∃ row, s.incidentEvents[item.2]? = some row ∧ row.authorityPosition = none

theorem pending_legacyRows (s : Store P) : Pending s (legacyRows s) where
  distinct := by
    have places : (s.incidentEvents.zipIdx.map Prod.snd).Nodup := by
      simp [List.nodup_range']
    rw [legacyRows, List.map_map]
    exact places.sublist (List.filter_sublist.map Prod.snd)
  unset := by
    intro item member
    obtain ⟨⟨row, place⟩, selected, rfl⟩ := List.mem_map.mp member
    obtain ⟨known, null⟩ := List.mem_filter.mp selected
    refine ⟨row, ?_, by simpa using null⟩
    simpa using (List.mem_zipIdx_iff_getElem?.mp known)

theorem mem_positions_modify {events : List IncidentEvent} {eventId : Nat} {row : IncidentEvent} {position q : Int}
    (here : events[eventId]? = some row) (unset : row.authorityPosition = none) :
    q ∈ (events.modify eventId (fun row => { row with authorityPosition := some position })).filterMap
        IncidentEvent.authorityPosition ↔
      q = position ∨ q ∈ events.filterMap IncidentEvent.authorityPosition := by
  induction events generalizing eventId with
  | nil => simp at here
  | cons first rest ih =>
      cases eventId with
      | zero =>
          obtain rfl : first = row := by simpa using here
          simp [unset]
      | succ eventId =>
          have here' : rest[eventId]? = some row := by simpa using here
          have later := ih here'
          rw [List.modify_succ_cons]
          cases held : first.authorityPosition with
          | none => simpa [held] using later
          | some p =>
              rw [List.filterMap_cons_some held, List.filterMap_cons_some held, List.mem_cons, List.mem_cons, later]
              tauto

theorem Settled.subtypes_lt {s : Store P} (settled : Settled s) (agreeing : Agreeing s) :
    ∀ sub ∈ s.authorityEventSubtypes, sub.authorityPosition ≠ s.nextPosition := by
  intro sub member
  obtain ⟨row, known, mirror⟩ := agreeing sub member
  rw [AuthorityEvent.mirror_position mirror]
  exact ne_of_lt (settled.position_lt known)

theorem Settled.event_fresh {s : Store P} (settled : Settled s) (kind : AuthorityMutationKind) (entityId : String)
    (acceptedAt : DateTime) (payload : Json) :
    (Tables.authorityEvents.rows s).any
      (Tables.authorityEvents.clash (s.nextEvent kind entityId acceptedAt payload)) = false := by
  rw [List.any_eq_false]
  intro row (member : row ∈ s.authorityEvents)
  have apart := ne_of_gt (settled.position_lt member)
  rw [← settled.fixed] at member
  obtain ⟨k, -, bound, ordinal⟩ := ordinals_relabel member
  have different : (s.authorityEvents.length : Int) + 1 ≠ k := by omega
  simp [Tables.authorityEvents, Store.nextEvent, settled.nextOrdinal_eq, apart, ordinal, different]

/-- `_append_authority` between two passes raises only on an orphaned subtype
    row at the next position. -/
theorem appendAuthority_of_settled {s : Store P} (settled : Settled s)
    (fresh : ∀ sub ∈ s.authorityEventSubtypes, sub.authorityPosition ≠ s.nextPosition)
    (kind : AuthorityMutationKind) (entityId : String) (acceptedAt : DateTime) (payload : Json) :
    appendAuthority kind entityId acceptedAt payload s =
      (.ok s.nextPosition, s.appended kind entityId acceptedAt payload) := by
  have free : s.authorityEventSubtypes.any (fun sub => decide (s.nextPosition = sub.authorityPosition)) = false := by
    rw [List.any_eq_false]
    intro sub member
    simpa [eq_comm] using fresh sub member
  have inserted : insertAuthorityEvent (s.nextEvent kind entityId acceptedAt payload) s = (.ok (), { s with
      authoritySequence := s.nextPosition
      authorityEvents := s.authorityEvents ++ [s.nextEvent kind entityId acceptedAt payload] }) :=
    Call.bind_of_ok (Table.insert_of_fresh (settled.event_fresh kind entityId acceptedAt payload))
  exact (Call.bind_of_ok inserted).trans (Call.bind_of_ok (Table.insert_of_fresh free))

theorem migrateIncidents_settled {rows : List (IncidentRecord × Nat)} {s s' : Store P} (settled : Settled s)
    (h : migrateIncidents rows s = (.ok (), s')) :
    Settled s' ∧ (Agreeing s' ↔ Agreeing s) ∧ s'.authorityEvents.length = s.authorityEvents.length + rows.length := by
  induction rows generalizing s with
  | nil =>
      cases h
      exact ⟨settled, Iff.rfl, rfl⟩
  | cons item rows ih =>
      obtain ⟨position, s₁, appended, rest⟩ := Call.bind_ok.mp h
      obtain ⟨-, rfl, fresh⟩ := appendAuthority_ok appended
      obtain ⟨_, s₂, updated, later⟩ := Call.bind_ok.mp rest
      obtain ⟨-, rfl⟩ := updateIncidentPosition_ok.mp updated
      obtain ⟨settled', agreeing, grown⟩ := ih ((settled.appended fresh).positioned item.2 position) later
      refine ⟨settled', agreeing.trans (agreeing_appended fresh), ?_⟩
      simp only [grown, Store.positioned, Store.appended, List.length_append, List.length_cons, List.length_nil]
      omega

/-- After one row has taken the next position, the rest of the range is what the
    remaining rows need. -/
theorem positionTaken_positioned {s s₁ : Store P} {eventId count : Nat} {row : IncidentEvent}
    (incidents : s₁.incidentEvents = s.incidentEvents) (next : s₁.nextPosition = s.nextPosition + 1)
    (here : s.incidentEvents[eventId]? = some row) (unset : row.authorityPosition = none)
    (free : s.nextPosition ∉ incidentPositions s) :
    PositionTaken (s₁.positioned eventId s.nextPosition) count ↔ PositionTaken s (count + 1) := by
  have positions (q : Int) : q ∈ incidentPositions (s₁.positioned eventId s.nextPosition) ↔
      q = s.nextPosition ∨ q ∈ incidentPositions s := by
    simp only [incidentPositions, Store.positioned, incidents]
    exact mem_positions_modify here unset
  have next' : (s₁.positioned eventId s.nextPosition).nextPosition = s.nextPosition + 1 := next
  simp only [PositionTaken, positions, next']
  constructor
  · rintro ⟨q, rfl | held, low, high⟩
    · omega
    · exact ⟨q, held, by omega, by push_cast; omega⟩
  · rintro ⟨q, held, low, high⟩
    have apart : q ≠ s.nextPosition := fun same => free (same ▸ held)
    exact ⟨q, .inr held, by omega, by push_cast at high; omega⟩

theorem Pending.tail {s s₁ : Store P} {item : IncidentRecord × Nat} {rows : List (IncidentRecord × Nat)}
    {position : Int} (incidents : s₁.incidentEvents = s.incidentEvents) (pending : Pending s (item :: rows)) :
    Pending (s₁.positioned item.2 position) rows where
  distinct := (List.nodup_cons.mp pending.distinct).2
  unset := by
    intro other member
    obtain ⟨row, here, unset⟩ := pending.unset other (List.mem_cons_of_mem _ member)
    have apart : item.2 ≠ other.2 := by
      intro same
      exact (List.nodup_cons.mp pending.distinct).1 (same ▸ List.mem_map_of_mem member)
    refine ⟨row, ?_, unset⟩
    rw [Store.positioned, incidents, List.getElem?_modify_ne _ _ apart]
    exact here

/-- With agreeing subtype rows the second pass returns exactly when the
    positions it assigns are free. -/
theorem migrateIncidents_returns {rows : List (IncidentRecord × Nat)} {s : Store P} (settled : Settled s)
    (agreeing : Agreeing s) (pending : Pending s rows) :
    (∃ s', migrateIncidents rows s = (.ok (), s')) ↔ ¬ PositionTaken s rows.length := by
  induction rows generalizing s with
  | nil =>
      apply iff_of_true ⟨s, rfl⟩
      rintro ⟨position, -, low, high⟩
      rw [List.length_nil] at high
      omega
  | cons item rows ih =>
      obtain ⟨row, here, unset⟩ := pending.unset item List.mem_cons_self
      have fresh := settled.subtypes_lt agreeing
      obtain ⟨s₁, after⟩ : ∃ s₁, s₁ = s.appended .incident item.1.incidentId.str item.1.lastObservedAt
        (item.1.modelDump P) := ⟨_, rfl⟩
      have appended := appendAuthority_of_settled settled fresh .incident item.1.incidentId.str item.1.lastObservedAt
        (item.1.modelDump P)
      have settled₁ : Settled s₁ := after ▸ settled.appended fresh
      have agreeing₁ : Agreeing s₁ := after ▸ (agreeing_appended fresh).mpr agreeing
      have next : s₁.nextPosition = s.nextPosition + 1 := after ▸ nextPosition_appended
      have incidents : s₁.incidentEvents = s.incidentEvents := after ▸ rfl
      rw [← after] at appended
      have head : migrateIncidents (item :: rows) s =
          (updateIncidentPosition item.2 s.nextPosition >>= fun _ => migrateIncidents rows) s₁ :=
        Call.bind_of_ok appended
      rw [head]
      by_cases taken : s.nextPosition ∈ incidentPositions s
      · have held : s.nextPosition ∈ incidentPositions s₁ := by rwa [incidentPositions, incidents]
        refine iff_of_false ?_ (not_not_intro ⟨s.nextPosition, taken, le_refl _, by simp only [List.length_cons]; omega⟩)
        rintro ⟨s', h⟩
        obtain ⟨_, s₂, updated, -⟩ := Call.bind_ok.mp h
        exact (updateIncidentPosition_ok.mp updated).1 held
      · have free : s.nextPosition ∉ incidentPositions s₁ := by rwa [incidentPositions, incidents]
        have updated := updateIncidentPosition_ok.mpr ⟨free, (rfl : s₁.positioned item.2 s.nextPosition = _)⟩
        rw [Call.bind_of_ok updated, ih (settled₁.positioned _ _) agreeing₁ (pending.tail incidents),
          positionTaken_positioned incidents next here unset taken, List.length_cons]

/-! ## Backfilling -/

theorem backfillRow_ok {s : Store P} {row : AuthorityEvent P} {sub : AuthoritySubtype P} (mirror : row.mirror = some sub)
    (digest : row.payloadSha256 = (P.loads row.payloadJson).map P.sha256)
    (missing : ∀ other ∈ s.authorityEventSubtypes, other.authorityPosition ≠ row.position) :
    backfillRow row s = (.ok (), { s with authorityEventSubtypes := s.authorityEventSubtypes ++ [sub] }) := by
  obtain ⟨payload, decoded, rfl⟩ := Option.map_eq_some_iff.mp mirror
  have free : s.authorityEventSubtypes.any (fun other => decide (row.position = other.authorityPosition)) = false := by
    rw [List.any_eq_false]
    intro other member
    simpa [eq_comm] using missing other member
  simp only [backfillRow, digest, decoded, Option.map_some]
  exact Table.insert_of_fresh free

theorem backfillRows_ok {rows : List (AuthorityEvent P)} {s : Store P} (sorted : Ascending rows)
    (decodable : Decodable rows) (digests : ∀ row ∈ rows, row.payloadSha256 = (P.loads row.payloadJson).map P.sha256)
    (missing : ∀ row ∈ rows, ∀ sub ∈ s.authorityEventSubtypes, sub.authorityPosition ≠ row.position) :
    backfillRows rows s =
      (.ok (), { s with authorityEventSubtypes := s.authorityEventSubtypes ++ rows.filterMap AuthorityEvent.mirror }) := by
  induction rows generalizing s with
  | nil => simp [backfillRows]
  | cons row rows ih =>
      obtain ⟨payload, decoded⟩ := Option.isSome_iff_exists.mp (decodable row List.mem_cons_self)
      have mirror : row.mirror = some (row.subtype payload) := by simp [AuthorityEvent.mirror, decoded]
      have head := backfillRow_ok mirror (digests row List.mem_cons_self) (missing row List.mem_cons_self)
      obtain ⟨above, sorted'⟩ := List.pairwise_cons.mp (List.pairwise_map.mp sorted)
      have rest := ih (s := { s with
          authorityEventSubtypes := s.authorityEventSubtypes ++ [row.subtype payload] })
        (List.pairwise_map.mpr sorted') (fun other member => decodable other (List.mem_cons_of_mem _ member))
        (fun other member => digests other (List.mem_cons_of_mem _ member)) ?_
      · rw [backfillRows, Call.bind_of_ok head, rest, List.filterMap_cons_some mirror]
        simp
      · intro other member sub known
        rcases List.mem_append.mp known with old | new
        · exact missing other (List.mem_cons_of_mem _ member) sub old
        · rw [List.mem_singleton.mp new]
          exact ne_of_lt (above other member)

theorem Settled.digests {s : Store P} (settled : Settled s) :
    ∀ row ∈ s.authorityEvents, row.payloadSha256 = (P.loads row.payloadJson).map P.sha256 := by
  have general (ordinal : Int) (previous : Option Int) (rows : List (AuthorityEvent P)) :
      ∀ row ∈ relabel ordinal previous rows, row.payloadSha256 = (P.loads row.payloadJson).map P.sha256 := by
    induction rows generalizing ordinal previous with
    | nil => intro row member; cases member
    | cons first rows ih =>
        intro row member
        rcases List.mem_cons.mp member with rfl | later
        · rfl
        · exact ih _ _ row later
  have all := general 1 none s.authorityEvents
  rwa [settled.fixed] at all

/-- The store after the third pass. -/
def Store.backfilled (s : Store P) : Store P :=
  { s with authorityEventSubtypes :=
      s.authorityEventSubtypes ++ (missingSubtypes s).filterMap AuthorityEvent.mirror }

theorem mem_missingSubtypes {s : Store P} {row : AuthorityEvent P} :
    row ∈ missingSubtypes s ↔ row ∈ s.authorityEvents ∧
      ∀ sub ∈ s.authorityEventSubtypes, sub.authorityPosition ≠ row.position := by
  simp [missingSubtypes, List.mem_filter]

theorem backfillAuthoritySubtypes_ok {s : Store P} (settled : Settled s) :
    backfillAuthoritySubtypes s = (.ok (), s.backfilled) := by
  have sorted : Ascending (missingSubtypes s) :=
    settled.sorted.sublist (List.filter_sublist.map AuthorityEvent.position)
  rw [backfillAuthoritySubtypes, Call.read_bind]
  exact Call.atomically_of_ok (backfillRows_ok sorted
    (fun row member => settled.decodable row (mem_missingSubtypes.mp member).1)
    (fun row member => settled.digests row (mem_missingSubtypes.mp member).1)
    (fun row member => (mem_missingSubtypes.mp member).2))

theorem Settled.backfilled {s : Store P} (settled : Settled s) : Settled s.backfilled where
  sorted := settled.sorted
  fixed := settled.fixed
  decodable := settled.decodable
  unique := by
    refine List.pairwise_append.mpr ⟨settled.unique, ?_, ?_⟩
    · rw [List.pairwise_filterMap]
      have sorted := List.pairwise_map.mp settled.sorted
      refine (sorted.sublist List.filter_sublist).imp ?_
      intro a b below sub mirror sub' mirror'
      rw [AuthorityEvent.mirror_position mirror, AuthorityEvent.mirror_position mirror']
      exact ne_of_lt below
    · intro sub old new added
      obtain ⟨row, selected, mirror⟩ := List.mem_filterMap.mp added
      rw [AuthorityEvent.mirror_position mirror]
      exact (mem_missingSubtypes.mp selected).2 sub old

theorem agreeing_backfilled {s : Store P} : Agreeing s.backfilled ↔ Agreeing s := by
  constructor
  · intro agreeing sub member
    exact agreeing sub (List.mem_append_left _ member)
  · intro agreeing sub member
    rcases List.mem_append.mp member with old | new
    · exact agreeing sub old
    · obtain ⟨row, selected, mirror⟩ := List.mem_filterMap.mp new
      exact ⟨row, (mem_missingSubtypes.mp selected).1, mirror⟩

/-- After the third pass the checker accepts the journal exactly when the rows
    present before it agreed. -/
theorem Settled.backfilled_sound {s : Store P} (settled : Settled s) : Sound s.backfilled ↔ Agreeing s := by
  rw [settled.backfilled.sound_iff ?_, agreeing_backfilled]
  intro row (known : row ∈ s.authorityEvents)
  have present : ∃ sub ∈ s.backfilled.authorityEventSubtypes, sub.authorityPosition = row.position := by
    by_cases missing : row ∈ missingSubtypes s
    · obtain ⟨payload, decoded⟩ := Option.isSome_iff_exists.mp (settled.decodable row known)
      have mirror : row.mirror = some (row.subtype payload) := by simp [AuthorityEvent.mirror, decoded]
      exact ⟨_, List.mem_append_right _ (List.mem_filterMap.mpr ⟨row, missing, mirror⟩), rfl⟩
    · rw [mem_missingSubtypes] at missing
      push Not at missing
      obtain ⟨sub, member, here⟩ := missing known
      exact ⟨sub, List.mem_append_left _ member, here⟩
  obtain ⟨sub, member, here⟩ := present
  exact List.find?_isSome.mpr ⟨sub, member, by simpa using here⟩

end SentinelEdge.Storage
