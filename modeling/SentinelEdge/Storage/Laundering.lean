import SentinelEdge.Storage.Reopen

/-! # Damage that re-opening hides

`reopen` renumbers events and re-hashes their payloads before anyone checks
them, so the journal it leaves is valid whenever the subtype rows still there
agree with the current events. What the checker found before is lost.
-/

namespace SentinelEdge.Storage

open Foundation Domain

variable {P : Platform}

/-- A report of failures survives re-opening, and re-opening leaves a valid
    content alone. -/
def NotLaundered (s : Store P) : Prop :=
  (∀ report, authorityConformance s = .ok report → report.valid = false →
    ∀ s', reopen s = (.ok (), s') → ∃ report', authorityConformance s' = .ok report' ∧ report'.valid = false) ∧
  (∀ report, authorityConformance s = .ok report → report.valid = true → (reopen s).2 = s)

/-- The checker returns a report exactly when every payload decodes. -/
theorem conformance_returns {s : Store P} :
    (∃ report, authorityConformance s = .ok report) ↔ Decodable s.authorityEvents := by
  have walk (subtypes : List (AuthoritySubtype P)) (ordinal : Int) (previous : Option Int)
      (rows : List (AuthorityEvent P)) :
      (∃ found, checkEvents subtypes ordinal previous rows = .ok found) ↔ Decodable rows := by
    induction rows generalizing ordinal previous with
    | nil => simp [checkEvents, Decodable]
    | cons row rows ih =>
        have rest := ih (ordinal + 1) (some row.position)
        cases decoded : P.loads row.payloadJson with
        | none => simp [checkEvents, Decodable, decoded]
        | some payload =>
            have split : Decodable (row :: rows) ↔ Decodable rows := by simp [Decodable, decoded]
            rw [split, ← rest]
            cases later : checkEvents subtypes (ordinal + 1) (some row.position) rows <;>
              simp [checkEvents, decoded, later]
  rw [← walk s.authorityEventSubtypes 1 none]
  cases checked : checkEvents s.authorityEventSubtypes 1 none s.authorityEvents <;>
    simp [authorityConformance, checked]

theorem report_valid_iff {s : Store P} {report : AuthorityReport} (h : authorityConformance s = .ok report) :
    report.valid = true ↔ Sound s := by
  rw [← conformance_valid_iff]
  constructor
  · intro valid
    exact ⟨report, h, valid⟩
  · rintro ⟨report', h', valid⟩
    rw [h] at h'
    exact Except.ok.inj h' ▸ valid

/-- A returned re-opening is accepted by the checker exactly when the subtype
    rows agreed with the events they belong to. -/
theorem reopen_sound (d : Database P) {s' : Store P} (h : reopen d.store = (.ok (), s')) :
    Decodable s'.authorityEvents ∧ (Sound s' ↔ Agreeing d.store) := by
  obtain ⟨_, s₁, migrated, rest⟩ := Call.bind_ok.mp h
  obtain ⟨decodable, -, rfl⟩ := (migrateAuthoritySchema_ok d.events).mp migrated
  obtain ⟨_, s₂, legacy, last⟩ := Call.bind_ok.mp rest
  rw [migrateLegacyIncidentJournal, Call.read_bind, Call.atomically_ok] at legacy
  obtain ⟨settled, agreeing, -⟩ := migrateIncidents_settled (settled_migrated d decodable) legacy
  rw [backfillAuthoritySubtypes_ok settled] at last
  cases last
  refine ⟨settled.decodable, ?_⟩
  rw [settled.backfilled_sound, agreeing, agreeing_migrated]

theorem nextPosition_migrated (s : Store P) :
    Store.nextPosition { s with authorityEvents := relabel 1 none s.authorityEvents } = s.nextPosition := by
  have last := congrArg List.getLast? (positions_relabel 1 none s.authorityEvents)
  rw [List.getLast?_map, List.getLast?_map] at last
  simp only [Store.nextPosition, last]

theorem positionTaken_migrated (s : Store P) (count : Nat) :
    PositionTaken { s with authorityEvents := relabel 1 none s.authorityEvents } count ↔ PositionTaken s count := by
  simp only [PositionTaken, nextPosition_migrated]
  rfl

/-- Where the subtype rows agree, the constructor raises only on a payload that
    is not JSON, an ordinal held by a later row or a position an incident holds. -/
theorem reopen_returns (d : Database P) (agreeing : Agreeing d.store) :
    (∃ s', reopen d.store = (.ok (), s')) ↔
      Decodable d.store.authorityEvents ∧ Renumberable 1 d.store.authorityEvents ∧
        ¬ PositionTaken d.store (legacyRows d.store).length := by
  constructor
  · rintro ⟨s', h⟩
    obtain ⟨_, s₁, migrated, rest⟩ := Call.bind_ok.mp h
    obtain ⟨decodable, renumberable, rfl⟩ := (migrateAuthoritySchema_ok d.events).mp migrated
    obtain ⟨_, s₂, legacy, -⟩ := Call.bind_ok.mp rest
    rw [migrateLegacyIncidentJournal, Call.read_bind, Call.atomically_ok] at legacy
    have free := (migrateIncidents_returns (settled_migrated d decodable) ((agreeing_migrated _).mpr agreeing)
      (pending_legacyRows _)).mp ⟨s₂, legacy⟩
    exact ⟨decodable, renumberable, fun taken => free ((positionTaken_migrated _ _).mpr taken)⟩
  · rintro ⟨decodable, renumberable, free⟩
    have migrated := (migrateAuthoritySchema_ok d.events).mpr ⟨decodable, renumberable, rfl⟩
    have settled := settled_migrated d decodable
    obtain ⟨s₂, legacy⟩ := (migrateIncidents_returns settled ((agreeing_migrated _).mpr agreeing)
      (pending_legacyRows _)).mpr (fun taken => free ((positionTaken_migrated _ _).mp taken))
    obtain ⟨settled₂, -, -⟩ := migrateIncidents_settled settled legacy
    refine ⟨s₂.backfilled, ?_⟩
    rw [reopen, Call.bind_of_ok migrated]
    refine (Call.bind_of_ok (a := ()) (t := s₂) ?_).trans (backfillAuthoritySubtypes_ok settled₂)
    rw [migrateLegacyIncidentJournal, Call.read_bind]
    exact Call.atomically_of_ok legacy

/-! ## Valid contents -/

theorem Conforming.ordinal_le {subtypes : List (AuthoritySubtype P)} {rows : List (AuthorityEvent P)} {ordinal : Int}
    {previous : Option Int} (conforms : Conforming subtypes ordinal previous rows) :
    ∀ row ∈ rows, ∃ k, ordinal ≤ k ∧ row.epochOrdinal = some k := by
  induction rows generalizing ordinal previous with
  | nil => intro row member; cases member
  | cons first rows ih =>
      intro row member
      obtain ⟨⟨payload, -, here⟩, rest⟩ := conforms
      rcases List.mem_cons.mp member with rfl | later
      · exact ⟨ordinal, le_refl _, here.ordinal⟩
      · obtain ⟨k, above, holds⟩ := ih rest row later
        exact ⟨k, by omega, holds⟩

theorem Conforming.renumberable {subtypes : List (AuthoritySubtype P)} {rows : List (AuthorityEvent P)} {ordinal : Int}
    {previous : Option Int} (conforms : Conforming subtypes ordinal previous rows) : Renumberable ordinal rows := by
  induction rows generalizing ordinal previous with
  | nil => trivial
  | cons first rows ih =>
      refine ⟨?_, ih conforms.2⟩
      rintro later member ⟨-, holds⟩
      obtain ⟨k, above, holds'⟩ := conforms.2.ordinal_le later member
      rw [holds] at holds'
      have := Option.some.inj holds'
      omega

/-- Renumbering rewrites every column of a valid journal with its own value. -/
theorem Conforming.relabel_eq {subtypes : List (AuthoritySubtype P)} {rows : List (AuthorityEvent P)} {ordinal : Int}
    {previous : Option Int} (conforms : Conforming subtypes ordinal previous rows) :
    relabel ordinal previous rows = rows := by
  induction rows generalizing ordinal previous with
  | nil => rfl
  | cons row rows ih =>
      obtain ⟨⟨payload, decoded, here⟩, rest⟩ := conforms
      rw [relabel, ih rest, decoded, Option.map_some, ← here.epoch, ← here.ordinal, ← here.predecessor, ← here.digest]

theorem Sound.settled {d : Database P} (sound : Sound d.store) : Settled d.store where
  sorted := d.events
  fixed := sound.events.relabel_eq
  decodable := by
    have mirrored := (conforming_relabel _ _ _ _).mp (sound.events.relabel_eq.symm ▸ sound.events)
    intro row member
    simpa [AuthorityEvent.mirror] using (mirrored row member).1
  unique := d.subtypes

theorem Sound.complete {s : Store P} (sound : Sound s) :
    ∀ row ∈ s.authorityEvents, (subtypeAt s.authorityEventSubtypes row.position).isSome := by
  have mirrored := (conforming_relabel _ _ _ _).mp (sound.events.relabel_eq.symm ▸ sound.events)
  intro row member
  rw [(mirrored row member).2]
  exact (mirrored row member).1

theorem Sound.backfilled {s : Store P} (sound : Sound s) : s.backfilled = s := by
  have none_missing : missingSubtypes s = [] := by
    rw [List.eq_nil_iff_forall_not_mem]
    intro row member
    obtain ⟨known, missing⟩ := mem_missingSubtypes.mp member
    obtain ⟨sub, found⟩ := Option.isSome_iff_exists.mp (sound.complete row known)
    exact missing sub (List.mem_of_find?_eq_some found) (subtypeAt_position found)
  simp [Store.backfilled, none_missing]

theorem Sound.migrated {d : Database P} (sound : Sound d.store) : migrateAuthoritySchema d.store = (.ok (), d.store) :=
  (migrateAuthoritySchema_ok d.events).mpr
    ⟨sound.settled.decodable, sound.events.renumberable, by rw [sound.settled.fixed]⟩

/-- The constructor leaves a valid content alone exactly when it has no legacy
    incident to journal, or cannot journal them. -/
theorem Sound.reopen_unchanged {d : Database P} (sound : Sound d.store) :
    (reopen d.store).2 = d.store ↔
      legacyRows d.store = [] ∨ PositionTaken d.store (legacyRows d.store).length := by
  have settled := sound.settled
  have agreeing : Agreeing d.store := (settled.sound_iff sound.complete).mp sound
  have head : reopen d.store = (migrateLegacyIncidentJournal >>= fun _ => backfillAuthoritySubtypes) d.store :=
    Call.bind_of_ok sound.migrated
  have returns := migrateIncidents_returns settled agreeing (pending_legacyRows d.store)
  by_cases taken : PositionTaken d.store (legacyRows d.store).length
  · refine iff_of_true ?_ (.inr taken)
    rcases ran : migrateIncidents (legacyRows d.store) d.store with ⟨r, s₂⟩
    cases r with
    | ok u => exact absurd taken (returns.mp ⟨s₂, ran⟩)
    | error e =>
        have raised : migrateLegacyIncidentJournal d.store = (.error e, d.store) := by
          rw [migrateLegacyIncidentJournal, Call.read_bind]
          exact Call.atomically_of_error ran
        rw [head, Call.bind_of_error raised]
  · obtain ⟨s₂, ran⟩ := returns.mpr taken
    obtain ⟨settled₂, -, grown⟩ := migrateIncidents_settled settled ran
    have legacy : migrateLegacyIncidentJournal d.store = (.ok (), s₂) := by
      rw [migrateLegacyIncidentJournal, Call.read_bind]
      exact Call.atomically_of_ok ran
    have after : (reopen d.store).2 = s₂.backfilled := by
      rw [head, Call.bind_of_ok legacy, backfillAuthoritySubtypes_ok settled₂]
    rw [after, or_iff_left taken]
    constructor
    · intro same
      have lengths := congrArg (fun s => s.authorityEvents.length) same
      have : s₂.authorityEvents.length = d.store.authorityEvents.length := lengths
      exact List.length_eq_zero_iff.mp (by omega)
    · intro none_left
      rw [none_left] at ran
      cases ran
      exact sound.backfilled

/-! ## All contents -/

/-- Exactly the damage that leaves a trace where `reopen` does not write is
    still reported: a valid content has to have no legacy incident to journal,
    and an invalid one an undecodable payload, an ordinal held by a later row, a
    subtype row without an event it agrees with, or legacy incidents that
    cannot be journalled. -/
theorem reopen_notLaundered_iff (d : Database P) :
    NotLaundered d.store ↔
      (Sound d.store → legacyRows d.store = [] ∨ PositionTaken d.store (legacyRows d.store).length) ∧
      (¬ Sound d.store →
        ¬ Decodable d.store.authorityEvents ∨ ¬ Renumberable 1 d.store.authorityEvents ∨ ¬ Agreeing d.store ∨
          PositionTaken d.store (legacyRows d.store).length) := by
  rw [NotLaundered, and_comm]
  refine and_congr ?_ ?_
  · constructor
    · intro kept sound
      obtain ⟨report, returned, valid⟩ := conformance_valid_iff.mpr sound
      exact sound.reopen_unchanged.mp (kept report returned valid)
    · intro kept report returned valid
      have sound := (report_valid_iff returned).mp valid
      exact sound.reopen_unchanged.mpr (kept sound)
  · constructor
    · intro reported unsound
      by_contra hidden
      push Not at hidden
      obtain ⟨decodable, renumberable, agreeing, free⟩ := hidden
      obtain ⟨report, returned⟩ := conformance_returns.mpr decodable
      have invalid : report.valid = false := Bool.eq_false_iff.mpr (fun valid => unsound ((report_valid_iff returned).mp valid))
      obtain ⟨s', reopened⟩ := (reopen_returns d agreeing).mpr ⟨decodable, renumberable, free⟩
      obtain ⟨report', returned', invalid'⟩ := reported report returned invalid s' reopened
      have valid' := (report_valid_iff returned').mpr ((reopen_sound d reopened).2.mpr agreeing)
      rw [invalid'] at valid'
      cases valid'
    · intro visible report returned invalid s' reopened
      have unsound : ¬ Sound d.store := by
        intro sound
        rw [(report_valid_iff returned).mpr sound] at invalid
        cases invalid
      obtain ⟨decodable', sound'⟩ := reopen_sound d reopened
      obtain ⟨report', returned'⟩ := conformance_returns.mpr decodable'
      refine ⟨report', returned', Bool.eq_false_iff.mpr fun valid' => ?_⟩
      have agreeing := sound'.mp ((report_valid_iff returned').mp valid')
      obtain ⟨decodable, renumberable, free⟩ := (reopen_returns d agreeing).mp ⟨s', reopened⟩
      rcases visible unsound with h | h | h | h
      · exact h decodable
      · exact h renumberable
      · exact h agreeing
      · exact free h

/-- One event, journalled correctly, whose ordinal was then changed from 1 to 7. -/
def tamperedOrdinal : Database Platform.transparent where
  store := { Store.empty with
    authoritySequence := 1
    authorityEvents := [{
      position := 1, epochId := authorityEpoch, epochOrdinal := some 7, predecessorPosition := none
      kind := AuthorityMutationKind.command.value, entityId := "entity", acceptedAt := 0
      payloadSha256 := some (.obj []), payloadJson := .obj [] }]
    authorityEventSubtypes := [{
      authorityPosition := 1, kind := AuthorityMutationKind.command.value, subtypeId := "entity"
      payloadSha256 := .obj [], payloadJson := .obj [] }] }
  events := by simp [Ascending]
  subtypes := by simp

theorem tamperedOrdinal_laundered : ¬ NotLaundered tamperedOrdinal.store := by
  rintro ⟨reported, -⟩
  obtain ⟨report, returned, invalid⟩ := reported _ rfl (by decide) (reopen tamperedOrdinal.store).2 rfl
  have valid : authorityConformance (reopen tamperedOrdinal.store).2 = .ok ⟨true, authorityEpoch, 1, 1, []⟩ := rfl
  cases valid.symm.trans returned
  cases invalid

end SentinelEdge.Storage
