import SentinelEdge.Storage.Writes

/-! # What a valid conformance report says

`authority_conformance` walks the joined rows with a running ordinal and the
previous position. `Conforming` states the same walk as a proposition, and a
report is valid exactly when the walk conforms and no subtype row is orphaned.
-/

namespace SentinelEdge.Storage

open Foundation Domain

variable {P : Platform}

/-- The subtype row that belongs to an event with the given payload. -/
def AuthorityEvent.subtype (row : AuthorityEvent P) (payload : Json) : AuthoritySubtype P where
  authorityPosition := row.position
  kind := row.kind
  subtypeId := row.entityId
  payloadSha256 := P.sha256 payload
  payloadJson := row.payloadJson

def subtypeAt (subtypes : List (AuthoritySubtype P)) (position : Int) : Option (AuthoritySubtype P) :=
  subtypes.find? (fun sub => sub.authorityPosition = position)

theorem subtypeAt_position {subtypes : List (AuthoritySubtype P)} {position : Int} {sub : AuthoritySubtype P}
    (found : subtypeAt subtypes position = some sub) : sub.authorityPosition = position := by
  simpa using List.find?_some found

/-- One event with the ordinal and predecessor its place in the journal calls
    for, a payload that hashes to its digest, and the subtype row that mirrors it. -/
structure RowConforms (subtypes : List (AuthoritySubtype P)) (ordinal : Int) (previous : Option Int)
    (row : AuthorityEvent P) (payload : Json) : Prop where
  epoch : row.epochId = authorityEpoch
  ordinal : row.epochOrdinal = some ordinal
  predecessor : row.predecessorPosition = previous
  digest : row.payloadSha256 = some (P.sha256 payload)
  mirrored : subtypeAt subtypes row.position = some (row.subtype payload)

def Conforming (subtypes : List (AuthoritySubtype P)) : Int → Option Int → List (AuthorityEvent P) → Prop
  | _, _, [] => True
  | ordinal, previous, row :: rows =>
      (∃ payload, P.loads row.payloadJson = some payload ∧ RowConforms subtypes ordinal previous row payload) ∧
        Conforming subtypes (ordinal + 1) (some row.position) rows

@[simp] theorem failing_eq_nil {condition : Bool} {code : String} {position : Int} :
    failing condition code position = [] ↔ condition = false := by
  cases condition <;> simp [failing]

theorem reportedOrdinal_eq {ordinal : Int} (positive : 0 < ordinal) (stored : Option Int) :
    reportedOrdinal stored = ordinal ↔ stored = some ordinal := by
  cases stored with
  | none => simp [reportedOrdinal]; omega
  | some n =>
      by_cases zero : n = 0
      · simp [reportedOrdinal, zero]; omega
      · simp [reportedOrdinal, zero]

/-- Every check of the loop passes exactly when the row conforms. -/
theorem eventFailures_eq_nil (subtypes : List (AuthoritySubtype P)) {ordinal : Int} (previous : Option Int)
    (row : AuthorityEvent P) (payload : Json) (positive : 0 < ordinal) :
    eventFailures (subtypeAt subtypes row.position) ordinal previous row (P.sha256 payload) = [] ↔
      RowConforms subtypes ordinal previous row payload := by
  constructor
  · intro clean
    cases found : subtypeAt subtypes row.position with
    | none => simp [eventFailures, found] at clean
    | some sub =>
        simp only [eventFailures, found, List.append_eq_nil_iff, failing_eq_nil, Bool.or_eq_false_iff, ne_eq,
          decide_not, Bool.not_eq_false', decide_eq_true_eq, reportedOrdinal_eq positive] at clean
        obtain ⟨⟨⟨⟨⟨epoch, place⟩, predecessor⟩, kind, entity⟩, digest⟩, hash, text⟩ := clean
        refine ⟨epoch, place, predecessor, digest, ?_⟩
        rw [found]
        rcases sub with ⟨at', subKind, subId, subDigest, subText⟩
        have here : at' = row.position := subtypeAt_position found
        simp only at kind entity hash text
        simp [AuthorityEvent.subtype, here, kind, entity, hash, text]
  · rintro ⟨epoch, place, predecessor, digest, mirrored⟩
    have reads := (reportedOrdinal_eq positive row.epochOrdinal).mpr place
    simp [eventFailures, mirrored, AuthorityEvent.subtype, epoch, reads, predecessor, digest]

theorem checkEvents_clean (subtypes : List (AuthoritySubtype P)) (rows : List (AuthorityEvent P)) {ordinal : Int}
    (previous : Option Int) (positive : 0 < ordinal) :
    (∃ last, checkEvents subtypes ordinal previous rows = .ok ([], last)) ↔
      Conforming subtypes ordinal previous rows := by
  induction rows generalizing ordinal previous with
  | nil => simp [checkEvents, Conforming]
  | cons row rows ih =>
      have rest := ih (some row.position) (show 0 < ordinal + 1 by omega)
      cases decoded : P.loads row.payloadJson with
      | none => simp [checkEvents, Conforming, decoded]
      | some payload =>
          have row_iff := eventFailures_eq_nil subtypes previous row payload positive
          simp only [subtypeAt] at row_iff
          simp only [Conforming, decoded, Option.some.injEq, exists_eq_left', ← rest, ← row_iff]
          cases later : checkEvents subtypes (ordinal + 1) (some row.position) rows with
          | error e => simp [checkEvents, decoded, later]
          | ok found =>
              rcases found with ⟨failures, last⟩
              simp [checkEvents, decoded, later]

/-- The last position of a walk that returns. -/
theorem checkEvents_last {subtypes : List (AuthoritySubtype P)} {rows : List (AuthorityEvent P)} {ordinal : Int}
    {previous last : Option Int} {failures : List String}
    (h : checkEvents subtypes ordinal previous rows = .ok (failures, last)) :
    last = (rows.getLast?.map AuthorityEvent.position).or previous := by
  induction rows generalizing ordinal previous failures with
  | nil => simp_all [checkEvents]
  | cons row rows ih =>
      cases decoded : P.loads row.payloadJson with
      | none => simp [checkEvents, decoded] at h
      | some payload =>
          cases later : checkEvents subtypes (ordinal + 1) (some row.position) rows with
          | error e => simp [checkEvents, decoded, later] at h
          | ok found =>
              rcases found with ⟨more, last'⟩
              simp only [checkEvents, decoded, later, Except.ok.injEq, Prod.mk.injEq] at h
              obtain ⟨-, rfl⟩ := h
              rw [ih later, List.getLast?_cons]
              cases rows.getLast? <;> rfl

/-- A journal the checker accepts. -/
structure Sound (s : Store P) : Prop where
  events : Conforming s.authorityEventSubtypes 1 none s.authorityEvents
  owned : ∀ sub ∈ s.authorityEventSubtypes, ∃ row ∈ s.authorityEvents, row.position = sub.authorityPosition

theorem orphanCount_eq_zero {s : Store P} :
    orphanCount s = 0 ↔
      ∀ sub ∈ s.authorityEventSubtypes, ∃ row ∈ s.authorityEvents, row.position = sub.authorityPosition := by
  simp [orphanCount, List.countP_eq_zero]

/-- `authority_conformance` returns a valid report exactly on a sound journal. -/
theorem conformance_valid_iff {s : Store P} :
    (∃ report, authorityConformance s = .ok report ∧ report.valid = true) ↔ Sound s := by
  have walk := checkEvents_clean s.authorityEventSubtypes s.authorityEvents none Int.one_pos
  cases checked : checkEvents s.authorityEventSubtypes 1 none s.authorityEvents with
  | error e =>
      rw [checked] at walk
      constructor
      · rintro ⟨report, returned, -⟩
        simp [authorityConformance, checked] at returned
      · intro sound
        obtain ⟨last, impossible⟩ := walk.mpr sound.events
        cases impossible
  | ok found =>
      rcases found with ⟨failures, last⟩
      rw [checked] at walk
      have clean : failures = [] ↔ Conforming s.authorityEventSubtypes 1 none s.authorityEvents := by
        rw [← walk]
        simp
      constructor
      · rintro ⟨report, returned, valid⟩
        simp only [authorityConformance, checked, Except.ok.injEq] at returned
        subst returned
        simp only [List.isEmpty_iff, List.append_eq_nil_iff] at valid
        refine ⟨clean.mp valid.1, orphanCount_eq_zero.mp ?_⟩
        by_contra some
        simp [some] at valid
      · rintro ⟨events, owned⟩
        exact ⟨_, by simp only [authorityConformance, checked]; rfl,
          by simp [clean.mpr events, orphanCount_eq_zero.mpr owned]⟩

theorem conformance_of_sound {s : Store P} (sound : Sound s) :
    authorityConformance s = .ok {
      valid := true
      epochId := authorityEpoch
      eventCount := s.authorityEvents.length
      highestContiguousPosition := (s.authorityEvents.getLast?.map AuthorityEvent.position).getD 0
      failures := [] } := by
  obtain ⟨last, clean⟩ := (checkEvents_clean _ _ none Int.one_pos).mpr sound.events
  have final : last = s.authorityEvents.getLast?.map AuthorityEvent.position := by
    simpa using checkEvents_last clean
  simp [authorityConformance, clean, orphanCount_eq_zero.mpr sound.owned, final]

end SentinelEdge.Storage
