import Mathlib.Data.List.Find
import SentinelEdge.Incidents.Identity

/-! # Resolving a candidate again

A candidate that was resolved is stored, and so it is found by its own search. The
decision built from that search is compared as a whole, with the time it was built,
with the stored one.
-/

namespace SentinelEdge.Incidents.IncidentIdentity

open Domain Foundation Storage

variable {P : Platform} {D : Geodesy} {candidate : IncidentCandidate}

/-- The one has the same event as the other or, when it names no event, lies at the same
    place and time. -/
def coincides (D : Geodesy) (candidate prior : IncidentCandidate) : Bool :=
  if candidate.sourceEventId.getD "" ≠ "" then sameSourceEvent candidate prior else sameSpot D candidate prior

/-- The candidate has passed its own checks. -/
def Valid (candidate : IncidentCandidate) : Prop := ∃ valid : ValidCandidate, valid.toIncidentCandidate = candidate

theorem coincides_self (D : Geodesy) (candidate : IncidentCandidate) : coincides D candidate candidate = true := by
  unfold coincides
  split
  · next named => simp [sameSourceEvent, named]
  · simp [sameSpot, timeDelta, D.self candidate candidate rfl rfl]

theorem withinWindows_of_sameSpot {prior : IncidentCandidate} (valid : Valid candidate) (valid' : Valid prior)
    (spot : sameSpot D candidate prior = true) : withinWindows D candidate prior = true := by
  obtain ⟨candidate, rfl⟩ := valid
  obtain ⟨prior, rfl⟩ := valid'
  simp only [sameSpot, Bool.and_eq_true, decide_eq_true_eq] at spot
  simp only [withinWindows, spot.1, spot.2, Bool.and_eq_true, decide_eq_true_eq]
  exact ⟨candidate.lasting.le.trans (le_max_left _ _),
    add_nonneg (candidate.spacious.le.trans (le_max_left _ _)) (add_nonneg candidate.uncertain prior.uncertain)⟩

/-- The first stored candidate that coincides is the one that is found. -/
theorem search_of_coincides {rows : List (CandidateRow P)} (valid : Valid candidate)
    (valid' : ∀ row ∈ rows, Valid row.candidate) {row : CandidateRow P}
    (found : rows.find? (fun row => coincides D candidate row.candidate) = some row) :
    search D candidate none rows = some (matchOf D candidate row) := by
  by_cases named : candidate.sourceEventId.getD "" ≠ ""
  · simp only [coincides, if_pos named] at found
    have same : sameSourceEvent candidate row.candidate = true := by simpa using List.find?_some found
    rw [search_of_source found, matchOf, if_pos same]
  · simp only [coincides, if_neg named] at found
    have other : ∀ prior, sameSourceEvent candidate prior = false := by
      intro prior
      simp only [sameSourceEvent, named, decide_false, Bool.false_and]
    rw [search_of_windows fun row _ => other row.candidate, matchOf, other, if_neg Bool.false_ne_true]
    refine nearest_of_sameSpot (by simp) ?_
    rw [List.find?_filter, ← found]
    refine List.find?_congr ?_
    intro prior member
    cases spot : sameSpot D candidate prior.candidate with
    | false => simp
    | true => simp [withinWindows_of_sameSpot valid (valid' prior member) spot]

/-! ## What a call does -/

/-- The store with one more candidate and its decision. -/
def recorded (s : Store P) (candidate : IncidentCandidate) (decision : IncidentIdentityDecision) : Store P :=
  { s with
    incidentCandidates := s.incidentCandidates ++ [⟨candidate, decision.incidentId, P.sha256 (candidate.modelDump P)⟩]
    incidentIdentityDecisions := s.incidentIdentityDecisions ++ [⟨decision, P.sha256 (decision.modelDump P)⟩] }

/-- The stored decision on a candidate. -/
def decisionOn (s : Store P) (candidateId : UUID) : Option (Stored P IncidentIdentityDecision) :=
  s.incidentIdentityDecisions.find? (fun row => row.record.candidateId = candidateId)

inductive Records (s : Store P) (candidate : IncidentCandidate) (decision : IncidentIdentityDecision) :
    Except Error IncidentIdentityDecision → Store P → Prop where
  | replayed {stored : Stored P IncidentIdentityDecision} (found : decisionOn s candidate.candidateId = some stored)
      (same : stored.payloadSha256 = P.sha256 (decision.modelDump P)) :
      Records s candidate decision (.ok stored.record) s
  | conflicting {stored : Stored P IncidentIdentityDecision} (found : decisionOn s candidate.candidateId = some stored)
      (different : stored.payloadSha256 ≠ P.sha256 (decision.modelDump P)) :
      Records s candidate decision (.error (.valueError "incident identity decision conflict")) s
  | clashing {e : Error} (absent : decisionOn s candidate.candidateId = none)
      (taken : (∃ row ∈ s.incidentCandidates, row.candidate.candidateId = candidate.candidateId) ∨
        ∃ row ∈ s.incidentIdentityDecisions,
          row.record.decisionId = decision.decisionId ∨ row.record.candidateId = decision.candidateId) :
      Records s candidate decision (.error e) s
  | recorded (absent : decisionOn s candidate.candidateId = none)
      (fresh : ∀ row ∈ s.incidentCandidates, row.candidate.candidateId ≠ candidate.candidateId) :
      Records s candidate decision (.ok decision) (recorded s candidate decision)

theorem recordIdentityDecision_ends (s : Store P) (candidate : IncidentCandidate) (decision : IncidentIdentityDecision) :
    Records s candidate decision (recordIdentityDecision candidate decision s).1
      (recordIdentityDecision candidate decision s).2 := by
  unfold recordIdentityDecision
  cases found : decisionOn s candidate.candidateId with
  | some stored =>
      have body : recordIdentityDecisionBody candidate decision s =
          (if stored.payloadSha256 ≠ P.sha256 (decision.modelDump P) then
            Call.raise (.valueError "incident identity decision conflict") else pure stored.record : StoreCall P _) s := by
        rw [recordIdentityDecisionBody, Call.read_bind]
        rw [decisionOn] at found
        rw [found]
      by_cases same : stored.payloadSha256 = P.sha256 (decision.modelDump P)
      · rw [if_neg (not_not.mpr same)] at body
        rw [Call.atomically_of_ok body]
        exact .replayed found same
      · rw [if_pos same] at body
        rw [Call.atomically_of_error body]
        exact .conflicting found same
  | none =>
      have body : recordIdentityDecisionBody candidate decision s = (do
          Tables.incidentCandidates.insert (.integrityError "incident_candidates")
            ⟨candidate, decision.incidentId, P.sha256 (candidate.modelDump P)⟩
          Tables.incidentIdentityDecisions.insert (.integrityError "incident_identity_decisions")
            ⟨decision, P.sha256 (decision.modelDump P)⟩
          pure decision : StoreCall P _) s := by
        rw [recordIdentityDecisionBody, Call.read_bind]
        rw [decisionOn] at found
        rw [found]
      cases clash : s.incidentCandidates.any (fun row => candidate.candidateId = row.candidate.candidateId) with
      | true =>
          rw [Call.bind_of_error (Table.insert_of_clash clash)] at body
          rw [Call.atomically_of_error body]
          obtain ⟨row, member, same⟩ := List.any_eq_true.mp clash
          exact .clashing found (Or.inl ⟨row, member, (of_decide_eq_true same).symm⟩)
      | false =>
          rw [Call.bind_of_ok (Table.insert_of_fresh clash)] at body
          cases clash' : s.incidentIdentityDecisions.any (fun row => decision.decisionId = row.record.decisionId ||
              decision.candidateId = row.record.candidateId) with
          | true =>
              rw [Call.bind_of_error (Table.insert_of_clash clash')] at body
              rw [Call.atomically_of_error body]
              obtain ⟨row, member, same⟩ := List.any_eq_true.mp clash'
              rw [Bool.or_eq_true, decide_eq_true_eq, decide_eq_true_eq] at same
              exact .clashing found (Or.inr ⟨row, member, same.imp Eq.symm Eq.symm⟩)
          | false =>
              rw [Call.bind_of_ok (Table.insert_of_fresh clash')] at body
              rw [Call.atomically_of_ok body]
              refine .recorded found ?_
              intro row member same
              have other := List.any_eq_false.mp clash row member
              exact other (decide_eq_true same.symm)

/-! ## Stores that resolving leads to -/

/-- What a stored decision says: that its candidate was new, or that it is the same as a
    stored one of its hazard. -/
def Reasoned (D : Geodesy) (s : Store P) (candidate : IncidentCandidate) (decision : IncidentIdentityDecision) : Prop :=
  decision = decisionOf P candidate decision.decidedAt none ∨
    ∃ prior ∈ s.incidentCandidates, prior.candidate.hazard = candidate.hazard ∧
      decision = decisionOf P candidate decision.decidedAt (some (matchOf D candidate prior))

structure Identified (D : Geodesy) (s : Store P) : Prop where
  valid : ∀ row ∈ s.incidentCandidates, Valid row.candidate
  distinct : (s.incidentCandidates.map (fun row => row.candidate.candidateId)).Nodup
  /-- Every decision is on a stored candidate, and every candidate has one. -/
  paired : s.incidentIdentityDecisions.map (fun row => row.record.candidateId) =
    s.incidentCandidates.map (fun row => row.candidate.candidateId)
  digests : ∀ stored ∈ s.incidentIdentityDecisions, stored.payloadSha256 = P.sha256 (stored.record.modelDump P)
  reasoned : ∀ stored ∈ s.incidentIdentityDecisions, ∀ row ∈ s.incidentCandidates,
    row.candidate.candidateId = stored.record.candidateId → Reasoned D s row.candidate stored.record

theorem mem_incidentCandidates {s : Store P} {hazard : HazardKind} {row : CandidateRow P} :
    row ∈ incidentCandidates s hazard ↔ row ∈ s.incidentCandidates ∧ row.candidate.hazard = hazard := by
  rw [incidentCandidates, List.mem_insertionSort, List.mem_filter, decide_eq_true_eq]

theorem decisionOf_candidateId (decidedAt : DateTime) (found : Option (Match P)) :
    (decisionOf P candidate decidedAt found).candidateId = candidate.candidateId := by cases found <;> rfl

theorem decisionOf_decidedAt (decidedAt : DateTime) (found : Option (Match P)) :
    (decisionOf P candidate decidedAt found).decidedAt = decidedAt := by cases found <;> rfl

/-- The decision that `resolve` asks the store to record. -/
def decided (D : Geodesy) (s : Store P) (candidate : ValidCandidate) (decidedAt : DateTime) : IncidentIdentityDecision :=
  decisionOf P candidate.toIncidentCandidate decidedAt
    (search D candidate.toIncidentCandidate none (incidentCandidates s candidate.hazard))

theorem resolve_eq (s : Store P) (candidate : ValidCandidate) (decidedAt : DateTime) :
    resolve D candidate decidedAt s =
      recordIdentityDecision candidate.toIncidentCandidate (decided D s candidate decidedAt) s := by
  rw [resolve, Call.read_bind]
  rfl

theorem decided_reasoned (s : Store P) (candidate : ValidCandidate) (decidedAt : DateTime) :
    Reasoned D s candidate.toIncidentCandidate (decided D s candidate decidedAt) := by
  rw [Reasoned, decided, decisionOf_decidedAt]
  cases searched : search D candidate.toIncidentCandidate none (incidentCandidates s candidate.hazard) with
  | none => exact Or.inl rfl
  | some found =>
      obtain ⟨row, member, rfl⟩ := search_some searched
      obtain ⟨held, hazard⟩ := mem_incidentCandidates.mp member
      exact Or.inr ⟨row, held, hazard, rfl⟩

theorem Reasoned.recorded {s : Store P} {decision : IncidentIdentityDecision} (reasoned : Reasoned D s candidate decision)
    (other : IncidentCandidate) (decision' : IncidentIdentityDecision) :
    Reasoned D (recorded s other decision') candidate decision := by
  cases reasoned with
  | inl new => exact Or.inl new
  | inr duplicate =>
      obtain ⟨prior, held, same⟩ := duplicate
      exact Or.inr ⟨prior, List.mem_append_left _ held, same⟩

theorem Identified.empty : Identified D (Store.empty : Store P) where
  valid := List.forall_mem_nil _
  distinct := List.nodup_nil
  paired := rfl
  digests := List.forall_mem_nil _
  reasoned := List.forall_mem_nil _

theorem Identified.recorded {s : Store P} (identified : Identified D s) (candidate : ValidCandidate) (decidedAt : DateTime)
    (fresh : ∀ row ∈ s.incidentCandidates, row.candidate.candidateId ≠ candidate.candidateId) :
    Identified D (recorded s candidate.toIncidentCandidate (decided D s candidate decidedAt)) := by
  have absent : candidate.candidateId ∉ s.incidentCandidates.map (fun row => row.candidate.candidateId) := by
    intro member
    obtain ⟨row, held, same⟩ := List.mem_map.mp member
    exact fresh row held same
  constructor
  · intro row member
    cases List.mem_append.mp member with
    | inl old => exact identified.valid row old
    | inr new => exact ⟨candidate, by rw [List.mem_singleton.mp new]⟩
  · rw [IncidentIdentity.recorded, List.map_append]
    exact List.nodup_append.mpr ⟨identified.distinct, List.nodup_singleton _, by simpa using fun row held => fresh row held⟩
  · simp only [IncidentIdentity.recorded, List.map_append, identified.paired, List.map_cons, List.map_nil, decided,
      decisionOf_candidateId]
  · intro stored member
    cases List.mem_append.mp member with
    | inl old => exact identified.digests stored old
    | inr new => rw [List.mem_singleton.mp new]
  · intro stored member row held same
    refine Reasoned.recorded ?_ _ _
    cases List.mem_append.mp member with
    | inl old =>
        cases List.mem_append.mp held with
        | inl held => exact identified.reasoned stored old row held same
        | inr new =>
            refine absurd ?_ absent
            rw [← identified.paired]
            rw [List.mem_singleton.mp new] at same
            exact List.mem_map.mpr ⟨stored, old, same.symm⟩
    | inr new =>
        rw [List.mem_singleton.mp new] at same ⊢
        cases List.mem_append.mp held with
        | inl held => exact absurd (same.trans (decisionOf_candidateId _ _)) (fresh row held)
        | inr new =>
            rw [List.mem_singleton.mp new]
            exact decided_reasoned s candidate decidedAt

/-- A candidate and the reading of the clock. -/
abbrev Resolution := ValidCandidate × DateTime

def step (D : Geodesy) (s : Store P) (op : Resolution) : Store P := (resolve D op.1 op.2 s).2

theorem Identified.step {s : Store P} (identified : Identified D s) (op : Resolution) : Identified D (step D s op) := by
  have ends := recordIdentityDecision_ends s op.1.toIncidentCandidate (decided D s op.1 op.2)
  rw [← resolve_eq] at ends
  unfold IncidentIdentity.step
  generalize (resolve D op.1 op.2 s).1 = result at ends
  generalize (resolve D op.1 op.2 s).2 = t at ends
  cases ends with
  | replayed => exact identified
  | conflicting => exact identified
  | clashing => exact identified
  | recorded absent fresh => exact identified.recorded op.1 op.2 fresh

/-- The store after a run of calls. -/
def resolutions (P : Platform) (D : Geodesy) (ops : List Resolution) : Store P := run (step D) Store.empty ops

theorem resolutions_identified (ops : List Resolution) : Identified D (resolutions P D ops) :=
  run_invariant (fun _ op identified => identified.step op) Identified.empty ops

/-! ## Again -/

/-- The time and the match are read off the payload. -/
theorem match_of_modelDump (isoformat : Function.Injective P.isoformat) {d e : IncidentIdentityDecision}
    (same : d.modelDump P = e.modelDump P) : d.decidedAt = e.decidedAt ∧ d.matchedCandidateId = e.matchedCandidateId := by
  simp only [IncidentIdentityDecision.modelDump, Json.obj.injEq, List.cons.injEq, Prod.mk.injEq, Json.str.injEq,
    Dump.time, true_and] at same
  obtain ⟨-, times, -, -, matched, -⟩ := same
  refine ⟨isoformat times, ?_⟩
  cases left : d.matchedCandidateId with
  | none =>
      cases right : e.matchedCandidateId with
      | none => rfl
      | some id => simp [left, right, Json.optional, Dump.uuid] at matched
  | some id =>
      cases right : e.matchedCandidateId with
      | none => simp [left, right, Json.optional, Dump.uuid] at matched
      | some id' =>
          simp only [left, right, Json.optional, Dump.uuid, Json.str.injEq] at matched
          rw [UUID.str_injective (congrArg String.toList matched)]

theorem Identified.decisionOn {s : Store P} (identified : Identified D s) {stored : Stored P IncidentIdentityDecision}
    (held : stored ∈ s.incidentIdentityDecisions) : decisionOn s stored.record.candidateId = some stored := by
  have distinct : (s.incidentIdentityDecisions.map (fun row => row.record.candidateId)).Nodup :=
    identified.paired ▸ identified.distinct
  cases found : IncidentIdentity.decisionOn s stored.record.candidateId with
  | none => exact absurd (List.find?_eq_none.mp found stored held) (by simp)
  | some other =>
      have same : other.record.candidateId = stored.record.candidateId := by simpa using List.find?_some found
      rw [List.inj_on_of_nodup_map distinct (List.mem_of_find?_eq_some found) held same]

/-- A candidate that is stored is found by the search, through the first one it coincides with. -/
theorem Identified.decided {s : Store P} (identified : Identified D s) (candidate : ValidCandidate) {row : CandidateRow P}
    (held : row ∈ s.incidentCandidates) (same : row.candidate = candidate.toIncidentCandidate) (now : DateTime) :
    ∃ first ∈ s.incidentCandidates, first.candidate.hazard = candidate.hazard ∧
      (incidentCandidates s candidate.hazard).find? (fun row => coincides D candidate.toIncidentCandidate row.candidate) =
        some first ∧
      decided D s candidate now =
        decisionOf P candidate.toIncidentCandidate now (some (matchOf D candidate.toIncidentCandidate first)) := by
  have listed : row ∈ incidentCandidates s candidate.hazard :=
    mem_incidentCandidates.mpr ⟨held, by rw [same]⟩
  cases found : (incidentCandidates s candidate.hazard).find? (fun row =>
      coincides D candidate.toIncidentCandidate row.candidate) with
  | none =>
      refine absurd (List.find?_eq_none.mp found row listed) (not_not.mpr ?_)
      rw [same]
      exact coincides_self D _
  | some first =>
      obtain ⟨stored, hazard⟩ := mem_incidentCandidates.mp (List.mem_of_find?_eq_some found)
      refine ⟨first, stored, hazard, rfl, ?_⟩
      rw [IncidentIdentity.decided, search_of_coincides ⟨candidate, rfl⟩ ?_ found]
      intro prior member
      exact identified.valid prior (mem_incidentCandidates.mp member).1

/-- Resolving a stored candidate again returns the stored decision exactly when it was built
    at the same time, of the first stored candidate that coincides with this one. -/
theorem resolve_again_iff (P : Platform) (D : Geodesy) (collisionFree : Function.Injective P.sha256)
    (isoformat : Function.Injective P.isoformat) (ops : List Resolution) (candidate : ValidCandidate)
    {row : CandidateRow P} (resolved : row ∈ (resolutions P D ops).incidentCandidates)
    (same : row.candidate = candidate.toIncidentCandidate)
    {stored : Stored P IncidentIdentityDecision} (decided : stored ∈ (resolutions P D ops).incidentIdentityDecisions)
    (own : stored.record.candidateId = candidate.candidateId) (now : DateTime) :
    resolve D candidate now (resolutions P D ops) = (.ok stored.record, resolutions P D ops) ↔
      now = stored.record.decidedAt ∧
      stored.record.matchedCandidateId =
        ((incidentCandidates (resolutions P D ops) candidate.hazard).find? (fun row =>
          coincides D candidate.toIncidentCandidate row.candidate)).map (fun row => row.candidate.candidateId) := by
  have identified : Identified D (resolutions P D ops) := resolutions_identified ops
  obtain ⟨first, held, hazard, found, again⟩ := identified.decided candidate resolved same now
  have found' := identified.decisionOn decided
  rw [own] at found'
  have ends := recordIdentityDecision_ends (resolutions P D ops) candidate.toIncidentCandidate
    (IncidentIdentity.decided D (resolutions P D ops) candidate now)
  rw [← resolve_eq] at ends
  rw [found, Option.map_some]
  have matched : (IncidentIdentity.decided D (resolutions P D ops) candidate now).matchedCandidateId =
      some first.candidate.candidateId := by
    rw [again, decisionOf, matchOf_prior]
  have time : (IncidentIdentity.decided D (resolutions P D ops) candidate now).decidedAt = now := decisionOf_decidedAt _ _
  rcases returned : resolve D candidate now (resolutions P D ops) with ⟨result, t⟩
  rw [returned] at ends
  cases ends with
  | replayed found'' equal =>
      cases found'.symm.trans found''
      refine iff_of_true rfl ?_
      rw [identified.digests stored decided] at equal
      obtain ⟨times, matches'⟩ := match_of_modelDump isoformat (collisionFree equal)
      exact ⟨time.symm.trans times.symm, matches'.trans matched⟩
  | conflicting found'' different =>
      cases found'.symm.trans found''
      refine iff_of_false (fun equal => by cases congrArg Prod.fst equal) ?_
      rintro ⟨times, matches'⟩
      apply different
      rw [identified.digests stored decided, again]
      suffices equal : stored.record = decisionOf P candidate.toIncidentCandidate now
          (some (matchOf D candidate.toIncidentCandidate first)) by rw [equal]
      have reason := identified.reasoned stored decided row resolved (by rw [same, own])
      rw [same, Reasoned, ← times] at reason
      rcases reason with new | ⟨prior, held', -, duplicate⟩
      · rw [new] at matches'
        cases matches'
      · -- candidate ids are distinct, so the match of both decisions is one candidate
        have ids : prior.candidate.candidateId = first.candidate.candidateId := by
          rw [duplicate, decisionOf, matchOf_prior] at matches'
          exact Option.some.inj matches'
        rw [duplicate, List.inj_on_of_nodup_map identified.distinct held' held ids]
  | clashing absent =>
      rw [found'] at absent
      cases absent
  | recorded absent =>
      rw [found'] at absent
      cases absent

/-- The distance along the meridian and the equator. -/
def meridian : Geodesy where
  distanceM left right := 111195 * (|left.latitude - right.latitude| + |left.longitude - right.longitude|)
  nonneg left right := mul_nonneg (by norm_num) (add_nonneg (abs_nonneg _) (abs_nonneg _))
  self left right latitude longitude := by simp [latitude, longitude]

/-- Smoke that a camera has seen over Porto. -/
def smoke (id : Nat) : ValidCandidate where
  candidateId := UUID.ofNat id
  hazard := .wildfire
  observedAt := 1786615200000000
  latitude := 41
  longitude := -17 / 2
  horizontalUncertaintyM := 0
  temporalWindowSeconds := 300
  spatialWindowM := 1000
  sourceId := "camera"
  sourceEventId := none

theorem mixing_isoformat : Function.Injective Platform.mixing.isoformat :=
  fun _ _ same => integer_injective (congrArg String.toList same)

/-- A duplicate is found again through the candidate it was found to duplicate. -/
theorem duplicate_again :
    ∃ stored ∈ (resolutions Platform.mixing meridian [(smoke 1, 5), (smoke 2, 6)]).incidentIdentityDecisions,
      resolve meridian (smoke 2) 6 (resolutions Platform.mixing meridian [(smoke 1, 5), (smoke 2, 6)]) =
        (.ok stored.record, resolutions Platform.mixing meridian [(smoke 1, 5), (smoke 2, 6)]) := by
  have shape : ∃ row ∈ (resolutions Platform.mixing meridian [(smoke 1, 5), (smoke 2, 6)]).incidentCandidates,
      row.candidate = (smoke 2).toIncidentCandidate := by decide +kernel
  have decided : ∃ stored ∈ (resolutions Platform.mixing meridian [(smoke 1, 5), (smoke 2, 6)]).incidentIdentityDecisions,
      stored.record.candidateId = (smoke 2).candidateId ∧ 6 = stored.record.decidedAt ∧
      stored.record.matchedCandidateId = ((incidentCandidates (resolutions Platform.mixing meridian
        [(smoke 1, 5), (smoke 2, 6)]) (smoke 2).hazard).find? (fun row =>
          coincides meridian (smoke 2).toIncidentCandidate row.candidate)).map (fun row => row.candidate.candidateId) := by
    decide +kernel
  obtain ⟨row, resolved, same⟩ := shape
  obtain ⟨stored, held, own, first⟩ := decided
  exact ⟨stored, held, (resolve_again_iff Platform.mixing meridian (fun _ _ same => same) mixing_isoformat _ (smoke 2)
    resolved same held own 6).mpr first⟩

/-- A new incident conflicts with itself, even while the clock stands. -/
theorem new_again_conflicts :
    ∃ stored ∈ (resolutions Platform.mixing meridian [(smoke 1, 5)]).incidentIdentityDecisions,
      (resolve meridian (smoke 1) 5 (resolutions Platform.mixing meridian [(smoke 1, 5)])).1.toOption ≠
        some stored.record := by
  decide +kernel

end SentinelEdge.Incidents.IncidentIdentity
