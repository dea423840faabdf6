import Mathlib.Data.Rat.Floor
import SentinelEdge.Domain.Timestamp
import SentinelEdge.Foundation.Run
import SentinelEdge.Storage.Writes

/-! # Incident identity

A candidate is set beside all stored candidates of its hazard. The first one with the
same event of the same source decides; otherwise it is the nearest one in space and
time whose windows it falls into. What matches nothing becomes a new incident.
-/

namespace SentinelEdge.Incidents

open Domain Foundation Storage

/-- The numbers of a candidate are in the bounds of its fields. -/
structure ValidCandidate extends IncidentCandidate where
  latitudes : -90 ≤ latitude ∧ latitude ≤ 90 := by decide +kernel
  longitudes : -180 ≤ longitude ∧ longitude ≤ 180 := by decide +kernel
  uncertain : 0 ≤ horizontalUncertaintyM := by decide +kernel
  lasting : 0 < temporalWindowSeconds := by decide +kernel
  spacious : 0 < spatialWindowM := by decide +kernel
  sourced : isBlank sourceId = false := by decide

/-- `_distance_m`, of which only this is relied on: it is no less than zero, and zero
    between equal positions. -/
structure Geodesy where
  distanceM : IncidentCandidate → IncidentCandidate → ℚ
  nonneg : ∀ left right, 0 ≤ distanceM left right
  self : ∀ left right, left.latitude = right.latitude → left.longitude = right.longitude → distanceM left right = 0

/-- `round(q)`: the nearest integer, the even one of two. -/
def roundHalfEven (q : ℚ) : Int :=
  if q - ⌊q⌋ < 1 / 2 then ⌊q⌋
  else if 1 / 2 < q - ⌊q⌋ then ⌊q⌋ + 1
  else if ⌊q⌋ % 2 = 0 then ⌊q⌋ else ⌊q⌋ + 1

/-- `f"{q:.5f}"` -/
def fixed5 (q : ℚ) : String :=
  let scaled := (roundHalfEven (|q| * 100000)).toNat
  (if q < 0 then "-" else "") ++ toString (scaled / 100000) ++ "." ++ String.ofList (Timestamp.digits 5 (scaled % 100000))

example : fixed5 (-7123456 / 1000000) = "-7.12346" := by decide +kernel

/-- `isoformat()` of a time in UTC. -/
def isoformat (t : DateTime) : String := Timestamp.isoformat ⟨t, 0⟩

namespace IncidentIdentity

variable {P : Platform}

/-- The event id of the source, or where and when it was observed. -/
def sourceKey (candidate : IncidentCandidate) : String :=
  if candidate.sourceEventId.getD "" ≠ "" then candidate.sourceEventId.getD ""
  else isoformat candidate.observedAt ++ ":" ++ fixed5 candidate.latitude ++ ":" ++ fixed5 candidate.longitude

def incidentName (candidate : IncidentCandidate) : String :=
  "sentinel-incident-identity:" ++ candidate.hazard.value ++ ":" ++ sourceKey candidate

/-- `_new_incident_id` -/
def newIncidentId (P : Platform) (candidate : IncidentCandidate) : UUID := P.uuid5 (incidentName candidate)

def decisionName (candidate : IncidentCandidate) : String := "sentinel-identity-decision:" ++ candidate.candidateId.str

/-- `incident_candidates(hazard)`, in the order of the texts of both columns. -/
def incidentCandidates (s : Store P) (hazard : HazardKind) : List (CandidateRow P) :=
  (s.incidentCandidates.filter (fun row => row.candidate.hazard = hazard)).insertionSort (fun a b =>
    isoformat a.candidate.observedAt < isoformat b.candidate.observedAt ∨
      isoformat a.candidate.observedAt = isoformat b.candidate.observedAt ∧
        a.candidate.candidateId.str ≤ b.candidate.candidateId.str)

/-- Both name the same event of the same source. -/
def sameSourceEvent (candidate prior : IncidentCandidate) : Bool :=
  candidate.sourceEventId.getD "" ≠ "" && prior.sourceEventId.getD "" ≠ "" && candidate.sourceId = prior.sourceId &&
    candidate.sourceEventId = prior.sourceEventId

def timeDelta (candidate prior : IncidentCandidate) : ℚ := |((candidate.observedAt - prior.observedAt : Int) : ℚ)| / 1000000

def timeLimit (candidate prior : IncidentCandidate) : ℚ := max candidate.temporalWindowSeconds prior.temporalWindowSeconds

def spatialLimit (candidate prior : IncidentCandidate) : ℚ :=
  max candidate.spatialWindowM prior.spatialWindowM + (candidate.horizontalUncertaintyM + prior.horizontalUncertaintyM)

/-- `best` of the search. -/
structure Match (P : Platform) where
  separationM : ℚ
  timeDeltaSeconds : ℚ
  prior : CandidateRow P
  reasons : List String

def sourceMatch (candidate : IncidentCandidate) (row : CandidateRow P) : Match P where
  separationM := 0
  timeDeltaSeconds := timeDelta candidate row.candidate
  prior := row
  reasons := ["same_source_event_id"]

def windowMatch (D : Geodesy) (candidate : IncidentCandidate) (row : CandidateRow P) : Match P where
  separationM := D.distanceM candidate row.candidate
  timeDeltaSeconds := timeDelta candidate row.candidate
  prior := row
  reasons := ["temporal_window_match", "spatial_window_match", "same_hazard"]

def Match.nearer (a b : Match P) : Bool :=
  a.separationM < b.separationM || a.separationM = b.separationM && a.timeDeltaSeconds < b.timeDeltaSeconds

/-- Both windows reach from one to the other. -/
def withinWindows (D : Geodesy) (candidate prior : IncidentCandidate) : Bool :=
  timeDelta candidate prior ≤ timeLimit candidate prior && D.distanceM candidate prior ≤ spatialLimit candidate prior

/-- The better of the best match so far and the one with this row. -/
def better (D : Geodesy) (candidate : IncidentCandidate) (best : Option (Match P)) (row : CandidateRow P) : Option (Match P) :=
  match best with
  | none => some (windowMatch D candidate row)
  | some best => if (windowMatch D candidate row).nearer best then some (windowMatch D candidate row) else some best

/-- The loop over the stored candidates. -/
def search (D : Geodesy) (candidate : IncidentCandidate) (best : Option (Match P)) : List (CandidateRow P) → Option (Match P)
  | [] => best
  | row :: rest =>
      if sameSourceEvent candidate row.candidate then some (sourceMatch candidate row)
      else if withinWindows D candidate row.candidate then search D candidate (better D candidate best row) rest
      else search D candidate best rest

def decisionOf (P : Platform) (candidate : IncidentCandidate) (decidedAt : DateTime) :
    Option (Match P) → IncidentIdentityDecision
  | none => {
      decisionId := P.uuid5 (decisionName candidate)
      candidateId := candidate.candidateId
      incidentId := newIncidentId P candidate
      outcome := .new
      matchedCandidateId := none
      separationM := none
      timeDeltaSeconds := none
      decidedAt := decidedAt
      reasonCodes := ["no_temporal_spatial_duplicate", "hazard_specific_identity"] }
  | some best => {
      decisionId := P.uuid5 (decisionName candidate)
      candidateId := candidate.candidateId
      incidentId := best.prior.incidentId
      outcome := .duplicate
      matchedCandidateId := some best.prior.candidate.candidateId
      separationM := some best.separationM
      timeDeltaSeconds := some best.timeDeltaSeconds
      decidedAt := decidedAt
      reasonCodes := best.reasons }

/-- `resolve`: the clock is read when the decision is built. -/
def resolve (D : Geodesy) (candidate : ValidCandidate) (decidedAt : DateTime) : StoreCall P IncidentIdentityDecision := do
  let priors ← Call.read (fun s => incidentCandidates s candidate.hazard)
  recordIdentityDecision candidate.toIncidentCandidate
    (decisionOf P candidate.toIncidentCandidate decidedAt (search D candidate.toIncidentCandidate none priors))

/-! ## What the search finds -/

variable {D : Geodesy} {candidate : IncidentCandidate} {best : Option (Match P)} {rows : List (CandidateRow P)}

/-- The first row with the same event decides. -/
theorem search_of_source {row : CandidateRow P}
    (found : rows.find? (fun row => sameSourceEvent candidate row.candidate) = some row) :
    search D candidate best rows = some (sourceMatch candidate row) := by
  induction rows generalizing best with
  | nil => cases found
  | cons first rest ih =>
      rw [search]
      split
      · next same =>
          simp only [List.find?_cons, same, Option.some.injEq] at found
          rw [found]
      · next other =>
          rw [Bool.not_eq_true] at other
          simp only [List.find?_cons, other] at found
          split
          · exact ih found
          · exact ih found

/-- Without such a row the rows in reach of the windows are gone through. -/
theorem search_of_windows (others : ∀ row ∈ rows, sameSourceEvent candidate row.candidate = false) :
    search D candidate best rows =
      (rows.filter (fun row => withinWindows D candidate row.candidate)).foldl (better D candidate) best := by
  induction rows generalizing best with
  | nil => rfl
  | cons first rest ih =>
      have later : ∀ row ∈ rest, sameSourceEvent candidate row.candidate = false :=
        fun row member => others row (List.mem_cons_of_mem first member)
      rw [search, others first List.mem_cons_self, if_neg Bool.false_ne_true]
      split
      · next within => simp only [List.filter_cons, within, if_true, List.foldl_cons, ih later]
      · next without => simp only [List.filter_cons, without, Bool.false_eq_true, if_false, ih later]

/-- The two are taken for the same incident. -/
def Matches (D : Geodesy) (candidate prior : IncidentCandidate) : Prop :=
  sameSourceEvent candidate prior = true ∨ withinWindows D candidate prior = true

instance (D : Geodesy) (candidate prior : IncidentCandidate) : Decidable (Matches D candidate prior) :=
  inferInstanceAs (Decidable (_ ∨ _))

theorem better_isSome (row : CandidateRow P) : (better D candidate best row).isSome = true := by
  unfold better
  split
  · rfl
  · split <;> rfl

theorem search_isSome (some : best.isSome = true) : (search D candidate best rows).isSome = true := by
  induction rows generalizing best with
  | nil => exact some
  | cons first rest ih =>
      rw [search]
      split
      · rfl
      · split
        · exact ih (better_isSome first)
        · exact ih some

/-- The search finds nothing exactly when nothing matches. -/
theorem search_eq_none_iff :
    search D candidate none rows = none ↔ ∀ row ∈ rows, ¬ Matches D candidate row.candidate := by
  induction rows with
  | nil => exact iff_of_true rfl (List.forall_mem_nil _)
  | cons first rest ih =>
      rw [search, List.forall_mem_cons, Matches]
      split
      · next same => exact iff_of_false (Option.some_ne_none _) fun none => none.1 (Or.inl same)
      · next other =>
          split
          · next within =>
              have found : (search D candidate (better D candidate none first) rest).isSome = true :=
                search_isSome (better_isSome first)
              refine iff_of_false ?_ fun none => none.1 (Or.inr within)
              intro none
              rw [none] at found
              cases found
          · next without => exact ih.trans (and_iff_right (not_or.mpr ⟨other, without⟩)).symm

/-- The match with a row. -/
def matchOf (D : Geodesy) (candidate : IncidentCandidate) (row : CandidateRow P) : Match P :=
  if sameSourceEvent candidate row.candidate then sourceMatch candidate row else windowMatch D candidate row

theorem matchOf_prior (row : CandidateRow P) : (matchOf D candidate row).prior = row := by
  unfold matchOf
  split <;> rfl

/-- Every match that is found is one with a row of the list. -/
theorem search_some {found : Match P} (searched : search D candidate none rows = some found) :
    ∃ row ∈ rows, found = matchOf D candidate row := by
  have each : ∀ (rest : List (CandidateRow P)) (best : Option (Match P)), (∀ row ∈ rest, row ∈ rows) →
      (∀ m ∈ best, ∃ row ∈ rows, m = matchOf D candidate row) →
      ∀ m ∈ search D candidate best rest, ∃ row ∈ rows, m = matchOf D candidate row := by
    intro rest
    induction rest with
    | nil => exact fun best _ known => known
    | cons first rest ih =>
        intro best among known
        have here : first ∈ rows := among first List.mem_cons_self
        have later : ∀ row ∈ rest, row ∈ rows := fun row member => among row (List.mem_cons_of_mem first member)
        rw [search]
        split
        · next same =>
            rintro m ⟨⟩
            exact ⟨first, here, by rw [matchOf, if_pos same]⟩
        · next other =>
            split
            · refine ih _ later ?_
              intro m improved
              unfold better at improved
              split at improved
              · cases improved
                exact ⟨first, here, by rw [matchOf, if_neg other]⟩
              · split at improved
                · cases improved
                  exact ⟨first, here, by rw [matchOf, if_neg other]⟩
                · exact known m improved
            · exact ih best later known
  exact each rows none (fun _ member => member) (by simp) found searched

theorem timeDelta_nonneg (candidate prior : IncidentCandidate) : 0 ≤ timeDelta candidate prior :=
  div_nonneg (abs_nonneg _) (by norm_num)

/-- The row lies at the place and the time of the candidate. -/
def sameSpot (D : Geodesy) (candidate prior : IncidentCandidate) : Bool :=
  D.distanceM candidate prior = 0 && timeDelta candidate prior = 0

/-- Nothing is nearer than a match without any distance. -/
theorem better_of_sameSpot {row : CandidateRow P} (spot : sameSpot D candidate row.candidate = true) (other : CandidateRow P) :
    better D candidate (some (windowMatch D candidate row)) other = some (windowMatch D candidate row) := by
  simp only [sameSpot, Bool.and_eq_true, decide_eq_true_eq] at spot
  have further : (windowMatch D candidate other).nearer (windowMatch D candidate row) = false := by
    simp only [Match.nearer, windowMatch, spot.1, spot.2, Bool.or_eq_false_iff, Bool.and_eq_false_iff, decide_eq_false_iff_not,
      not_lt]
    exact ⟨D.nonneg _ _, Or.inr (timeDelta_nonneg _ _)⟩
  rw [better, further, if_neg Bool.false_ne_true]

theorem nearer_of_sameSpot {row other : CandidateRow P} (spot : sameSpot D candidate row.candidate = true)
    (away : sameSpot D candidate other.candidate = false) :
    (windowMatch D candidate row).nearer (windowMatch D candidate other) = true := by
  simp only [sameSpot, Bool.and_eq_true, decide_eq_true_eq] at spot
  simp only [sameSpot, Bool.and_eq_false_iff, decide_eq_false_iff_not] at away
  simp only [Match.nearer, windowMatch, spot.1, spot.2, Bool.or_eq_true, Bool.and_eq_true, decide_eq_true_eq]
  by_cases here : D.distanceM candidate other.candidate = 0
  · have later : timeDelta candidate other.candidate ≠ 0 := away.resolve_left (not_not.mpr here)
    exact Or.inr ⟨here.symm, lt_of_le_of_ne (timeDelta_nonneg _ _) later.symm⟩
  · exact Or.inl (lt_of_le_of_ne (D.nonneg _ _) (Ne.symm here))

/-- The first row at the place and the time of the candidate is the nearest one. -/
theorem nearest_of_sameSpot (apart : ∀ m ∈ best, ∃ row, m = windowMatch D candidate row ∧
      sameSpot D candidate row.candidate = false) {row : CandidateRow P}
    (found : rows.find? (fun row => sameSpot D candidate row.candidate) = some row) :
    rows.foldl (better D candidate) best = some (windowMatch D candidate row) := by
  induction rows generalizing best with
  | nil => cases found
  | cons first rest ih =>
      rw [List.foldl_cons]
      cases spot : sameSpot D candidate first.candidate with
      | true =>
          simp only [List.find?_cons, spot, Option.some.injEq] at found
          subst found
          have first' : better D candidate best first = some (windowMatch D candidate first) := by
            cases best with
            | none => rfl
            | some m =>
                obtain ⟨other, rfl, away⟩ := apart m rfl
                rw [better, nearer_of_sameSpot spot away, if_pos rfl]
          rw [first']
          exact List.foldl_fixed' (better_of_sameSpot spot) rest
      | false =>
          simp only [List.find?_cons, spot] at found
          refine ih ?_ found
          intro m improved
          unfold better at improved
          split at improved
          · cases improved
            exact ⟨first, rfl, spot⟩
          · split at improved
            · cases improved
              exact ⟨first, rfl, spot⟩
            · exact apart m improved

end IncidentIdentity

end SentinelEdge.Incidents
