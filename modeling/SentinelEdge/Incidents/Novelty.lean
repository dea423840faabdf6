import SentinelEdge.Incidents.Resolution

/-! # New incidents

Whether a candidate founds an incident is decided by its windows and by the event of
its source; the id of the incident is made of its hazard and of that event alone, or of
rounded numbers. Ids of incidents repeat exactly where two founders agree in these.
-/

namespace SentinelEdge.Incidents.IncidentIdentity

open Domain Foundation Storage

variable {P : Platform} {D : Geodesy}

/-- The resolver takes them for the same incident. -/
def Alike (D : Geodesy) (candidate prior : IncidentCandidate) : Prop :=
  prior.hazard = candidate.hazard ∧ Matches D candidate prior

instance (D : Geodesy) (candidate prior : IncidentCandidate) : Decidable (Alike D candidate prior) :=
  inferInstanceAs (Decidable (_ ∧ _))

/-- The candidates that are like none before them. -/
def founders (D : Geodesy) (seen : List IncidentCandidate) : List IncidentCandidate → List IncidentCandidate
  | [] => []
  | candidate :: later =>
      (if ∀ prior ∈ seen, ¬ Alike D candidate prior then [candidate] else []) ++
        founders D (seen ++ [candidate]) later

/-- The ids of their incidents are made of different texts. -/
def KeysApart (a b : IncidentCandidate) : Prop := ¬ (a.hazard = b.hazard ∧ sourceKey a = sourceKey b)

instance (a b : IncidentCandidate) : Decidable (KeysApart a b) := inferInstanceAs (Decidable (¬ _))

theorem incidentName_eq_iff {a b : IncidentCandidate} :
    incidentName a = incidentName b ↔ a.hazard = b.hazard ∧ sourceKey a = sourceKey b := by
  constructor
  · intro same
    have colon : ":".toList = [':'] := rfl
    unfold incidentName at same
    have texts := congrArg String.toList same
    simp only [String.toList_append, List.append_assoc, colon, List.cons_append, List.nil_append,
      List.append_right_inj] at texts
    have plain : ∀ hazard : HazardKind, ':' ∉ hazard.value.toList := by
      intro hazard
      cases hazard <;> decide
    obtain ⟨values, keys⟩ := split_at_separator (plain a.hazard) (plain b.hazard) texts
    refine ⟨?_, String.toList_injective keys⟩
    revert values
    cases a.hazard <;> cases b.hazard <;> decide
  · intro both
    unfold incidentName
    rw [both.1, both.2]

/-- The decision that a call returns. -/
def returned (D : Geodesy) (s : Store P) (op : Resolution) : List IncidentIdentityDecision :=
  (resolve D op.1 op.2 s).1.toOption.toList

/-- New means new: a new incident has none of the ids before it. -/
def IsNew (earlier later : IncidentIdentityDecision) : Prop := later.outcome = .new → later.incidentId ≠ earlier.incidentId

instance (earlier later : IncidentIdentityDecision) : Decidable (IsNew earlier later) := inferInstanceAs (Decidable (_ → _))

theorem decisionOf_decisionId (candidate : IncidentCandidate) (decidedAt : DateTime) (found : Option (Match P)) :
    (decisionOf P candidate decidedAt found).decisionId = P.uuid5 (decisionName candidate) := by cases found <;> rfl

/-- A stored decision has the id made of its candidate's. -/
theorem Identified.decisionId {s : Store P} (identified : Identified D s) {stored : Stored P IncidentIdentityDecision}
    (held : stored ∈ s.incidentIdentityDecisions) : ∃ row ∈ s.incidentCandidates,
      row.candidate.candidateId = stored.record.candidateId ∧
        stored.record.decisionId = P.uuid5 (decisionName row.candidate) := by
  have listed : stored.record.candidateId ∈ s.incidentCandidates.map (fun row => row.candidate.candidateId) :=
    identified.paired ▸ List.mem_map.mpr ⟨stored, held, rfl⟩
  obtain ⟨row, member, same⟩ := List.mem_map.mp listed
  refine ⟨row, member, same, ?_⟩
  rcases identified.reasoned stored held row member same with new | ⟨prior, -, -, duplicate⟩
  · rw [new, decisionOf_decisionId]
  · rw [duplicate, decisionOf_decisionId]

/-- A candidate whose id is not stored is recorded. -/
theorem Identified.resolve_new {s : Store P} (identified : Identified D s) (op : Resolution)
    (fresh : ∀ row ∈ s.incidentCandidates, row.candidate.candidateId ≠ op.1.candidateId)
    (uuid5 : ∀ row ∈ s.incidentCandidates, P.uuid5 (decisionName row.candidate) ≠ P.uuid5 (decisionName op.1.toIncidentCandidate)) :
    resolve D op.1 op.2 s = (.ok (IncidentIdentity.decided D s op.1 op.2),
      IncidentIdentity.recorded s op.1.toIncidentCandidate (IncidentIdentity.decided D s op.1 op.2)) := by
  have ends := recordIdentityDecision_ends s op.1.toIncidentCandidate (IncidentIdentity.decided D s op.1 op.2)
  rw [← resolve_eq] at ends
  have absent : ∀ stored ∈ s.incidentIdentityDecisions, stored.record.candidateId ≠ op.1.candidateId := by
    intro stored held same
    obtain ⟨row, member, own, -⟩ := identified.decisionId held
    exact fresh row member (own.trans same)
  have unfound : ∀ stored, IncidentIdentity.decisionOn s op.1.candidateId ≠ some stored := by
    intro stored found
    exact absent stored (List.mem_of_find?_eq_some found) (by simpa using List.find?_some found)
  rcases called : resolve D op.1 op.2 s with ⟨result, t⟩
  rw [called] at ends
  cases ends with
  | replayed found => exact absurd found (unfound _)
  | conflicting found => exact absurd found (unfound _)
  | clashing _ taken =>
      rcases taken with ⟨row, member, same⟩ | ⟨stored, held, same | same⟩
      · exact absurd same (fresh row member)
      · obtain ⟨row, member, -, id⟩ := identified.decisionId held
        rw [id, IncidentIdentity.decided, decisionOf_decisionId] at same
        exact absurd same (uuid5 row member)
      · exact absurd (same.trans (decisionOf_candidateId _ _)) (absent stored held)
  | recorded => rfl

/-! ## The incidents of a run -/

/-- The candidates seen so far and the founders among them, beside the store and the
    decisions made of them. -/
structure Told (D : Geodesy) (seen founding : List IncidentCandidate) (x : Store P × List IncidentIdentityDecision) : Prop where
  identified : Identified D x.1
  stored : x.1.incidentCandidates.map CandidateRow.candidate = seen
  rows : ∀ row ∈ x.1.incidentCandidates, ∃ founder ∈ founding, row.incidentId = newIncidentId P founder
  given : ∀ decision ∈ x.2, ∃ founder ∈ founding, decision.incidentId = newIncidentId P founder
  named : ∀ founder ∈ founding, ∃ decision ∈ x.2, decision.incidentId = newIncidentId P founder
  agree : x.2.Pairwise IsNew ↔ founding.Pairwise KeysApart

variable {seen founding : List IncidentCandidate} {x : Store P × List IncidentIdentityDecision}

/-- The search finds nothing exactly for a founder. -/
theorem Told.unmatched_iff (told : Told D seen founding x) (candidate : ValidCandidate) :
    search D candidate.toIncidentCandidate none (incidentCandidates x.1 candidate.hazard) = none ↔
      ∀ prior ∈ seen, ¬ Alike D candidate.toIncidentCandidate prior := by
  rw [search_eq_none_iff, ← told.stored]
  constructor
  · intro unlike prior member alike
    obtain ⟨row, held, rfl⟩ := List.mem_map.mp member
    exact unlike row (mem_incidentCandidates.mpr ⟨held, alike.1⟩) alike.2
  · intro unlike row member same
    obtain ⟨held, hazard⟩ := mem_incidentCandidates.mp member
    exact unlike row.candidate (List.mem_map.mpr ⟨row, held, rfl⟩) ⟨hazard, same⟩

/-- No two of the candidates share the id of their incident or of their decision unless the
    texts these are made of are the same. -/
def UUID5Injective (P : Platform) (candidates : List IncidentCandidate) : Prop :=
  (∀ a ∈ candidates, ∀ b ∈ candidates, newIncidentId P a = newIncidentId P b → incidentName a = incidentName b) ∧
  ∀ a ∈ candidates, ∀ b ∈ candidates, P.uuid5 (decisionName a) = P.uuid5 (decisionName b) → decisionName a = decisionName b

theorem decisionName_injective {a b : IncidentCandidate} (same : decisionName a = decisionName b) :
    a.candidateId = b.candidateId := by
  unfold decisionName at same
  have texts := congrArg String.toList same
  rw [String.toList_append, String.toList_append] at texts
  exact UUID.str_injective (List.append_cancel_left texts)

/-- A founder: the decision is new, and differs in its id from the others exactly when the
    founder's key is apart from all others. -/
theorem Told.found (told : Told D seen founding x) {candidate : ValidCandidate} {decidedAt : DateTime}
    (uuid5 : ∀ founder ∈ founding, newIncidentId P founder = newIncidentId P candidate.toIncidentCandidate →
      incidentName founder = incidentName candidate.toIncidentCandidate) :
    (x.2 ++ [decisionOf P candidate.toIncidentCandidate decidedAt none]).Pairwise IsNew ↔
      (founding ++ [candidate.toIncidentCandidate]).Pairwise KeysApart := by
  simp only [List.pairwise_append, List.pairwise_singleton, true_and, List.mem_singleton, forall_eq, told.agree]
  refine and_congr_right fun _ => ?_
  constructor
  · intro new founder member keys
    obtain ⟨decision, held, id⟩ := told.named founder member
    exact new decision held rfl (by rw [id, decisionOf, newIncidentId, newIncidentId, incidentName_eq_iff.mpr keys])
  · intro apart decision held _ same
    obtain ⟨founder, member, id⟩ := told.given decision held
    exact apart founder member (incidentName_eq_iff.mp (uuid5 founder member (id.symm.trans same.symm)))

/-- A duplicate: its id is that of a founder, and nothing is asked of it. -/
theorem Told.duplicate (told : Told D seen founding x) {candidate : ValidCandidate} {decidedAt : DateTime} {found : Match P} :
    (x.2 ++ [decisionOf P candidate.toIncidentCandidate decidedAt (some found)]).Pairwise IsNew ↔
      founding.Pairwise KeysApart := by
  simp only [List.pairwise_append, List.pairwise_singleton, true_and, List.mem_singleton, forall_eq, told.agree]
  refine and_iff_left ?_
  intro decision _ new
  cases new

theorem Told.step (told : Told D seen founding x) (op : Resolution)
    (fresh : op.1.candidateId ∉ seen.map IncidentCandidate.candidateId)
    (among : ∀ founder ∈ founding, founder ∈ seen) (uuid5 : UUID5Injective P (seen ++ [op.1.toIncidentCandidate])) :
    Told D (seen ++ [op.1.toIncidentCandidate])
      (founding ++ if ∀ prior ∈ seen, ¬ Alike D op.1.toIncidentCandidate prior then [op.1.toIncidentCandidate] else [])
      (traced (IncidentIdentity.step D) (returned D) x op) := by
  have unstored : ∀ row ∈ x.1.incidentCandidates, row.candidate.candidateId ≠ op.1.candidateId := by
    intro row held same
    apply fresh
    rw [← told.stored, List.map_map]
    exact List.mem_map.mpr ⟨row, held, same⟩
  have here : op.1.toIncidentCandidate ∈ seen ++ [op.1.toIncidentCandidate] := by simp
  have before : ∀ row ∈ x.1.incidentCandidates, row.candidate ∈ seen := by
    intro row held
    rw [← told.stored]
    exact List.mem_map.mpr ⟨row, held, rfl⟩
  have called := told.identified.resolve_new op unstored fun row held same =>
    unstored row held (decisionName_injective (uuid5.2 _ (List.mem_append_left _ (before row held)) _ here same))
  have left : traced (IncidentIdentity.step D) (returned D) x op =
      (IncidentIdentity.recorded x.1 op.1.toIncidentCandidate (decided D x.1 op.1 op.2),
        x.2 ++ [decided D x.1 op.1 op.2]) := by
    rw [traced, IncidentIdentity.step, returned, called]
    rfl
  rw [left]
  have identified := told.identified.recorded op.1 op.2 unstored
  have stored : (IncidentIdentity.recorded x.1 op.1.toIncidentCandidate (decided D x.1 op.1 op.2)).incidentCandidates.map
      CandidateRow.candidate = seen ++ [op.1.toIncidentCandidate] := by
    rw [IncidentIdentity.recorded, List.map_append, told.stored]
    rfl
  cases searched : search D op.1.toIncidentCandidate none (incidentCandidates x.1 op.1.hazard) with
  | none =>
      have new : decided D x.1 op.1 op.2 = decisionOf P op.1.toIncidentCandidate op.2 none := by
        rw [decided, searched]
      rw [if_pos ((told.unmatched_iff op.1).mp searched)]
      rw [new] at identified stored ⊢
      refine ⟨identified, stored, ?_, ?_, ?_, ?_⟩
      · intro row held
        cases List.mem_append.mp held with
        | inl old =>
            obtain ⟨founder, member, id⟩ := told.rows row old
            exact ⟨founder, List.mem_append_left _ member, id⟩
        | inr last => exact ⟨op.1.toIncidentCandidate, by simp, by rw [List.mem_singleton.mp last]; rfl⟩
      · intro decision held
        cases List.mem_append.mp held with
        | inl old =>
            obtain ⟨founder, member, id⟩ := told.given decision old
            exact ⟨founder, List.mem_append_left _ member, id⟩
        | inr last => exact ⟨op.1.toIncidentCandidate, by simp, by rw [List.mem_singleton.mp last]; rfl⟩
      · intro founder member
        cases List.mem_append.mp member with
        | inl old =>
            obtain ⟨decision, held, id⟩ := told.named founder old
            exact ⟨decision, List.mem_append_left _ held, id⟩
        | inr last =>
            refine ⟨decisionOf P op.1.toIncidentCandidate op.2 none, by simp, ?_⟩
            rw [List.mem_singleton.mp last]
            rfl
      · exact told.found fun founder member => uuid5.1 founder (List.mem_append_left _ (among founder member)) _ here
  | some found =>
      have duplicate : decided D x.1 op.1 op.2 = decisionOf P op.1.toIncidentCandidate op.2 (some found) := by
        rw [decided, searched]
      have matched : ¬ ∀ prior ∈ seen, ¬ Alike D op.1.toIncidentCandidate prior := by
        rw [← told.unmatched_iff op.1, searched]
        exact Option.some_ne_none found
      obtain ⟨row, member, same⟩ := search_some searched
      obtain ⟨founder, known, id⟩ := told.rows row (mem_incidentCandidates.mp member).1
      have incident : (decisionOf P op.1.toIncidentCandidate op.2 (some found)).incidentId = newIncidentId P founder := by
        rw [decisionOf, same, matchOf_prior, id]
      rw [if_neg matched, List.append_nil]
      rw [duplicate] at identified stored ⊢
      refine ⟨identified, stored, ?_, ?_, ?_, ?_⟩
      · intro row held
        cases List.mem_append.mp held with
        | inl old => exact told.rows row old
        | inr last => exact ⟨founder, known, by rw [List.mem_singleton.mp last]; exact incident⟩
      · intro decision held
        cases List.mem_append.mp held with
        | inl old => exact told.given decision old
        | inr last => exact ⟨founder, known, by rw [List.mem_singleton.mp last]; exact incident⟩
      · intro founder member
        obtain ⟨decision, held, id⟩ := told.named founder member
        exact ⟨decision, List.mem_append_left _ held, id⟩
      · exact told.duplicate

/-- The founders of a run of candidates. -/
theorem Told.run (told : Told D seen founding x) (ops : List Resolution) (among : ∀ founder ∈ founding, founder ∈ seen)
    (distinct : ((seen ++ ops.map (fun op => op.1.toIncidentCandidate)).map IncidentCandidate.candidateId).Nodup)
    (uuid5 : UUID5Injective P (seen ++ ops.map (fun op => op.1.toIncidentCandidate))) :
    Told D (seen ++ ops.map (fun op => op.1.toIncidentCandidate))
      (founding ++ founders D seen (ops.map (fun op => op.1.toIncidentCandidate)))
      (Foundation.run (traced (IncidentIdentity.step D) (returned D)) x ops) := by
  induction ops generalizing seen founding x with
  | nil =>
      rw [List.map_nil, List.append_nil, founders, List.append_nil]
      exact told
  | cons op ops ih =>
      have whole : seen ++ (op :: ops).map (fun op => op.1.toIncidentCandidate) =
          seen ++ [op.1.toIncidentCandidate] ++ ops.map (fun op => op.1.toIncidentCandidate) := by simp
      rw [whole] at distinct uuid5 ⊢
      have fresh : op.1.candidateId ∉ seen.map IncidentCandidate.candidateId := by
        rw [List.map_append, List.map_append] at distinct
        intro member
        exact (List.nodup_append.mp (List.nodup_append.mp distinct).1).2.2 _ member _ (by simp) rfl
      have here : ∀ item ∈ seen ++ [op.1.toIncidentCandidate],
          item ∈ seen ++ [op.1.toIncidentCandidate] ++ ops.map (fun op => op.1.toIncidentCandidate) :=
        fun item member => List.mem_append_left _ member
      have next := told.step op fresh among
        ⟨fun a hereA b hereB => uuid5.1 a (here a hereA) b (here b hereB),
          fun a hereA b hereB => uuid5.2 a (here a hereA) b (here b hereB)⟩
      have among' : ∀ founder ∈ founding ++
          (if ∀ prior ∈ seen, ¬ Alike D op.1.toIncidentCandidate prior then [op.1.toIncidentCandidate] else []),
          founder ∈ seen ++ [op.1.toIncidentCandidate] := by
        intro founder member
        cases List.mem_append.mp member with
        | inl old => exact List.mem_append_left _ (among founder old)
        | inr last =>
            split at last
            · exact List.mem_append_right _ last
            · cases last
      rw [List.map_cons, founders, ← List.append_assoc]
      exact ih next among' distinct uuid5

/-- Every new incident of a run gets a new id exactly when no two founders share their
    hazard and source key. -/
theorem new_incidents_new_iff (P : Platform) (D : Geodesy) (ops : List Resolution)
    (distinct : (ops.map (fun op => op.1.candidateId)).Nodup)
    (uuid5 : UUID5Injective P (ops.map (fun op => op.1.toIncidentCandidate))) :
    (run (traced (step D) (returned D)) (Store.empty (P := P), []) ops).2.Pairwise IsNew ↔
      (founders D [] (ops.map (fun op => op.1.toIncidentCandidate))).Pairwise KeysApart := by
  have start : Told D [] [] (Store.empty (P := P), []) :=
    ⟨Identified.empty, rfl, List.forall_mem_nil _, List.forall_mem_nil _, List.forall_mem_nil _,
      iff_of_true List.Pairwise.nil List.Pairwise.nil⟩
  have told := start.run ops (List.forall_mem_nil _) (by rw [List.nil_append, List.map_map]; exact distinct) uuid5
  exact told.agree

/-- An earthquake of a catalogue, under its event id. -/
def quake (id : Nat) (sourceId : String) (latitude : Int) (sourced : isBlank sourceId = false := by decide)
    (latitudes : -90 ≤ (latitude : ℚ) ∧ (latitude : ℚ) ≤ 90 := by decide +kernel) : ValidCandidate :=
  { smoke id with
    hazard := .earthquake
    latitude := latitude
    longitude := 0
    sourceId := sourceId
    sourceEventId := some "2026-0001"
    latitudes := latitudes
    longitudes := by decide +kernel
    sourced := sourced }

theorem smoke_is_new :
    (run (traced (step meridian) (returned meridian)) (Store.empty (P := Platform.mixing), [])
      [(smoke 1, 5), (smoke 2, 6), (quake 3 "emsc" 41, 7)]).2.Pairwise IsNew :=
  (new_incidents_new_iff Platform.mixing meridian [(smoke 1, 5), (smoke 2, 6), (quake 3 "emsc" 41, 7)] (by decide +kernel)
    (by unfold UUID5Injective; decide +kernel)).mpr (by decide +kernel)

/-- Two catalogues number their events alike. -/
theorem catalogues_share_incident :
    ¬ (run (traced (step meridian) (returned meridian)) (Store.empty (P := Platform.mixing), [])
      [(quake 1 "emsc" 41, 5), (quake 2 "usgs" (-41), 6)]).2.Pairwise IsNew := by
  decide +kernel

end SentinelEdge.Incidents.IncidentIdentity
