import Mathlib.Algebra.BigOperators.Group.List.Basic
import SentinelEdge.Evidence.Deletion

/-! # The trust snapshot

The band of a snapshot is read off two sums that know nothing of each other: the
eligible links of the incident, counted one by one, and the independence units of
all its stored items, linked or not. Links that repeat one voice therefore pass for
corroboration as soon as anything else is stored beside it.
-/

namespace SentinelEdge.Evidence

open Foundation Domain Storage EvidenceTrustService

variable {P : Platform} {s : Store P} {incidentId : UUID} {now : DateTime}

structure TrustDimensionSnapshot where
  incidentId : UUID
  sourceStandingCounts : List (String × Nat)
  mediaIntegrityCounts : List (String × Nat)
  extractionConfidenceCounts : List (String × Nat)
  freshnessCounts : List (String × Nat)
  evidenceFamilies : Nat
  independenceUnits : Nat
  supportingLinks : Nat
  contradictoryLinks : Nat
  invalidatedLinks : Nat
  unresolvedClaims : Nat
  formulaVersion : String := "sentinel-trust-factors-v1"
  summaryBand : String
  reasonCodes : List String
  deriving DecidableEq, Repr

/-- `dict(sorted(Counter(values).items()))` -/
def sortedCounts (values : List String) : List (String × Nat) := (sortedSet values).map (fun value => (value, values.count value))

/-- `sum(item.independence_units for item in families)` -/
def independenceUnits (families : List EvidenceFamilySummary) : Nat := (families.map EvidenceFamilySummary.independenceUnits).sum

def summaryBand (items : List EvidenceItem) (links : List ClaimEvidenceLink) (counts : LinkCounts) (units : Nat) : String :=
  if items.isEmpty then "no_evidence"
  else if counts.contradictory ≠ 0 then "contested"
  else if units ≥ 2 && counts.supporting ≥ 2 then "corroborated"
  else if counts.supporting ≠ 0 then "supported_single_family"
  else if counts.invalidated ≠ 0 && !links.isEmpty then "historical_evidence_not_currently_eligible"
  else "unlinked_evidence"

/-- The reasons of a snapshot, before they are sorted. -/
def snapshotReasons (items : List EvidenceItem) (counts : LinkCounts) : List String :=
  (if counts.contradictory ≠ 0 then ["unresolved_contradictions_present"] else []) ++
  (if counts.invalidated ≠ 0 then ["evidence_links_invalidated_by_lifecycle"] else []) ++
  (if items.any (fun item => item.mediaIntegrity = .manipulationSuspect) then ["manipulation_suspect_evidence_present"]
    else []) ++
  (if items.any (fun item => item.extractionConfidenceState = .unknown || item.extractionConfidenceState = .low) then
    ["extraction_uncertainty_present"] else []) ++
  (if items.any (fun item => item.sourceStanding = .unknown) then ["unknown_source_standing_present"] else []) ++
  (if items.isEmpty then ["no_evidence"] else [])

def trustSnapshot (s : Store P) (incidentId : UUID) (now : DateTime) : Except Error TrustDimensionSnapshot :=
  let items := s.evidence incidentId
  let links := s.claimLinks incidentId
  match families s incidentId with
  | .error e => .error e
  | .ok families => match countLinks s now links ⟨0, 0, 0⟩ with
      | .error e => .error e
      | .ok counts => .ok {
          incidentId := incidentId
          sourceStandingCounts := sortedCounts (items.map (fun item => item.sourceStanding.value))
          mediaIntegrityCounts := sortedCounts (items.map (fun item => item.mediaIntegrity.value))
          extractionConfidenceCounts := sortedCounts (items.map (fun item => item.extractionConfidenceState.value))
          freshnessCounts := sortedCounts (items.map (fun item => item.freshnessState.value))
          evidenceFamilies := families.length
          independenceUnits := independenceUnits families
          supportingLinks := counts.supporting
          contradictoryLinks := counts.contradictory
          invalidatedLinks := counts.invalidated
          unresolvedClaims := (s.claims incidentId).countP (fun claim => claim.status = "open")
          summaryBand := summaryBand items links counts (independenceUnits families)
          reasonCodes := (snapshotReasons items counts).insertionSort (fun a b => a ≤ b) }

/-! ## The links that count -/

/-- The item of the link may back a claim now. -/
def isEligible (s : Store P) (now : DateTime) (evidenceId : UUID) : Bool :=
  match s.lifecycleProjection evidenceId now with
  | .ok projection => projection.claimEligible
  | .error _ => false

/-- The link counts on the side of `relation`. -/
def countsAs (s : Store P) (now : DateTime) (relation : ClaimEvidenceRelation) (link : ClaimEvidenceLink) : Bool :=
  isEligible s now link.evidenceId && link.relation = relation

/-- The loop over the links counts each side. -/
theorem countLinks_eq {links : List ClaimEvidenceLink} {counts result : LinkCounts}
    (counted : countLinks s now links counts = .ok result) :
    result.supporting = counts.supporting + links.countP (countsAs s now .supports) ∧
      result.contradictory = counts.contradictory + links.countP (countsAs s now .contradicts) := by
  induction links generalizing counts with
  | nil =>
      cases counted
      exact ⟨rfl, rfl⟩
  | cons link links ih =>
      unfold countLinks at counted
      cases projected : s.lifecycleProjection link.evidenceId now with
      | error e =>
          rw [projected] at counted
          cases counted
      | ok projection =>
          rw [projected] at counted
          obtain ⟨supporting, contradictory⟩ := ih counted
          rw [supporting, contradictory, List.countP_cons, List.countP_cons]
          have eligible : isEligible s now link.evidenceId = projection.claimEligible := by
            rw [isEligible, projected]
          cases decision : projection.claimEligible with
          | false => simp [LinkCounts.count, decision, countsAs, eligible]
          | true =>
              cases relation : link.relation <;>
                simp [LinkCounts.count, decision, countsAs, eligible, relation] <;> omega

/-! ## The units of the families -/

theorem groupByFamily_nonempty {items : List EvidenceItem} {grouped result : Dict String (List EvidenceItem)}
    (nonempty : ∀ family members, grouped.get? family = some members → members ≠ [])
    (call : groupByFamily items grouped = .ok result) :
    ∀ family members, result.get? family = some members → members ≠ [] := by
  induction items generalizing grouped with
  | nil =>
      cases call
      exact nonempty
  | cons item items ih =>
      unfold groupByFamily at call
      cases known : item.familyId with
      | none =>
          rw [known] at call
          cases call
      | some label =>
          rw [known] at call
          refine ih ?_ call
          intro family members found
          rw [Dict.get?_insert] at found
          split at found
          · cases found
            simp
          · exact nonempty family members found

/-- One unit a family, and one for every proven origin in it. -/
theorem independenceUnits_summarize (incidentId : UUID) (entries : List (String × List EvidenceItem)) :
    independenceUnits (entries.map (fun entry => summarize incidentId entry.1 entry.2)) =
      entries.length + (entries.map (fun entry => entry.2.countP EvidenceItem.independentOriginProven)).sum := by
  induction entries with
  | nil => rfl
  | cons entry entries ih =>
      simp only [independenceUnits, List.map_cons, List.sum_cons, List.length_cons, summarize] at ih ⊢
      omega

/-- Two families or an origin of its own make two units, and nothing else does. -/
theorem two_units_iff (labelled : ∀ item ∈ s.evidence incidentId, item.familyId.isSome = true) :
    ∃ summaries, families s incidentId = .ok summaries ∧ (2 ≤ independenceUnits summaries ↔
      (∃ a ∈ s.evidence incidentId, ∃ b ∈ s.evidence incidentId, a.familyId ≠ b.familyId) ∨
        ∃ item ∈ s.evidence incidentId, item.independentOriginProven = true) := by
  obtain ⟨grouped, call, reads⟩ := groupByFamily_apply labelled Dict.empty
  have filled := groupByFamily_nonempty (by simp [Dict.get?, Dict.empty]) call
  have lists : ∀ family members, (family, members) ∈ grouped.items →
      members = (s.evidence incidentId).filter (fun item => item.familyId = some family) := by
    intro family members listed
    have read := reads family
    rw [Dict.get?_eq_some_iff.mpr listed] at read
    exact read
  have listed : ∀ item ∈ s.evidence incidentId, ∃ family members, item.familyId = some family ∧
      (family, members) ∈ grouped.items ∧ item ∈ members := by
    intro item member
    obtain ⟨family, known⟩ := Option.isSome_iff_exists.mp (labelled item member)
    have read := reads family
    cases found : grouped.get? family with
    | none =>
        have absent : item ∉ (s.evidence incidentId).filter (fun item => item.familyId = some family) := by
          rw [found] at read
          intro inside
          have empty : (s.evidence incidentId).filter (fun item => item.familyId = some family) = [] := read.symm
          rw [empty] at inside
          cases inside
        exact absurd (List.mem_filter.mpr ⟨member, by simp [known]⟩) absent
    | some members =>
        have here := Dict.get?_eq_some_iff.mp found
        refine ⟨family, members, known, here, ?_⟩
        rw [lists family members here]
        exact List.mem_filter.mpr ⟨member, by simp [known]⟩
  refine ⟨(grouped.items.insertionSort (fun a b => a.1 ≤ b.1)).map (fun entry => summarize incidentId entry.1 entry.2),
    by simp only [families, call], ?_⟩
  have units : independenceUnits ((grouped.items.insertionSort (fun a b => a.1 ≤ b.1)).map
      (fun entry => summarize incidentId entry.1 entry.2)) =
      grouped.items.length + (grouped.items.map (fun entry => entry.2.countP EvidenceItem.independentOriginProven)).sum := by
    rw [← independenceUnits_summarize incidentId]
    exact (((List.perm_insertionSort _ grouped.items).map _).map _).sum_eq
  rw [units]
  constructor
  · intro enough
    by_cases proven : ∃ item ∈ s.evidence incidentId, item.independentOriginProven = true
    · exact .inr proven
    · refine .inl ?_
      have none : (grouped.items.map (fun entry => entry.2.countP EvidenceItem.independentOriginProven)).sum = 0 := by
        rw [List.sum_eq_zero_iff_forall_eq_nat]
        intro count member
        obtain ⟨⟨family, members⟩, here, rfl⟩ := List.mem_map.mp member
        rw [List.countP_eq_zero]
        intro item inside proof
        rw [lists family members here] at inside
        exact proven ⟨item, (List.mem_filter.mp inside).1, proof⟩
      rw [none, Nat.add_zero] at enough
      obtain ⟨⟨first, ones⟩, hereA, ⟨second, others⟩, hereB, apart⟩ := (Dict.two_le_length_iff grouped).mp enough
      have member : ∀ family members, (family, members) ∈ grouped.items →
          ∃ item ∈ s.evidence incidentId, item.familyId = some family := by
        intro family members here
        obtain ⟨item, inside⟩ := List.exists_mem_of_ne_nil members (filled family members (Dict.get?_eq_some_iff.mpr here))
        rw [lists family members here] at inside
        obtain ⟨stored, label⟩ := List.mem_filter.mp inside
        exact ⟨item, stored, of_decide_eq_true label⟩
      obtain ⟨a, storedA, labelA⟩ := member first ones hereA
      obtain ⟨b, storedB, labelB⟩ := member second others hereB
      refine ⟨a, storedA, b, storedB, ?_⟩
      rw [labelA, labelB]
      simpa using apart
  · rintro (⟨a, storedA, b, storedB, differ⟩ | ⟨item, stored, proof⟩)
    · obtain ⟨first, ones, labelA, hereA, -⟩ := listed a storedA
      obtain ⟨second, others, labelB, hereB, -⟩ := listed b storedB
      have two := (Dict.two_le_length_iff grouped).mpr ⟨_, hereA, _, hereB, fun same =>
        differ (by rw [labelA, labelB, show first = second from same])⟩
      omega
    · obtain ⟨family, members, -, here, inside⟩ := listed item stored
      have one : 0 < members.countP EvidenceItem.independentOriginProven := List.countP_pos_iff.mpr ⟨item, inside, proof⟩
      have total : (grouped.items.map (fun entry => entry.2.countP EvidenceItem.independentOriginProven)).sum ≠ 0 := by
        intro zero
        have nobody := List.sum_eq_zero_iff_forall_eq_nat.mp zero _ (List.mem_map.mpr ⟨_, here, rfl⟩)
        exact absurd nobody (Nat.ne_of_gt one)
      have some : 0 < grouped.items.length := List.length_pos_of_mem here
      omega

/-! ## What corroboration should mean -/

/-- A stored item that may back claims now and is linked in support of a claim of
    the incident. -/
structure Supports (s : Store P) (incidentId : UUID) (now : DateTime) (item : EvidenceItem) : Prop where
  stored : item ∈ s.allEvidence
  eligible : isEligible s now item.evidenceId = true
  linked : ∃ link ∈ s.claimLinks incidentId, link.evidenceId = item.evidenceId ∧ link.relation = .supports

/-- Two items support claims of the incident, from different families or both of
    proven origin. -/
def Corroborated (s : Store P) (incidentId : UUID) (now : DateTime) : Prop :=
  ∃ a b, Supports s incidentId now a ∧ Supports s incidentId now b ∧ a.evidenceId ≠ b.evidenceId ∧
    (a.familyId ≠ b.familyId ∨ (a.independentOriginProven = true ∧ b.independentOriginProven = true))

/-- Every eligible supporting link leads into one family, to at most one item of
    proven origin, while the incident stores something beside it. -/
structure EchoesOneFamily (s : Store P) (incidentId : UUID) (now : DateTime) : Prop where
  uncontested : (s.claimLinks incidentId).countP (countsAs s now .contradicts) = 0
  repeated : 2 ≤ (s.claimLinks incidentId).countP (countsAs s now .supports)
  oneFamily : ∃ family, ∀ item, Supports s incidentId now item → item.familyId = family
  oneOrigin : ∀ a b, Supports s incidentId now a → Supports s incidentId now b → a.independentOriginProven = true →
    b.independentOriginProven = true → a.evidenceId = b.evidenceId
  beside : (∃ a ∈ s.evidence incidentId, ∃ b ∈ s.evidence incidentId, a.familyId ≠ b.familyId) ∨
    ∃ item ∈ s.evidence incidentId, item.independentOriginProven = true

theorem summaryBand_corroborated_iff {items : List EvidenceItem} {links : List ClaimEvidenceLink} {counts : LinkCounts}
    {units : Nat} : summaryBand items links counts units = "corroborated" ↔
      items ≠ [] ∧ counts.contradictory = 0 ∧ 2 ≤ units ∧ 2 ≤ counts.supporting := by
  unfold summaryBand
  cases items with
  | nil => simp
  | cons item items =>
      by_cases contested : counts.contradictory = 0
      · by_cases enough : 2 ≤ units ∧ 2 ≤ counts.supporting
        · simp [contested, enough]
        · have fails : (decide (units ≥ 2) && decide (counts.supporting ≥ 2)) = false := by simpa using enough
          rw [fails]
          simp only [contested, enough, and_false, iff_false]
          simp only [List.isEmpty_cons, Bool.false_eq_true, if_false, ne_eq, not_true_eq_false]
          split
          · decide
          · split <;> decide
      · simp [contested]

/-- In a lawful store the snapshot is taken, and its band is a matter of the two sums. -/
theorem trustSnapshot_band (lawful : Lawful s) (incidentId : UUID) (now : DateTime) :
    ∃ snapshot, trustSnapshot s incidentId now = .ok snapshot ∧ (snapshot.summaryBand = "corroborated" ↔
      (s.claimLinks incidentId).countP (countsAs s now .contradicts) = 0 ∧
      2 ≤ (s.claimLinks incidentId).countP (countsAs s now .supports) ∧
      ((∃ a ∈ s.evidence incidentId, ∃ b ∈ s.evidence incidentId, a.familyId ≠ b.familyId) ∨
        ∃ item ∈ s.evidence incidentId, item.independentOriginProven = true)) := by
  have labelled : ∀ item ∈ s.evidence incidentId, item.familyId.isSome = true := by
    intro item member
    obtain ⟨row, stored, rfl⟩ := List.mem_map.mp (mem_evidence.mp member).1
    exact lawful.kept.assigned row stored
  obtain ⟨summaries, called, units⟩ := two_units_iff labelled
  obtain ⟨counts, counted⟩ := countLinks_returns lawful now (lawful.links_stored incidentId) ⟨0, 0, 0⟩
  obtain ⟨supporting, contradictory⟩ := countLinks_eq counted
  refine ⟨_, by simp only [trustSnapshot, called, counted]; rfl, ?_⟩
  rw [summaryBand_corroborated_iff, units, supporting, contradictory, Nat.zero_add, Nat.zero_add]
  constructor
  · rintro ⟨-, uncontested, beside, repeated⟩
    exact ⟨uncontested, repeated, beside⟩
  · rintro ⟨uncontested, repeated, beside⟩
    refine ⟨?_, uncontested, beside, repeated⟩
    intro empty
    rw [empty] at beside
    simp at beside

/-- An eligible supporting link leads to a supporter. -/
theorem Lawful.supporter (lawful : Lawful s) {link : ClaimEvidenceLink} (member : link ∈ s.claimLinks incidentId)
    (counts : countsAs s now .supports link = true) :
    ∃ item, Supports s incidentId now item ∧ item.evidenceId = link.evidenceId := by
  simp only [countsAs, Bool.and_eq_true, decide_eq_true_eq] at counts
  obtain ⟨row, stored, own⟩ := lawful.links_stored incidentId link member
  refine ⟨row.record, ⟨?_, own ▸ counts.1, link, member, own.symm, counts.2⟩, own⟩
  exact Store.mem_allEvidence.mpr (List.mem_map_of_mem stored)

theorem Lawful.same_item (lawful : Lawful s) {a b : EvidenceItem} (storedA : a ∈ s.allEvidence) (storedB : b ∈ s.allEvidence)
    (same : a.evidenceId = b.evidenceId) : a = b := by
  obtain ⟨rowA, memberA, rfl⟩ := List.mem_map.mp (Store.mem_allEvidence.mp storedA)
  obtain ⟨rowB, memberB, rfl⟩ := List.mem_map.mp (Store.mem_allEvidence.mp storedB)
  rw [lawful.kept.unique rowA memberA rowB memberB same]

/-- In every reachable state a snapshot says "corroborated" only where two
    independent items support the incident, unless all supporting links echo one
    family beside other evidence. -/
theorem corroboration_is_true_iff (P : Platform) (collisionFree : Function.Injective P.sha256)
    (artifacts : ContentAddressedArtifactStore P) (attached : Bool) (ops : List (SystemOperation P)) (incidentId : UUID)
    (now : DateTime) :
    let s := (EvidenceSystem.run artifacts attached ops).store
    (∀ snapshot, trustSnapshot s incidentId now = .ok snapshot → snapshot.summaryBand = "corroborated" →
      Corroborated s incidentId now) ↔ ¬ EchoesOneFamily s incidentId now := by
  intro s
  have lawful : Lawful s := run_lawful collisionFree artifacts attached ops
  obtain ⟨snapshot, taken, band⟩ := trustSnapshot_band lawful incidentId now
  constructor
  · intro truthful echoes
    have claimed := band.mpr ⟨echoes.uncontested, echoes.repeated, echoes.beside⟩
    obtain ⟨a, b, supportsA, supportsB, distinct, families | ⟨provenA, provenB⟩⟩ := truthful snapshot taken claimed
    · obtain ⟨family, all⟩ := echoes.oneFamily
      exact families ((all a supportsA).trans (all b supportsB).symm)
    · exact distinct (echoes.oneOrigin a b supportsA supportsB provenA provenB)
  · intro noEcho other taken' claimed
    rw [taken, Except.ok.injEq] at taken'
    rw [← taken'] at claimed
    obtain ⟨uncontested, repeated, beside⟩ := band.mp claimed
    by_contra alone
    have apart : ∀ a b, Supports s incidentId now a → Supports s incidentId now b → a.evidenceId ≠ b.evidenceId →
        a.familyId = b.familyId ∧ ¬ (a.independentOriginProven = true ∧ b.independentOriginProven = true) := by
      intro a b supportsA supportsB distinct
      constructor
      · by_contra differ
        exact alone ⟨a, b, supportsA, supportsB, distinct, .inl differ⟩
      · intro proven
        exact alone ⟨a, b, supportsA, supportsB, distinct, .inr proven⟩
    obtain ⟨link, member, counts⟩ := List.countP_pos_iff.mp (Nat.lt_of_lt_of_le Nat.zero_lt_two repeated)
    obtain ⟨first, supports, -⟩ := lawful.supporter member counts
    refine noEcho ⟨uncontested, repeated, ⟨first.familyId, ?_⟩, ?_, beside⟩
    · intro item supports'
      by_cases same : item.evidenceId = first.evidenceId
      · rw [lawful.same_item supports'.stored supports.stored same]
      · exact (apart item first supports' supports same).1
    · intro a b supportsA supportsB provenA provenB
      by_contra distinct
      exact (apart a b supportsA supportsB distinct).2 ⟨provenA, provenB⟩

/-- A claim about the ridge fire. -/
def smokeClaim (claimId : Nat) : ClaimNode where
  claimId := UUID.ofNat claimId
  incidentId := UUID.ofNat 1
  hazard := .wildfire
  statement := "Smoke stands over the ridge"
  origin := .source
  lineage := []
  modelId := none
  createdAt := 3
  status := "open"
  reasonCodes := []

/-- A report is linked in support of a claim. -/
def support (linkId claimId evidenceId : Nat) : ClaimEvidenceLink where
  linkId := UUID.ofNat linkId
  claimId := UUID.ofNat claimId
  evidenceId := UUID.ofNat evidenceId
  relation := .supports
  createdAt := 4
  reasonCodes := []

/-- Two reports of different families and two claims, linked as given. -/
def linkedReports (links : List ClaimEvidenceLink) : Store Platform.hexadecimal :=
  (EvidenceSystem.run shelf false ([openRidgeFire, .ingest {} (report 1 'a' "post-1") (UUID.ofNat 101) 1,
    .ingest {} (report 2 'b' "post-2") (UUID.ofNat 102) 2, .createClaim (smokeClaim 31), .createClaim (smokeClaim 32)] ++
    links.map .link)).store

/-- Both reports support the claim. -/
theorem both_reports_corroborate :
    (trustSnapshot (linkedReports [support 41 31 1, support 42 31 2]) (UUID.ofNat 1) 9).toOption.map
      TrustDimensionSnapshot.summaryBand = some "corroborated" ∧
    Corroborated (linkedReports [support 41 31 1, support 42 31 2]) (UUID.ofNat 1) 9 := by
  have claimed : (trustSnapshot (linkedReports [support 41 31 1, support 42 31 2]) (UUID.ofNat 1) 9).toOption.map
      TrustDimensionSnapshot.summaryBand = some "corroborated" := by decide +kernel
  refine ⟨claimed, ?_⟩
  cases taken : trustSnapshot (linkedReports [support 41 31 1, support 42 31 2]) (UUID.ofNat 1) 9 with
  | error e =>
      rw [taken] at claimed
      cases claimed
  | ok snapshot =>
      rw [taken] at claimed
      refine (corroboration_is_true_iff Platform.hexadecimal (fun _ _ same => same) shelf false _ (UUID.ofNat 1) 9).mpr ?_
        snapshot taken (Option.some.inj claimed)
      intro echoes
      have voices : ∃ a ∈ (linkedReports [support 41 31 1, support 42 31 2]).allEvidence,
          ∃ b ∈ (linkedReports [support 41 31 1, support 42 31 2]).allEvidence, a.familyId ≠ b.familyId ∧
            ∀ item ∈ [a, b], isEligible (linkedReports [support 41 31 1, support 42 31 2]) 9 item.evidenceId = true ∧
              ∃ link ∈ (linkedReports [support 41 31 1, support 42 31 2]).claimLinks (UUID.ofNat 1),
                link.evidenceId = item.evidenceId ∧ link.relation = .supports := by decide +kernel
      obtain ⟨a, storedA, b, storedB, differ, heard⟩ := voices
      obtain ⟨family, all⟩ := echoes.oneFamily
      have familyA := all a ⟨storedA, (heard a (by simp)).1, (heard a (by simp)).2⟩
      have familyB := all b ⟨storedB, (heard b (by simp)).1, (heard b (by simp)).2⟩
      exact differ (familyA.trans familyB.symm)

/-- One report supports both claims, the other none: the band is the same. -/
theorem repeated_report_passes_for_corroboration :
    (trustSnapshot (linkedReports [support 41 31 1, support 42 32 1]) (UUID.ofNat 1) 9).toOption.map
      TrustDimensionSnapshot.summaryBand = some "corroborated" ∧
    ¬ Corroborated (linkedReports [support 41 31 1, support 42 32 1]) (UUID.ofNat 1) 9 := by
  refine ⟨by decide +kernel, ?_⟩
  rintro ⟨a, b, supportsA, supportsB, distinct, -⟩
  have first : ∀ link ∈ (linkedReports [support 41 31 1, support 42 32 1]).claimLinks (UUID.ofNat 1),
      link.evidenceId = UUID.ofNat 1 := by decide +kernel
  obtain ⟨linkA, memberA, ownA, -⟩ := supportsA.linked
  obtain ⟨linkB, memberB, ownB, -⟩ := supportsB.linked
  exact distinct (by rw [← ownA, ← ownB, first linkA memberA, first linkB memberB])

end SentinelEdge.Evidence

/-! ## The evidence graph of an incident

Everything the journal store holds about the evidence of an incident, and what is
derived from it, as one document with one digest.
-/

namespace SentinelEdge.Evidence

open Foundation Domain Storage EvidenceTrustService

variable {P : Platform}

def EvidenceFamilySummary.modelDump (f : EvidenceFamilySummary) : Json := .obj [
  ("evidence_ids", .arr (f.evidenceIds.map Dump.uuid)),
  ("exact_duplicates", .int f.exactDuplicates),
  ("family_id", .str f.familyId),
  ("incident_id", Dump.uuid f.incidentId),
  ("independence_units", .int f.independenceUnits),
  ("independent_origins", .int f.independentOrigins),
  ("near_duplicates", .int f.nearDuplicates),
  ("origin_keys", Dump.texts f.originKeys)]

/-- The dictionary `claim_reconciliation` returns. -/
def ClaimReconciliation.document (r : ClaimReconciliation) : Json := .obj [
  ("active_contradictory_links", .int r.activeContradictoryLinks),
  ("active_supporting_links", .int r.activeSupportingLinks),
  ("historical_link_count", .int r.historicalLinkCount),
  ("history_rewritten", .bool r.historyRewritten),
  ("incident_id", Dump.uuid r.incidentId),
  ("invalidated_links", .int r.invalidatedLinks)]

def dumpCounts (counts : List (String × Nat)) : Json := .obj (counts.map (fun count => (count.1, .int count.2)))

def TrustDimensionSnapshot.modelDump (t : TrustDimensionSnapshot) : Json := .obj [
  ("contradictory_links", .int t.contradictoryLinks),
  ("evidence_families", .int t.evidenceFamilies),
  ("extraction_confidence_counts", dumpCounts t.extractionConfidenceCounts),
  ("formula_version", .str t.formulaVersion),
  ("freshness_counts", dumpCounts t.freshnessCounts),
  ("incident_id", Dump.uuid t.incidentId),
  ("independence_units", .int t.independenceUnits),
  ("invalidated_links", .int t.invalidatedLinks),
  ("media_integrity_counts", dumpCounts t.mediaIntegrityCounts),
  ("reason_codes", Dump.texts t.reasonCodes),
  ("source_standing_counts", dumpCounts t.sourceStandingCounts),
  ("summary_band", .str t.summaryBand),
  ("supporting_links", .int t.supportingLinks),
  ("unresolved_claims", .int t.unresolvedClaims)]

/-- `evidence_lifecycle_events(incident_id=...)` -/
def incidentLifecycleEvents (s : Store P) (incidentId : UUID) : List EvidenceLifecycleEvent :=
  ((s.evidenceLifecycleEvents.map Stored.record).filter (fun e => e.incidentId = incidentId)).insertionSort
    (fun a b => P.isoformat a.createdAt < P.isoformat b.createdAt ∨
      (P.isoformat a.createdAt = P.isoformat b.createdAt ∧ a.lifecycleEventId.str ≤ b.lifecycleEventId.str))

/-- `graph_digest` with the clock at `now`. -/
def graphDigest (s : Store P) (incidentId : UUID) (now : DateTime) : Except Error String := do
  let families ← families s incidentId
  let reconciliation ← claimReconciliation s incidentId now
  let trust ← trustSnapshot s incidentId now
  .ok (P.hexdigest (P.sha256 (.obj [
    ("claims", .arr ((s.claims incidentId).map (ClaimNode.modelDump P))),
    ("evidence", .arr ((s.evidence incidentId).map (EvidenceItem.modelDump P))),
    ("families", .arr (families.map EvidenceFamilySummary.modelDump)),
    ("lifecycle", .arr ((incidentLifecycleEvents s incidentId).map (EvidenceLifecycleEvent.modelDump P))),
    ("links", .arr ((s.claimLinks incidentId).map (ClaimEvidenceLink.modelDump P))),
    ("reconciliation", reconciliation.document),
    ("trust", trust.modelDump)])))

end SentinelEdge.Evidence
