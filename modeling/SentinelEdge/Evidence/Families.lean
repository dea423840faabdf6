import SentinelEdge.Evidence.Service
import SentinelEdge.Foundation.Grouping
import SentinelEdge.Storage.Reopen

/-! # Families follow the direct matches

An item that bridges two families joins one of them and leaves the other, and an
item that matches nothing may find its own family name taken. Where neither
happens, two items share a family exactly if a chain of direct matches connects
them, whatever the order of arrival.
-/

namespace SentinelEdge.Evidence

open Foundation Domain Storage

variable {P : Platform} {s : Store P} {incidentId : UUID}

theorem matchesDirectly_comm (a b : EvidenceItem) : matchesDirectly P a b = matchesDirectly P b a := by
  unfold matchesDirectly
  rw [Bool.eq_iff_iff]
  simp only [Bool.or_eq_true, Bool.and_eq_true, decide_eq_true_eq]
  constructor <;> rintro (((same | ⟨⟨left, right⟩, same⟩) | same) | (parent | parent)) <;> simp_all

/-- An item as it was handed in, whatever family it may name. -/
def bare (item : EvidenceItem) : EvidenceItem := { item with familyId := none }

theorem bare_evidenceId (item : EvidenceItem) : (bare item).evidenceId = item.evidenceId := rfl

/-- The families of an incident: its items and their labels. -/
def entries (s : Store P) (incidentId : UUID) : Set (EvidenceItem × Option String) :=
  { entry | ∃ item ∈ s.evidence incidentId, entry = (bare item, item.familyId) }

/-- Two items share a family exactly if a chain of direct matches connects them. -/
def FollowsMatches (P : Platform) (entries : Set (EvidenceItem × Option String)) : Prop :=
  Grouped (fun a b => matchesDirectly P a b = true) entries

theorem mem_evidence {item : EvidenceItem} :
    item ∈ s.evidence incidentId ↔ item ∈ s.evidenceItems.map Stored.record ∧ item.incidentId = incidentId := by
  simp [Store.evidence, List.mem_insertionSort, List.mem_filter]

/-! ## What ingesting does to the table -/

/-- The row `ingest` would store. -/
def assigned (s : Store P) (item : EvidenceItem) : EvidenceItem :=
  { item with familyId := some (familyFor P (s.evidence item.incidentId) item) }

/-- Both gates are open and the item is not stored yet. -/
structure Admits (service : EvidenceTrustService) (s : Store P) (item : EvidenceItem) : Prop where
  allowed : service.processingAllowed item = .ok true
  current : EvidenceTrustService.targetsIncident s item = true
  unstored : ∀ row ∈ s.evidenceItems, row.record.evidenceId ≠ item.evidenceId

theorem appendAuthority_evidenceItems {s s' : Store P} {kind : AuthorityMutationKind} {entityId : String}
    {acceptedAt : DateTime} {payload : Json} {position : Int}
    (appended : appendAuthority kind entityId acceptedAt payload s = (.ok position, s')) :
    s'.evidenceItems = s.evidenceItems := by
  obtain ⟨-, rfl, -⟩ := appendAuthority_ok appended
  rfl

theorem recordEvidenceLifecycleLocked_evidenceItems {s s' : Store P} {event result : EvidenceLifecycleEvent}
    (recorded : recordEvidenceLifecycleLocked event s = (.ok result, s')) : s'.evidenceItems = s.evidenceItems := by
  simp only [recordEvidenceLifecycleLocked, Call.read_bind] at recorded
  cases known : s.evidenceLifecycleEvents.find? (fun row => row.record.lifecycleEventId = event.lifecycleEventId) with
  | some row =>
      rw [known] at recorded
      simp only at recorded
      split at recorded <;> cases recorded
      rfl
  | none =>
      rw [known] at recorded
      simp only [Call.read_bind] at recorded
      split at recorded
      · cases recorded
      · obtain ⟨position, s₁, appended, rest⟩ := Call.bind_ok.mp recorded
        obtain ⟨_, s₂, inserted, done⟩ := Call.bind_ok.mp rest
        obtain ⟨-, rfl⟩ := Table.insert_ok inserted
        cases done
        have kept := appendAuthority_evidenceItems appended
        exact kept

/-- Recording leaves the table alone or adds the row of a new item. -/
theorem recordEvidence_evidenceItems (item : EvidenceItem) (lifecycleEventId : UUID) (s : Store P) :
    (recordEvidence item lifecycleEventId s).2.evidenceItems = s.evidenceItems ∨
      (∀ row ∈ s.evidenceItems, row.record.evidenceId ≠ item.evidenceId) ∧
        (recordEvidence item lifecycleEventId s).2.evidenceItems =
          s.evidenceItems ++ [⟨item, P.sha256 (item.modelDump P)⟩] := by
  rcases call : recordEvidence item lifecycleEventId s with ⟨result, s'⟩
  unfold recordEvidence at call
  split at call
  · cases call
    exact .inl rfl
  · cases result with
    | error e => exact .inl (by rw [Call.atomically_error call])
    | ok value =>
        have body := Call.atomically_ok.mp call
        simp only [recordEvidenceBody, Call.read_bind] at body
        cases known : s.evidenceItems.find? (fun row => row.record.evidenceId = item.evidenceId) with
        | some row =>
            rw [known] at body
            simp only at body
            split at body
            · cases body
            · cases body
              exact .inl rfl
        | none =>
            rw [known] at body
            obtain ⟨position, s₁, appended, rest⟩ := Call.bind_ok.mp body
            obtain ⟨_, s₂, inserted, rest⟩ := Call.bind_ok.mp rest
            obtain ⟨_, s₃, registered, done⟩ := Call.bind_ok.mp rest
            obtain ⟨-, rfl⟩ := Table.insert_ok inserted
            cases done
            refine .inr ⟨?_, ?_⟩
            · intro row member
              simpa using List.find?_eq_none.mp known row member
            · rw [recordEvidenceLifecycleLocked_evidenceItems registered]
              simp only [Tables.evidenceItems]
              rw [appendAuthority_evidenceItems appended]

/-- The same behind the artifact catalog. -/
theorem registered_evidenceItems (registered : Except Error Unit) (item : EvidenceItem) (lifecycleEventId : UUID)
    (s : Store P) :
    ((Call.lift registered >>= fun _ => recordEvidence item lifecycleEventId) s).2.evidenceItems = s.evidenceItems ∨
      (∀ row ∈ s.evidenceItems, row.record.evidenceId ≠ item.evidenceId) ∧
        ((Call.lift registered >>= fun _ => recordEvidence item lifecycleEventId) s).2.evidenceItems =
          s.evidenceItems ++ [⟨item, P.sha256 (item.modelDump P)⟩] := by
  cases registered with
  | error e =>
      rw [Call.bind_of_error (Call.lift_apply _ _)]
      exact .inl rfl
  | ok _ =>
      rw [Call.bind_of_ok (Call.lift_apply _ _)]
      exact recordEvidence_evidenceItems item lifecycleEventId s

theorem ingest_evidenceItems (service : EvidenceTrustService) (item : EvidenceItem) (lifecycleEventId : UUID)
    (s : Store P) :
    (service.ingest item lifecycleEventId s).2.evidenceItems = s.evidenceItems ∨
      Admits service s item ∧ (service.ingest item lifecycleEventId s).2.evidenceItems =
        s.evidenceItems ++ [⟨assigned s item, P.sha256 ((assigned s item).modelDump P)⟩] := by
  unfold EvidenceTrustService.ingest
  cases allowed : service.processingAllowed item with
  | error e =>
      rw [Call.bind_of_error (Call.lift_apply _ _)]
      exact .inl rfl
  | ok verdict =>
      rw [Call.bind_of_ok (Call.lift_apply _ _)]
      cases verdict with
      | false => exact .inl rfl
      | true =>
          simp only [Bool.not_true, Bool.false_eq_true, if_false, Call.read_bind]
          cases current : EvidenceTrustService.targetsIncident s item with
          | false => exact .inl rfl
          | true =>
              simp only [Bool.not_true, Bool.false_eq_true, if_false, Call.read_bind]
              have outcome := registered_evidenceItems (service.registerArtifact (assigned s item)) (assigned s item)
                lifecycleEventId s
              exact outcome.imp_right (fun ⟨unstored, added⟩ => ⟨⟨allowed, current, unstored⟩, added⟩)

/-! ## Joining a family -/

/-- All stored items an admitted item matches are in one family, and if it matches
    none, no stored item of the incident carries the family named after it. -/
structure JoinsOneFamily (s : Store P) (item : EvidenceItem) : Prop where
  shared : ∀ prior ∈ s.evidence item.incidentId, ∀ other ∈ s.evidence item.incidentId,
    matchesDirectly P prior item = true → matchesDirectly P other item = true → prior.familyId = other.familyId
  unused : (∀ prior ∈ s.evidence item.incidentId, matchesDirectly P prior item = false) →
    ∀ prior ∈ s.evidence item.incidentId, prior.familyId ≠ some (seedFamily P item)

instance (s : Store P) (item : EvidenceItem) : Decidable (JoinsOneFamily s item) :=
  decidable_of_iff
    ((∀ prior ∈ s.evidence item.incidentId, ∀ other ∈ s.evidence item.incidentId,
      matchesDirectly P prior item = true → matchesDirectly P other item = true → prior.familyId = other.familyId) ∧
    ((∀ prior ∈ s.evidence item.incidentId, matchesDirectly P prior item = false) →
      ∀ prior ∈ s.evidence item.incidentId, prior.familyId ≠ some (seedFamily P item)))
    ⟨fun both => ⟨both.1, both.2⟩, fun joins => ⟨joins.shared, joins.unused⟩⟩

/-- The table as `ingest` keeps it. -/
structure Kept (s : Store P) : Prop where
  unique : ∀ a ∈ s.evidenceItems, ∀ b ∈ s.evidenceItems, a.record.evidenceId = b.record.evidenceId → a = b
  assigned : ∀ row ∈ s.evidenceItems, row.record.familyId.isSome = true

/-- The family of an item that matches some stored one is that one's. -/
theorem familyFor_of_match (kept : Kept s) {item prior : EvidenceItem} (joins : JoinsOneFamily s item)
    (member : prior ∈ s.evidence item.incidentId) (related : matchesDirectly P prior item = true) :
    prior.familyId = some (familyFor P (s.evidence item.incidentId) item) := by
  cases found : (s.evidence item.incidentId).find? (fun prior => matchesDirectly P prior item) with
  | none =>
      have absent := List.find?_eq_none.mp found prior member
      exact absurd related absent
  | some first =>
      have memberFirst := List.mem_of_find?_eq_some found
      have relatedFirst : matchesDirectly P first item = true := by simpa using List.find?_some found
      rw [joins.shared prior member first memberFirst related relatedFirst]
      obtain ⟨row, inTable, rfl⟩ := List.mem_map.mp (mem_evidence.mp memberFirst).1
      obtain ⟨family, labelled⟩ := Option.isSome_iff_exists.mp (kept.assigned row inTable)
      simp [familyFor, found, labelled]

theorem familyFor_of_no_match {existing : List EvidenceItem} {item : EvidenceItem}
    (unmatched : ∀ prior ∈ existing, matchesDirectly P prior item = false) :
    familyFor P existing item = seedFamily P item := by
  have none : existing.find? (fun prior => matchesDirectly P prior item) = none := by
    apply List.find?_eq_none.mpr
    intro prior member
    simp [unmatched prior member]
  simp [familyFor, none]

/-- The condition on an item is the one under which its label fits the groups. -/
theorem joins_iff (kept : Kept s) (item : EvidenceItem) :
    Joins (fun a b => matchesDirectly P a b = true) (entries s item.incidentId) (bare item)
      (some (familyFor P (s.evidence item.incidentId) item)) ↔ JoinsOneFamily s item := by
  constructor
  · intro joins
    have label : ∀ prior ∈ s.evidence item.incidentId, matchesDirectly P prior item = true →
        prior.familyId = some (familyFor P (s.evidence item.incidentId) item) := by
      intro prior member related
      rw [matchesDirectly_comm] at related
      exact joins.shared (bare prior) prior.familyId ⟨prior, member, rfl⟩ related
    refine ⟨?_, ?_⟩
    · intro prior member other memberOther related relatedOther
      rw [label prior member related, label other memberOther relatedOther]
    · intro unmatched prior member carried
      rcases joins.found with ⟨y, ⟨known, memberKnown, same⟩, related⟩ | unused
      · obtain ⟨rfl, -⟩ := Prod.mk.inj same
        have clash := unmatched known memberKnown
        rw [matchesDirectly_comm] at clash
        exact absurd (related.symm.trans clash) (by decide)
      · apply unused (bare prior)
        rw [familyFor_of_no_match unmatched]
        exact ⟨prior, member, by rw [carried]⟩
  · intro joins
    refine ⟨?_, ?_⟩
    · rintro y other ⟨prior, member, same⟩ related
      obtain ⟨rfl, rfl⟩ := Prod.mk.inj same
      rw [matchesDirectly_comm] at related
      exact familyFor_of_match kept joins member related
    · by_cases unmatched : ∀ prior ∈ s.evidence item.incidentId, matchesDirectly P prior item = false
      · refine .inr (fun y carried => ?_)
        obtain ⟨prior, member, same⟩ := carried
        rw [familyFor_of_no_match unmatched] at same
        exact joins.unused unmatched prior member (Prod.mk.inj same).2.symm
      · simp only [not_forall, Bool.not_eq_false] at unmatched
        obtain ⟨prior, member, related⟩ := unmatched
        refine .inl ⟨bare prior, ⟨prior, member, ?_⟩, ?_⟩
        · rw [familyFor_of_match kept joins member related]
        · rw [matchesDirectly_comm]
          exact related

/-! ## Runs -/

/-- An item that is admitted joins one family. -/
def FamilyFits (s : Store P) : Operation P → Prop
  | .ingest service item _ => Admits service s item → JoinsOneFamily s item
  | .elsewhere _ => True

/-- The table of a run and the groups in it. -/
structure Sound (s : Store P) : Prop where
  kept : Kept s
  follows : ∀ incidentId, FollowsMatches P (entries s incidentId)

theorem entries_congr {s' : Store P} (same : s'.evidenceItems = s.evidenceItems) (incidentId : UUID) :
    entries s' incidentId = entries s incidentId := by
  simp only [entries, Store.evidence, same]

section Added

variable {s' : Store P} {item : EvidenceItem} {digest : P.Digest}

theorem mem_evidence_added (added : s'.evidenceItems = s.evidenceItems ++ [⟨item, digest⟩]) {other : EvidenceItem} :
    other ∈ s'.evidence incidentId ↔ other ∈ s.evidence incidentId ∨ other = item ∧ item.incidentId = incidentId := by
  rw [mem_evidence, mem_evidence, added, List.map_append, List.mem_append, List.map_singleton, List.mem_singleton]
  constructor
  · rintro ⟨old | rfl, here⟩
    · exact .inl ⟨old, here⟩
    · exact .inr ⟨rfl, here⟩
  · rintro (⟨old, here⟩ | ⟨rfl, here⟩)
    · exact ⟨.inl old, here⟩
    · exact ⟨.inr rfl, here⟩

theorem entries_added (added : s'.evidenceItems = s.evidenceItems ++ [⟨item, digest⟩]) :
    entries s' item.incidentId = insert (bare item, item.familyId) (entries s item.incidentId) := by
  ext entry
  simp only [entries, Set.mem_ofPred_eq, mem_evidence_added added, Set.mem_insert_iff]
  constructor
  · rintro ⟨other, old | ⟨rfl, -⟩, rfl⟩
    · exact .inr ⟨other, old, rfl⟩
    · exact .inl rfl
  · rintro (rfl | ⟨other, old, rfl⟩)
    · exact ⟨item, .inr ⟨rfl, trivial⟩, rfl⟩
    · exact ⟨other, .inl old, rfl⟩

theorem entries_added_elsewhere (added : s'.evidenceItems = s.evidenceItems ++ [⟨item, digest⟩])
    (elsewhere : item.incidentId ≠ incidentId) : entries s' incidentId = entries s incidentId := by
  ext entry
  simp only [entries, Set.mem_ofPred_eq, mem_evidence_added added, elsewhere, and_false, or_false]

theorem Kept.added (kept : Kept s) (added : s'.evidenceItems = s.evidenceItems ++ [⟨item, digest⟩])
    (unstored : ∀ row ∈ s.evidenceItems, row.record.evidenceId ≠ item.evidenceId)
    (labelled : item.familyId.isSome = true) : Kept s' := by
  refine ⟨?_, ?_⟩
  · rw [added]
    intro a memberA b memberB same
    rcases List.mem_append.mp memberA with oldA | newA <;> rcases List.mem_append.mp memberB with oldB | newB
    · exact kept.unique a oldA b oldB same
    · rw [List.mem_singleton.mp newB] at same
      exact absurd same (unstored a oldA)
    · rw [List.mem_singleton.mp newA] at same
      exact absurd same.symm (unstored b oldB)
    · rw [List.mem_singleton.mp newA, List.mem_singleton.mp newB]
  · rw [added]
    intro row member
    rcases List.mem_append.mp member with old | new
    · exact kept.assigned row old
    · rw [List.mem_singleton.mp new]
      exact labelled

end Added

theorem Kept.congr {s' : Store P} (kept : Kept s) (same : s'.evidenceItems = s.evidenceItems) : Kept s' := by
  refine ⟨?_, ?_⟩ <;> rw [same]
  · exact kept.unique
  · exact kept.assigned

theorem bare_fresh {item : EvidenceItem} (unstored : ∀ row ∈ s.evidenceItems, row.record.evidenceId ≠ item.evidenceId) :
    bare item ∉ members (entries s item.incidentId) := by
  rintro ⟨label, prior, member, same⟩
  obtain ⟨row, inTable, rfl⟩ := List.mem_map.mp (mem_evidence.mp member).1
  have ids := congrArg EvidenceItem.evidenceId (Prod.mk.inj same).1
  exact unstored row inTable ids.symm

theorem matches_symmetric {a b : EvidenceItem} (related : matchesDirectly P a b = true) : matchesDirectly P b a = true := by
  rw [matchesDirectly_comm]
  exact related

/-- Storing an item keeps the groups right exactly if the item joins one family. -/
theorem follows_iff (sound : Sound s) {s' : Store P} {item : EvidenceItem} {digest : P.Digest}
    (added : s'.evidenceItems = s.evidenceItems ++ [⟨assigned s item, digest⟩])
    (unstored : ∀ row ∈ s.evidenceItems, row.record.evidenceId ≠ item.evidenceId) :
    (∀ incidentId, FollowsMatches P (entries s' incidentId)) ↔ JoinsOneFamily s item := by
  have here : entries s' item.incidentId = insert (bare item,
      some (familyFor P (s.evidence item.incidentId) item)) (entries s item.incidentId) := entries_added added
  have fresh := bare_fresh unstored
  rw [← joins_iff sound.kept item]
  constructor
  · intro follows
    have grouped := follows item.incidentId
    rw [FollowsMatches, here] at grouped
    exact grouped.joins fresh
  · intro joins incidentId
    by_cases same : item.incidentId = incidentId
    · subst same
      rw [FollowsMatches, here]
      exact (sound.follows item.incidentId).insert matches_symmetric fresh joins
    · rw [entries_added_elsewhere added same]
      exact sound.follows incidentId

theorem Sound.step {op : Operation P} (fits : FamilyFits s op) (sound : Sound s) : Sound (step s op) := by
  cases op with
  | elsewhere store =>
      have same : (Evidence.step s (.elsewhere store)).evidenceItems = s.evidenceItems := rfl
      refine ⟨sound.kept.congr same, fun incidentId => ?_⟩
      rw [entries_congr same]
      exact sound.follows incidentId
  | ingest service item lifecycleEventId =>
      rcases ingest_evidenceItems service item lifecycleEventId s with same | ⟨admits, added⟩
      · refine ⟨sound.kept.congr same, fun incidentId => ?_⟩
        have unchanged := entries_congr same incidentId
        rw [Evidence.step, unchanged]
        exact sound.follows incidentId
      · refine ⟨sound.kept.added added admits.unstored rfl, ?_⟩
        exact (follows_iff sound added admits.unstored).mpr (fits admits)

theorem Sound.empty : Sound (Store.empty : Store P) := by
  refine ⟨⟨?_, ?_⟩, ?_⟩
  · simp [Store.empty]
  · simp [Store.empty]
  · intro incidentId a la b lb memberA
    obtain ⟨item, stored, -⟩ := memberA
    simp [Store.evidence, Store.empty] at stored

theorem run_sound {ops : List (Operation P)} (meets : Meets step FamilyFits Store.empty ops) : Sound (run ops) :=
  meets.invariant (fun _ _ fits sound => sound.step fits) Sound.empty

/-! ## Reading the families back -/

theorem groupByFamily_apply {items : List EvidenceItem} (labelled : ∀ item ∈ items, item.familyId.isSome = true)
    (grouped : Dict String (List EvidenceItem)) :
    ∃ result, groupByFamily items grouped = .ok result ∧ ∀ family,
      (result.get? family).getD [] =
        (grouped.get? family).getD [] ++ items.filter (fun item => item.familyId = some family) := by
  induction items generalizing grouped with
  | nil => exact ⟨grouped, rfl, by simp⟩
  | cons item items ih =>
      obtain ⟨label, known⟩ := Option.isSome_iff_exists.mp (labelled item List.mem_cons_self)
      obtain ⟨result, call, reads⟩ := ih (fun other member => labelled other (List.mem_cons_of_mem _ member))
        (grouped.insert label ((grouped.get? label).getD [] ++ [item]))
      refine ⟨result, ?_, fun family => ?_⟩
      · rw [groupByFamily, known]
        exact call
      · rw [reads, Dict.get?_insert, List.filter_cons]
        by_cases same : family = label
        · simp [same, known]
        · simp [same, known, Ne.symm same]

/-- The two ids stand in one family of the incident. -/
def Together (s : Store P) (incidentId x y : UUID) : Prop :=
  ∃ summaries, families s incidentId = .ok summaries ∧
    ∃ summary ∈ summaries, x ∈ summary.evidenceIds ∧ y ∈ summary.evidenceIds

theorem together_iff (kept : Kept s) (x y : UUID) : Together s incidentId x y ↔
    ∃ a ∈ s.evidence incidentId, ∃ b ∈ s.evidence incidentId,
      a.evidenceId = x ∧ b.evidenceId = y ∧ a.familyId = b.familyId := by
  have labelled : ∀ item ∈ s.evidence incidentId, item.familyId.isSome = true := by
    intro item member
    obtain ⟨row, inTable, rfl⟩ := List.mem_map.mp (mem_evidence.mp member).1
    exact kept.assigned row inTable
  obtain ⟨grouped, call, reads⟩ := groupByFamily_apply labelled Dict.empty
  have lists : ∀ family, (grouped.get? family).getD [] =
      (s.evidence incidentId).filter (fun item => item.familyId = some family) := by
    intro family
    rw [reads]
    rfl
  have returned : families s incidentId = .ok ((grouped.items.insertionSort (fun a b => a.1 ≤ b.1)).map
      (fun entry => summarize incidentId entry.1 entry.2)) := by
    simp only [families, call]
  simp only [Together, returned, Except.ok.injEq, exists_eq_left', List.mem_map, List.mem_insertionSort]
  constructor
  · rintro ⟨_, ⟨⟨family, items⟩, listed, rfl⟩, inX, inY⟩
    have here : items = (s.evidence incidentId).filter (fun item => item.familyId = some family) := by
      rw [← lists, Dict.get?_eq_some_iff.mpr listed]
      rfl
    simp only [summarize, here, List.mem_map, List.mem_filter, decide_eq_true_eq] at inX inY
    obtain ⟨a, ⟨memberA, familyA⟩, rfl⟩ := inX
    obtain ⟨b, ⟨memberB, familyB⟩, rfl⟩ := inY
    exact ⟨a, memberA, b, memberB, rfl, rfl, familyA.trans familyB.symm⟩
  · rintro ⟨a, memberA, b, memberB, rfl, rfl, same⟩
    obtain ⟨family, familyA⟩ := Option.isSome_iff_exists.mp (labelled a memberA)
    have inA : a ∈ (grouped.get? family).getD [] := by
      rw [lists]
      simp [memberA, familyA]
    have inB : b ∈ (grouped.get? family).getD [] := by
      rw [lists]
      simp [memberB, ← same, familyA]
    cases found : grouped.get? family with
    | none => simp [found] at inA
    | some items =>
        rw [found] at inA inB
        exact ⟨_, ⟨(family, items), Dict.get?_eq_some_iff.mp found, rfl⟩, List.mem_map_of_mem inA, List.mem_map_of_mem inB⟩

/-- The items of the incident as they were handed in. -/
def handedIn (s : Store P) (incidentId : UUID) : List EvidenceItem := (s.evidence incidentId).map bare

theorem members_entries (s : Store P) (incidentId : UUID) :
    members (entries s incidentId) = { item | item ∈ handedIn s incidentId } := by
  ext item
  simp only [members, entries, handedIn, Set.mem_ofPred_eq, List.mem_map, Prod.mk.injEq]
  constructor
  · rintro ⟨label, prior, member, rfl, -⟩
    exact ⟨prior, member, rfl⟩
  · rintro ⟨prior, member, rfl⟩
    exact ⟨prior.familyId, prior, member, rfl, rfl⟩

/-- The grouping is a matter of the items alone. -/
theorem Sound.together {s' : Store P} (sound : Sound s) (sound' : Sound s')
    (same : ∀ item, item ∈ handedIn s incidentId ↔ item ∈ handedIn s' incidentId) {x y : UUID}
    (together : Together s incidentId x y) : Together s' incidentId x y := by
  have items : members (entries s incidentId) = members (entries s' incidentId) := by
    rw [members_entries, members_entries]
    exact Set.ext same
  have moves : ∀ a ∈ s.evidence incidentId, ∃ a' ∈ s'.evidence incidentId, bare a' = bare a := by
    intro a member
    exact List.mem_map.mp ((same (bare a)).mp (List.mem_map_of_mem member))
  obtain ⟨a, memberA, b, memberB, rfl, rfl, family⟩ := (together_iff sound.kept x y).mp together
  obtain ⟨a', memberA', bareA⟩ := moves a memberA
  obtain ⟨b', memberB', bareB⟩ := moves b memberB
  have chain := (sound.follows incidentId (bare a) a.familyId (bare b) b.familyId ⟨a, memberA, rfl⟩
    ⟨b, memberB, rfl⟩).mp family
  rw [items, ← bareA, ← bareB] at chain
  have family' := (sound'.follows incidentId (bare a') a'.familyId (bare b') b'.familyId ⟨a', memberA', rfl⟩
    ⟨b', memberB', rfl⟩).mpr chain
  refine (together_iff sound'.kept _ _).mpr ⟨a', memberA', b', memberB', ?_, ?_, family'⟩
  · rw [← bare_evidenceId, bareA, bare_evidenceId]
  · rw [← bare_evidenceId, bareB, bare_evidenceId]

/-- In a run whose admitted items each join one family, items that match directly
    share a family, and the families are those of any such run over the same
    items. The next item that is stored keeps this if and only if it joins one
    family too. -/
theorem duplicates_never_split (P : Platform) (ops : List (Operation P))
    (meets : Meets step FamilyFits Store.empty ops) :
    (∀ incidentId, ∀ a ∈ (run ops).evidence incidentId, ∀ b ∈ (run ops).evidence incidentId,
      matchesDirectly P a b = true → a.familyId = b.familyId) ∧
    (∀ others : List (Operation P), Meets step FamilyFits Store.empty others → ∀ incidentId,
      (∀ item, item ∈ handedIn (run ops) incidentId ↔ item ∈ handedIn (run others) incidentId) →
      ∀ x y, Together (run ops) incidentId x y ↔ Together (run others) incidentId x y) ∧
    ∀ service item lifecycleEventId,
      (step (run ops) (.ingest service item lifecycleEventId)).evidenceItems ≠ (run ops).evidenceItems →
      ((∀ incidentId, FollowsMatches P (entries (step (run ops) (.ingest service item lifecycleEventId)) incidentId)) ↔
        JoinsOneFamily (run ops) item) := by
  have sound := run_sound meets
  refine ⟨?_, ?_, ?_⟩
  · intro incidentId a memberA b memberB related
    exact (sound.follows incidentId).related ⟨a, memberA, rfl⟩ ⟨b, memberB, rfl⟩ related
  · intro others meets' incidentId same x y
    have sound' := run_sound meets'
    exact ⟨sound.together sound' same, sound'.together sound (fun item => (same item).symm)⟩
  · intro service item lifecycleEventId stored
    rcases ingest_evidenceItems service item lifecycleEventId (run ops) with unchanged | ⟨admits, added⟩
    · exact absurd unchanged stored
    · exact follows_iff sound added admits.unstored

def ridgeFire : IncidentRecord where
  incidentId := UUID.ofNat 1
  hazard := .wildfire
  state := .suspected
  confidence := 1 / 2
  coverage := .sufficient
  sourceMode := .live
  firstObservedAt := 0
  lastObservedAt := 0
  eventTimeWatermark := none
  version := 1
  reasonCodes := []
  analysisIds := []
  correlationIds := []
  lastBootId := "boot"
  sourceLineage := "camera"
  modelProfileId := "smoke"
  configHashes := []
  labels := []

/-- A report whose content digest repeats one digit. -/
def report (evidenceId : Nat) (digit : Char) (originKey : String) : EvidenceItem where
  evidenceId := UUID.ofNat evidenceId
  incidentId := UUID.ofNat 1
  hazard := .wildfire
  sourceId := "publisher"
  sourceStanding := .community
  authorityRole := "operational_source"
  mediaIntegrity := .unknown
  extractionConfidenceState := .unknown
  extractionConfidence := none
  freshnessState := .healthy
  claimText := "Visible smoke near the ridge"
  contentSha256 := String.ofList (List.replicate 64 digit)
  perceptualHash := none
  originKey := originKey
  familyId := none
  parentEvidenceId := none
  independentOriginProven := false
  retentionState := .metadataOnly
  parserState := .sandboxed
  rightsBasis := none
  rightsMode := some .derivedOnly
  rightsExpiresAt := none
  modality := "image"
  receivedAt := evidenceId
  reasonCodes := []
  personIdentificationPerformed := false
  subjectRef := none
  processingBasis := "operational_non_consent"

/-- The incident is open and the items arrive in the given order. -/
def arrivals (items : List EvidenceItem) : List (Operation Platform.mixing) :=
  .elsewhere { Store.empty with incidentEvents := [⟨none, ridgeFire⟩] } ::
    items.map (fun item => .ingest {} item (UUID.ofNat (100 + item.evidenceId.value)))

theorem repost_never_split :
    ((run (arrivals [report 1 'a' "post-1", report 2 'a' "post-2"])).evidence (UUID.ofNat 1)).length = 2 ∧
    ∀ incidentId, ∀ a ∈ (run (arrivals [report 1 'a' "post-1", report 2 'a' "post-2"])).evidence incidentId,
      ∀ b ∈ (run (arrivals [report 1 'a' "post-1", report 2 'a' "post-2"])).evidence incidentId,
        matchesDirectly Platform.mixing a b = true → a.familyId = b.familyId := by
  have meets : Meets step FamilyFits Store.empty (arrivals [report 1 'a' "post-1", report 2 'a' "post-2"]) :=
    ⟨trivial, fun _ => by decide +kernel, fun _ => by decide +kernel, trivial⟩
  exact ⟨by decide +kernel, (duplicates_never_split Platform.mixing _ meets).1⟩

/-- The third report has the content of the first and the origin of the second. It
    joins the first, so that the second and the third match and are in different
    families; had it arrived first, all three would be in one. -/
theorem bridging_report_splits :
    (∃ b ∈ (run (arrivals [report 1 'a' "post-1", report 2 'b' "post-2", report 3 'a' "post-2"])).evidence (UUID.ofNat 1),
      ∃ c ∈ (run (arrivals [report 1 'a' "post-1", report 2 'b' "post-2", report 3 'a' "post-2"])).evidence (UUID.ofNat 1),
        matchesDirectly Platform.mixing b c = true ∧ b.familyId ≠ c.familyId) ∧
    ((run (arrivals [report 3 'a' "post-2", report 1 'a' "post-1", report 2 'b' "post-2"])).evidence (UUID.ofNat 1)).length = 3 ∧
    ∀ b ∈ (run (arrivals [report 3 'a' "post-2", report 1 'a' "post-1", report 2 'b' "post-2"])).evidence (UUID.ofNat 1),
      ∀ c ∈ (run (arrivals [report 3 'a' "post-2", report 1 'a' "post-1", report 2 'b' "post-2"])).evidence (UUID.ofNat 1),
        b.familyId = c.familyId := by
  decide +kernel

end SentinelEdge.Evidence
