import SentinelEdge.Security.KeyLifecycle

/-! # What a registry remembers

One lemma says what a call can do to the rows and to the event log. The rows of
a registry keep their primary key, every logged event belongs to a registered
generation, and the log only grows.
-/

namespace SentinelEdge.Security

open Foundation Domain

namespace KeyLifecycleRegistry

variable {P : Platform} {s t : KeyLifecycleRegistry P}

/-- The log grew, by events that all satisfy `Q`. -/
def Logs (s t : KeyLifecycleRegistry P) (Q : KeyLifecycleEvent P → Prop) : Prop :=
  ∃ added, t.keyLifecycleEvents = s.keyLifecycleEvents ++ added ∧ ∀ event ∈ added, Q event

theorem Logs.refl (s : KeyLifecycleRegistry P) (Q : KeyLifecycleEvent P → Prop) : Logs s s Q :=
  ⟨[], by simp, by simp⟩

theorem Logs.trans {u : KeyLifecycleRegistry P} {Q : KeyLifecycleEvent P → Prop} (first : Logs s t Q) (second : Logs t u Q) :
    Logs s u Q := by
  obtain ⟨added, grown, all⟩ := first
  obtain ⟨more, grown', all'⟩ := second
  refine ⟨added ++ more, by rw [grown', grown, List.append_assoc], ?_⟩
  intro event member
  cases List.mem_append.mp member with
  | inl old => exact all event old
  | inr new => exact all' event new

theorem Logs.weaken {Q R : KeyLifecycleEvent P → Prop} (logs : Logs s t Q) (implies : ∀ event, Q event → R event) :
    Logs s t R := by
  obtain ⟨added, grown, all⟩ := logs
  exact ⟨added, grown, fun event member => implies event (all event member)⟩

theorem Logs.mem {Q : KeyLifecycleEvent P → Prop} (logs : Logs s t Q) {event : KeyLifecycleEvent P}
    (member : event ∈ t.keyLifecycleEvents) : event ∈ s.keyLifecycleEvents ∨ Q event := by
  obtain ⟨added, grown, all⟩ := logs
  rw [grown] at member
  cases List.mem_append.mp member with
  | inl old => exact .inl old
  | inr new => exact .inr (all event new)

theorem Logs.keeps {Q : KeyLifecycleEvent P → Prop} (logs : Logs s t Q) {event : KeyLifecycleEvent P}
    (member : event ∈ s.keyLifecycleEvents) : event ∈ t.keyLifecycleEvents := by
  obtain ⟨added, grown, _⟩ := logs
  rw [grown]
  exact List.mem_append_left _ member

/-! ## One call -/

theorem appendEvent_ok {ref : KeyRef} {action : KeyLifecycleAction} {fromState : Option KeyState} {toState : KeyState}
    {effectiveAt : DateTime} {actor reason policyVersion : String} {floor : Option Int} {event : KeyLifecycleEvent P}
    (h : appendEvent ref action fromState toState effectiveAt actor reason policyVersion floor s = (.ok event, t)) :
    t.keyIdentities = s.keyIdentities ∧ Logs s t (fun e => e.ref = ref ∧ e.action = action) := by
  unfold appendEvent at h
  split at h
  · cases h
  · split at h
    · cases h
    · rw [insertOrIgnore, Call.modify_bind, Call.pure_apply] at h
      obtain ⟨_, rfl⟩ := Prod.mk.inj h
      split
      · exact ⟨rfl, Logs.refl s _⟩
      · exact ⟨rfl, _, rfl, by simp⟩

/-- The rows after `UPDATE ... SET current_state`. -/
def withState (ref : KeyRef) (state : KeyState) (rows : List (KeyIdentityRow P)) : List (KeyIdentityRow P) :=
  rows.map (fun row => if row.record.ref = ref then { row with currentState := state } else row)

theorem transitionLocked_ok {request : TransitionRequest} {event : KeyLifecycleEvent P}
    (h : transitionLocked request s = (.ok event, t)) :
    ∃ row, s.find request.ref = some row ∧ ¬ (request.action.activates = true ∧ row.currentState = .compromised) ∧
      t.keyIdentities = withState request.ref request.action.toState s.keyIdentities ∧
      Logs s t (fun e => e.ref = request.ref ∧ e.action = request.action) := by
  simp only [transitionLocked, Call.read_bind, load] at h
  cases found : s.find request.ref with
  | none =>
      rw [found, Call.bind_of_error (Call.lift_apply ..)] at h
      cases h
  | some row =>
      rw [found, Call.bind_of_ok (Call.lift_apply ..)] at h
      split at h
      · cases h
      · next free =>
          obtain ⟨appended, u, append, rest⟩ := Call.bind_ok.mp h
          obtain ⟨rows, logs⟩ := appendEvent_ok append
          rw [setState, Call.modify_bind, Call.pure_apply] at rest
          obtain ⟨_, rfl⟩ := Prod.mk.inj rest
          refine ⟨row, rfl, by simpa using free, ?_, logs⟩
          simp only [withState, rows]

theorem supersede_ok {request : RegisterRequest} {activeFrom : DateTime} {generations : List Int} {u : Unit}
    (h : supersede request activeFrom generations s = (.ok u, t)) :
    t.keyIdentities = s.keyIdentities.map (fun row =>
      if row.record.ref.identityId = request.ref.identityId ∧ row.record.ref.purpose = request.ref.purpose ∧
        row.record.ref.generation ∈ generations then { row with currentState := .retired } else row) ∧
      Logs s t (fun e => e.action = .retire ∧ ∃ row ∈ s.keyIdentities, row.record.ref = e.ref) := by
  induction generations generalizing s with
  | nil =>
      obtain ⟨_, rfl⟩ := Prod.mk.inj h
      exact ⟨by simp, Logs.refl s _⟩
  | cons generation later ih =>
      obtain ⟨_, mid, first, rest⟩ := Call.bind_ok.mp h
      obtain ⟨row, found, _, rows, logs⟩ := transitionLocked_ok first
      obtain ⟨rows', logs'⟩ := ih rest
      have known : ∃ row ∈ s.keyIdentities, row.record.ref = (retirement request activeFrom generation).ref :=
        ⟨row, List.mem_of_find?_eq_some found, by simpa using List.find?_some found⟩
      constructor
      · rw [rows', rows, withState, List.map_map]
        apply List.map_congr_left
        intro old _
        have same : old.record.ref = (retirement request activeFrom generation).ref ↔
            old.record.ref.identityId = request.ref.identityId ∧ old.record.ref.generation = generation ∧
              old.record.ref.purpose = request.ref.purpose := by
          cases old.record.ref
          simp [retirement]
        have retires : (retirement request activeFrom generation).action.toState = .retired := rfl
        simp only [Function.comp, same, retires, List.mem_cons]
        split_ifs <;> grind
      · refine (logs.weaken ?_).trans (logs'.weaken ?_)
        · rintro event ⟨ref, action⟩
          exact ⟨action, ref ▸ known⟩
        · rintro event ⟨action, old, member, ref⟩
          refine ⟨action, ?_⟩
          rw [rows, withState] at member
          obtain ⟨before, inRows, rfl⟩ := List.mem_map.mp member
          refine ⟨before, inRows, ?_⟩
          split at ref
          · exact ref
          · exact ref

/-- The generations compete for the same identity and purpose. -/
def SamePair (a b : KeyRef) : Prop := a.identityId = b.identityId ∧ a.purpose = b.purpose

instance (a b : KeyRef) : Decidable (SamePair a b) := inferInstanceAs (Decidable (_ ∧ _))

theorem mem_priorActive {identityId : String} {purpose : KeyPurpose} {generation : Int} :
    generation ∈ s.priorActive identityId purpose ↔
      ∃ row ∈ s.keyIdentities, row.record.ref = ⟨identityId, generation, purpose⟩ ∧ row.currentState = .active := by
  simp only [priorActive, List.mem_insertionSort, List.mem_map, List.mem_filter, decide_eq_true_eq]
  constructor
  · rintro ⟨row, ⟨member, rfl, rfl, active⟩, rfl⟩
    exact ⟨row, member, rfl, active⟩
  · rintro ⟨row, member, ref, active⟩
    exact ⟨row, ⟨member, by rw [ref], by rw [ref], active⟩, by rw [ref]⟩

theorem lt_of_max {generations : List Int} {generation : Int}
    (newer : ¬ generations.max?.any (fun newest => generation ≤ newest) = true) {g : Int} (member : g ∈ generations) :
    g < generation := by
  cases top : generations.max? with
  | none =>
      rw [List.max?_eq_none_iff.mp top] at member
      cases member
  | some newest =>
      have bound := (List.max?_eq_some_iff.mp top).2 g member
      simp [top] at newer
      omega

/-- A row after the registration of `ref` has superseded the active rows. -/
def superseded (prior : List Int) (ref : KeyRef) (row : KeyIdentityRow P) : KeyIdentityRow P :=
  if row.record.ref.identityId = ref.identityId ∧ row.record.ref.purpose = ref.purpose ∧
    row.record.ref.generation ∈ prior then { row with currentState := .retired } else row

@[simp] theorem superseded_record (prior : List Int) (ref : KeyRef) (row : KeyIdentityRow P) :
    (superseded prior ref row).record = row.record := by
  unfold superseded
  split <;> rfl

theorem newRecord_ok {request : RegisterRequest} {record : KeyIdentityRecord P} (h : newRecord P request = .ok record) :
    record.ref = request.ref ∧ record.state = .active := by
  unfold newRecord at h
  simp only at h
  split at h
  · cases h
  · split at h
    · cases h
    · split at h
      · cases h
      · split at h
        · cases h
        · cases h
          exact ⟨rfl, rfl⟩

/-- The new generation is activated, then generations with a row are retired. -/
theorem registration_logs {u : KeyLifecycleRegistry P} {row : KeyIdentityRow P} {ref : KeyRef}
    (rows : t.keyIdentities = s.keyIdentities ++ [row]) (same : row.record.ref = ref)
    (activated : Logs s t (fun e => e.ref = ref ∧ e.action.activates = true))
    (retired : Logs t u (fun e => e.action = .retire ∧ ∃ old ∈ t.keyIdentities, old.record.ref = e.ref)) :
    Logs s u (fun e => e.ref = ref ∧ e.action.activates = true ∨
      e.action = .retire ∧ (e.ref = ref ∨ ∃ old ∈ s.keyIdentities, old.record.ref = e.ref)) := by
  refine (activated.weaken (fun event activation => .inl activation)).trans (retired.weaken ?_)
  rintro event ⟨action, old, member, retires⟩
  right
  refine ⟨action, ?_⟩
  rw [rows] at member
  cases List.mem_append.mp member with
  | inl before => exact .inr ⟨old, before, retires⟩
  | inr new =>
      left
      rw [← retires, List.mem_singleton.mp new]
      exact same

/-- An accepted registration returns what is there, or adds an active row above
    every active generation of its pair and retires those. -/
theorem registerBody_ok {request : RegisterRequest} {record result : KeyIdentityRecord P}
    (made : newRecord P request = .ok record) (h : registerBody request record s = (.ok result, t)) :
    t = s ∨
    (s.find request.ref = none ∧
      (∀ row ∈ s.keyIdentities, SamePair row.record.ref request.ref → row.currentState = .active →
        row.record.ref.generation < request.ref.generation) ∧
      t.keyIdentities = s.keyIdentities.map
        (superseded (s.priorActive request.ref.identityId request.ref.purpose) request.ref) ++ [⟨record, .active⟩] ∧
      Logs s t (fun e => e.ref = request.ref ∧ e.action.activates = true ∨
        e.action = .retire ∧ (e.ref = request.ref ∨ ∃ row ∈ s.keyIdentities, row.record.ref = e.ref))) := by
  obtain ⟨ref, state⟩ := newRecord_ok made
  simp only [registerBody, Call.read_bind] at h
  cases found : s.find request.ref with
  | some row =>
      left
      rw [found] at h
      simp only at h
      split at h
      · cases h
      · exact (Prod.mk.inj h).2.symm
  | none =>
      right
      rw [found] at h
      simp only [Call.read_bind] at h
      split at h
      · cases h
      · next newer =>
          obtain ⟨_, inserted, insert, h⟩ := Call.bind_ok.mp h
          obtain ⟨_, logged, append, h⟩ := Call.bind_ok.mp h
          obtain ⟨_, retired, retire, h⟩ := Call.bind_ok.mp h
          obtain ⟨_, rfl⟩ := Prod.mk.inj h
          obtain ⟨_, rfl⟩ := Table.insert_ok insert
          obtain ⟨rows, logs⟩ := appendEvent_ok append
          obtain ⟨rows', logs'⟩ := supersede_ok retire
          have below : ∀ g ∈ s.priorActive request.ref.identityId request.ref.purpose, g < request.ref.generation :=
            fun g member => lt_of_max newer member
          refine ⟨rfl, ?_, ?_, ?_⟩
          · intro row member pair active
            apply below
            apply mem_priorActive.mpr
            refine ⟨row, member, ?_, active⟩
            rw [← pair.1, ← pair.2]
          · have spared : request.ref.generation ∉ s.priorActive request.ref.identityId request.ref.purpose :=
              fun member => lt_irrefl _ (below _ member)
            rw [rows', rows]
            simp [keyIdentitiesTable, ref, state, spared, superseded]
          · refine registration_logs rows ref (Logs.weaken logs ?_) logs'
            rintro event ⟨eventRef, action⟩
            refine ⟨eventRef, ?_⟩
            rw [action]
            split <;> rfl

/-- What a call can do: nothing, when it raises or finds its record; change the
    state of a generation; or add a generation in the place of the active ones. -/
theorem step_cases (s : KeyLifecycleRegistry P) (op : Operation) :
    s.step op = s ∨
    (∃ request row, op = .transition request ∧ s.find request.ref = some row ∧
      ¬ (request.action.activates = true ∧ row.currentState = .compromised) ∧
      (s.step op).keyIdentities = withState request.ref request.action.toState s.keyIdentities ∧
      Logs s (s.step op) (fun e => e.ref = request.ref ∧ e.action = request.action)) ∨
    (∃ (request : RegisterRequest) (record : KeyIdentityRecord P), op = .register request ∧ record.ref = request.ref ∧
      s.find request.ref = none ∧
      (∀ row ∈ s.keyIdentities, SamePair row.record.ref request.ref → row.currentState = .active →
        row.record.ref.generation < request.ref.generation) ∧
      (s.step op).keyIdentities = s.keyIdentities.map
        (superseded (s.priorActive request.ref.identityId request.ref.purpose) request.ref) ++ [⟨record, .active⟩] ∧
      Logs s (s.step op) (fun e => e.ref = request.ref ∧ e.action.activates = true ∨
        e.action = .retire ∧ (e.ref = request.ref ∨ ∃ row ∈ s.keyIdentities, row.record.ref = e.ref))) := by
  cases op with
  | transition request =>
      simp only [step, transition]
      split
      · exact .inl rfl
      · rcases outcome : transitionLocked request s with ⟨result, t⟩
        cases result with
        | error e => exact .inl (congrArg Prod.snd (Call.atomically_of_error outcome))
        | ok event =>
            right; left
            obtain ⟨row, found, allowed, rows, logs⟩ := transitionLocked_ok outcome
            rw [Call.atomically_of_ok outcome]
            exact ⟨request, row, rfl, found, allowed, rows, logs⟩
  | register request =>
      simp only [step, register]
      cases made : newRecord P request with
      | error e => exact .inl (congrArg Prod.snd (Call.bind_of_error (Call.lift_apply ..)))
      | ok record =>
          rw [Call.bind_of_ok (Call.lift_apply ..)]
          rcases outcome : registerBody request record s with ⟨result, t⟩
          cases result with
          | error e => exact .inl (congrArg Prod.snd (Call.atomically_of_error outcome))
          | ok result =>
              rw [Call.atomically_of_ok outcome]
              obtain same | ⟨absent, newer, rows, logs⟩ := registerBody_ok made outcome
              · exact .inl same
              · exact .inr (.inr ⟨request, record, rfl, (newRecord_ok made).1, absent, newer, rows, logs⟩)

/-! ## Every state of a run -/

/-- Generations occur once, and every event is about one of them. -/
structure Consistent (s : KeyLifecycleRegistry P) : Prop where
  unique : (s.keyIdentities.map (fun row => row.record.ref)).Nodup
  covered : ∀ event ∈ s.keyLifecycleEvents, ∃ row ∈ s.keyIdentities, row.record.ref = event.ref

theorem withState_refs (ref : KeyRef) (state : KeyState) (rows : List (KeyIdentityRow P)) :
    (withState ref state rows).map (fun row => row.record.ref) = rows.map (fun row => row.record.ref) := by
  simp only [withState, List.map_map]
  apply List.map_congr_left
  intro row _
  simp only [Function.comp]
  split <;> rfl

theorem superseded_refs (prior : List Int) (ref : KeyRef) (rows : List (KeyIdentityRow P)) :
    (rows.map (superseded prior ref)).map (fun row => row.record.ref) = rows.map (fun row => row.record.ref) := by
  simp only [List.map_map]
  apply List.map_congr_left
  intro row _
  simp only [Function.comp, superseded_record]

theorem mem_refs {ref : KeyRef} :
    ref ∈ s.keyIdentities.map (fun row => row.record.ref) ↔ ∃ row ∈ s.keyIdentities, row.record.ref = ref := List.mem_map

theorem find_eq_none {ref : KeyRef} : s.find ref = none ↔ ref ∉ s.keyIdentities.map (fun row => row.record.ref) := by
  simp [find]

theorem Consistent.step (consistent : Consistent s) (op : Operation) : Consistent (s.step op) := by
  obtain same | ⟨request, row, _, found, _, rows, logs⟩ | ⟨request, record, _, ref, absent, _, rows, logs⟩ :=
    step_cases s op
  · rw [same]
    exact consistent
  · have refs := withState_refs request.ref request.action.toState s.keyIdentities
    rw [← rows] at refs
    constructor
    · rw [refs]
      exact consistent.unique
    · intro event member
      rw [← mem_refs, refs, mem_refs]
      obtain old | ⟨eventRef, _⟩ := logs.mem member
      · exact consistent.covered event old
      · exact ⟨row, List.mem_of_find?_eq_some found, by simpa [eventRef] using List.find?_some found⟩
  · have refs : (s.step op).keyIdentities.map (fun row => row.record.ref) =
        s.keyIdentities.map (fun row => row.record.ref) ++ [request.ref] := by
      rw [rows, List.map_append, superseded_refs, List.map_singleton, ref]
    constructor
    · rw [refs]
      apply List.Nodup.append consistent.unique (List.nodup_singleton _)
      simpa using find_eq_none.mp absent
    · intro event member
      rw [← mem_refs, refs, List.mem_append, List.mem_singleton]
      obtain old | ⟨eventRef, _⟩ | ⟨_, eventRef | known⟩ := logs.mem member
      · exact .inl (mem_refs.mpr (consistent.covered event old))
      · exact .inr eventRef
      · exact .inr eventRef
      · exact .inl (mem_refs.mpr known)

theorem Consistent.empty : Consistent ({} : KeyLifecycleRegistry P) := ⟨List.nodup_nil, by simp⟩

theorem run_consistent (ops : List Operation) : Consistent (run ops : KeyLifecycleRegistry P) :=
  run_invariant (fun _ op consistent => consistent.step op) Consistent.empty ops

theorem find_iff (consistent : Consistent s) {ref : KeyRef} {row : KeyIdentityRow P} :
    s.find ref = some row ↔ row ∈ s.keyIdentities ∧ row.record.ref = ref := by
  constructor
  · intro found
    exact ⟨List.mem_of_find?_eq_some found, by simpa using List.find?_some found⟩
  · rintro ⟨member, rfl⟩
    cases found : s.find row.record.ref with
    | none => exact absurd (mem_refs.mpr ⟨row, member, rfl⟩) (find_eq_none.mp found)
    | some other =>
        have same : other.record.ref = row.record.ref := by simpa using List.find?_some found
        rw [List.inj_on_of_nodup_map consistent.unique (List.mem_of_find?_eq_some found) member same]

theorem step_logs (s : KeyLifecycleRegistry P) (op : Operation) {event : KeyLifecycleEvent P}
    (member : event ∈ s.keyLifecycleEvents) : event ∈ (s.step op).keyLifecycleEvents := by
  obtain same | ⟨_, _, _, _, _, _, logs⟩ | ⟨_, _, _, _, _, _, _, logs⟩ := step_cases s op
  · rw [same]
    exact member
  · exact logs.keeps member
  · exact logs.keeps member

end KeyLifecycleRegistry

end SentinelEdge.Security
