import SentinelEdge.Scenario.Outage

/-! # Whether a new analysis can overtake the queue

A drain works through the queue in order of acceptance. An analysis overtakes the
queue only where the authority is on again while the queue still holds something:
after a drain that stopped early, an authority that was switched on without a
drain, or a restart over a spool with rows in it.
-/

namespace SentinelEdge.Scenario

open Foundation Domain Storage Incidents

variable {P : Platform} {C : SpoolCodec} {bounds : SpoolBounds}

/-- Nothing that was accepted before the applied analysis is still pending. -/
def Application.InTurn (a : Application) : Prop := ∀ other ∈ a.waiting, a.ticket ≤ other

instance (a : Application) : Decidable a.InTurn := inferInstanceAs (Decidable (∀ other ∈ a.waiting, a.ticket ≤ other))

def InOrder (applications : List Application) : Prop := ∀ a ∈ applications, a.InTurn

instance (applications : List Application) : Decidable (InOrder applications) :=
  inferInstanceAs (Decidable (∀ a ∈ applications, a.InTurn))

theorem inOrder_append_singleton {applications : List Application} {a : Application} :
    InOrder (applications ++ [a]) ↔ InOrder applications ∧ a.InTurn := by
  simp [InOrder, or_imp, forall_and]

/-- The queue stands in the order of acceptance. -/
structure Ordered (bounds : SpoolBounds) (s : ScenarioEngine P C) : Prop where
  valid : Spool.Valid bounds s.criticalSpool
  increasing : s.waiting.Pairwise (· < ·)
  past : ∀ ticket ∈ s.waiting, ticket < s.calls

variable {s : ScenarioEngine P C}

theorem Ordered.start {spool : Spool C} (valid : Spool.Valid bounds spool) (incidents : Engine P) :
    Ordered bounds (ScenarioEngine.start spool incidents) := by
  refine ⟨valid, ?_, ?_⟩
  · rw [List.pairwise_iff_getElem]
    intro i j hi hj less
    simpa [ScenarioEngine.waiting, ScenarioEngine.start, List.getElem_map, valid.unique.idxOf_getElem] using less
  · intro ticket member
    obtain ⟨id, pending, rfl⟩ := List.mem_map.mp member
    exact List.idxOf_lt_length_of_mem pending

/-- The first of the queue is in turn. -/
theorem Ordered.head {row : PendingAnalysis C} {rows : List (PendingAnalysis C)} (ordered : Ordered bounds s)
    (queued : s.criticalSpool.pendingAnalysis = row :: rows) :
    Application.InTurn ⟨row.analysisId, s.ticketOf row.analysisId, s.waiting⟩ := by
  have increasing := ordered.increasing
  intro other (member : other ∈ s.waiting)
  simp only [ScenarioEngine.waiting, Spool.pendingIds, queued, List.map_cons, List.pairwise_cons, List.mem_cons]
    at increasing member
  cases member with
  | inl same => exact le_of_eq same.symm
  | inr later => exact le_of_lt (increasing.1 other later)

/-- A new row takes the number of the call that accepted it. -/
theorem waiting_accept {id : UUID} (fresh : id ∉ s.criticalSpool.pendingIds) (calls : Nat) :
    (s.criticalSpool.pendingIds ++ [id]).map (Function.update s.ticketOf id calls) = s.waiting ++ [calls] := by
  have others : ∀ other ∈ s.criticalSpool.pendingIds, Function.update s.ticketOf id calls other = s.ticketOf other := by
    intro other member
    exact Function.update_of_ne (fun (same : other = id) => fresh (same ▸ member)) _ _
  rw [List.map_append, List.map_congr_left others]
  simp [ScenarioEngine.waiting]

/-- The order says nothing about events, the engine or the ledger's entries. -/
theorem Ordered.logged {t : ScenarioEngine P C} (ordered : Ordered bounds s) (calls : t.calls = s.calls)
    (tickets : t.ticketOf = s.ticketOf)
    (rows : t.criticalSpool.pendingAnalysis <:+ s.criticalSpool.pendingAnalysis) : Ordered bounds t := by
  have fewer : t.waiting <:+ s.waiting := by
    simp only [ScenarioEngine.waiting, tickets]
    exact (rows.map _).map _
  refine ⟨ordered.valid.dropped rows _, ordered.increasing.sublist fewer.sublist, ?_⟩
  intro ticket member
  exact calls ▸ ordered.past ticket (fewer.mem member)

/-- A drain hands over in order, and leaves the rest of the queue in order. -/
theorem drainRows_inOrder (now : DateTime) {rows : List (PendingAnalysis C)} (ordered : Ordered bounds s)
    (queued : s.criticalSpool.pendingAnalysis = rows) :
    Ordered bounds (drainRows now rows s).2 ∧
      (InOrder (drainRows now rows s).2.applications ↔ InOrder s.applications) := by
  induction rows generalizing s with
  | nil => exact ⟨ordered, Iff.rfl⟩
  | cons row rows ih =>
      obtain ⟨analysis, enqueuedAt, shape⟩ := ordered.valid.rows row (by simp [queued])
      have id : analysis.analysisId = row.analysisId := by rw [shape]; rfl
      have one : InOrder (s.handed analysis analysis.producedAt (s.ticketOf row.analysisId)).applications ↔
          InOrder s.applications := by
        simp only [ScenarioEngine.handed, inOrder_append_singleton, id]
        exact and_iff_left (ordered.head queued)
      obtain ⟨events, stops⟩ | ⟨events, stops⟩ | ⟨events, goes⟩ :=
        drainRows_cons now queued ordered.valid.unique shape
      · rw [stops]
        exact ⟨ordered.logged rfl rfl (by simp [queued]), Iff.rfl⟩
      · rw [stops]
        exact ⟨ordered.logged rfl rfl (by simp [queued]), one⟩
      · rw [goes]
        have rest := ih (s := { s.handed analysis analysis.producedAt (s.ticketOf row.analysisId) with
          criticalSpool := ⟨rows, events⟩ }) (ordered.logged rfl rfl (by simp [queued])) rfl
        exact ⟨rest.1, rest.2.trans one⟩

/-- An analysis arrives at a queue that is empty, or while the authority is off. -/
def Unbypassed (s : ScenarioEngine P C) : Operation → Prop
  | .applyOrSpool _ _ => s.incidentAuthorityAvailable = false ∨ s.criticalSpool.pendingAnalysis = []
  | _ => True

/-- An analysis that is applied at once is in turn exactly when nothing waits. -/
theorem direct_inTurn_iff (ordered : Ordered bounds s) (id : UUID) :
    Application.InTurn ⟨id, s.calls, s.waiting⟩ ↔ s.criticalSpool.pendingAnalysis = [] := by
  constructor
  · intro turn
    cases queued : s.criticalSpool.pendingAnalysis with
    | nil => rfl
    | cons row rows =>
        have waits : s.ticketOf row.analysisId ∈ s.waiting := by simp [ScenarioEngine.waiting, Spool.pendingIds, queued]
        exact absurd (ordered.past _ waits) (Nat.not_lt.mpr (turn _ waits))
  · intro empty other member
    simp [ScenarioEngine.waiting, Spool.pendingIds, empty] at member

theorem step_inOrder_iff (ordered : Ordered bounds s) (op : Operation) :
    Ordered bounds (s.step bounds op) ∧
      (InOrder (s.step bounds op).applications ↔ InOrder s.applications ∧ Unbypassed s op) := by
  cases op with
  | setIncidentAuthorityAvailable available =>
      exact ⟨ordered.logged rfl rfl List.suffix_rfl, by simp [Unbypassed, ScenarioEngine.step, setIncidentAuthorityAvailable, Call.modify]⟩
  | recoverIncidentAuthority now =>
      have drained := drainRows_inOrder now (s := { s with incidentAuthorityAvailable := true })
        (ordered.logged rfl rfl List.suffix_rfl) rfl
      simpa only [ScenarioEngine.step, recoverIncidentAuthority, Call.modify_bind, Call.read_bind, Unbypassed, and_true]
        using drained
  | applyOrSpool analysis acceptedAt =>
      cases available : s.incidentAuthorityAvailable with
      | true =>
          rw [step_available available]
          constructor
          · exact ⟨ordered.valid, ordered.increasing, fun ticket member => Nat.lt_succ_of_lt (ordered.past ticket member)⟩
          · simp only [ScenarioEngine.handed, inOrder_append_singleton, Unbypassed, available, Bool.true_eq_false, false_or]
            exact and_congr_right fun _ => direct_inTurn_iff ordered _
      | false =>
          have counted : ∀ ticket ∈ s.waiting, ticket < s.calls + 1 := fun ticket member => Nat.lt_succ_of_lt (ordered.past ticket member)
          obtain ⟨_, after⟩ | ⟨events, _, after⟩ | ⟨events, absent, room, after⟩ :=
            step_away bounds available analysis acceptedAt
          · rw [after]
            exact ⟨⟨ordered.valid, ordered.increasing, counted⟩, by simp [Unbypassed, available]⟩
          · rw [after]
            exact ⟨⟨ordered.valid.dropped List.suffix_rfl _, ordered.increasing, counted⟩, by simp [Unbypassed, available]⟩
          · rw [after]
            have fresh : analysis.analysisId ∉ s.criticalSpool.pendingIds := Spool.find_none absent
            have line := waiting_accept fresh s.calls
            refine ⟨⟨ordered.valid.accept absent room _, ?_, ?_⟩, by simp [Unbypassed, available]⟩
            · simp only [ScenarioEngine.waiting, Spool.pendingIds, List.map_append, List.map_cons, List.map_nil,
                Spool.pendingRow] at line ⊢
              rw [line]
              exact List.pairwise_append.mpr ⟨ordered.increasing, List.pairwise_singleton _ _, by
                intro ticket member last same
                exact List.mem_singleton.mp same ▸ ordered.past ticket member⟩
            · simp only [ScenarioEngine.waiting, Spool.pendingIds, List.map_append, List.map_cons, List.map_nil,
                Spool.pendingRow] at line ⊢
              rw [line]
              intro ticket member
              cases List.mem_append.mp member with
              | inl old => exact counted ticket old
              | inr new => exact List.mem_singleton.mp new ▸ Nat.lt_succ_self _

theorem run_inOrder_iff (ordered : Ordered bounds s) (ops : List Operation) :
    InOrder (run (ScenarioEngine.step bounds) s ops).applications ↔
      InOrder s.applications ∧ Meets (ScenarioEngine.step bounds) Unbypassed s ops := by
  induction ops generalizing s with
  | nil => simp [run, Meets]
  | cons op ops ih =>
      have one := step_inOrder_iff ordered op
      calc InOrder (run (ScenarioEngine.step bounds) (s.step bounds op) ops).applications
          ↔ InOrder (s.step bounds op).applications ∧ Meets (ScenarioEngine.step bounds) Unbypassed (s.step bounds op) ops :=
            ih one.1
        _ ↔ InOrder s.applications ∧ Meets (ScenarioEngine.step bounds) Unbypassed s (op :: ops) := by
            rw [one.2, and_assoc]
            rfl

/-- Along every run an analysis is applied only when nothing accepted before it is
    pending, exactly if every analysis arrives while the authority is off or the
    queue is empty. -/
theorem nothing_overtakes_iff (bounds : SpoolBounds) (earlier : List Spool.Operation) (incidents : Engine P)
    (ops : List Operation) :
    let opened : ScenarioEngine P C := .start (Spool.History.run bounds earlier : Spool.History C).spool incidents
    InOrder (run (ScenarioEngine.step bounds) opened ops).applications ↔
      Meets (ScenarioEngine.step bounds) Unbypassed opened ops := by
  intro opened
  have ordered : Ordered bounds opened := Ordered.start (Spool.run_valid bounds earlier) incidents
  rw [run_inOrder_iff ordered]
  exact and_iff_right nofun

/-! ## Where the queue is bypassed -/

/-- The authority is switched on over an empty queue only, and recovery empties
    the queue. -/
def Drained (bounds : SpoolBounds) (s : ScenarioEngine P C) (op : Operation) : Prop :=
  match op with
  | .applyOrSpool _ _ => True
  | .setIncidentAuthorityAvailable available => available = true → s.criticalSpool.pendingAnalysis = []
  | .recoverIncidentAuthority _ => (s.step bounds op).criticalSpool.pendingAnalysis = []

/-- While the authority is on the queue is empty. -/
def Settled (s : ScenarioEngine P C) : Prop :=
  s.incidentAuthorityAvailable = true → s.criticalSpool.pendingAnalysis = []

theorem Settled.unbypassed (settled : Settled s) (op : Operation) : Unbypassed s op := by
  cases op with
  | setIncidentAuthorityAvailable available => trivial
  | recoverIncidentAuthority now => trivial
  | applyOrSpool analysis acceptedAt =>
      cases available : s.incidentAuthorityAvailable with
      | true => exact Or.inr (settled available)
      | false => exact Or.inl available

theorem Settled.step (settled : Settled s) {op : Operation} (drained : Drained bounds s op) :
    Settled (s.step bounds op) := by
  cases op with
  | setIncidentAuthorityAvailable available => exact drained
  | recoverIncidentAuthority now => exact fun _ => drained
  | applyOrSpool analysis acceptedAt =>
      cases available : s.incidentAuthorityAvailable with
      | true =>
          rw [step_available available]
          exact fun _ => settled available
      | false =>
          intro on
          obtain ⟨_, after⟩ | ⟨events, _, after⟩ | ⟨events, _, _, after⟩ :=
            step_away bounds available analysis acceptedAt
          · simp [after, available] at on
          · simp [after, available] at on
          · simp [after, available] at on

/-- Nothing is overtaken as long as the authority only ever comes back to an empty
    queue. -/
theorem unbypassed_of_drained (settled : Settled s) {ops : List Operation}
    (drained : Meets (ScenarioEngine.step bounds) (Drained bounds) s ops) :
    Meets (ScenarioEngine.step bounds) Unbypassed s ops := by
  induction ops generalizing s with
  | nil => trivial
  | cons op ops ih => exact ⟨settled.unbypassed op, ih (settled.step drained.1) drained.2⟩

/-- A recovery stops at an expired reading, and the next reading goes straight to
    the engine. -/
theorem recovered_authority_overtakes_the_queue :
    ¬ InOrder (run (ScenarioEngine.step {})
      (.start (Spool.History.run {} [] : Spool.History SpoolCodec.transparent).spool freshEngine)
      [.setIncidentAuthorityAvailable false, .applyOrSpool (Spool.spooledReading 1) none,
        .recoverIncidentAuthority 900000000, .applyOrSpool (Spool.spooledReading 2) none]).applications := by
  decide +kernel

end SentinelEdge.Scenario
