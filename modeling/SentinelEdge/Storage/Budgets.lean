import SentinelEdge.Foundation.Run
import SentinelEdge.Storage.Artifacts

/-! # Budgets of the artifact store

Physical capacity is counted over the files and checked before a new one is
written; the budgets of the scopes are counted over the registrations and checked
before a new one is inserted. A refused registration leaves its file behind, a
duplicate registers a file that is already counted.
-/

namespace SentinelEdge.Storage

open Foundation Domain

variable {P : Platform}

namespace ContentAddressedArtifactStore

/-- `ContentAddressedArtifactStore(root, max_bytes=…, reserve_bytes=…, budget_policy=…)`
    on an empty directory. -/
def make (maxBytes reserveBytes : Int) (budgets : ArtifactBudgetPolicy) :
    Except Error (ContentAddressedArtifactStore P) :=
  if maxBytes ≤ 0 ∨ reserveBytes < 0 ∨ reserveBytes ≥ maxBytes then
    .error (.valueError "artifact capacity budget is invalid")
  else .ok {
    files := Dict.empty
    catalog := { budgets := budgets }
    maxBytes := maxBytes.toNat
    reserveBytes := reserveBytes.toNat
    forcedReadOnly := false }

end ContentAddressedArtifactStore

namespace ArtifactCatalog

/-- The registrations with one value of a scope field. -/
def inScope (c : ArtifactCatalog P) (field : ArtifactScope → Option String) (value : String) : List (ArtifactRecord P) :=
  c.registrations.filter (fun r => field r.scope = some value)

/-- `_scope_usage` -/
def scopeUsage (c : ArtifactCatalog P) (field : ArtifactScope → Option String) (value : String) : Nat × Nat :=
  ((c.inScope field value).length, ((c.inScope field value).map ArtifactRecord.bytes).sum)

/-- No value of a scope field has more objects or bytes than it may. -/
def FieldWithin (c : ArtifactCatalog P) (field : ArtifactScope → Option String) (maxObjects maxBytes : Nat) : Prop :=
  ∀ value, (c.scopeUsage field value).1 ≤ maxObjects ∧ (c.scopeUsage field value).2 ≤ maxBytes

structure WithinBudgets (budgets : ArtifactBudgetPolicy) (c : ArtifactCatalog P) : Prop where
  source : c.FieldWithin ArtifactScope.sourceId budgets.perSourceMaxObjects budgets.perSourceMaxBytes
  incident : c.FieldWithin ArtifactScope.incidentId budgets.perIncidentMaxObjects budgets.perIncidentMaxBytes
  scenarioRun : c.FieldWithin ArtifactScope.scenarioRunId budgets.perRunMaxObjects budgets.perRunMaxBytes
  candidate : c.FieldWithin ArtifactScope.releaseCandidateId budgets.perCandidateMaxObjects budgets.perCandidateMaxBytes

variable {c : ArtifactCatalog P} {field : ArtifactScope → Option String} {maxObjects maxBytes : Nat}

/-- A registration that passed the check of a field stays within its budget. -/
theorem FieldWithin.snoc {name : String} {record : ArtifactRecord P} (holds : c.FieldWithin field maxObjects maxBytes)
    (checked : c.checkBudget name field record.scope maxObjects maxBytes record.bytes = .ok ()) :
    FieldWithin { c with registrations := c.registrations ++ [record] } field maxObjects maxBytes := by
  intro value
  have before := holds value
  simp only [scopeUsage, inScope, List.filter_append] at before ⊢
  by_cases mine : field record.scope = some value
  · simp only [checkBudget, mine] at checked
    split at checked
    · cases checked
    · split at checked
      · cases checked
      · simp only [List.filter_cons, mine, decide_true, if_true, List.filter_nil, List.map_append, List.map_cons,
          List.map_nil, List.sum_append, List.sum_singleton, List.length_append, List.length_singleton]
        omega
  · simpa [mine] using before

/-- `_check_scope_budget` checks every field. -/
theorem checkScopeBudget_ok {scope : ArtifactScope} {size : Nat} (h : c.checkScopeBudget scope size = .ok ()) :
    c.checkBudget "source_id" ArtifactScope.sourceId scope c.budgets.perSourceMaxObjects c.budgets.perSourceMaxBytes size =
        .ok () ∧
      c.checkBudget "incident_id" ArtifactScope.incidentId scope c.budgets.perIncidentMaxObjects
        c.budgets.perIncidentMaxBytes size = .ok () ∧
      c.checkBudget "scenario_run_id" ArtifactScope.scenarioRunId scope c.budgets.perRunMaxObjects c.budgets.perRunMaxBytes
        size = .ok () ∧
      c.checkBudget "release_candidate_id" ArtifactScope.releaseCandidateId scope c.budgets.perCandidateMaxObjects
        c.budgets.perCandidateMaxBytes size = .ok () := by
  unfold checkScopeBudget at h
  split at h
  · cases h
  · cases source : c.checkBudget "source_id" ArtifactScope.sourceId scope c.budgets.perSourceMaxObjects
      c.budgets.perSourceMaxBytes size with
    | error e => rw [source] at h; cases h
    | ok _ =>
        cases incident : c.checkBudget "incident_id" ArtifactScope.incidentId scope c.budgets.perIncidentMaxObjects
          c.budgets.perIncidentMaxBytes size with
        | error e => rw [source, incident] at h; cases h
        | ok _ =>
            cases scenarioRun : c.checkBudget "scenario_run_id" ArtifactScope.scenarioRunId scope
              c.budgets.perRunMaxObjects c.budgets.perRunMaxBytes size with
            | error e => rw [source, incident, scenarioRun] at h; cases h
            | ok _ =>
                rw [source, incident, scenarioRun] at h
                exact ⟨rfl, rfl, rfl, h⟩

/-- What `register` leaves: the same catalog, or one with a new record that
    passed the checks. -/
theorem register_cases (c : ArtifactCatalog P) (sha256 path : String) (bytesCount : Nat) (mediaType : String)
    (policy : ArtifactPolicy) (scope : ArtifactScope) (critical : Bool) (createdAt : DateTime) :
    (register sha256 path bytesCount mediaType policy scope critical createdAt c).2 = c ∨
      ∃ record : ArtifactRecord P, record.scope = scope ∧ record.bytes = bytesCount ∧
        c.checkScopeBudget scope bytesCount = .ok () ∧
        (register sha256 path bytesCount mediaType policy scope critical createdAt c).2 =
          { c with registrations := c.registrations ++ [record] } := by
  unfold register
  dsimp only
  split
  · left
    split <;> rfl
  · split
    · exact .inl rfl
    · rename_i checked
      exact .inr ⟨_, rfl, rfl, checked, rfl⟩

theorem register_budgets (c : ArtifactCatalog P) (sha256 path : String) (bytesCount : Nat) (mediaType : String)
    (policy : ArtifactPolicy) (scope : ArtifactScope) (critical : Bool) (createdAt : DateTime) :
    (register sha256 path bytesCount mediaType policy scope critical createdAt c).2.budgets = c.budgets := by
  rcases register_cases c sha256 path bytesCount mediaType policy scope critical createdAt with same | ⟨_, _, _, _, after⟩
  · rw [same]
  · rw [after]

theorem WithinBudgets.register (holds : c.WithinBudgets c.budgets) (sha256 path : String) (bytesCount : Nat)
    (mediaType : String) (policy : ArtifactPolicy) (scope : ArtifactScope) (critical : Bool) (createdAt : DateTime) :
    WithinBudgets c.budgets (register sha256 path bytesCount mediaType policy scope critical createdAt c).2 := by
  rcases register_cases c sha256 path bytesCount mediaType policy scope critical createdAt with
    same | ⟨record, rfl, rfl, checked, after⟩
  · rw [same]
    exact holds
  · rw [after]
    obtain ⟨source, incident, scenarioRun, candidate⟩ := checkScopeBudget_ok checked
    exact ⟨holds.source.snoc source, holds.incident.snoc incident, holds.scenarioRun.snoc scenarioRun,
      holds.candidate.snoc candidate⟩

end ArtifactCatalog

/-! ## Runs of deposits -/

namespace ContentAddressedArtifactStore

/-- The calls that add to a store: objects, and registrations of whatever digest
    and size their caller states. -/
inductive Deposit where
  | putBytes (data : List UInt8) (mediaType : String) (critical : Bool) (policy : ArtifactPolicy) (scope : ArtifactScope)
      (now : DateTime)
  | register (sha256 relativePath : String) (bytesCount : Nat) (mediaType : String) (policy : ArtifactPolicy)
      (scope : ArtifactScope) (critical : Bool) (createdAt : DateTime)

/-- The store after a deposit, whether it returned or raised. -/
def deposit (a : ContentAddressedArtifactStore P) : Deposit → ContentAddressedArtifactStore P
  | .putBytes data mediaType critical policy scope now => (putBytes data mediaType critical policy scope now a).2
  | .register sha256 path bytesCount mediaType policy scope critical createdAt =>
      { a with
        catalog := (ArtifactCatalog.register sha256 path bytesCount mediaType policy scope critical createdAt a.catalog).2 }

def deposits (a : ContentAddressedArtifactStore P) (ops : List Deposit) : ContentAddressedArtifactStore P :=
  Foundation.run deposit a ops

variable {a : ContentAddressedArtifactStore P}

theorem usedBytes_insert {digest : String} (absent : a.files.get? digest = none) (data : List UInt8)
    (catalog : ArtifactCatalog P) :
    ({ a with files := a.files.insert digest data, catalog := catalog } : ContentAddressedArtifactStore P).usedBytes =
      a.usedBytes + data.length := by
  simp [usedBytes, Dict.values_insert_of_absent absent]

/-- The catalog once `put_bytes` has registered `size` bytes of an object. -/
def registered (a : ContentAddressedArtifactStore P) (data : List UInt8) (size : Nat) (mediaType : String)
    (critical : Bool) (policy : ArtifactPolicy) (scope : ArtifactScope) (now : DateTime) : ArtifactCatalog P :=
  (ArtifactCatalog.register (contentDigest P data) (relativePath (contentDigest P data)) size mediaType policy scope
    critical now a.catalog).2

/-- What `put_bytes` leaves behind: nothing new, a registration of a stored
    object, or an object for which there was room. -/
theorem putBytes_cases (a : ContentAddressedArtifactStore P) (data : List UInt8) (mediaType : String) (critical : Bool)
    (policy : ArtifactPolicy) (scope : ArtifactScope) (now : DateTime) :
    (putBytes data mediaType critical policy scope now a).2 = a ∨
    (∃ size, (putBytes data mediaType critical policy scope now a).2 =
      { a with catalog := a.registered data size mediaType critical policy scope now }) ∨
    (a.files.get? (contentDigest P data) = none ∧
      a.usedBytes + data.length ≤ (if critical then a.maxBytes else a.maxBytes - a.reserveBytes) ∧
      (putBytes data mediaType critical policy scope now a).2 = { a with
        files := a.files.insert (contentDigest P data) data
        catalog := a.registered data data.length mediaType critical policy scope now }) := by
  unfold putBytes
  simp only [Call.read_bind, id]
  by_cases readOnly : a.forcedReadOnly = true
  · rw [if_pos readOnly]
    exact .inl rfl
  · rw [if_neg readOnly]
    cases stored : a.files.get? (contentDigest P data) with
    | some existing =>
        dsimp only
        by_cases collides : contentDigest P existing ≠ contentDigest P data
        · rw [if_pos collides]
          exact .inl rfl
        · rw [if_neg collides, Call.bind_pure_state]
          exact .inr (.inl ⟨existing.length, rfl⟩)
    | none =>
        dsimp only
        by_cases full : a.usedBytes + data.length > (if critical then a.maxBytes else a.maxBytes - a.reserveBytes)
        · rw [if_pos full]
          exact .inl rfl
        · rw [if_neg full, Call.modify_bind, Call.bind_pure_state]
          exact .inr (.inr ⟨rfl, not_lt.mp full, rfl⟩)

/-- What a store keeps over deposits, from its configuration on. -/
structure Bounded (maxBytes reserveBytes : Int) (budgets : ArtifactBudgetPolicy) (a : ContentAddressedArtifactStore P) :
    Prop where
  maxBytes_eq : (a.maxBytes : Int) = maxBytes
  reserveBytes_eq : (a.reserveBytes : Int) = reserveBytes
  reserved : a.reserveBytes < a.maxBytes
  budgets_eq : a.catalog.budgets = budgets
  used : a.usedBytes ≤ a.maxBytes
  scopes : a.catalog.WithinBudgets budgets

variable {maxBytes reserveBytes : Int} {budgets : ArtifactBudgetPolicy}

theorem Bounded.of_make (made : make maxBytes reserveBytes budgets = .ok a) : Bounded maxBytes reserveBytes budgets a := by
  unfold make at made
  split at made
  · cases made
  · rename_i valid
    cases made
    have sizes : 0 < maxBytes ∧ 0 ≤ reserveBytes ∧ reserveBytes < maxBytes := by omega
    constructor
    · exact Int.toNat_of_nonneg sizes.1.le
    · exact Int.toNat_of_nonneg sizes.2.1
    · dsimp only
      omega
    · rfl
    · exact Nat.zero_le _
    · constructor <;> exact fun value => ⟨Nat.zero_le _, Nat.zero_le _⟩

/-- The same limits, files that still fit and one registration at most. -/
theorem Bounded.register (bounded : Bounded maxBytes reserveBytes budgets a) {files : Dict String (List UInt8)}
    (fits : (files.values.map List.length).sum ≤ a.maxBytes) (sha256 path : String) (bytesCount : Nat)
    (mediaType : String) (policy : ArtifactPolicy) (scope : ArtifactScope) (critical : Bool) (createdAt : DateTime) :
    Bounded maxBytes reserveBytes budgets { a with
      files := files
      catalog := (ArtifactCatalog.register sha256 path bytesCount mediaType policy scope critical createdAt a.catalog).2 } := by
  have scopes := ArtifactCatalog.WithinBudgets.register (bounded.budgets_eq ▸ bounded.scopes) sha256 path bytesCount
    mediaType policy scope critical createdAt
  have same := ArtifactCatalog.register_budgets a.catalog sha256 path bytesCount mediaType policy scope critical createdAt
  constructor
  · exact bounded.maxBytes_eq
  · exact bounded.reserveBytes_eq
  · exact bounded.reserved
  · exact same.trans bounded.budgets_eq
  · exact fits
  · exact bounded.budgets_eq ▸ scopes

theorem Bounded.deposit (bounded : Bounded maxBytes reserveBytes budgets a) (op : Deposit) :
    Bounded maxBytes reserveBytes budgets (a.deposit op) := by
  cases op with
  | register sha256 path bytesCount mediaType policy scope critical createdAt =>
      exact bounded.register bounded.used sha256 path bytesCount mediaType policy scope critical createdAt
  | putBytes data mediaType critical policy scope now =>
      show Bounded maxBytes reserveBytes budgets (putBytes data mediaType critical policy scope now a).2
      rcases putBytes_cases a data mediaType critical policy scope now with same | ⟨size, known⟩ | ⟨absent, room, new⟩
      · rw [same]
        exact bounded
      · rw [known]
        exact bounded.register bounded.used _ _ _ _ _ _ _ _
      · rw [new]
        refine bounded.register ?_ _ _ _ _ _ _ _ _
        refine (usedBytes_insert absent data a.catalog).le.trans (room.trans ?_)
        split
        · exact le_rfl
        · exact Nat.sub_le _ _

/-- A noncritical object that was not there before leaves the reserve alone. -/
theorem Bounded.reserve (bounded : Bounded maxBytes reserveBytes budgets a) {data : List UInt8} {mediaType : String}
    {policy : ArtifactPolicy} {scope : ArtifactScope} {now : DateTime}
    (written : (putBytes data mediaType false policy scope now a).2.files ≠ a.files) :
    ((putBytes data mediaType false policy scope now a).2.usedBytes : Int) ≤ maxBytes - reserveBytes := by
  have sizes := bounded.reserved
  rw [← bounded.maxBytes_eq, ← bounded.reserveBytes_eq]
  rcases putBytes_cases a data mediaType false policy scope now with same | ⟨size, known⟩ | ⟨absent, room, new⟩
  · exact absurd (congrArg files same) written
  · exact absurd (congrArg files known) written
  · rw [new, usedBytes_insert absent]
    simp only [Bool.false_eq_true, if_false] at room
    omega

/-- A store for ten bytes, two of them in reserve, and one object of each source. -/
def small : ContentAddressedArtifactStore Platform.hexadecimal where
  files := Dict.empty
  catalog := { budgets := { perSourceMaxObjects := 1 } }
  maxBytes := 10
  reserveBytes := 2
  forcedReadOnly := false

/-- Three bytes, a second registration of their source, and six bytes too many. -/
def smallDeposits : List Deposit := [
  .putBytes [1, 2, 3] "text/plain" false (.incidentEvidence false) { sourceId := some "camera" } 0,
  .putBytes [1, 2, 3] "text/plain" true (.incidentEvidence false) { sourceId := some "camera" } 1,
  .putBytes [4, 5, 6, 7, 8, 9] "text/plain" false (.incidentEvidence false) {} 2]

end ContentAddressedArtifactStore

end SentinelEdge.Storage
