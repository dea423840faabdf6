import SentinelEdge.Storage.Budgets

/-! # What a refused write leaves behind

`put_bytes` publishes the file of a new object and registers it afterwards. A write that is
refused before leaves everything alone; one whose registration the catalog refuses
leaves a file without a policy.
-/

namespace SentinelEdge.Storage

open Foundation Domain

variable {P : Platform}

namespace ArtifactCatalog

/-- The catalog has the registration already, or its budgets have room for it. -/
def Admits (c : ArtifactCatalog P) (digest : String) (size : Nat) (policy : ArtifactPolicy) (scope : ArtifactScope)
    (critical : Bool) : Prop :=
  match c.registrations.find? (fun r => r.registrationId = registrationId P digest policy scope critical) with
  | some existing => existing.policySha256 = P.sha256 (policy.modelDump P) ∧ existing.scope = scope
  | none => c.checkScopeBudget scope size = .ok ()

variable {c : ArtifactCatalog P} {digest path mediaType : String} {size : Nat} {policy : ArtifactPolicy}
  {scope : ArtifactScope} {critical : Bool} {now : DateTime}

/-- What the catalog does not admit it refuses, as it was. -/
theorem register_refuses_iff : c.Admits digest size policy scope critical ∧
      (∃ record c', register digest path size mediaType policy scope critical now c = (.ok record, c')) ∨
    ¬ c.Admits digest size policy scope critical ∧
      ∃ e, register digest path size mediaType policy scope critical now c = (.error e, c) := by
  unfold Admits register
  dsimp only
  cases c.registrations.find? (fun r => r.registrationId = registrationId P digest policy scope critical) with
  | some existing =>
      dsimp only
      split
      · next conflict =>
          refine Or.inr ⟨?_, _, rfl⟩
          rintro ⟨policies, scopes⟩
          simp [policies, scopes] at conflict
      · next agrees =>
          simp only [not_or, not_not] at agrees
          exact Or.inl ⟨agrees, _, _, rfl⟩
  | none =>
      dsimp only
      cases c.checkScopeBudget scope size with
      | ok _ => exact Or.inl ⟨rfl, _, _, rfl⟩
      | error e => exact Or.inr ⟨nofun, _, rfl⟩

/-- The registration that a write finds in the catalog, if any, is of the same digest. -/
def Distinguishes (c : ArtifactCatalog P) (digest : String) (policy : ArtifactPolicy) (scope : ArtifactScope)
    (critical : Bool) : Prop :=
  ∀ existing ∈ c.registrations.find? (fun r => r.registrationId = registrationId P digest policy scope critical),
    existing.sha256 = digest

theorem register_catalogues (admits : c.Admits digest size policy scope critical)
    (distinguishes : c.Distinguishes digest policy scope critical) :
    ∃ record ∈ (register digest path size mediaType policy scope critical now c).2.registrations,
      record.sha256 = digest := by
  unfold Admits at admits
  unfold Distinguishes at distinguishes
  unfold register
  dsimp only
  cases found : c.registrations.find? (fun r => r.registrationId = registrationId P digest policy scope critical) with
  | some existing =>
      refine ⟨existing, ?_, distinguishes existing found⟩
      dsimp only
      split <;> exact List.mem_of_find?_eq_some found
  | none =>
      rw [found] at admits
      dsimp only at admits ⊢
      rw [admits]
      exact ⟨_, List.mem_append_right _ (List.mem_singleton_self _), rfl⟩

theorem mem_register {record : ArtifactRecord P} (mem : record ∈ c.registrations) :
    record ∈ (register digest path size mediaType policy scope critical now c).2.registrations := by
  rcases register_cases c digest path size mediaType policy scope critical now with same | ⟨_, _, _, _, after⟩
  · rw [same]
    exact mem
  · rw [after]
    exact List.mem_append_left _ mem

end ArtifactCatalog

namespace ContentAddressedArtifactStore

variable {a a' : ContentAddressedArtifactStore P} {data : List UInt8} {mediaType : String} {critical : Bool}
  {policy : ArtifactPolicy} {scope : ArtifactScope} {now : DateTime}

/-- The write is refused before the file is published: the medium cannot be written, or the
    bytes would not fit. -/
def RefusesEarly (a : ContentAddressedArtifactStore P) (data : List UInt8) (critical : Bool) : Prop :=
  a.forcedReadOnly = true ∨ (if critical then a.maxBytes else a.maxBytes - a.reserveBytes) < a.usedBytes + data.length

/-- What follows the writing of a file returns if the catalog admits the registration. Otherwise it
    raises, and the store is as the registration found it. -/
theorem registration_refuses_iff {digest : String} {size : Nat} {ref : ArtifactRef} :
    (a.catalog.Admits digest size policy scope critical ∧
      ∃ a', (register digest size mediaType policy scope critical now >>= fun _ => pure ref) a = (.ok ref, a')) ∨
    (¬ a.catalog.Admits digest size policy scope critical ∧
      ∃ e, (register digest size mediaType policy scope critical now >>= fun _ => pure ref) a = (.error e, a)) := by
  have answered : a.catalog.Admits digest size policy scope critical ∧ (∃ record c',
        ArtifactCatalog.register digest (relativePath digest) size mediaType policy scope critical now a.catalog =
          (.ok record, c')) ∨
      ¬ a.catalog.Admits digest size policy scope critical ∧ ∃ e,
        ArtifactCatalog.register digest (relativePath digest) size mediaType policy scope critical now a.catalog =
          (.error e, a.catalog) := ArtifactCatalog.register_refuses_iff
  rcases answered with ⟨admitted, record, c', registered⟩ | ⟨refused, e, registered⟩
  · have zoomed : register digest size mediaType policy scope critical now a = (.ok record, { a with catalog := c' }) := by
      simp [register, Call.zoom, registered]
    exact Or.inl ⟨admitted, _, Call.bind_of_ok zoomed⟩
  · have zoomed : register digest size mediaType policy scope critical now a = (.error e, a) := by
      simp [register, Call.zoom, registered]
    exact Or.inr ⟨refused, e, Call.bind_of_error zoomed⟩

/-- The object is stored already, the write is refused before its file is published, or the
    catalog has the registration or room for it. -/
def Traceless (a : ContentAddressedArtifactStore P) (data : List UInt8) (critical : Bool) (policy : ArtifactPolicy)
    (scope : ArtifactScope) : Prop :=
  (a.files.get? (contentDigest P data)).isSome = true ∨ a.RefusesEarly data critical ∨
    a.catalog.Admits (contentDigest P data) data.length policy scope critical

theorem refused_write_leaves_no_trace (a : ContentAddressedArtifactStore P) (data : List UInt8) (mediaType : String)
    (critical : Bool) (policy : ArtifactPolicy) (scope : ArtifactScope) (now : DateTime) :
    (∀ e a', putBytes data mediaType critical policy scope now a = (.error e, a') →
      a'.files = a.files ∧ a'.catalog = a.catalog) ↔ a.Traceless data critical policy scope := by
  unfold putBytes Traceless RefusesEarly
  simp only [Call.read_bind, id]
  by_cases readOnly : a.forcedReadOnly = true
  · simp only [readOnly, if_true, Call.raise_apply, true_or, or_true, iff_true]
    intro e a' refused
    cases refused
    exact ⟨rfl, rfl⟩
  · rw [if_neg readOnly]
    simp only [readOnly, Bool.false_eq_true, false_or]
    cases stored : a.files.get? (contentDigest P data) with
    | some existing =>
        simp only [Option.isSome_some, true_or, iff_true]
        intro e a' refused
        by_cases collides : contentDigest P existing ≠ contentDigest P data
        · rw [if_pos collides] at refused
          cases refused
          exact ⟨rfl, rfl⟩
        · rw [if_neg collides] at refused
          rcases registration_refuses_iff with ⟨_, after, returned⟩ | ⟨_, cause, raised⟩
          · cases returned.symm.trans refused
          · cases raised.symm.trans refused
            exact ⟨rfl, rfl⟩
    | none =>
        simp only [Option.isSome_none, Bool.false_eq_true, false_or]
        by_cases full : (if critical then a.maxBytes else a.maxBytes - a.reserveBytes) < a.usedBytes + data.length
        · simp only [gt_iff_lt, full, if_true, true_or, iff_true, Call.raise_apply]
          intro e a' refused
          cases refused
          exact ⟨rfl, rfl⟩
        · -- the file is there before the catalog is asked
          simp only [gt_iff_lt, full, if_false, false_or, Call.modify_bind]
          rcases registration_refuses_iff
            (a := { a with files := a.files.insert (contentDigest P data) data }) with
            ⟨admitted, after, returned⟩ | ⟨refused, cause, raised⟩
          · constructor
            · intro _
              exact admitted
            · intro _ e a' refused
              cases returned.symm.trans refused
          · constructor
            · intro traceless
              have published := (traceless _ _ raised).1
              have present := congrArg (fun files => files.get? (contentDigest P data)) published
              simp [stored] at present
            · intro admitted
              exact absurd admitted refused

/-! ## Files without a policy -/

/-- Every file has a record in the catalog. -/
def Catalogued (a : ContentAddressedArtifactStore P) : Prop :=
  ∀ digest, (a.files.get? digest).isSome = true → ∃ record ∈ a.catalog.registrations, record.sha256 = digest

/-- The writes of the run that meet the condition. -/
def Covers (a : ContentAddressedArtifactStore P) : Deposit → Prop
  | .putBytes data _ critical policy scope _ =>
      a.Traceless data critical policy scope ∧ a.catalog.Distinguishes (contentDigest P data) policy scope critical
  | .register .. => True

theorem Catalogued.register (catalogued : a.Catalogued) {digest path : String} {size : Nat} :
    Catalogued { a with
      catalog := (ArtifactCatalog.register digest path size mediaType policy scope critical now a.catalog).2 } := by
  intro stored present
  obtain ⟨record, mem, same⟩ := catalogued stored present
  exact ⟨record, ArtifactCatalog.mem_register mem, same⟩

theorem Catalogued.deposit (op : Deposit) (covers : a.Covers op) (catalogued : a.Catalogued) :
    (a.deposit op).Catalogued := by
  cases op with
  | register sha256 path bytesCount mediaType policy scope critical createdAt => exact catalogued.register
  | putBytes data mediaType critical policy scope now =>
      show Catalogued (putBytes data mediaType critical policy scope now a).2
      rcases putBytes_cases a data mediaType critical policy scope now with same | ⟨size, known⟩ | ⟨absent, room, new⟩
      · rw [same]
        exact catalogued
      · rw [known]
        exact catalogued.register
      · rw [new]
        have admits : a.catalog.Admits (contentDigest P data) data.length policy scope critical := by
          rcases covers.1 with present | early | admits
          · simp [absent] at present
          · rcases early with readOnly | full
            · have untouched : (putBytes data mediaType critical policy scope now a).2 = a := by
                simp [putBytes, readOnly]
              have grown := congrArg (fun store => store.files.get? (contentDigest P data)) (untouched.symm.trans new)
              simp [absent] at grown
            · omega
          · exact admits
        intro stored present
        by_cases written : stored = contentDigest P data
        · subst written
          exact ArtifactCatalog.register_catalogues admits covers.2
        · have before : (a.files.get? stored).isSome = true := by
            simpa [Dict.get?_insert, written] using present
          obtain ⟨record, mem, same⟩ := catalogued stored before
          exact ⟨record, ArtifactCatalog.mem_register mem, same⟩

/-- A refused write leaves the files and the catalog as they were exactly if it is `Traceless`,
    and a run of such writes leaves no file without a registration. -/
theorem refused_write_leaves_no_trace_iff {maxBytes reserveBytes : Int} {budgets : ArtifactBudgetPolicy}
    {empty : ContentAddressedArtifactStore P} (made : make maxBytes reserveBytes budgets = .ok empty) :
    (∀ (a : ContentAddressedArtifactStore P) data mediaType critical policy scope now,
      (∀ e a', putBytes data mediaType critical policy scope now a = (.error e, a') →
        a'.files = a.files ∧ a'.catalog = a.catalog) ↔ a.Traceless data critical policy scope) ∧
    ∀ ops, Meets deposit Covers empty ops → (empty.deposits ops).Catalogued := by
  constructor
  · exact refused_write_leaves_no_trace
  · intro ops covered
    have fresh : empty.Catalogued := by
      unfold make at made
      split at made
      · cases made
      · cases made
        intro digest present
        cases present
    exact covered.invariant (fun _ op => Catalogued.deposit op) fresh

theorem firstObject_catalogued : (small.deposits (smallDeposits.take 1)).Catalogued := by
  have admitted : small.catalog.checkScopeBudget { sourceId := some "camera" } 3 = .ok () := rfl
  have covered : Meets deposit Covers small (smallDeposits.take 1) :=
    ⟨⟨Or.inr (Or.inr admitted), fun _ found => nomatch found⟩, trivial⟩
  exact (refused_write_leaves_no_trace_iff (show make 10 2 { perSourceMaxObjects := 1 } = .ok small from rfl)).2
    (smallDeposits.take 1) covered

/-- The camera's one object is stored, and its second one is written. -/
def secondObject : Except Error ArtifactRef × ContentAddressedArtifactStore Platform.hexadecimal :=
  putBytes [4] "text/plain" false (.incidentEvidence false) { sourceId := some "camera" } 1
    (small.deposits (smallDeposits.take 1))

theorem secondObject_is_left_uncatalogued :
    ¬ ∀ (a : ContentAddressedArtifactStore Platform.hexadecimal) (data : List UInt8) (mediaType : String)
      (critical : Bool) (policy : ArtifactPolicy) (scope : ArtifactScope) (now : DateTime) (e : Error)
      (a' : ContentAddressedArtifactStore Platform.hexadecimal),
      putBytes data mediaType critical policy scope now a = (.error e, a') →
      a'.files = a.files ∧ a'.catalog = a.catalog := by
  intro traceless
  have left : secondObject.1.isOk = false ∧
      secondObject.2.files.keys ≠ (small.deposits (smallDeposits.take 1)).files.keys := by decide +kernel
  rcases refused : secondObject with ⟨result, after⟩
  rw [refused] at left
  cases result with
  | ok ref => cases left.1
  | error e => exact left.2 (congrArg Dict.keys (traceless _ _ _ _ _ _ _ e after refused).1)

end ContentAddressedArtifactStore

end SentinelEdge.Storage
