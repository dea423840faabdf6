import Mathlib.Data.String.Basic
import SentinelEdge.Runtime.ModelPackages
import SentinelEdge.Runtime.OnnxMeaning

/-! # What admitted graphs declare

Opset records are looked up by domain, values by name, and of a value the last
tensor type counts. Every record that is the only one of its kind and has an
explicit shape in one piece is checked; the others are not, or not as a whole.
-/

namespace SentinelEdge.Runtime

open Foundation Domain Wire

/-! ## Records as the wire format merges them -/

/-- An embedded message that may come in several pieces. -/
def merged (number : Nat) (fields : List Field) : List Field := fieldsOf (delimited number fields).flatten

/-- The tensor type of a value. -/
def tensorTypeOf (record : List UInt8) : List Field := merged 1 (merged 2 (fieldsOf record))

/-- The record names a contract, has its element type and an explicit shape, and
    fixes no dimension outside the bounds. -/
def MeetsContract (contracts : List TensorAllocationContract) (record : List UInt8) : Prop :=
  ∃ contract ∈ contracts, contract.name = textOf 1 (fieldsOf record) ∧
    dtypeName (valueOf 1 (tensorTypeOf record)) = contract.dtype ∧
    delimited 2 (tensorTypeOf record) ≠ [] ∧
    ∀ (i value : Nat), (dimensionsOf (merged 2 (tensorTypeOf record)))[i]? = some (some (Dimension.fixed value)) →
      ∃ bound, contract.dimensions[i]? = some bound ∧ bound.minimum ≤ value ∧ value ≤ bound.maximum

/-- The records of a graph input or output in the order of the file. A record is
    irregular if a later one has its name, if its tensor type comes in several
    pieces, or if it has no shape. -/
def Irregular (record : List UInt8) (later : List (List UInt8)) : Prop :=
  (∃ other ∈ later, textOf 1 (fieldsOf other) = textOf 1 (fieldsOf record)) ∨
  1 < (delimited 1 (merged 2 (fieldsOf record))).length ∨
  delimited 2 (tensorTypeOf record) = []

/-- The irregular records meet their contracts. -/
def IrregularMeet (contracts : List TensorAllocationContract) (records : List (List UInt8)) : Prop :=
  ∀ before record later, records = before ++ record :: later → Irregular record later → MeetsContract contracts record

def opsetRecords (data : List UInt8) : List OpsetImport := (delimited 8 (fieldsOf data)).map (fun opset => opsetOf (fieldsOf opset))

/-- The record lies in the interval that is allowed for its domain. -/
def OpsetAllowed (package : ModelPackageManifest) (opset : OpsetImport) : Prop :=
  ∃ bounds, package.allowedOpsets.get? opset.domain = some bounds ∧ bounds.1 ≤ opset.version ∧ opset.version ≤ bounds.2

/-- A record with a lower version than another one of its domain reaches the lower
    bound. -/
def OutrankedAllowed (package : ModelPackageManifest) (opsets : List OpsetImport) : Prop :=
  ∀ opset ∈ opsets, (∃ other ∈ opsets, other.domain = opset.domain ∧ opset.version < other.version) →
    ∀ bounds, package.allowedOpsets.get? opset.domain = some bounds → bounds.1 ≤ opset.version

/-! ## One regular record -/

/-- The pieces of tensor types in the merged type are those of its pieces. -/
theorem tensorTypes_eq {fields : List Field} (reads : ReadsType fields) :
    tensorTypes fields = delimited 1 (merged 2 fields) := by
  rw [merged, fieldsOf, scan_flatten reads.types, delimited_flatMap]
  rfl

/-- The shape the program reads off a regular record is the one it has. -/
theorem shapeOf_regular {record : List UInt8} {later : List (List UInt8)} (reads : ReadsType (fieldsOf record))
    (regular : ¬ Irregular record later) :
    shapeOf (fieldsOf record) = ⟨textOf 1 (fieldsOf record), dtypeName (valueOf 1 (tensorTypeOf record)),
      dimensionsOf (merged 2 (tensorTypeOf record))⟩ := by
  have pieces := tensorTypes_eq reads
  simp only [Irregular, not_or] at regular
  obtain ⟨_, single, shaped⟩ := regular
  cases parts : delimited 1 (merged 2 (fieldsOf record)) with
  | nil =>
      have nothing : tensorTypeOf record = [] := by
        rw [tensorTypeOf, merged, parts]
        rfl
      exact absurd (by rw [nothing]; rfl) shaped
  | cons piece others =>
      cases others with
      | cons other others => simp [parts] at single
      | nil =>
          have only : tensorTypeOf record = fieldsOf piece := by
            rw [tensorTypeOf, merged, parts]
            simp
          have tensor : ReadsTensor piece := reads.tensors piece (by simp [pieces, parts])
          have dims : dimensionsOf (merged 2 (fieldsOf piece)) =
              (delimited 2 (fieldsOf piece)).flatMap (fun shape => dimensionsOf (fieldsOf shape)) := by
            simp only [dimensionsOf, merged]
            rw [show fieldsOf (delimited 2 (fieldsOf piece)).flatten = _ from congrArg Prod.fst (scan_flatten tensor.2),
              delimited_flatMap, List.map_flatMap]
            rfl
          rw [shapeOf, pieces, parts, only, dims]
          rfl

/-! ## The checks -/

variable {direction : String} {contract : TensorAllocationContract} {item : TensorShape}

theorem contractFailures_nil (clean : contractFailures direction item contract = []) :
    item.dtype = contract.dtype ∧ ∀ (i value : Nat), item.dimensions[i]? = some (some (Dimension.fixed value)) →
      ∃ bound, contract.dimensions[i]? = some bound ∧ bound.minimum ≤ value ∧ value ≤ bound.maximum := by
  simp only [contractFailures, List.append_eq_nil_iff, ite_eq_right_iff, List.cons_ne_self, imp_false,
    not_not] at clean
  obtain ⟨dtype, dims⟩ := clean
  refine ⟨dtype, fun i value here => ?_⟩
  split at dims
  · cases dims
  · have ranked : item.dimensions.length = contract.dimensions.length := by
      rw [← contract.ranked.2]
      exact not_not.mp ‹_›
    have inside : i < contract.dimensions.length := ranked ▸ (List.getElem?_eq_some_iff.mp here).1
    refine ⟨contract.dimensions[i], List.getElem?_eq_getElem inside, ?_⟩
    have pair : (item.dimensions.zip contract.dimensions)[i]? = some (some (.fixed value), contract.dimensions[i]) := by
      rw [List.getElem?_zip_eq_some]
      exact ⟨here, List.getElem?_eq_getElem inside⟩
    have checked := List.flatMap_eq_nil_iff.mp dims ((some (.fixed value), contract.dimensions[i]), i)
      (List.mk_mem_zipIdx_iff_getElem?.mpr pair)
    simp only [dimensionFailures, ite_eq_right_iff, List.cons_ne_self, imp_false, not_or, not_lt] at checked
    exact checked

/-- The last value of its name is checked against the contract of that name. -/
theorem checked_of_last {observed before later : List TensorShape} {declared : List TensorAllocationContract}
    (clean : validateTensorContracts observed declared direction = []) (here : observed = before ++ item :: later)
    (last : ∀ other ∈ later, other.name ≠ item.name) :
    ∃ contract ∈ declared, contract.name = item.name ∧ contractFailures direction item contract = [] := by
  have found : (Dict.ofList TensorShape.name observed).get? item.name = some item := by
    have none_later : later.filter (fun other => other.name = item.name) = [] := by
      simpa [List.filter_eq_nil_iff] using last
    rw [Dict.get?_ofList, here, List.filter_append, List.filter_cons_of_pos (by simp), none_later]
    simp
  simp only [validateTensorContracts, List.append_eq_nil_iff, ite_eq_left_iff, List.cons_ne_self, imp_false, not_not] at clean
  obtain ⟨⟨declares, _⟩, checks⟩ := clean
  have key : item.name ∈ (Dict.ofList TensorShape.name observed).keys := Dict.mem_keys_iff.mpr (by simp [found])
  obtain ⟨contract, named⟩ := Option.isSome_iff_exists.mp (Dict.mem_keys_iff.mp (declares key))
  have member : contract ∈ declared ∧ contract.name = item.name := by
    have among := named
    rw [Dict.get?_ofList] at among
    simpa using List.mem_of_getLast? among
  have checked := List.flatMap_eq_nil_iff.mp checks contract (Dict.mem_values_iff.mpr ⟨_, named⟩)
  rw [member.2, found] at checked
  exact ⟨contract, member.1, member.2, checked⟩

theorem shapeOf_name (fields : List Field) : (shapeOf fields).name = textOf 1 fields := by
  unfold shapeOf described
  split
  · rfl
  · rfl

/-- Where the checks found nothing, the regular records meet their contracts. -/
theorem regular_meet {records before later : List (List UInt8)} {record : List UInt8}
    {declared : List TensorAllocationContract} (reads : ∀ value ∈ records, ReadsType (fieldsOf value))
    (clean : validateTensorContracts (records.map (fun value => shapeOf (fieldsOf value))) declared direction = [])
    (here : records = before ++ record :: later) (regular : ¬ Irregular record later) : MeetsContract declared record := by
  have shape := shapeOf_regular (reads record (by simp [here])) regular
  have last : ∀ other ∈ later.map (fun value => shapeOf (fieldsOf value)), other.name ≠ (shapeOf (fieldsOf record)).name := by
    intro other member same
    obtain ⟨value, inLater, rfl⟩ := List.mem_map.mp member
    rw [shapeOf_name, shapeOf_name] at same
    exact regular (Or.inl ⟨value, inLater, same⟩)
  obtain ⟨contract, among, named, checked⟩ := checked_of_last clean (by rw [here, List.map_append, List.map_cons]) last
  obtain ⟨dtype, dims⟩ := contractFailures_nil checked
  rw [shapeOf_name] at named
  rw [shape] at dtype dims
  refine ⟨contract, among, named, dtype, ?_, dims⟩
  intro shapeless
  exact regular (Or.inr (Or.inr shapeless))

theorem records_meet_iff {records : List (List UInt8)} {declared : List TensorAllocationContract}
    (reads : ∀ value ∈ records, ReadsType (fieldsOf value))
    (clean : validateTensorContracts (records.map (fun value => shapeOf (fieldsOf value))) declared direction = []) :
    (∀ record ∈ records, MeetsContract declared record) ↔ IrregularMeet declared records := by
  constructor
  · intro all before record later here _
    exact all record (by simp [here])
  · intro irregular record member
    obtain ⟨before, later, here⟩ := List.append_of_mem member
    by_cases odd : Irregular record later
    · exact irregular before record later here odd
    · exact regular_meet reads clean here odd

/-! ## Opsets -/

/-- The order of `sorted(opsets, key=…)`. -/
def opsetOrder (a b : OpsetImport) : Prop := a.domain < b.domain ∨ (a.domain = b.domain ∧ a.version ≤ b.version)

instance : DecidableRel opsetOrder := fun a b =>
  inferInstanceAs (Decidable (a.domain < b.domain ∨ (a.domain = b.domain ∧ a.version ≤ b.version)))

theorem sorted_opsets (opsets : List OpsetImport) : (opsets.insertionSort opsetOrder).Pairwise opsetOrder := by
  have : Std.Total opsetOrder := by
    refine ⟨fun a b => ?_⟩
    rcases lt_trichotomy a.domain b.domain with less | same | more
    · exact Or.inl (Or.inl less)
    · exact (Nat.le_total a.version b.version).imp (fun le => Or.inr ⟨same, le⟩) (fun le => Or.inr ⟨same.symm, le⟩)
    · exact Or.inr (Or.inl more)
  have : IsTrans OpsetImport opsetOrder := by
    refine ⟨fun a b c first second => ?_⟩
    rcases first with less | ⟨same, le⟩
    · rcases second with less' | ⟨same', _⟩
      · exact Or.inl (less.trans less')
      · exact Or.inl (same' ▸ less)
    · rcases second with less' | ⟨same', le'⟩
      · exact Or.inl (same ▸ less')
      · exact Or.inr ⟨same.trans same', le.trans le'⟩
  exact List.pairwise_insertionSort _ _

variable {package : ModelPackageManifest}

/-- Of each domain the record with the highest version is checked. -/
theorem highest_allowed {opsets : List OpsetImport} (clean : opsetFailures package (opsets.insertionSort opsetOrder) = [])
    {opset : OpsetImport} (member : opset ∈ opsets) :
    ∃ best ∈ opsets, best.domain = opset.domain ∧ opset.version ≤ best.version ∧ OpsetAllowed package best := by
  have ofDomain : opset ∈ (opsets.insertionSort opsetOrder).filter (fun other => other.domain = opset.domain) := by
    simpa [List.mem_insertionSort] using member
  cases last : ((opsets.insertionSort opsetOrder).filter (fun other => other.domain = opset.domain)).getLast? with
  | none => exact absurd ofDomain (by simp [List.getLast?_eq_none_iff.mp last])
  | some best =>
      obtain ⟨front, split⟩ := List.getLast?_eq_some_iff.mp last
      have among : best ∈ opsets ∧ best.domain = opset.domain := by
        simpa [List.mem_insertionSort] using List.mem_of_getLast? last
      have named := Dict.get?_ofList OpsetImport.domain (opsets.insertionSort opsetOrder) opset.domain
      rw [last] at named
      have checked := List.flatMap_eq_nil_iff.mp clean best (Dict.mem_values_iff.mpr ⟨_, named⟩)
      refine ⟨best, among.1, among.2, ?_, ?_⟩
      · have sorted := (sorted_opsets opsets).filter (fun other => decide (other.domain = opset.domain))
        rw [split] at sorted ofDomain
        cases List.mem_append.mp ofDomain with
        | inl earlier =>
            rcases (List.pairwise_append.mp sorted).2.2 opset earlier best (by simp) with less | ⟨_, le⟩
            · exact absurd less (by simp [among.2])
            · exact le
        | inr only => exact Nat.le_of_eq (congrArg OpsetImport.version (List.mem_singleton.mp only))
      · cases bounds : package.allowedOpsets.get? best.domain with
        | none => simp [bounds] at checked
        | some interval =>
            simp only [bounds, ite_eq_left_iff, List.cons_ne_self, imp_false, not_not] at checked
            exact ⟨interval, bounds, checked⟩

theorem opsets_allowed_iff {opsets : List OpsetImport} (clean : opsetFailures package (opsets.insertionSort opsetOrder) = []) :
    (∀ opset ∈ opsets, OpsetAllowed package opset) ↔ OutrankedAllowed package opsets := by
  constructor
  · intro all opset member _ bounds found
    obtain ⟨bounds', found', low, _⟩ := all opset member
    cases Option.some.inj (found.symm.trans found')
    exact low
  · intro outranked opset member
    obtain ⟨best, among, same, le, bounds, found, low, high⟩ := highest_allowed clean member
    rw [same] at found
    refine ⟨bounds, found, ?_, by omega⟩
    by_cases equal : opset.version = best.version
    · omega
    · exact outranked opset member ⟨best, among, same, by omega⟩ bounds found

/-! ## Admitted packages -/

/-- For every admitted package: all opset records lie in their intervals, and all
    inputs and outputs meet a contract, exactly if the outranked opset records reach
    their lower bounds and the irregular inputs and outputs meet a contract. -/
theorem bounds_declarations_iff (P : Platform) (package : ModelPackageManifest) (root : PackageRoot)
    (runtime : RuntimeAdmissionContext) (issues : Option RuntimeIssueEvaluation) (now : DateTime) (data : List UInt8)
    (file : root.model = some data)
    (admitted : (admitModelPackage P package root runtime issues now).admissionPassed = true) :
    ((∀ opset ∈ opsetRecords data, OpsetAllowed package opset) ∧
      ∀ graph ∈ delimited 7 (fieldsOf data),
        (∀ record ∈ delimited 11 (fieldsOf graph), MeetsContract package.inputs record) ∧
        ∀ record ∈ delimited 12 (fieldsOf graph), MeetsContract package.outputs record) ↔
    (OutrankedAllowed package (opsetRecords data) ∧
      ∀ graph ∈ delimited 7 (fieldsOf data),
        IrregularMeet package.inputs (delimited 11 (fieldsOf graph)) ∧
        IrregularMeet package.outputs (delimited 12 (fieldsOf graph))) := by
  obtain ⟨bytes, report, here, inspected, clean⟩ := graph_of_admitted admitted
  obtain rfl : data = bytes := Option.some.inj (file.symm.trans here)
  obtain ⟨top, parsed, only, reads, inputs, outputs, _, opsets⟩ := graph_of_inspected inspected
  simp only [graphFailures, List.append_eq_nil_iff] at clean
  obtain ⟨⟨⟨⟨⟨⟨opsetsClean, _⟩, _⟩, _⟩, _⟩, inputsClean⟩, outputsClean⟩ := clean
  rw [inputs, reads.inputs] at inputsClean
  rw [outputs, reads.outputs] at outputsClean
  have ordered : report.opsets = (opsetRecords data).insertionSort opsetOrder := opsets
  rw [ordered] at opsetsClean
  rw [opsets_allowed_iff opsetsClean, only]
  simp only [List.mem_singleton, forall_eq, records_meet_iff reads.inputTypes inputsClean,
    records_meet_iff reads.outputTypes outputsClean]

/-- Two opset records and two inputs `x`; the earlier ones are out of bounds. -/
def shadowedModel : List UInt8 := smallModel [1, 13] [] [floatValue "x" 9, floatValue "x" 3] [floatValue "y" 3]

theorem shadowedModel_bounds_declarations_iff :
    ((∀ opset ∈ opsetRecords shadowedModel, OpsetAllowed smallPackage opset) ∧
      ∀ graph ∈ delimited 7 (fieldsOf shadowedModel),
        (∀ record ∈ delimited 11 (fieldsOf graph), MeetsContract smallPackage.inputs record) ∧
        ∀ record ∈ delimited 12 (fieldsOf graph), MeetsContract smallPackage.outputs record) ↔
    (OutrankedAllowed smallPackage (opsetRecords shadowedModel) ∧
      ∀ graph ∈ delimited 7 (fieldsOf shadowedModel),
        IrregularMeet smallPackage.inputs (delimited 11 (fieldsOf graph)) ∧
        IrregularMeet smallPackage.outputs (delimited 12 (fieldsOf graph))) :=
  bounds_declarations_iff Platform.hexadecimal smallPackage ⟨[], some shadowedModel⟩
    { executionProvider := "cpu", providerAssignmentProven := true } (some ⟨true, true⟩) 0 shadowedModel rfl
    (by decide +kernel)

/-- The model is admitted although an opset record lies outside the interval allowed
    for its domain, and an input outside the bounds of its contract. -/
theorem shadowedModel_is_admitted :
    (smallAdmission shadowedModel).admissionPassed = true ∧
      (∃ opset ∈ opsetRecords shadowedModel, ¬ OpsetAllowed smallPackage opset) ∧
      ∃ graph ∈ delimited 7 (fieldsOf shadowedModel), ∃ record ∈ delimited 11 (fieldsOf graph),
        ¬ MeetsContract smallPackage.inputs record := by
  have early : (⟨"ai.onnx", 1⟩ : OpsetImport) ∈ opsetRecords shadowedModel := by decide +kernel
  have interval : smallPackage.allowedOpsets.get? "ai.onnx" = some (13, 17) := by decide +kernel
  have large : ∃ graph ∈ delimited 7 (fieldsOf shadowedModel), ∃ record ∈ delimited 11 (fieldsOf graph),
      (dimensionsOf (merged 2 (tensorTypeOf record)))[0]? = some (some (Dimension.fixed 9)) := by decide +kernel
  have bounded : ∀ contract ∈ smallPackage.inputs, ∀ bound, contract.dimensions[0]? = some bound → bound.maximum = 4 := by
    decide +kernel
  obtain ⟨graph, ofModel, record, inGraph, nine⟩ := large
  refine ⟨by decide +kernel, ⟨_, early, ?_⟩, graph, ofModel, record, inGraph, ?_⟩
  · intro ⟨bounds, found, low, _⟩
    cases Option.some.inj (interval.symm.trans found)
    exact absurd low (by decide)
  · intro ⟨contract, among, _, _, _, dims⟩
    obtain ⟨bound, here, _, high⟩ := dims 0 9 nine
    have four := bounded contract among bound here
    omega

end SentinelEdge.Runtime
