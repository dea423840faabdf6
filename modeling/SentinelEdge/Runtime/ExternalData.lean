import SentinelEdge.Runtime.ModelPackages
import SentinelEdge.Runtime.OnnxMeaning

/-! # External data of admitted models

The admission reads the external data of the initializers of the top-level graph.
Tensors in node attributes, and everything in the graphs there, are tensors of
the model as well, and are not looked at.
-/

namespace SentinelEdge.Runtime

open Foundation Domain Wire

/-- A tensor names a location outside the model file. -/
def Declares (tensor : List UInt8) : Prop := ∃ entry ∈ externalDataOf (fieldsOf tensor), entry.1 = "location"

instance (tensor : List UInt8) : Decidable (Declares tensor) :=
  inferInstanceAs (Decidable (∃ entry ∈ externalDataOf (fieldsOf tensor), entry.1 = "location"))

/-- The attributes of the nodes of a graph. -/
def attributesOf (graph : List UInt8) : List (List UInt8) :=
  (delimited 1 (fieldsOf graph)).flatMap (fun node => delimited 5 (fieldsOf node))

/-- The tensors of an attribute: `t` and `tensors`. A `t` in several pieces counts
    piece by piece, since each entry of external data stands in one of them. -/
def attributeTensors (attr : List UInt8) : List (List UInt8) :=
  delimited 5 (fieldsOf attr) ++ delimited 10 (fieldsOf attr)

/-- The graphs of an attribute: `g` and `graphs`. -/
def attributeGraphs (attr : List UInt8) : List (List UInt8) :=
  delimited 6 (fieldsOf attr) ++ delimited 11 (fieldsOf attr)

inductive TensorIn : List UInt8 → List UInt8 → Prop where
  | initializer {graph tensor} (here : tensor ∈ delimited 5 (fieldsOf graph)) : TensorIn graph tensor
  | ofAttribute {graph attr tensor} (of : attr ∈ attributesOf graph) (here : tensor ∈ attributeTensors attr) :
      TensorIn graph tensor
  | subgraph {graph attr inner tensor} (of : attr ∈ attributesOf graph) (nested : inner ∈ attributeGraphs attr)
      (here : TensorIn inner tensor) : TensorIn graph tensor

/-- A tensor that is reached through an attribute. -/
def Hidden (graph tensor : List UInt8) : Prop :=
  ∃ attr ∈ attributesOf graph, tensor ∈ attributeTensors attr ∨ ∃ inner ∈ attributeGraphs attr, TensorIn inner tensor

theorem tensorIn_iff {graph tensor : List UInt8} :
    TensorIn graph tensor ↔ tensor ∈ delimited 5 (fieldsOf graph) ∨ Hidden graph tensor := by
  constructor
  · intro member
    cases member with
    | initializer here => exact Or.inl here
    | ofAttribute of here => exact Or.inr ⟨_, of, Or.inl here⟩
    | subgraph of nested here => exact Or.inr ⟨_, of, Or.inr ⟨_, nested, here⟩⟩
  · intro found
    cases found with
    | inl here => exact .initializer here
    | inr hidden =>
        obtain ⟨attr, of, here | ⟨inner, nested, here⟩⟩ := hidden
        · exact .ofAttribute of here
        · exact .subgraph of nested here

/-- Where no location is reported, no initializer the inspector lists names one. -/
theorem no_location_of_none {graph : OnnxGraph} (none_reported : externalLocations graph = []) {item : TensorInitializer}
    (member : item ∈ graph.initializers) : ∀ entry ∈ item.externalData, entry.1 ≠ "location" := by
  intro entry among named
  have nothing := List.flatMap_eq_nil_iff.mp none_reported item member
  have found : ((Dict.ofList Prod.fst item.externalData).get? "location").isSome = true := by
    rw [Dict.get?_ofList, List.getLast?_isSome]
    exact List.ne_nil_of_mem (List.mem_filter.mpr ⟨among, by simp [named]⟩)
  obtain ⟨value, here⟩ := Option.isSome_iff_exists.mp found
  simp only [here] at nothing
  split at nothing
  · cases nothing
  · cases nothing

/-- The initializers of the graph of an admitted model name no location. -/
theorem initializers_of_admitted {P : Platform} {package : ModelPackageManifest} {data : List UInt8} {report : OnnxGraph}
    (inspected : inspectOnnxGraph data = .ok report) (clean : graphFailures P package report = [])
    (disabled : package.externalDataAllowed = false) {graph tensor : List UInt8}
    (ofModel : graph ∈ delimited 7 (fieldsOf data)) (member : tensor ∈ delimited 5 (fieldsOf graph)) : ¬ Declares tensor := by
  obtain ⟨top, parsed, only, reads, _, _, listed, _⟩ := graph_of_inspected inspected
  rw [only, List.mem_singleton] at ofModel
  subst ofModel
  have none_reported : externalLocations report = [] := by
    by_contra some
    simp [graphFailures, some, disabled] at clean
  have parsedTensor : externalDataOf (fieldsOf tensor) ∈ parsed.initializers.map TensorInitializer.externalData := by
    rw [reads.initializers]
    exact List.mem_map_of_mem member
  obtain ⟨item, among, same⟩ := List.mem_map.mp parsedTensor
  rintro ⟨entry, inData, named⟩
  exact no_location_of_none none_reported (listed.mem_iff.mpr among) entry (same ▸ inData) named

/-- For every admitted package that forbids external data: no tensor of the model
    names a location exactly if none does that is reached through a node attribute. -/
theorem hides_no_external_data_iff (P : Platform) (package : ModelPackageManifest) (root : PackageRoot)
    (runtime : RuntimeAdmissionContext) (issues : Option RuntimeIssueEvaluation) (now : DateTime) (data : List UInt8)
    (file : root.model = some data) (disabled : package.externalDataAllowed = false)
    (admitted : (admitModelPackage P package root runtime issues now).admissionPassed = true) :
    (∀ graph ∈ delimited 7 (fieldsOf data), ∀ tensor, TensorIn graph tensor → ¬ Declares tensor) ↔
      ∀ graph ∈ delimited 7 (fieldsOf data), ∀ tensor, Hidden graph tensor → ¬ Declares tensor := by
  obtain ⟨bytes, report, here, inspected, clean⟩ := graph_of_admitted admitted
  obtain rfl : data = bytes := Option.some.inj (file.symm.trans here)
  constructor
  · intro none graph ofModel tensor hidden
    exact none graph ofModel tensor (tensorIn_iff.mpr (Or.inr hidden))
  · intro none graph ofModel tensor member
    cases tensorIn_iff.mp member with
    | inl top => exact initializers_of_admitted inspected clean disabled ofModel top
    | inr hidden => exact none graph ofModel tensor hidden

/-- An attribute with a tensor that lies in the file `w`. -/
def remoteAttribute : List UInt8 :=
  embed 1 (chars "value") ++ embed 5 (embed 13 (embed 1 (chars "location") ++ embed 2 (chars "w")))

/-- An admissible model whose node has this attribute. -/
def remoteModel : List UInt8 := smallModel [13] [remoteAttribute] [floatValue "x" 3] [floatValue "y" 3]

theorem remoteModel_hides_no_external_data_iff :
    (∀ graph ∈ delimited 7 (fieldsOf remoteModel), ∀ tensor, TensorIn graph tensor → ¬ Declares tensor) ↔
      ∀ graph ∈ delimited 7 (fieldsOf remoteModel), ∀ tensor, Hidden graph tensor → ¬ Declares tensor :=
  hides_no_external_data_iff Platform.hexadecimal smallPackage ⟨[], some remoteModel⟩
    { executionProvider := "cpu", providerAssignmentProven := true } (some ⟨true, true⟩) 0 remoteModel rfl rfl
    (by decide +kernel)

/-- The package forbids external data, the model is admitted, and a tensor in the
    attribute of its node names a location. -/
theorem remoteModel_is_admitted :
    smallPackage.externalDataAllowed = false ∧ (smallAdmission remoteModel).admissionPassed = true ∧
      ∃ graph ∈ delimited 7 (fieldsOf remoteModel), ∃ tensor, TensorIn graph tensor ∧ Declares tensor := by
  have found : ∃ graph ∈ delimited 7 (fieldsOf remoteModel), ∃ attr ∈ attributesOf graph,
      ∃ tensor ∈ attributeTensors attr, Declares tensor := by decide +kernel
  obtain ⟨graph, ofModel, attr, inGraph, tensor, here, declares⟩ := found
  exact ⟨rfl, by decide +kernel, graph, ofModel, tensor, .ofAttribute inGraph here, declares⟩

end SentinelEdge.Runtime
