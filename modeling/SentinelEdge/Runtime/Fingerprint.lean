import Mathlib.Data.Multiset.Defs
import SentinelEdge.Exports.Verification
import SentinelEdge.Runtime.OnnxOperators

/-! # The fingerprint of a graph

The fingerprint takes in the attributes of an operator as one digest, of all
messages joined in the order of their bytes. The joined bytes do not say where one
message ends and the next begins, so operators that cut them up differently share
their fingerprint.
-/

namespace SentinelEdge.Runtime

open Foundation Domain Storage
open Exports.EvidenceExportService (spelled spelled_injective)

variable {P : Platform} {report report' : OnnxGraph} {data other : List UInt8}

def Dimension.json : Dimension → Json
  | .fixed value => .int value
  | .symbolic name => .str name

def opsetEntry (item : OpsetImport) : Json := .obj [
  ("domain", .str item.domain),
  ("version", .int item.version)]

/-- The entry of an operator, with `sha256_bytes(b"".join(sorted(attributes)))`. -/
def operatorEntry (P : Platform) (item : Node) : Json := .obj [
  ("attributes_sha256", .str (contentDigest P item.attributes.flatten)),
  ("domain", .str item.domain),
  ("has_subgraph", .bool item.hasSubgraph),
  ("operator", .str item.operator),
  ("path", .str item.path)]

def initializerEntry (item : TensorInitializer) : Json := .obj [
  ("dimensions", .arr (item.dimensions.map (fun value => .int value))),
  ("dtype", .str item.dtype),
  ("external_data", .arr (item.externalData.map (fun pair => .arr [.str pair.1, .str pair.2]))),
  ("external_location", .bool item.externalLocation),
  ("name", .str item.name),
  ("raw_bytes", .int item.rawBytes)]

def shapeEntry (item : TensorShape) : Json := .obj [
  ("dimensions", .arr (item.dimensions.map (Json.optional Dimension.json))),
  ("dtype", .str item.dtype),
  ("name", .str item.name)]

/-- `fingerprint_body` -/
def fingerprintBody (P : Platform) (report : OnnxGraph) : Json := .obj [
  ("function_count", .int report.functionCount),
  ("initializers", .arr (report.initializers.map initializerEntry)),
  ("inputs", .arr (report.inputs.map shapeEntry)),
  ("ir_version", .int report.irVersion),
  ("operators", .arr (report.operators.map (operatorEntry P))),
  ("opsets", .arr (report.opsets.map opsetEntry)),
  ("outputs", .arr (report.outputs.map shapeEntry))]

/-- `graph_capability_sha256` -/
def graphCapability (P : Platform) (report : OnnxGraph) : P.Digest := P.sha256 (fingerprintBody P report)

/-! ## What two files say of a path -/

/-- The operators found at a path, in the order of the file. -/
def operatorsAt (data : List UInt8) (path : String) : List Node := (operatorsOf data).filter (fun item => item.path = path)

/-- An operator, its domain and the messages of its attributes in any order. -/
def Node.capability (item : Node) : String × String × Multiset (List UInt8) := (item.operator, item.domain, item.attributes)

/-- How long the messages of its attributes are, from the first in the order of bytes. -/
def Node.cuts (item : Node) : List Nat := item.attributes.map List.length

/-- At each path the files have the same operators, domains and attribute messages. -/
def SameCapabilities (data other : List UInt8) : Prop :=
  ∀ path, (operatorsAt data path).map Node.capability = (operatorsAt other path).map Node.capability

/-- At each path the files have attribute messages of the same lengths. -/
def SameCuts (data other : List UInt8) : Prop := ∀ path, (operatorsAt data path).map Node.cuts = (operatorsAt other path).map Node.cuts

/-! ## Operators that share an entry -/

/-- What two operators with one entry have in common. -/
structure Alike (item item' : Node) : Prop where
  path : item.path = item'.path
  operator : item.operator = item'.operator
  domain : item.domain = item'.domain
  joined : item.attributes.flatten = item'.attributes.flatten

theorem alike_of_entry (contents : Function.Injective (contentDigest P)) {item item' : Node}
    (same : operatorEntry P item = operatorEntry P item') : Alike item item' := by
  simp only [operatorEntry, Json.obj.injEq, List.cons.injEq, Prod.mk.injEq, Json.str.injEq, Json.bool.injEq, true_and,
    and_true] at same
  obtain ⟨joined, domain, -, operator, path⟩ := same
  exact ⟨path, operator, domain, contents joined⟩

/-- Reports with one fingerprint list alike operators in the same places. -/
theorem alike_of_fingerprint (collisionFree : Function.Injective P.sha256) (contents : Function.Injective (contentDigest P))
    (same : graphCapability P report = graphCapability P report') : List.Forall₂ Alike report.operators report'.operators := by
  have body := collisionFree same
  simp only [fingerprintBody, Json.obj.injEq, List.cons.injEq, Prod.mk.injEq, Json.arr.injEq, true_and, and_true] at body
  obtain ⟨-, -, -, -, operators, -, -⟩ := body
  rw [← List.forall₂_eq_eq_eq, List.forall₂_map_left_iff, List.forall₂_map_right_iff] at operators
  exact operators.imp fun _ _ => alike_of_entry contents

/-- Sorting by path keeps the order at each path. -/
theorem filter_sorted (items : List Node) (path : String) :
    (items.insertionSort (fun a b => a.path ≤ b.path)).filter (fun item => item.path = path) =
      items.filter (fun item => item.path = path) := by
  have level : (items.filter (fun item => item.path = path)).Pairwise (fun a b => a.path ≤ b.path) := by
    refine List.pairwise_of_forall_mem_list ?_
    intro a first b second
    have same : a.path = b.path :=
      (of_decide_eq_true (List.mem_filter.mp first).2).trans (of_decide_eq_true (List.mem_filter.mp second).2).symm
    exact same ▸ String.le_refl a.path
  have kept := (List.sublist_insertionSort level List.filter_sublist).filter (fun item => item.path = path)
  rw [List.filter_filter] at kept
  simp only [Bool.and_self] at kept
  refine (kept.eq_of_length ?_).symm
  exact ((List.perm_insertionSort _ items).filter _).length_eq.symm

theorem alike_at (inspected : inspectOnnxGraph data = .ok report) (inspected' : inspectOnnxGraph other = .ok report')
    (alike : List.Forall₂ Alike report.operators report'.operators) (path : String) :
    List.Forall₂ Alike (operatorsAt data path) (operatorsAt other path) := by
  rw [operators_of_inspected inspected, operators_of_inspected inspected'] at alike
  rw [operatorsAt, operatorsAt, ← filter_sorted (operatorsOf data), ← filter_sorted (operatorsOf other)]
  exact List.rel_filter (fun item item' same => by simp [same.path]) alike

/-- The messages of an operator stand in the order of their bytes. -/
theorem sorted_of_mem_operatorsIn {fuel : Nat} {graph : List UInt8} {path : String} {item : Node}
    (member : item ∈ operatorsIn fuel graph path) : item.attributes.Pairwise (· ≤ ·) := by
  induction fuel generalizing graph path with
  | zero => cases member
  | succ fuel ih =>
      simp only [operatorsIn, graphNodes, nestedNodes, attributeNodes, List.mem_flatMap, List.mem_cons] at member
      obtain ⟨node, -, rfl | ⟨attr, -, nested, -, inside⟩⟩ := member
      · exact List.pairwise_insertionSort _ _
      · exact ih inside

theorem sorted_of_mem_operatorsAt {path : String} {item : Node} (member : item ∈ operatorsAt data path) :
    item.attributes.Pairwise (· ≤ ·) := by
  obtain ⟨graph, -, inside⟩ := List.mem_flatMap.mp (List.mem_filter.mp member).1
  exact sorted_of_mem_operatorsIn inside

/-- Alike operators have the same messages exactly when they cut the joined bytes up
    in the same way. -/
theorem Alike.capability_iff {item item' : Node} (alike : Alike item item') (sorted : item.attributes.Pairwise (· ≤ ·))
    (sorted' : item'.attributes.Pairwise (· ≤ ·)) : item.capability = item'.capability ↔ item.cuts = item'.cuts := by
  have messages : item.capability = item'.capability ↔ item.attributes = item'.attributes := by
    simp only [Node.capability, Prod.mk.injEq, alike.operator, alike.domain, true_and, Multiset.coe_eq_coe]
    constructor
    · intro shuffled
      exact shuffled.eq_of_pairwise' sorted sorted'
    · intro same
      rw [same]
  rw [messages, List.eq_iff_flatten_eq, Node.cuts, Node.cuts]
  exact and_iff_right alike.joined

theorem capabilities_iff {items items' : List Node} (alike : List.Forall₂ Alike items items')
    (sorted : ∀ item ∈ items, item.attributes.Pairwise (· ≤ ·)) (sorted' : ∀ item ∈ items', item.attributes.Pairwise (· ≤ ·)) :
    items.map Node.capability = items'.map Node.capability ↔ items.map Node.cuts = items'.map Node.cuts := by
  induction alike with
  | nil => exact iff_of_true rfl rfl
  | cons first rest ih =>
      simp only [List.map_cons, List.cons.injEq]
      refine and_congr (first.capability_iff (sorted _ (by simp)) (sorted' _ (by simp))) (ih ?_ ?_)
      · exact fun item member => sorted item (by simp [member])
      · exact fun item member => sorted' item (by simp [member])

/-- Accepted files with one fingerprint have the same capabilities exactly when their
    attribute messages have the same lengths. -/
theorem fingerprint_separates_iff (P : Platform) (collisionFree : Function.Injective P.sha256)
    (contents : Function.Injective (contentDigest P)) (data other : List UInt8) (report report' : OnnxGraph)
    (inspected : inspectOnnxGraph data = .ok report) (inspected' : inspectOnnxGraph other = .ok report')
    (same : graphCapability P report = graphCapability P report') : SameCapabilities data other ↔ SameCuts data other := by
  refine forall_congr' fun path => ?_
  have alike := alike_at inspected inspected' (alike_of_fingerprint collisionFree contents same) path
  exact capabilities_iff alike (fun _ => sorted_of_mem_operatorsAt) (fun _ => sorted_of_mem_operatorsAt)

/-- A model of one node, by the fields of the node. -/
def singleNode (node : List UInt8) : List UInt8 :=
  [58, UInt8.ofNat (node.length + 2), 10, UInt8.ofNat node.length] ++ node

/-- Two attributes, an integer and a text, in either order. -/
def countThenText : List UInt8 := singleNode [42, 2, 24, 1, 42, 3, 34, 1, 97]

def textThenCount : List UInt8 := singleNode [42, 3, 34, 1, 97, 42, 2, 24, 1]

/-- One attribute with the bytes of both. -/
def countAndText : List UInt8 := singleNode [42, 5, 24, 1, 34, 1, 97]

/-- Two models that list the same attributes in another order have the same
    capabilities and one fingerprint. -/
theorem reordered_attributes_agree :
    (inspectOnnxGraph countThenText).toOption.map (graphCapability spelled) =
      (inspectOnnxGraph textThenCount).toOption.map (graphCapability spelled) ∧
    SameCapabilities countThenText textThenCount := by
  have fingerprints : (inspectOnnxGraph countThenText).toOption.map (graphCapability spelled) =
      (inspectOnnxGraph textThenCount).toOption.map (graphCapability spelled) := by decide +kernel
  refine ⟨fingerprints, ?_⟩
  have accepted : (inspectOnnxGraph countThenText).isOk = true ∧ (inspectOnnxGraph textThenCount).isOk = true := by
    decide +kernel
  obtain ⟨report, inspected⟩ := Checks.ok_of_isOk accepted.1
  obtain ⟨report', inspected'⟩ := Checks.ok_of_isOk accepted.2
  rw [inspected, inspected'] at fingerprints
  refine (fingerprint_separates_iff spelled (fun _ _ same => same) spelled_injective _ _ report report'
    inspected inspected' (Option.some.inj fingerprints)).mpr ?_
  have operators : operatorsOf countThenText = operatorsOf textThenCount := by decide +kernel
  intro path
  rw [operatorsAt, operatorsAt, operators]

/-- Two models with one fingerprint: an attribute with a number and a text in it, and
    two attributes with one of them each. -/
theorem joined_attributes_share_fingerprint :
    (inspectOnnxGraph countThenText).isOk = true ∧ (inspectOnnxGraph countAndText).isOk = true ∧
    (inspectOnnxGraph countThenText).toOption.map (graphCapability spelled) =
      (inspectOnnxGraph countAndText).toOption.map (graphCapability spelled) ∧
    ¬ SameCapabilities countThenText countAndText := by
  refine ⟨by decide +kernel, by decide +kernel, by decide +kernel, ?_⟩
  intro same
  have counts : (operatorsAt countThenText "graph/node:0").map (fun item => item.attributes.length) = [2] ∧
      (operatorsAt countAndText "graph/node:0").map (fun item => item.attributes.length) = [1] := by decide +kernel
  have sizes := congrArg (List.map (fun capability => Multiset.card capability.2.2)) (same "graph/node:0")
  simp only [List.map_map] at sizes
  have lengths : (fun capability : String × String × Multiset (List UInt8) => Multiset.card capability.2.2) ∘ Node.capability =
      fun item : Node => item.attributes.length := rfl
  rw [lengths, counts.1, counts.2] at sizes
  cases sizes

end SentinelEdge.Runtime
