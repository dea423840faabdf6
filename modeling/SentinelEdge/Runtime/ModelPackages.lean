import Mathlib.Algebra.Ring.Nat
import SentinelEdge.Domain.Platform
import SentinelEdge.Foundation.Dict
import SentinelEdge.Runtime.OnnxParser

/-! # Model package admission

`admit_model_package` over what it finds on disk: the failures of its file checks
and the bytes of the model file are inputs here. Everything the graph decides is
computed from those bytes.
-/

namespace SentinelEdge.Runtime

open Foundation Domain

structure DimensionBound where
  minimum : Nat
  maximum : Nat
  symbol : Option String := none
  /-- `validate_bound` -/
  valid : 1 ≤ minimum ∧ minimum ≤ maximum ∧ symbol.all (fun text => !isBlank text) := by decide

/-- The width of the element type with this name. -/
def dtypeWidth (dtype : String) : Option Nat :=
  (((List.range 21).filterMap dtypeInfo).find? (fun info => info.1 = dtype)).bind Prod.snd

structure TensorAllocationContract where
  name : String
  dtype : String
  rank : Nat
  dimensions : List DimensionBound
  maximumElements : Nat
  maximumBytes : Nat
  /-- `validate_allocation` -/
  named : isBlank name = false ∧ isBlank dtype = false := by decide
  ranked : rank ≤ 16 ∧ rank = dimensions.length := by decide
  elements : maximumElements = (dimensions.map DimensionBound.maximum).foldl (· * ·) 1 := by decide
  bytes : (dtypeWidth dtype).map (maximumElements * ·) = some maximumBytes := by decide

structure ModelPackageManifest where
  packageId : String
  inputs : List TensorAllocationContract
  outputs : List TensorAllocationContract
  allowedOpsets : Dict String (Int × Int)
  allowedOperators : Dict String (List String)
  allowedCustomDomains : List String := []
  externalDataAllowed : Bool := false
  allowedExternalData : List String := []
  controlFlowAllowed : Bool := false
  expectedExecutionProvider : String
  fallbackAllowed : Bool := false
  expiresAt : DateTime
  /-- From `validate_manifest`. -/
  contracted : inputs ≠ [] ∧ outputs ≠ []

structure RuntimeAdmissionContext where
  executionProvider : String
  targetHostQualified : Bool := false
  targetRuntimeMeasured : Bool := false
  providerAssignmentProven : Bool := false
  fallbackObserved : Bool := false

/-- Whether the entries of `runtime_issue_evaluation` are `True`. -/
structure RuntimeIssueEvaluation where
  activationAllowed : Bool
  targetQualified : Bool

/-- What the checks of the release root, of the declared files and of the model
    digest append to the failures, and the model file where there is one. -/
structure PackageRoot where
  failures : List String
  model : Option (List UInt8)

/-! ## Locations -/

/-- The segments of a path text between its slashes. -/
def segments : List Char → List (List Char)
  | [] => [[]]
  | c :: rest =>
      if c = '/' then [] :: segments rest
      else match segments rest with
        | [] => [[c]]
        | first :: more => (c :: first) :: more

/-- `PurePosixPath(value).parts` without the root. -/
def pathParts (value : String) : List String :=
  ((segments value.toList).map String.ofList).filter (fun part => part ≠ "" ∧ part ≠ ".")

/-- The root of `PurePosixPath(value)`: two leading slashes are kept, three are one. -/
def pathRoot (value : String) : String :=
  match value.toList with
  | '/' :: '/' :: '/' :: _ => "/"
  | '/' :: '/' :: _ => "//"
  | '/' :: _ => "/"
  | _ => ""

/-- `PurePosixPath(value).as_posix()` -/
def asPosix (value : String) : String :=
  let text := pathRoot value ++ "/".intercalate (pathParts value)
  if text = "" then "." else text

/-- `_external_locations` -/
def externalLocations (graph : OnnxGraph) : List String :=
  graph.initializers.flatMap (fun item =>
    let location := (Dict.ofList Prod.fst item.externalData).get? "location"
    match location with
    | none => if item.externalLocation then [""] else []
    | some (_, value) => if item.externalLocation && value = "" then [""] else [value])

/-- `text in value` -/
def occursIn (text value : String) : Bool := value.toList.tails.any (fun rest => text.toList.isPrefixOf rest)

def locationFailures (package : ModelPackageManifest) (location : String) : List String :=
  (if location = "" ∨ pathRoot location ≠ "" ∨ ".." ∈ pathParts location ∨ occursIn "://" location = true then
    ["external_data_path_unsafe:" ++ (if location = "" then "<missing>" else location)] else []) ++
  (if asPosix location ∈ package.allowedExternalData then []
    else ["external_data_not_manifest_approved:" ++ asPosix location])

/-! ## Contracts -/

/-- The checks of one observed dimension against its bound. -/
def dimensionFailures (direction name : String) (observed : Option Dimension) (bound : DimensionBound) (index : Nat) :
    List String :=
  match observed with
  | some (.fixed value) =>
      if value < bound.minimum ∨ bound.maximum < value then
        [direction ++ "_dimension_out_of_bounds:" ++ name ++ ":" ++ toString index] else []
  | some (.symbolic symbol) =>
      (if bound.symbol.any (fun expected => symbol ≠ expected) then
        [direction ++ "_symbol_mismatch:" ++ name ++ ":" ++ toString index] else []) ++
      (if bound.maximum ≤ 0 then [direction ++ "_unbounded_symbolic_dimension:" ++ name ++ ":" ++ toString index] else [])
  | none => [direction ++ "_unknown_dimension:" ++ name ++ ":" ++ toString index]

def contractFailures (direction : String) (item : TensorShape) (contract : TensorAllocationContract) : List String :=
  (if item.dtype ≠ contract.dtype then [direction ++ "_dtype_mismatch:" ++ contract.name] else []) ++
  (if item.dimensions.length ≠ contract.rank then [direction ++ "_rank_mismatch:" ++ contract.name]
    else (item.dimensions.zip contract.dimensions).zipIdx.flatMap (fun ((observed, bound), index) =>
      dimensionFailures direction contract.name observed bound index))

/-- `_validate_tensor_contracts` -/
def validateTensorContracts (observed : List TensorShape) (declared : List TensorAllocationContract) (direction : String) :
    List String :=
  let observedByName := Dict.ofList TensorShape.name observed
  let declaredByName := Dict.ofList TensorAllocationContract.name declared
  (if observedByName.keys ⊆ declaredByName.keys ∧ declaredByName.keys ⊆ observedByName.keys then []
    else [direction ++ "_tensor_set_mismatch"]) ++
  declaredByName.values.flatMap (fun contract => match observedByName.get? contract.name with
    | none => []
    | some item => contractFailures direction item contract)

/-! ## Admission -/

def opsetFailures (package : ModelPackageManifest) (opsets : List OpsetImport) : List String :=
  (Dict.ofList OpsetImport.domain opsets).values.flatMap (fun opset =>
    match package.allowedOpsets.get? opset.domain with
    | none => ["opset_not_allowed:" ++ opset.domain ++ ":" ++ toString opset.version]
    | some bounds =>
        if bounds.1 ≤ opset.version ∧ opset.version ≤ bounds.2 then []
        else ["opset_not_allowed:" ++ opset.domain ++ ":" ++ toString opset.version])

def operatorFailures (P : Platform) (package : ModelPackageManifest) (operator : Node) : List String :=
  (if operator.domain ∉ ["ai.onnx", "ai.onnx.ml"] ∧ operator.domain ∉ package.allowedCustomDomains then
    ["custom_domain_not_allowed:" ++ operator.domain] else []) ++
  (if operator.operator ∈ (package.allowedOperators.get? operator.domain).getD [] then []
    else ["operator_not_allowed:" ++ operator.domain ++ ":" ++ operator.operator]) ++
  (if operator.hasSubgraph ∧ package.controlFlowAllowed = false then ["control_flow_not_allowed:" ++ operator.path] else []) ++
  (if P.lower operator.operator ∈ ["pyop", "pythonop"] ∨
      "ai.onnx.contrib.python".toList.isPrefixOf (P.lower operator.domain).toList = true then
    ["python_operator_not_allowed"] else [])

/-- The failures a graph gives rise to, in the order they are appended. -/
def graphFailures (P : Platform) (package : ModelPackageManifest) (graph : OnnxGraph) : List String :=
  opsetFailures package graph.opsets ++
  graph.operators.flatMap (operatorFailures P package) ++
  (if graph.functionCount ≠ 0 then ["local_functions_not_allowed"] else []) ++
  (if externalLocations graph ≠ [] ∧ package.externalDataAllowed = false then ["external_data_disabled"] else []) ++
  (externalLocations graph).flatMap (locationFailures package) ++
  validateTensorContracts graph.inputs package.inputs "input" ++
  validateTensorContracts graph.outputs package.outputs "output"

/-- `inspect_onnx_graph_bounded`: the worker process exits with an error where the
    inspector raises. -/
def inspectOnnxGraphBounded (data : List UInt8) : Except ParseException OnnxGraph :=
  match inspectOnnxGraph data with
  | .ok graph => .ok graph
  | .error _ => .error (.protobufParseError "onnx_inspection_worker_failed")

/-- `str(exc)` -/
def ParseException.str : ParseException → String
  | .protobufParseError message => message
  | .indexError => "index out of range"
  | .unfinished => ""

/-- The graph of the model file, and the failures up to the checks of the runtime. -/
def inspectPackage (P : Platform) (package : ModelPackageManifest) (root : PackageRoot) : Option OnnxGraph × List String :=
  match root.model with
  | none => (none, root.failures ++ ["model_artifact_missing"])
  | some data => match inspectOnnxGraphBounded data with
      | .error exception => (none, root.failures ++ ["onnx_graph_invalid:" ++ exception.str])
      | .ok graph => (some graph, root.failures ++ graphFailures P package graph)

def runtimeFailures (package : ModelPackageManifest) (runtime : RuntimeAdmissionContext)
    (issues : Option RuntimeIssueEvaluation) (now : DateTime) : List String :=
  (if runtime.executionProvider ≠ package.expectedExecutionProvider then ["execution_provider_mismatch"] else []) ++
  (if runtime.fallbackObserved ∧ package.fallbackAllowed = false then ["provider_fallback_observed"] else []) ++
  (if runtime.providerAssignmentProven then [] else ["provider_assignment_not_proven"]) ++
  (match issues with
    | none => ["runtime_issue_evaluation_missing"]
    | some issues => if issues.activationAllowed then [] else ["runtime_issue_evaluation_failed"]) ++
  (if package.expiresAt ≤ now then ["model_package_manifest_expired"] else [])

structure ProviderAssignment where
  path : String
  operator : String
  provider : String
  fallback : Bool
  deriving DecidableEq, Repr

/-- The report, without the digests over it and the names it repeats. -/
structure AdmissionReport where
  packageId : String
  providerAssignment : List ProviderAssignment
  inputAllocationBytes : Nat
  outputAllocationBytes : Nat
  graph : Option OnnxGraph
  admissionPassed : Bool
  targetQualified : Bool
  releaseAdmissible : Bool
  failures : List String
  limitations : List String
  evaluatedAt : DateTime

/-- `admit_model_package` -/
def admitModelPackage (P : Platform) (package : ModelPackageManifest) (root : PackageRoot)
    (runtime : RuntimeAdmissionContext) (issues : Option RuntimeIssueEvaluation) (now : DateTime) : AdmissionReport :=
  let (graph, found) := inspectPackage P package root
  let failures := found ++ runtimeFailures package runtime issues now
  let limitations :=
    (if runtime.targetHostQualified then [] else ["target_host_not_qualified"]) ++
    (if runtime.targetRuntimeMeasured then [] else ["target_runtime_not_measured"])
  let targetQualified := failures.isEmpty && runtime.targetHostQualified && runtime.targetRuntimeMeasured
  { packageId := package.packageId
    providerAssignment := ((graph.map OnnxGraph.operators).getD []).map (fun item =>
      ⟨item.path, item.operator, runtime.executionProvider, runtime.fallbackObserved⟩)
    inputAllocationBytes := (package.inputs.map TensorAllocationContract.maximumBytes).sum
    outputAllocationBytes := (package.outputs.map TensorAllocationContract.maximumBytes).sum
    graph := graph
    admissionPassed := failures.isEmpty
    targetQualified := targetQualified
    releaseAdmissible := targetQualified && issues.any RuntimeIssueEvaluation.targetQualified
    failures := sortedSet failures
    limitations := sortedSet limitations
    evaluatedAt := now }

/-- An admitted package has a model file whose graph raised no failure. -/
theorem graph_of_admitted {P : Platform} {package : ModelPackageManifest} {root : PackageRoot}
    {runtime : RuntimeAdmissionContext} {issues : Option RuntimeIssueEvaluation} {now : DateTime}
    (admitted : (admitModelPackage P package root runtime issues now).admissionPassed = true) :
    ∃ data graph, root.model = some data ∧ inspectOnnxGraph data = .ok graph ∧ graphFailures P package graph = [] := by
  have nothing : (inspectPackage P package root).2 ++ runtimeFailures package runtime issues now = [] :=
    List.isEmpty_iff.mp admitted
  have found := (List.append_eq_nil_iff.mp nothing).1
  unfold inspectPackage at found
  cases file : root.model with
  | none => simp [file] at found
  | some data =>
      cases inspected : inspectOnnxGraph data with
      | error exception => simp [file, inspectOnnxGraphBounded, inspected] at found
      | ok graph =>
          simp only [file, inspectOnnxGraphBounded, inspected] at found
          exact ⟨data, graph, rfl, inspected, (List.append_eq_nil_iff.mp found).2⟩

/-! ## A small package -/

/-- An embedded message of less than 128 bytes. -/
def embed (number : Nat) (bytes : List UInt8) : List UInt8 :=
  UInt8.ofNat (8 * number + 2) :: UInt8.ofNat bytes.length :: bytes

/-- An integer below 128. -/
def integer (number value : Nat) : List UInt8 := [UInt8.ofNat (8 * number), UInt8.ofNat value]

def chars (text : String) : List UInt8 := text.toByteArray.data.toList

/-- A value of element type `float32` with one dimension. -/
def floatValue (name : String) (dimension : Nat) : List UInt8 :=
  embed 1 (chars name) ++ embed 2 (embed 1 (integer 1 1 ++ embed 2 (embed 1 (integer 1 dimension))))

/-- A model of one node, with the opset records, inputs and outputs given. -/
def smallModel (opsets : List Nat) (attributes inputs outputs : List (List UInt8)) : List UInt8 :=
  opsets.flatMap (fun version => embed 8 (integer 2 version)) ++
    embed 7 (embed 1 (embed 4 (chars "Relu") ++ attributes.flatMap (embed 5)) ++
      inputs.flatMap (embed 11) ++ outputs.flatMap (embed 12))

def floatContract (name : String) (named : isBlank name = false) : TensorAllocationContract where
  name := name
  dtype := "float32"
  rank := 1
  dimensions := [{ minimum := 2, maximum := 4 }]
  maximumElements := 4
  maximumBytes := 16
  named := ⟨named, by decide +kernel⟩
  bytes := by decide +kernel

def smallPackage : ModelPackageManifest where
  packageId := "small"
  inputs := [floatContract "x" (by decide +kernel)]
  outputs := [floatContract "y" (by decide +kernel)]
  allowedOpsets := Dict.empty.insert "ai.onnx" (13, 17)
  allowedOperators := Dict.empty.insert "ai.onnx" ["Relu"]
  expectedExecutionProvider := "cpu"
  expiresAt := 1
  contracted := ⟨by simp, by simp⟩

/-- The admission of a model under the small package. -/
def smallAdmission (model : List UInt8) : AdmissionReport :=
  admitModelPackage Platform.hexadecimal smallPackage ⟨[], some model⟩
    { executionProvider := "cpu", providerAssignmentProven := true } (some ⟨true, true⟩) 0

example : (smallAdmission (smallModel [13] [] [floatValue "x" 3] [floatValue "y" 3])).admissionPassed = true := by
  decide +kernel

example : (smallAdmission (smallModel [12] [] [floatValue "x" 5] [floatValue "y" 3])).failures =
    ["input_dimension_out_of_bounds:x:0", "opset_not_allowed:ai.onnx:12"] := by decide +kernel

end SentinelEdge.Runtime
