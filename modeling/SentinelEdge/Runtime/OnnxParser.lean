import Mathlib.Data.List.Sort
import SentinelEdge.Foundation.Call
import SentinelEdge.Foundation.Wire

/-! # The ONNX inspector

The parsing core of `inspect_onnx_graph`: a wire-format reader over offsets, a
budget that all nested parses share, and the recursive descent through graphs,
nodes and attributes. Reads outside the buffer raise here instead of being
clamped, and loops and recursion carry fuel, so that both would show.
-/

namespace SentinelEdge.Runtime

open Foundation Wire

inductive ParseException where
  | protobufParseError (message : String)
  /-- `IndexError`, and any slice that Python would clamp. -/
  | indexError
  /-- Not an exception of the program: the fuel of a loop or of the recursion is
      used up. -/
  | unfinished
  deriving DecidableEq, Repr

/-- The `max_…` fields of `_ParseBudget`; no code changes them. -/
structure ParseLimits where
  maxTotalBytes : Nat := 32 * 1024 * 1024
  maxFields : Nat := 100000
  maxDepth : Nat := 16
  maxStringBytes : Nat := 4096
  maxNodes : Nat := 100000
  maxInitializers : Nat := 100000
  maxAttributes : Nat := 200000

/-- The counters of `_ParseBudget`. -/
structure ParseBudget where
  fieldsSeen : Nat := 0
  nodesSeen : Nat := 0
  initializersSeen : Nat := 0
  attributesSeen : Nat := 0
  /-- Beside the program: the depth of every field that was yielded. -/
  yielded : List Nat := []
  deriving DecidableEq, Repr

abbrev ParseCall (α : Type) := Call ParseBudget ParseException α

def protobufParseError {α : Type} (message : String) : ParseCall α := Call.raise (.protobufParseError message)

namespace ParseBudget

variable (limits : ParseLimits)

def consume (depth : Nat) : ParseCall Unit := do
  if limits.maxDepth < depth then protobufParseError "protobuf_recursion_limit_exceeded"
  else do
    Call.modify (fun budget => { budget with fieldsSeen := budget.fieldsSeen + 1 })
    let seen ← Call.read fieldsSeen
    if limits.maxFields < seen then protobufParseError "protobuf_field_limit_exceeded" else pure ()

def consumeNode : ParseCall Unit := do
  Call.modify (fun budget => { budget with nodesSeen := budget.nodesSeen + 1 })
  let seen ← Call.read nodesSeen
  if limits.maxNodes < seen then protobufParseError "onnx_node_limit_exceeded" else pure ()

def consumeInitializer : ParseCall Unit := do
  Call.modify (fun budget => { budget with initializersSeen := budget.initializersSeen + 1 })
  let seen ← Call.read initializersSeen
  if limits.maxInitializers < seen then protobufParseError "onnx_initializer_limit_exceeded" else pure ()

def consumeAttribute : ParseCall Unit := do
  Call.modify (fun budget => { budget with attributesSeen := budget.attributesSeen + 1 })
  let seen ← Call.read attributesSeen
  if limits.maxAttributes < seen then protobufParseError "onnx_attribute_limit_exceeded" else pure ()

end ParseBudget

/-! ## Reading the buffer -/

/-- `data[offset]` -/
def byteAt (data : List UInt8) (offset : Nat) : Except ParseException UInt8 :=
  match data[offset]? with
  | some byte => .ok byte
  | none => .error .indexError

/-- `data[start:stop]` -/
def slice (data : List UInt8) (start stop : Nat) : Except ParseException (List UInt8) :=
  if start ≤ stop ∧ stop ≤ data.length then .ok ((data.drop start).take (stop - start)) else .error .indexError

/-- The loop of `_read_varint`, with the iterations it has left. -/
def readVarintLoop (data : List UInt8) : Nat → Nat → Nat → Nat → Except ParseException (Nat × Nat)
  | 0, _, _, _ => .error (.protobufParseError "oversized_varint")
  | n + 1, offset, value, shift =>
      if data.length ≤ offset then .error (.protobufParseError "truncated_varint")
      else do
        let byte ← byteAt data offset
        let value := value ||| ((byte &&& 0x7F).toNat <<< shift)
        if byte &&& 0x80 = 0 then .ok (value, offset + 1)
        else readVarintLoop data n (offset + 1) value (shift + 7)

/-- `_read_varint`: the value and the offset behind it. -/
def readVarint (data : List UInt8) (offset : Nat) : Except ParseException (Nat × Nat) := readVarintLoop data 10 offset 0 0

/-- `if offset + n > len(data): raise …`, and the slice that follows. -/
def readBlock (data : List UInt8) (offset n : Nat) (truncated : String) : Except ParseException (List UInt8 × Nat) :=
  if data.length < offset + n then .error (.protobufParseError truncated)
  else do
    let value ← slice data offset (offset + n)
    pure (value, offset + n)

/-- The branches of `_iter_fields` on the wire type. -/
def readPayload (data : List UInt8) (offset : Nat) : Nat → Except ParseException (Payload × Nat)
  | 0 => do
      let (value, offset) ← readVarint data offset
      pure (.varint value, offset)
  | 1 => do
      let (value, offset) ← readBlock data offset 8 "truncated_fixed64"
      pure (.fixed64 value, offset)
  | 2 => do
      let (length, offset) ← readVarint data offset
      let (value, offset) ← readBlock data offset length "truncated_length_delimited"
      pure (.delimited value, offset)
  | 5 => do
      let (value, offset) ← readBlock data offset 4 "truncated_fixed32"
      pure (.fixed32 value, offset)
  | wire => .error (.protobufParseError ("unsupported_wire_type:" ++ toString wire))

/-- What one iteration of `_iter_fields` yields, and where the next one starts. -/
def nextField (data : List UInt8) (offset : Nat) : Except ParseException (Field × Nat) := do
  let (key, offset) ← readVarint data offset
  if key >>> 3 = 0 then .error (.protobufParseError "invalid_protobuf_field_number")
  else do
    let (payload, offset) ← readPayload data offset (key &&& 7)
    pure (⟨key >>> 3, payload⟩, offset)

/-- What `_iter_fields` yields from `offset` on, and what it raises at the end if
    it does. Reading has no effects, so it is done ahead of the consumer. -/
def iterFrom (data : List UInt8) : Nat → Nat → List Field × Option ParseException
  | 0, _ => ([], some .unfinished)
  | n + 1, offset =>
      if offset < data.length then
        match nextField data offset with
        | .error exception => ([], some exception)
        | .ok (field, offset) => (field :: (iterFrom data n offset).1, (iterFrom data n offset).2)
      else ([], none)

def iterFields (data : List UInt8) : List Field × Option ParseException := iterFrom data (data.length + 1) 0

section

variable (limits : ParseLimits)

/-- The iterations of a loop over `_iter_fields`: the generator charges the budget
    before each field it reads, the body runs after it is read. -/
def fieldLoop {α : Type} (depth : Nat) (body : α → Field → ParseCall α) (ending : Option ParseException) :
    List Field → α → ParseCall α
  | [], acc => match ending with
      | none => pure acc
      | some exception => do
          ParseBudget.consume limits depth
          Call.raise exception
  | field :: fields, acc => do
      ParseBudget.consume limits depth
      Call.modify (fun budget => { budget with yielded := budget.yielded ++ [depth] })
      let acc ← body acc field
      fieldLoop depth body ending fields acc

/-- `for field, wire, value in _iter_fields(data, budget, depth=depth)` -/
def forFields {α : Type} (depth : Nat) (data : List UInt8) (init : α) (body : α → Field → ParseCall α) : ParseCall α :=
  if limits.maxTotalBytes < data.length then protobufParseError "protobuf_message_too_large"
  else fieldLoop limits depth body (iterFields data).2 (iterFields data).1 init

/-- `_decode_text` -/
def decodeText (value : List UInt8) : ParseCall String :=
  if limits.maxStringBytes < value.length then protobufParseError "protobuf_string_too_large"
  else match String.fromUTF8? ⟨value.toArray⟩ with
    | some text => pure text
    | none => protobufParseError "protobuf_string_not_utf8"

/-! ## Tensors -/

/-- `_DTYPE_INFO` -/
def dtypeInfo : Nat → Option (String × Option Nat)
  | 1 => some ("float32", some 4)
  | 2 => some ("uint8", some 1)
  | 3 => some ("int8", some 1)
  | 4 => some ("uint16", some 2)
  | 5 => some ("int16", some 2)
  | 6 => some ("int32", some 4)
  | 7 => some ("int64", some 8)
  | 8 => some ("string", none)
  | 9 => some ("bool", some 1)
  | 10 => some ("float16", some 2)
  | 11 => some ("float64", some 8)
  | 12 => some ("uint32", some 4)
  | 13 => some ("uint64", some 8)
  | 14 => some ("complex64", some 8)
  | 15 => some ("complex128", some 16)
  | 16 => some ("bfloat16", some 2)
  | 17 => some ("float8e4m3fn", some 1)
  | 18 => some ("float8e4m3fnuz", some 1)
  | 19 => some ("float8e5m2", some 1)
  | 20 => some ("float8e5m2fnuz", some 1)
  | _ => none

/-- `_DTYPE_INFO.get(number, (f"onnx_dtype_{number}", None))[0]` -/
def dtypeName (number : Nat) : String :=
  match dtypeInfo number with
  | some (name, _) => name
  | none => "onnx_dtype_" ++ toString number

/-- An `int` or a `str` dimension. -/
inductive Dimension where
  | fixed (value : Nat)
  | symbolic (name : String)
  deriving DecidableEq, Repr

structure TensorShape where
  name : String
  dtype : String
  dimensions : List (Option Dimension)
  deriving DecidableEq, Repr

structure TensorInitializer where
  name : String
  dtype : String
  dimensions : List Nat
  externalData : List (String × String)
  externalLocation : Bool
  rawBytes : Nat
  deriving DecidableEq, Repr

def parseDimension (data : List UInt8) (depth : Nat) : ParseCall (Option Dimension) :=
  forFields limits depth data none (fun result field => match field with
    | ⟨1, .varint value⟩ => pure (some (.fixed value))
    | ⟨2, .delimited value⟩ => do
        let text ← decodeText limits value
        pure (some (.symbolic text))
    | _ => pure result)

/-- The loop of `_parse_value_info` over one shape message. -/
def parseShape (data : List UInt8) (depth : Nat) (dims : List (Option Dimension)) :
    ParseCall (List (Option Dimension)) :=
  forFields limits depth data dims (fun dims field => match field with
    | ⟨1, .delimited value⟩ => do
        let dim ← parseDimension limits value (depth + 1)
        pure (dims ++ [dim])
    | _ => pure dims)

/-- The loop of `_parse_value_info` over one tensor type. -/
def parseTensorType (data : List UInt8) (depth : Nat) : ParseCall (Nat × List (Option Dimension)) :=
  forFields limits depth data (0, []) (fun (elemType, dims) field => match field with
    | ⟨1, .varint value⟩ => pure (value, dims)
    | ⟨2, .delimited value⟩ => do
        let dims ← parseShape limits value (depth + 1) dims
        pure (elemType, dims)
    | _ => pure (elemType, dims))

/-- The loop of `_parse_value_info` over one type: each tensor type replaces what
    is known so far. -/
def parseType (data : List UInt8) (depth : Nat) (shape : TensorShape) : ParseCall TensorShape :=
  forFields limits depth data shape (fun shape field => match field with
    | ⟨1, .delimited value⟩ => do
        let (elemType, dims) ← parseTensorType limits value (depth + 1)
        pure { shape with dtype := dtypeName elemType, dimensions := dims }
    | _ => pure shape)

def parseValueInfo (data : List UInt8) (depth : Nat) : ParseCall TensorShape :=
  forFields limits depth data ⟨"", "unknown", []⟩ (fun shape field => match field with
    | ⟨1, .delimited value⟩ => do
        let name ← decodeText limits value
        pure { shape with name := name }
    | ⟨2, .delimited value⟩ => parseType limits value (depth + 1) shape
    | _ => pure shape)

def parseStringEntry (data : List UInt8) (depth : Nat) : ParseCall (String × String) :=
  forFields limits depth data ("", "") (fun (key, valueText) field => match field with
    | ⟨1, .delimited value⟩ => do
        let key ← decodeText limits value
        pure (key, valueText)
    | ⟨2, .delimited value⟩ => do
        let valueText ← decodeText limits value
        pure (key, valueText)
    | _ => pure (key, valueText))

/-- The loop of `_parse_tensor` over packed dimensions. -/
def packedFrom (value : List UInt8) : Nat → Nat → Except ParseException (List Nat)
  | 0, _ => .error .unfinished
  | n + 1, offset =>
      if offset < value.length then do
        let (item, offset) ← readVarint value offset
        let later ← packedFrom value n offset
        pure (item :: later)
      else pure []

/-- The local variables of `_parse_tensor`. -/
structure TensorFields where
  dims : List Nat := []
  dtypeNumber : Nat := 0
  name : String := ""
  rawBytes : Nat := 0
  external : List (String × String) := []
  externalLocation : Bool := false

def parseTensorFields (data : List UInt8) (depth : Nat) : ParseCall TensorFields :=
  forFields limits depth data {} (fun tensor field => match field with
    | ⟨1, .varint value⟩ => pure { tensor with dims := tensor.dims ++ [value] }
    | ⟨1, .delimited value⟩ => do
        let packed ← Call.lift (packedFrom value (value.length + 1) 0)
        pure { tensor with dims := tensor.dims ++ packed }
    | ⟨2, .varint value⟩ => pure { tensor with dtypeNumber := value }
    | ⟨8, .delimited value⟩ => do
        let name ← decodeText limits value
        pure { tensor with name := name }
    | ⟨9, .delimited value⟩ => pure { tensor with rawBytes := value.length }
    | ⟨13, .delimited value⟩ => do
        let entry ← parseStringEntry limits value (depth + 1)
        pure { tensor with external := tensor.external ++ [entry] }
    | ⟨14, .varint value⟩ => pure { tensor with externalLocation := value = 1 }
    | _ => pure tensor)

def parseTensor (data : List UInt8) (depth : Nat) : ParseCall TensorInitializer := do
  let tensor ← parseTensorFields limits data depth
  pure {
    name := tensor.name
    dtype := dtypeName tensor.dtypeNumber
    dimensions := tensor.dims
    externalData := tensor.external
    externalLocation := tensor.externalLocation
    rawBytes := tensor.rawBytes }

/-! ## Nodes and graphs -/

/-- `_Node`; the sorted attribute messages stand in the place of their digest. -/
structure Node where
  path : String
  domain : String
  operator : String
  attributes : List (List UInt8)
  hasSubgraph : Bool
  deriving DecidableEq, Repr

/-- What `_parse_graph` returns, with its running node index. -/
structure Graph where
  nodes : List Node := []
  initializers : List TensorInitializer := []
  inputs : List TensorShape := []
  outputs : List TensorShape := []
  nodeIndex : Nat := 0
  deriving DecidableEq, Repr

/-- The local variables of `_parse_node`. -/
structure NodeFields where
  domain : String := ""
  operator : String := ""
  attributes : List (List UInt8) := []
  nested : List Node := []
  hasSubgraph : Bool := false

/-- The loop of `_parse_node` over one attribute: its name and its graphs. -/
def parseAttribute (data : List UInt8) (depth : Nat) : ParseCall (String × List (List UInt8)) :=
  forFields limits depth data ("", []) (fun (attrName, graphMessages) field => match field with
    | ⟨1, .delimited value⟩ => do
        let attrName ← decodeText limits value
        pure (attrName, graphMessages)
    | ⟨6, .delimited value⟩ => pure (attrName, graphMessages ++ [value])
    | ⟨11, .delimited value⟩ => pure (attrName, graphMessages ++ [value])
    | _ => pure (attrName, graphMessages))

/-- The loop of `_parse_node` over the graphs of one attribute. -/
def parseSubgraphs (parseGraph : List UInt8 → String → Nat → ParseCall Graph) (path attrName : String) (depth : Nat) :
    List (List UInt8 × Nat) → ParseCall (List Node)
  | [] => pure []
  | (graphMessage, index) :: rest => do
      let graph ← parseGraph graphMessage
        (path ++ "/attr:" ++ (if attrName = "" then "anonymous" else attrName) ++ ":" ++ toString index) depth
      let later ← parseSubgraphs parseGraph path attrName depth rest
      pure (graph.nodes ++ later)

/-- `_parse_node`, over the parser for the graphs in its attributes. -/
def parseNode (parseGraph : List UInt8 → String → Nat → ParseCall Graph) (data : List UInt8) (path : String) (depth : Nat) :
    ParseCall (Node × List Node) := do
  ParseBudget.consumeNode limits
  let node ← forFields limits depth data ({} : NodeFields) (fun node field => match field with
    | ⟨4, .delimited value⟩ => do
        let operator ← decodeText limits value
        pure { node with operator := operator }
    | ⟨7, .delimited value⟩ => do
        let domain ← decodeText limits value
        pure { node with domain := domain }
    | ⟨5, .delimited value⟩ => do
        ParseBudget.consumeAttribute limits
        let (attrName, graphMessages) ← parseAttribute limits value (depth + 1)
        let nested ← parseSubgraphs parseGraph path attrName (depth + 2) graphMessages.zipIdx
        pure { node with
          attributes := node.attributes ++ [value]
          nested := node.nested ++ nested
          hasSubgraph := node.hasSubgraph || !graphMessages.isEmpty }
    | _ => pure node)
  pure ({
    path := path
    domain := if node.domain = "" then "ai.onnx" else node.domain
    operator := node.operator
    attributes := node.attributes.insertionSort (· ≤ ·)
    hasSubgraph := node.hasSubgraph }, node.nested)

/-- `_parse_graph`, `fuel` levels deep. -/
def parseGraph : Nat → List UInt8 → String → Nat → ParseCall Graph
  | 0, _, _, _ => Call.raise .unfinished
  | fuel + 1, data, path, depth =>
      forFields limits depth data ({} : Graph) (fun graph field => match field with
        | ⟨1, .delimited value⟩ => do
            let (node, nested) ← parseNode limits (parseGraph fuel) value
              (path ++ "/node:" ++ toString graph.nodeIndex) (depth + 1)
            pure { graph with nodes := graph.nodes ++ node :: nested, nodeIndex := graph.nodeIndex + 1 }
        | ⟨5, .delimited value⟩ => do
            ParseBudget.consumeInitializer limits
            let tensor ← parseTensor limits value (depth + 1)
            pure { graph with initializers := graph.initializers ++ [tensor] }
        | ⟨11, .delimited value⟩ => do
            let shape ← parseValueInfo limits value (depth + 1)
            pure { graph with inputs := graph.inputs ++ [shape] }
        | ⟨12, .delimited value⟩ => do
            let shape ← parseValueInfo limits value (depth + 1)
            pure { graph with outputs := graph.outputs ++ [shape] }
        | _ => pure graph)

/-! ## The model -/

structure OpsetImport where
  domain : String := "ai.onnx"
  version : Nat := 0
  deriving DecidableEq, Repr

def parseOpset (data : List UInt8) : ParseCall OpsetImport :=
  forFields limits 1 data {} (fun opset field => match field with
    | ⟨1, .delimited value⟩ => do
        let text ← decodeText limits value
        pure { opset with domain := if text = "" then "ai.onnx" else text }
    | ⟨2, .varint value⟩ => pure { opset with version := value }
    | _ => pure opset)

/-- The local variables of `inspect_onnx_graph`. -/
structure ModelFields where
  irVersion : Nat := 0
  opsets : List OpsetImport := []
  graphPayload : Option (List UInt8) := none
  functions : Nat := 0

def parseModelFields (data : List UInt8) : ParseCall ModelFields :=
  forFields limits 0 data {} (fun model field => match field with
    | ⟨1, .varint value⟩ => pure { model with irVersion := value }
    | ⟨7, .delimited value⟩ =>
        if model.graphPayload.isSome then protobufParseError "multiple_model_graphs"
        else pure { model with graphPayload := some value }
    | ⟨8, .delimited value⟩ => do
        let opset ← parseOpset limits value
        pure { model with opsets := model.opsets ++ [opset] }
    | ⟨25, .delimited _⟩ =>
        if limits.maxAttributes < model.functions + 1 then protobufParseError "onnx_function_limit_exceeded"
        else pure { model with functions := model.functions + 1 }
    | _ => pure model)

/-- The entries of the report that `inspect_onnx_graph` reads off the file. -/
structure OnnxGraph where
  irVersion : Nat
  opsets : List OpsetImport
  operators : List Node
  initializers : List TensorInitializer
  inputs : List TensorShape
  outputs : List TensorShape
  functionCount : Nat
  protobufFieldsSeen : Nat
  deriving DecidableEq, Repr

def inspectWithin (data : List UInt8) : ParseCall OnnxGraph := do
  let model ← parseModelFields limits data
  match model.graphPayload with
  | none => protobufParseError "onnx_graph_missing"
  | some graphPayload => do
      let graph ← parseGraph limits (data.length + 1) graphPayload "graph" 0
      let fieldsSeen ← Call.read ParseBudget.fieldsSeen
      pure {
        irVersion := model.irVersion
        opsets := model.opsets.insertionSort (fun a b => a.domain < b.domain ∨ (a.domain = b.domain ∧ a.version ≤ b.version))
        operators := graph.nodes.insertionSort (fun a b => a.path ≤ b.path)
        initializers := graph.initializers.insertionSort (fun a b => a.name ≤ b.name)
        inputs := graph.inputs
        outputs := graph.outputs
        functionCount := model.functions
        protobufFieldsSeen := fieldsSeen }

end

/-- `inspect_onnx_graph` on the bytes of the file. -/
def inspectOnnxGraph (data : List UInt8) : Except ParseException OnnxGraph :=
  (inspectWithin { maxTotalBytes := max data.length 1 } data {}).1

end SentinelEdge.Runtime
