import SentinelEdge.Runtime.OnnxReader

/-! # What a parsed graph says about its file

A parse that returns has scanned each message it entered to the end, and its
result is a function of the fields: the last occurrence of a single value, every
occurrence of a repeated one. For types the function follows the program, which
keeps what the last tensor type said.
-/

namespace SentinelEdge.Runtime

open Foundation Wire

/-! ## Reading fields -/

/-- The text of the last occurrence, `""` without one. -/
def textOf (number : Nat) (fields : List Field) : String :=
  match (delimited number fields).getLast? with
  | none => ""
  | some bytes => (String.fromUTF8? ⟨bytes.toArray⟩).getD ""

/-- The value of the last occurrence. -/
def valueOf (number : Nat) (fields : List Field) : Nat := (varints number fields).getLast?.getD 0

def fieldsOf (data : List UInt8) : List Field := (scan data).1

def opsetOf (fields : List Field) : OpsetImport where
  domain := if textOf 1 fields = "" then "ai.onnx" else textOf 1 fields
  version := valueOf 2 fields

/-- A dimension is the last value or name it is given. -/
def dimensionOf (fields : List Field) : Option Dimension :=
  fields.foldl (fun result f => match f with
    | ⟨1, .varint value⟩ => some (.fixed value)
    | ⟨2, .delimited value⟩ => some (.symbolic ((String.fromUTF8? ⟨value.toArray⟩).getD ""))
    | _ => result) none

def dimensionsOf (shape : List Field) : List (Option Dimension) :=
  (delimited 1 shape).map (fun dim => dimensionOf (fieldsOf dim))

/-- The tensor types of a value, each as its own message. -/
def tensorTypes (fields : List Field) : List (List UInt8) :=
  (delimited 2 fields).flatMap (fun type => delimited 1 (fieldsOf type))

/-- What a shape says after the given tensor types: the last one replaces whatever
    was known. -/
def described (shape : TensorShape) (types : List (List UInt8)) : TensorShape :=
  match types.getLast? with
  | none => shape
  | some last => { shape with
      dtype := dtypeName (valueOf 1 (fieldsOf last))
      dimensions := (delimited 2 (fieldsOf last)).flatMap (fun shape => dimensionsOf (fieldsOf shape)) }

/-- The shape the program reads off a value. -/
def shapeOf (fields : List Field) : TensorShape := described ⟨textOf 1 fields, "unknown", []⟩ (tensorTypes fields)

/-- A tensor type and the shapes in it are well formed. -/
def ReadsTensor (tensor : List UInt8) : Prop :=
  (scan tensor).2 = none ∧ ∀ shape ∈ delimited 2 (fieldsOf tensor), (scan shape).2 = none

/-- The messages the program enters below a value are well formed. -/
structure ReadsType (fields : List Field) : Prop where
  types : ∀ type ∈ delimited 2 fields, (scan type).2 = none
  tensors : ∀ tensor ∈ tensorTypes fields, ReadsTensor tensor

/-- A key and a value of external data. -/
def entryOf (fields : List Field) : String × String := (textOf 1 fields, textOf 2 fields)

def externalDataOf (tensor : List Field) : List (String × String) :=
  (delimited 13 tensor).map (fun entry => entryOf (fieldsOf entry))

/-! ## Calls that return -/

/-- Whatever the call returns satisfies `Q`. -/
def Returns {α : Type} (Q : α → Prop) (x : ParseCall α) : Prop := ∀ budget budget' a, x budget = (.ok a, budget') → Q a

variable {limits : ParseLimits} {α β : Type} {Q : α → Prop}

namespace Returns

theorem pure {a : α} (here : Q a) : Returns Q (Pure.pure a) := by
  intro budget budget' b returned
  cases returned
  exact here

theorem protobufParseError (text : String) : Returns Q (protobufParseError text) := nofun

theorem bind {x : ParseCall α} {f : α → ParseCall β} {Q' : β → Prop} (first : Returns Q x)
    (later : ∀ a, Q a → Returns Q' (f a)) : Returns Q' (x >>= f) := by
  intro budget budget' b returned
  obtain ⟨a, between, one, two⟩ := Call.bind_ok.mp returned
  exact later a (first _ _ _ one) _ _ _ two

theorem anything (x : ParseCall α) : Returns (fun _ => True) x := fun _ _ _ _ => trivial

theorem decodeText (value : List UInt8) :
    Returns (fun text => (String.fromUTF8? ⟨value.toArray⟩).getD "" = text) (decodeText limits value) := by
  unfold Runtime.decodeText
  split
  · exact .protobufParseError _
  · cases String.fromUTF8? ⟨value.toArray⟩ with
    | none => exact .protobufParseError _
    | some text => exact .pure rfl

theorem fieldLoop {I : List Field → α → Prop} {depth : Nat} {body : α → Field → ParseCall α} {ending : Option Fault}
    {before fields : List Field} {acc : α} (here : I before acc)
    (keeps : ∀ before acc f, I before acc → Returns (I (before ++ [f])) (body acc f)) :
    Returns (fun a => ending = none ∧ I (before ++ fields) a)
      (Runtime.fieldLoop limits depth body (ending.map raised) fields acc) := by
  induction fields generalizing before acc with
  | nil =>
      cases ending with
      | none => exact .pure ⟨rfl, by simpa using here⟩
      | some fault => exact bind (anything _) fun _ _ => .protobufParseError _
  | cons f fields ih =>
      refine bind (anything _) fun _ _ => bind (anything _) fun _ _ => ?_
      refine bind (keeps before acc f here) fun acc' after => ?_
      simpa using ih after

/-- A loop that returns has come to the end of a well-formed message. -/
theorem forFields {I : List Field → α → Prop} {depth : Nat} {data : List UInt8} {body : α → Field → ParseCall α} {acc : α}
    (init : I [] acc) (keeps : ∀ before acc f, I before acc → Returns (I (before ++ [f])) (body acc f)) :
    Returns (fun a => (scan data).2 = none ∧ I (fieldsOf data) a) (Runtime.forFields limits depth data acc body) := by
  unfold Runtime.forFields
  rw [iterFields_eq_scan]
  split
  · exact .protobufParseError _
  · exact fieldLoop init keeps

theorem weaken {Q' : α → Prop} {x : ParseCall α} (returns : Returns Q x) (implies : ∀ a, Q a → Q' a) : Returns Q' x :=
  fun _ _ a returned => implies a (returns _ _ _ returned)

end Returns

/-! ## One more field -/

@[simp] theorem delimited_nil (number : Nat) : delimited number [] = [] := rfl

@[simp] theorem varints_nil (number : Nat) : varints number [] = [] := rfl

@[simp] theorem delimited_snoc (number : Nat) (fields : List Field) (f : Field) :
    delimited number (fields ++ [f]) = delimited number fields ++ delimited number [f] := delimited_append ..

@[simp] theorem varints_snoc (number : Nat) (fields : List Field) (f : Field) :
    varints number (fields ++ [f]) = varints number fields ++ varints number [f] := varints_append ..

theorem textOf_snoc (number : Nat) (fields : List Field) (bytes : List UInt8) :
    textOf number (fields ++ [⟨number, .delimited bytes⟩]) = (String.fromUTF8? ⟨bytes.toArray⟩).getD "" := by
  simp [textOf, delimited]

theorem textOf_other {number : Nat} {f : Field} (fields : List Field) (other : delimited number [f] = []) :
    textOf number (fields ++ [f]) = textOf number fields := by
  simp [textOf, other]

theorem valueOf_snoc (number : Nat) (fields : List Field) (value : Nat) :
    valueOf number (fields ++ [⟨number, .varint value⟩]) = value := by
  simp [valueOf, varints]

theorem valueOf_other {number : Nat} {f : Field} (fields : List Field) (other : varints number [f] = []) :
    valueOf number (fields ++ [f]) = valueOf number fields := by
  simp [valueOf, other]

theorem delimited_single (number : Nat) (bytes : List UInt8) : delimited number [⟨number, .delimited bytes⟩] = [bytes] := by
  simp [delimited]

theorem tensorTypes_snoc (fields : List Field) (type : List UInt8) :
    tensorTypes (fields ++ [⟨2, .delimited type⟩]) = tensorTypes fields ++ delimited 1 (fieldsOf type) := by
  simp only [tensorTypes, delimited_snoc, delimited_single, List.flatMap_append, List.flatMap_cons, List.flatMap_nil,
    List.append_nil]

theorem delimited_none {number : Nat} {f : Field} (other : ∀ bytes, f = ⟨number, .delimited bytes⟩ → False) :
    delimited number [f] = [] := by
  apply List.eq_nil_iff_forall_not_mem.mpr
  intro bytes member
  exact other bytes (List.mem_singleton.mp (mem_delimited.mp member)).symm

theorem varints_none {number : Nat} {f : Field} (other : ∀ value, f = ⟨number, .varint value⟩ → False) :
    varints number [f] = [] := by
  apply List.eq_nil_iff_forall_not_mem.mpr
  intro value member
  obtain ⟨⟨n, payload⟩, inList, here⟩ := List.mem_filterMap.mp member
  cases List.mem_singleton.mp inList
  cases payload with
  | varint number' =>
      simp only [Option.ite_none_right_eq_some, Option.some.injEq] at here
      exact other value (by rw [here.1, here.2])
  | delimited bytes => cases here
  | fixed64 bytes => cases here
  | fixed32 bytes => cases here

theorem described_append (shape : TensorShape) (types more : List (List UInt8)) :
    described (described shape types) more = described shape (types ++ more) := by
  unfold described
  rw [List.getLast?_append]
  cases more.getLast? with
  | none => rfl
  | some last =>
      cases types.getLast? with
      | none => rfl
      | some other => rfl

theorem described_name (shape : TensorShape) (name : String) (types : List (List UInt8)) :
    described { shape with name := name } types = { described shape types with name := name } := by
  unfold described
  cases types.getLast? with
  | none => rfl
  | some last => rfl

/-! ## What each parser returns -/

namespace Returns

theorem parseDimension (data : List UInt8) (depth : Nat) :
    Returns (fun dim => (scan data).2 = none ∧ dim = dimensionOf (fieldsOf data)) (parseDimension limits data depth) := by
  refine forFields (I := fun before dim => dim = dimensionOf before) rfl fun before dim f here => ?_
  subst here
  split
  · exact .pure (by simp [dimensionOf])
  · exact bind (decodeText _) fun text same => .pure (by simp [dimensionOf, same])
  · refine .pure ?_
    simp only [dimensionOf, List.foldl_append, List.foldl_cons, List.foldl_nil]

theorem parseShape (data : List UInt8) (depth : Nat) (dims : List (Option Dimension)) :
    Returns (fun found => (scan data).2 = none ∧ found = dims ++ dimensionsOf (fieldsOf data))
      (parseShape limits data depth dims) := by
  refine forFields (I := fun before found => found = dims ++ dimensionsOf before) (by simp [dimensionsOf])
    fun before found f here => ?_
  subst here
  split
  · refine bind (parseDimension _ _) fun dim read => .pure ?_
    simp [dimensionsOf, delimited, read.2]
  · exact .pure (by simp [dimensionsOf, delimited_none ‹_›])

theorem parseTensorType (data : List UInt8) (depth : Nat) :
    Returns (fun found => ReadsTensor data ∧ found.1 = valueOf 1 (fieldsOf data) ∧
        found.2 = (delimited 2 (fieldsOf data)).flatMap (fun shape => dimensionsOf (fieldsOf shape)))
      (parseTensorType limits data depth) := by
  refine weaken (forFields (I := fun before found => (∀ shape ∈ delimited 2 before, (scan shape).2 = none) ∧
    found.1 = valueOf 1 before ∧ found.2 = (delimited 2 before).flatMap (fun shape => dimensionsOf (fieldsOf shape)))
    ⟨nofun, rfl, rfl⟩ fun before found f here => ?_) fun found read => ⟨⟨read.1, read.2.1⟩, read.2.2⟩
  obtain ⟨whole, number, dims⟩ := here
  simp only
  split
  · refine .pure ⟨?_, by rw [valueOf_snoc], ?_⟩
    · simpa [delimited] using whole
    · simpa [delimited] using dims
  · refine bind (parseShape _ _ _) fun found read => .pure ⟨?_, ?_, ?_⟩
    · simpa [delimited, or_imp, forall_and, read.1] using whole
    · rw [valueOf_other _ rfl, number]
    · simp [delimited, read.2, dims]
  · refine .pure ⟨?_, ?_, ?_⟩
    · simpa [delimited_none ‹_›] using whole
    · rw [valueOf_other _ (varints_none ‹_›), number]
    · simpa [delimited_none ‹_›] using dims

theorem parseType (data : List UInt8) (depth : Nat) (shape : TensorShape) :
    Returns (fun found => (scan data).2 = none ∧ (∀ tensor ∈ delimited 1 (fieldsOf data), ReadsTensor tensor) ∧
      found = described shape (delimited 1 (fieldsOf data))) (parseType limits data depth shape) := by
  refine forFields (I := fun before found => (∀ tensor ∈ delimited 1 before, ReadsTensor tensor) ∧
    found = described shape (delimited 1 before)) ⟨nofun, rfl⟩ fun before found f here => ?_
  obtain ⟨reads, rfl⟩ := here
  split
  · refine bind (parseTensorType _ _) fun found read => .pure ⟨?_, ?_⟩
    · simpa [delimited, or_imp, forall_and, read.1] using reads
    · rw [delimited_snoc, ← described_append]
      simp [delimited, described, read.2]
  · exact .pure ⟨by simpa [delimited_none ‹_›] using reads, by simp [delimited_none ‹_›]⟩

theorem parseValueInfo (data : List UInt8) (depth : Nat) :
    Returns (fun shape => (scan data).2 = none ∧ ReadsType (fieldsOf data) ∧ shape = shapeOf (fieldsOf data))
      (parseValueInfo limits data depth) := by
  refine forFields (I := fun before shape => ReadsType before ∧ shape = shapeOf before) ⟨⟨nofun, nofun⟩, rfl⟩
    fun before shape f here => ?_
  obtain ⟨reads, rfl⟩ := here
  split
  · refine bind (decodeText _) fun name same => .pure ⟨⟨?_, ?_⟩, ?_⟩
    · simpa [delimited] using reads.types
    · simpa [tensorTypes, delimited] using reads.tensors
    · simp only [shapeOf, textOf_snoc, same, tensorTypes, delimited_snoc]
      rw [← described_name]
      simp [delimited]
  · refine weaken (parseType _ _ _) fun shape read => ⟨⟨?_, ?_⟩, ?_⟩
    · simpa [delimited, or_imp, forall_and, read.1] using reads.types
    · intro tensor member
      rw [tensorTypes_snoc] at member
      exact (List.mem_append.mp member).elim (reads.tensors tensor) (read.2.1 tensor)
    · rw [read.2.2, shapeOf, described_append, shapeOf, textOf_other _ rfl, tensorTypes_snoc]
  · refine .pure ⟨⟨?_, ?_⟩, ?_⟩
    · simpa [delimited_none ‹_›] using reads.types
    · simpa [tensorTypes, delimited_none ‹_›] using reads.tensors
    · rw [shapeOf, shapeOf, textOf_other _ (delimited_none ‹_›)]
      simp [tensorTypes, delimited_none ‹_›]

theorem parseStringEntry (data : List UInt8) (depth : Nat) :
    Returns (fun entry => (scan data).2 = none ∧ entry = entryOf (fieldsOf data)) (parseStringEntry limits data depth) := by
  refine forFields (I := fun before entry => entry = entryOf before) rfl fun before entry f here => ?_
  subst here
  simp only [entryOf]
  split
  · exact bind (decodeText _) fun key same => .pure (by rw [textOf_snoc, same, textOf_other _ rfl])
  · exact bind (decodeText _) fun text same => .pure (by rw [textOf_snoc, same, textOf_other _ rfl])
  · exact .pure (by rw [textOf_other _ (delimited_none ‹_›), textOf_other _ (delimited_none ‹_›)])

theorem parseTensor (data : List UInt8) (depth : Nat) :
    Returns (fun tensor => tensor.externalData = externalDataOf (fieldsOf data)) (parseTensor limits data depth) := by
  have fields : Returns (fun tensor : TensorFields => (scan data).2 = none ∧ tensor.external = externalDataOf (fieldsOf data))
      (parseTensorFields limits data depth) := by
    refine forFields (I := fun before (tensor : TensorFields) => tensor.external = externalDataOf before) rfl fun before tensor f here => ?_
    have same : delimited 13 [f] = [] → tensor.external = externalDataOf (before ++ [f]) := by
      intro other
      rw [here, externalDataOf, externalDataOf, delimited_snoc, other, List.append_nil]
    split
    · exact .pure (same rfl)
    · exact bind (anything _) fun _ _ => .pure (same rfl)
    · exact .pure (same rfl)
    · exact bind (anything _) fun _ _ => .pure (same rfl)
    · exact .pure (same rfl)
    · refine bind (parseStringEntry _ _) fun entry read => .pure ?_
      simp only [here, read.2, externalDataOf, delimited_snoc, delimited_single, List.map_append, List.map_cons, List.map_nil]
    · exact .pure (same rfl)
    · exact .pure (same (delimited_none ‹_›))
  exact bind fields fun tensor read => .pure read.2

end Returns

/-- What a parsed graph says about the fields of its message. -/
structure ReadsGraph (fields : List Field) (graph : Graph) : Prop where
  initializers : graph.initializers.map TensorInitializer.externalData =
    (delimited 5 fields).map (fun tensor => externalDataOf (fieldsOf tensor))
  inputs : graph.inputs = (delimited 11 fields).map (fun value => shapeOf (fieldsOf value))
  outputs : graph.outputs = (delimited 12 fields).map (fun value => shapeOf (fieldsOf value))
  inputTypes : ∀ value ∈ delimited 11 fields, ReadsType (fieldsOf value)
  outputTypes : ∀ value ∈ delimited 12 fields, ReadsType (fieldsOf value)

/-- A field that is none of these changes nothing. -/
theorem ReadsGraph.skip {fields : List Field} {graph graph' : Graph} {f : Field} (reads : ReadsGraph fields graph)
    (same : graph'.initializers = graph.initializers ∧ graph'.inputs = graph.inputs ∧ graph'.outputs = graph.outputs)
    (tensor : delimited 5 [f] = []) (input : delimited 11 [f] = []) (output : delimited 12 [f] = []) :
    ReadsGraph (fields ++ [f]) graph' := by
  obtain ⟨initializers, inputs, outputs, inputTypes, outputTypes⟩ := reads
  constructor
  · rw [delimited_snoc, tensor, List.append_nil, same.1, initializers]
  · rw [delimited_snoc, input, List.append_nil, same.2.1, inputs]
  · rw [delimited_snoc, output, List.append_nil, same.2.2, outputs]
  · rw [delimited_snoc, input, List.append_nil]
    exact inputTypes
  · rw [delimited_snoc, output, List.append_nil]
    exact outputTypes

namespace Returns

theorem parseGraph (fuel : Nat) (data : List UInt8) (path : String) (depth : Nat) :
    Returns (fun graph => ReadsGraph (fieldsOf data) graph) (parseGraph limits fuel data path depth) := by
  cases fuel with
  | zero => exact nofun
  | succ fuel =>
      have start : ReadsGraph [] {} := ⟨rfl, rfl, rfl, nofun, nofun⟩
      refine weaken (forFields start fun before graph f here => ?_) fun graph read => read.2
      split
      · exact bind (anything _) fun _ _ => .pure (here.skip ⟨rfl, rfl, rfl⟩ rfl rfl rfl)
      · refine bind (anything _) fun _ _ => bind (parseTensor _ _) fun tensor read => .pure ?_
        constructor
        · simp [delimited_single, here.initializers, read]
        · simpa [delimited] using here.inputs
        · simpa [delimited] using here.outputs
        · simpa [delimited] using here.inputTypes
        · simpa [delimited] using here.outputTypes
      · refine bind (parseValueInfo _ _) fun shape read => .pure ?_
        constructor
        · simpa [delimited] using here.initializers
        · simp [delimited_single, here.inputs, read.2.2]
        · simpa [delimited] using here.outputs
        · simpa [delimited_single, or_imp, forall_and, read.2.1] using here.inputTypes
        · simpa [delimited] using here.outputTypes
      · refine bind (parseValueInfo _ _) fun shape read => .pure ?_
        constructor
        · simpa [delimited] using here.initializers
        · simpa [delimited] using here.inputs
        · simp [delimited_single, here.outputs, read.2.2]
        · simpa [delimited] using here.inputTypes
        · simpa [delimited_single, or_imp, forall_and, read.2.1] using here.outputTypes
      · exact .pure (here.skip ⟨rfl, rfl, rfl⟩ (delimited_none ‹_›) (delimited_none ‹_›) (delimited_none ‹_›))

theorem parseOpset (data : List UInt8) : Returns (fun opset => opset = opsetOf (fieldsOf data)) (parseOpset limits data) := by
  refine weaken (forFields (I := fun before opset => opset = opsetOf before) rfl fun before opset f here => ?_)
    fun opset read => read.2
  subst here
  split
  · refine bind (decodeText _) fun text same => .pure ?_
    simp only [opsetOf, textOf_snoc, same, valueOf_other _ (show varints 2 [⟨1, .delimited _⟩] = [] from rfl)]
  · refine .pure ?_
    simp only [opsetOf, valueOf_snoc, textOf_other _ (show delimited 1 [⟨2, .varint _⟩] = [] from rfl)]
  · refine .pure ?_
    simp only [opsetOf, textOf_other _ (delimited_none ‹_›), valueOf_other _ (varints_none ‹_›)]

theorem parseModelFields (data : List UInt8) :
    Returns (fun model => model.opsets = (delimited 8 (fieldsOf data)).map (fun opset => opsetOf (fieldsOf opset)) ∧
      model.graphPayload.toList = delimited 7 (fieldsOf data)) (parseModelFields limits data) := by
  refine weaken (forFields (I := fun before (model : ModelFields) =>
    model.opsets = (delimited 8 before).map (fun opset => opsetOf (fieldsOf opset)) ∧
    model.graphPayload.toList = delimited 7 before) ⟨rfl, rfl⟩ fun before model f here => ?_) fun model read => read.2
  obtain ⟨opsets, graph⟩ := here
  have same : delimited 8 [f] = [] → delimited 7 [f] = [] →
      model.opsets = (delimited 8 (before ++ [f])).map (fun opset => opsetOf (fieldsOf opset)) ∧
      model.graphPayload.toList = delimited 7 (before ++ [f]) := by
    intro noOpset noGraph
    rw [delimited_snoc, delimited_snoc, noOpset, noGraph, List.append_nil, List.append_nil]
    exact ⟨opsets, graph⟩
  split
  · exact .pure (same rfl rfl)
  · split
    · exact .protobufParseError _
    · refine .pure ⟨by simpa [delimited] using opsets, ?_⟩
      have first : model.graphPayload = none := by simpa using ‹¬ model.graphPayload.isSome = true›
      rw [first] at graph
      simp [delimited_single, ← graph]
  · refine bind (parseOpset _) fun opset read => .pure ⟨?_, by simpa [delimited] using graph⟩
    simp [delimited_single, opsets, read]
  · split
    · exact .protobufParseError _
    · exact .pure (same rfl rfl)
  · exact .pure (same (delimited_none ‹_›) (delimited_none ‹_›))

end Returns

/-- An inspected file has one graph; the report lists its opset records and
    initializers in some order, and its inputs and outputs in the order of the file. -/
theorem graph_of_inspected {data : List UInt8} {report : OnnxGraph} (inspected : inspectOnnxGraph data = .ok report) :
    ∃ graph parsed, delimited 7 (fieldsOf data) = [graph] ∧ ReadsGraph (fieldsOf graph) parsed ∧
      report.inputs = parsed.inputs ∧ report.outputs = parsed.outputs ∧ report.initializers.Perm parsed.initializers ∧
      report.opsets = ((delimited 8 (fieldsOf data)).map (fun opset => opsetOf (fieldsOf opset))).insertionSort
        (fun a b => a.domain < b.domain ∨ (a.domain = b.domain ∧ a.version ≤ b.version)) := by
  rcases returned : inspectWithin { maxTotalBytes := max data.length 1 } data {} with ⟨r, budget⟩
  have ok : r = .ok report := by
    rw [← inspected, inspectOnnxGraph, returned]
  subst ok
  obtain ⟨model, between, first, later⟩ := Call.bind_ok.mp returned
  obtain ⟨opsets, payload⟩ := Returns.parseModelFields data _ _ _ first
  cases here : model.graphPayload with
  | none =>
      rw [here] at later
      cases later
  | some graph =>
      rw [here] at later payload
      obtain ⟨parsed, after, parse, rest⟩ := Call.bind_ok.mp later
      rw [Call.read_bind] at rest
      cases rest
      refine ⟨graph, parsed, payload.symm, Returns.parseGraph _ _ _ _ _ _ _ parse, rfl, rfl, ?_, ?_⟩
      · exact List.perm_insertionSort _ _
      · rw [← opsets]

end SentinelEdge.Runtime
