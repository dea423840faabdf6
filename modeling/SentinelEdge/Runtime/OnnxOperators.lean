import SentinelEdge.Runtime.OnnxMeaning

/-! # The operators of a file

A parse that returns lists a node for every node message of the graph, followed by
the nodes of the graphs in its attributes. The path of a node says where it was
found; nothing keeps two nodes from being found at the same path.
-/

namespace SentinelEdge.Runtime

open Foundation Wire

variable {limits : ParseLimits} {inner : List UInt8 → String → List Node} {fields : List Field} {path name : String}

/-- The graphs in an attribute: one of its own, and those of a list. -/
def graphMessages (fields : List Field) : List (List UInt8) :=
  fields.filterMap (fun f => match f with
    | ⟨6, .delimited value⟩ => some value
    | ⟨11, .delimited value⟩ => some value
    | _ => none)

def nodePath (path : String) (index : Nat) : String := path ++ "/node:" ++ toString index

def subgraphPath (path name : String) (index : Nat) : String :=
  path ++ "/attr:" ++ (if name = "" then "anonymous" else name) ++ ":" ++ toString index

def nodeOf (path : String) (fields : List Field) : Node where
  path := path
  domain := if textOf 7 fields = "" then "ai.onnx" else textOf 7 fields
  operator := textOf 4 fields
  attributes := (delimited 5 fields).insertionSort (· ≤ ·)
  hasSubgraph := (delimited 5 fields).any (fun attr => !(graphMessages (fieldsOf attr)).isEmpty)

section

variable (inner : List UInt8 → String → List Node)

/-- The nodes of the graphs in one attribute. -/
def attributeNodes (path name : String) (graphs : List (List UInt8 × Nat)) : List Node :=
  graphs.flatMap (fun graph => inner graph.1 (subgraphPath path name graph.2))

/-- The nodes of the graphs in the attributes of a node. -/
def nestedNodes (path : String) (fields : List Field) : List Node :=
  (delimited 5 fields).flatMap (fun attr =>
    attributeNodes inner path (textOf 1 (fieldsOf attr)) (graphMessages (fieldsOf attr)).zipIdx)

/-- The nodes of a graph with those nested in them. -/
def graphNodes (path : String) (fields : List Field) : List Node :=
  (delimited 1 fields).zipIdx.flatMap (fun node =>
    nodeOf (nodePath path node.2) (fieldsOf node.1) :: nestedNodes inner (nodePath path node.2) (fieldsOf node.1))

end

/-- The nodes of a graph message, `fuel` graphs deep. -/
def operatorsIn : Nat → List UInt8 → String → List Node
  | 0, _, _ => []
  | fuel + 1, graph, path => graphNodes (operatorsIn fuel) path (fieldsOf graph)

/-- The nodes of a model. -/
def operatorsOf (data : List UInt8) : List Node :=
  (delimited 7 (fieldsOf data)).flatMap (fun graph => operatorsIn (data.length + 1) graph "graph")

/-! ## One more field -/

theorem graphMessages_snoc (f : Field) : graphMessages (fields ++ [f]) = graphMessages fields ++ graphMessages [f] :=
  List.filterMap_append

theorem graphMessages_none {f : Field} (single : ∀ value, f = ⟨6, .delimited value⟩ → False)
    (list : ∀ value, f = ⟨11, .delimited value⟩ → False) : graphMessages [f] = [] := by
  unfold graphMessages
  rw [List.filterMap_cons_none, List.filterMap_nil]
  split
  · exact absurd rfl (single _)
  · exact absurd rfl (list _)
  · rfl

theorem graphNodes_snoc (node : List UInt8) : graphNodes inner path (fields ++ [⟨1, .delimited node⟩]) =
    graphNodes inner path fields ++ nodeOf (nodePath path (delimited 1 fields).length) (fieldsOf node) ::
      nestedNodes inner (nodePath path (delimited 1 fields).length) (fieldsOf node) := by
  simp [graphNodes, delimited_single, List.zipIdx_append]

theorem graphNodes_other {f : Field} (other : delimited 1 [f] = []) :
    graphNodes inner path (fields ++ [f]) = graphNodes inner path fields := by
  simp [graphNodes, other]

/-! ## What the parsers return -/

/-- A parser of graphs that returns the nodes of the message. -/
def ReturnsNodes (inner : List UInt8 → String → List Node) (parseGraph : List UInt8 → String → Nat → ParseCall Graph) : Prop :=
  ∀ data path depth, Returns (fun graph => graph.nodes = inner data path) (parseGraph data path depth)

namespace Returns

theorem parseAttribute (data : List UInt8) (depth : Nat) :
    Returns (fun attr => attr = (textOf 1 (fieldsOf data), graphMessages (fieldsOf data)))
      (parseAttribute limits data depth) := by
  refine weaken (forFields (I := fun before attr => attr = (textOf 1 before, graphMessages before)) rfl
    fun before attr f here => ?_) fun attr read => read.2
  subst here
  simp only
  split
  · refine bind (decodeText _) fun text same => .pure ?_
    rw [textOf_snoc, same, graphMessages_snoc, show graphMessages [⟨1, .delimited _⟩] = [] from rfl, List.append_nil]
  · refine .pure ?_
    rw [textOf_other _ rfl, graphMessages_snoc]
    rfl
  · refine .pure ?_
    rw [textOf_other _ rfl, graphMessages_snoc]
    rfl
  · refine .pure ?_
    rw [textOf_other _ (delimited_none ‹_›), graphMessages_snoc, graphMessages_none ‹_› ‹_›, List.append_nil]

theorem parseSubgraphs {parseGraph : List UInt8 → String → Nat → ParseCall Graph} (returns : ReturnsNodes inner parseGraph)
    (path name : String) (depth : Nat) (graphs : List (List UInt8 × Nat)) :
    Returns (fun nodes => nodes = attributeNodes inner path name graphs) (parseSubgraphs parseGraph path name depth graphs) := by
  induction graphs with
  | nil => exact .pure rfl
  | cons graph graphs ih =>
      refine bind (returns _ _ _) fun parsed first => bind ih fun later rest => .pure ?_
      rw [first, rest]
      rfl

theorem parseNode {parseGraph : List UInt8 → String → Nat → ParseCall Graph} (returns : ReturnsNodes inner parseGraph)
    (data : List UInt8) (path : String) (depth : Nat) :
    Returns (fun node => node = (nodeOf path (fieldsOf data), nestedNodes inner path (fieldsOf data)))
      (parseNode limits parseGraph data path depth) := by
  refine bind (anything _) fun _ _ => bind (forFields (I := fun before (node : NodeFields) =>
    node.domain = textOf 7 before ∧ node.operator = textOf 4 before ∧ node.attributes = delimited 5 before ∧
    node.nested = nestedNodes inner path before ∧
    node.hasSubgraph = (delimited 5 before).any (fun attr => !(graphMessages (fieldsOf attr)).isEmpty))
    ⟨rfl, rfl, rfl, rfl, rfl⟩ fun before node f here => ?_) fun node read => ?_
  · obtain ⟨domain, operator, attributes, nested, hasSubgraph⟩ := here
    split
    · refine bind (decodeText _) fun text same => .pure ⟨?_, ?_, ?_, ?_, ?_⟩
      · rw [textOf_other _ rfl, domain]
      · rw [textOf_snoc, same]
      · simpa [delimited] using attributes
      · simpa [nestedNodes, delimited] using nested
      · simpa [delimited] using hasSubgraph
    · refine bind (decodeText _) fun text same => .pure ⟨?_, ?_, ?_, ?_, ?_⟩
      · rw [textOf_snoc, same]
      · rw [textOf_other _ rfl, operator]
      · simpa [delimited] using attributes
      · simpa [nestedNodes, delimited] using nested
      · simpa [delimited] using hasSubgraph
    · refine bind (anything _) fun _ _ => bind (parseAttribute _ _) fun attr read => ?_
      subst read
      refine bind (parseSubgraphs returns _ _ _ _) fun found same => .pure ⟨?_, ?_, ?_, ?_, ?_⟩
      · rw [textOf_other _ rfl, domain]
      · rw [textOf_other _ rfl, operator]
      · rw [delimited_snoc, delimited_single, attributes]
      · simp [nestedNodes, delimited_single, nested, same]
      · simp [delimited_single, hasSubgraph]
    · next noOperator noDomain noAttribute =>
        refine .pure ⟨?_, ?_, ?_, ?_, ?_⟩
        · rw [textOf_other _ (delimited_none noDomain), domain]
        · rw [textOf_other _ (delimited_none noOperator), operator]
        · rw [delimited_snoc, delimited_none noAttribute, List.append_nil, attributes]
        · rw [nestedNodes, delimited_snoc, delimited_none noAttribute, List.append_nil, nested, nestedNodes]
        · rw [delimited_snoc, delimited_none noAttribute, List.append_nil, hasSubgraph]
  · obtain ⟨-, domain, operator, attributes, nested, hasSubgraph⟩ := read
    refine .pure ?_
    simp only [domain, operator, attributes, nested, hasSubgraph]
    rfl

/-- A graph that is parsed lists the nodes of its message. -/
theorem graphNodes (fuel : Nat) : ReturnsNodes (operatorsIn fuel) (Runtime.parseGraph limits fuel) := by
  induction fuel with
  | zero => exact fun _ _ _ => nofun
  | succ fuel ih =>
      intro data path depth
      refine weaken (forFields (I := fun before (graph : Graph) =>
        graph.nodes = Runtime.graphNodes (operatorsIn fuel) path before ∧ graph.nodeIndex = (delimited 1 before).length)
        ⟨rfl, rfl⟩ fun before graph f here => ?_) fun graph read => read.2.1
      obtain ⟨nodes, index⟩ := here
      have same : delimited 1 [f] = [] → graph.nodes = Runtime.graphNodes (operatorsIn fuel) path (before ++ [f]) ∧
          graph.nodeIndex = (delimited 1 (before ++ [f])).length := by
        intro other
        rw [graphNodes_other other, delimited_snoc, other, List.append_nil]
        exact ⟨nodes, index⟩
      split
      · refine bind (parseNode ih _ _ _) fun node read => .pure ?_
        subst read
        simp only [index, nodes]
        rw [graphNodes_snoc, delimited_snoc, delimited_single]
        exact ⟨rfl, by simp⟩
      · exact bind (anything _) fun _ _ => bind (anything _) fun _ _ => .pure (same rfl)
      · exact bind (anything _) fun _ _ => .pure (same rfl)
      · exact bind (anything _) fun _ _ => .pure (same rfl)
      · exact .pure (same (delimited_none ‹_›))

end Returns

/-- The report on a file lists its operators in the order of their paths. -/
theorem operators_of_inspected {data : List UInt8} {report : OnnxGraph} (inspected : inspectOnnxGraph data = .ok report) :
    report.operators = (operatorsOf data).insertionSort (fun a b => a.path ≤ b.path) := by
  rcases returned : inspectWithin { maxTotalBytes := max data.length 1 } data {} with ⟨r, budget⟩
  have ok : r = .ok report := by
    rw [← inspected, inspectOnnxGraph, returned]
  subst ok
  obtain ⟨model, between, first, later⟩ := Call.bind_ok.mp returned
  obtain ⟨-, payload⟩ := Returns.parseModelFields data _ _ _ first
  cases here : model.graphPayload with
  | none =>
      rw [here] at later
      cases later
  | some graph =>
      rw [here] at later payload
      obtain ⟨parsed, after, parse, rest⟩ := Call.bind_ok.mp later
      rw [Call.read_bind] at rest
      cases rest
      have nodes := Returns.graphNodes _ _ _ _ _ _ _ parse
      rw [operatorsOf, ← payload]
      simp [nodes]

end SentinelEdge.Runtime
