import SentinelEdge.Runtime.OnnxReader

/-! # The inspector on hostile input

Every parse, on any bytes, returns within its budget or raises
`ProtobufParseError`. The rules follow the structure of a parse; the recursion
ends because a message inside a message is shorter.
-/

namespace SentinelEdge.Runtime

open Foundation Wire

/-- The counters are within the limits. -/
structure Within (limits : ParseLimits) (budget : ParseBudget) : Prop where
  fields : budget.fieldsSeen ≤ limits.maxFields
  nodes : budget.nodesSeen ≤ limits.maxNodes
  initializers : budget.initializersSeen ≤ limits.maxInitializers
  attributes : budget.attributesSeen ≤ limits.maxAttributes

/-- No field was yielded from a message that lies too deep. -/
def Shallow (limits : ParseLimits) (budget : ParseBudget) : Prop := ∀ depth ∈ budget.yielded, depth ≤ limits.maxDepth

/-- A parse returned a value that satisfies `Q`, within the limits, or it raised
    `ProtobufParseError`. -/
def Settles {α : Type} (limits : ParseLimits) (Q : α → Prop) (budget : ParseBudget) : Except ParseException α → Prop
  | .ok a => Q a ∧ Within limits budget
  | .error exception => ∃ text, exception = .protobufParseError text

def Safe {α : Type} (limits : ParseLimits) (Q : α → Prop) (x : ParseCall α) : Prop :=
  ∀ budget, Shallow limits budget → Within limits budget →
    Shallow limits (x budget).2 ∧ Settles limits Q (x budget).2 (x budget).1

variable {limits : ParseLimits} {α β : Type} {Q : α → Prop}

namespace Safe

theorem pure {a : α} (here : Q a) : Safe limits Q (Pure.pure a) := fun _ shallow within => ⟨shallow, here, within⟩

theorem protobufParseError (text : String) : Safe limits Q (protobufParseError text) :=
  fun _ shallow _ => ⟨shallow, text, rfl⟩

theorem bind {x : ParseCall α} {f : α → ParseCall β} {Q' : β → Prop} (first : Safe limits Q x)
    (later : ∀ a, Q a → Safe limits Q' (f a)) : Safe limits Q' (x >>= f) := by
  intro budget shallow within
  obtain ⟨shallow', settles⟩ := first budget shallow within
  rcases h : x budget with ⟨r, budget'⟩
  rw [h] at shallow' settles
  cases r with
  | error exception =>
      rw [Call.bind_of_error h]
      exact ⟨shallow', settles⟩
  | ok a =>
      rw [Call.bind_of_ok h]
      exact later a settles.1 budget' shallow' settles.2

theorem weaken {Q' : α → Prop} {x : ParseCall α} (safe : Safe limits Q x) (implies : ∀ a, Q a → Q' a) :
    Safe limits Q' x := by
  intro budget shallow within
  obtain ⟨shallow', settles⟩ := safe budget shallow within
  refine ⟨shallow', ?_⟩
  cases r : (x budget).1 with
  | error exception =>
      rw [r] at settles
      exact settles
  | ok a =>
      rw [r] at settles
      exact ⟨implies a settles.1, settles.2⟩

theorem lift {r : Except ParseException α} (good : ∀ exception, r = .error exception → ∃ text, exception = .protobufParseError text) :
    Safe limits (fun _ => True) (Call.lift r) := by
  intro budget shallow within
  refine ⟨shallow, ?_⟩
  cases r with
  | error exception => exact good exception rfl
  | ok a => exact ⟨trivial, within⟩

/-- A counter is raised by one and then compared with its limit. -/
theorem counted {count : ParseBudget → ParseBudget} {seen : ParseBudget → Nat} {limit : Nat} {text : String}
    (yields : ∀ budget, (count budget).yielded = budget.yielded)
    (within : ∀ budget, Within limits budget → seen (count budget) ≤ limit → Within limits (count budget)) :
    Safe limits (fun _ => True) (do
      Call.modify count
      let n ← Call.read seen
      if limit < n then Runtime.protobufParseError text else Pure.pure ()) := by
  intro budget shallow inside
  have shallow' : Shallow limits (count budget) := by
    intro depth member
    exact shallow depth (yields budget ▸ member)
  simp only [Call.modify_bind, Call.read_bind]
  split
  · exact ⟨shallow', text, rfl⟩
  · exact ⟨shallow', trivial, within budget inside (by omega)⟩

theorem consume (depth : Nat) : Safe limits (fun _ => depth ≤ limits.maxDepth) (ParseBudget.consume limits depth) := by
  by_cases deep : limits.maxDepth < depth
  · simp only [ParseBudget.consume, if_pos deep]
    exact .protobufParseError _
  · simp only [ParseBudget.consume, if_neg deep]
    refine weaken (counted (fun _ => rfl) (fun budget within seen => ?_)) (fun _ _ => by omega)
    exact ⟨seen, within.nodes, within.initializers, within.attributes⟩

theorem consumeNode : Safe limits (fun _ => True) (ParseBudget.consumeNode limits) :=
  counted (fun _ => rfl) fun _ within seen => ⟨within.fields, seen, within.initializers, within.attributes⟩

theorem consumeInitializer : Safe limits (fun _ => True) (ParseBudget.consumeInitializer limits) :=
  counted (fun _ => rfl) fun _ within seen => ⟨within.fields, within.nodes, seen, within.attributes⟩

theorem consumeAttribute : Safe limits (fun _ => True) (ParseBudget.consumeAttribute limits) :=
  counted (fun _ => rfl) fun _ within seen => ⟨within.fields, within.nodes, within.initializers, seen⟩

/-- A field is yielded after its depth has been checked. -/
theorem yielding {depth : Nat} (shallow : depth ≤ limits.maxDepth) : Safe limits (fun _ => True)
    (Call.modify (fun budget : ParseBudget => { budget with yielded := budget.yielded ++ [depth] })) := by
  intro budget before within
  refine ⟨?_, trivial, within.fields, within.nodes, within.initializers, within.attributes⟩
  intro other member
  cases List.mem_append.mp member with
  | inl old => exact before other old
  | inr new => exact List.mem_singleton.mp new ▸ shallow

theorem fieldLoop {I : α → Prop} {depth : Nat} {body : α → Field → ParseCall α} {fields : List Field}
    (ending : Option Fault) {acc : α} (init : I acc)
    (keeps : ∀ acc f, I acc → f ∈ fields → Safe limits I (body acc f)) :
    Safe limits I (Runtime.fieldLoop limits depth body (ending.map raised) fields acc) := by
  induction fields generalizing acc with
  | nil =>
      cases ending with
      | none => exact .pure init
      | some fault => exact bind (consume depth) fun _ _ => .protobufParseError _
  | cons f fields ih =>
      refine bind (consume depth) fun _ shallow => bind (yielding shallow) fun _ _ => ?_
      refine bind (keeps acc f init List.mem_cons_self) fun acc' after => ?_
      exact ih after fun acc f holds member => keeps acc f holds (List.mem_cons_of_mem _ member)

/-- A loop over the fields of a message is safe if its body is, on the fields the
    message has. -/
theorem forFields {I : α → Prop} {depth : Nat} {data : List UInt8} {body : α → Field → ParseCall α} {acc : α}
    (init : I acc) (keeps : ∀ acc f, I acc → f ∈ (scan data).1 → Safe limits I (body acc f)) :
    Safe limits I (Runtime.forFields limits depth data acc body) := by
  unfold Runtime.forFields
  rw [iterFields_eq_scan]
  split
  · exact .protobufParseError _
  · exact fieldLoop _ init keeps

theorem decodeText (value : List UInt8) : Safe limits (fun _ => True) (decodeText limits value) := by
  unfold Runtime.decodeText
  split
  · exact .protobufParseError _
  · cases String.fromUTF8? ⟨value.toArray⟩ with
    | none => exact .protobufParseError _
    | some text => exact .pure trivial

/-! ## Tensors -/

theorem parseDimension (data : List UInt8) (depth : Nat) : Safe limits (fun _ => True) (parseDimension limits data depth) := by
  refine forFields trivial fun result f _ _ => ?_
  split
  · exact .pure trivial
  · exact bind (decodeText _) fun _ _ => .pure trivial
  · exact .pure trivial

theorem parseShape (data : List UInt8) (depth : Nat) (dims : List (Option Dimension)) :
    Safe limits (fun _ => True) (parseShape limits data depth dims) := by
  refine forFields trivial fun dims f _ _ => ?_
  split
  · exact bind (parseDimension _ _) fun _ _ => .pure trivial
  · exact .pure trivial

theorem parseTensorType (data : List UInt8) (depth : Nat) : Safe limits (fun _ => True) (parseTensorType limits data depth) := by
  refine forFields trivial fun acc f _ _ => ?_
  simp only
  split
  · exact .pure trivial
  · exact bind (parseShape _ _ _) fun _ _ => .pure trivial
  · exact .pure trivial

theorem parseType (data : List UInt8) (depth : Nat) (shape : TensorShape) :
    Safe limits (fun _ => True) (parseType limits data depth shape) := by
  refine forFields trivial fun shape f _ _ => ?_
  split
  · exact bind (parseTensorType _ _) fun _ _ => .pure trivial
  · exact .pure trivial

theorem parseValueInfo (data : List UInt8) (depth : Nat) : Safe limits (fun _ => True) (parseValueInfo limits data depth) := by
  refine forFields trivial fun shape f _ _ => ?_
  split
  · exact bind (decodeText _) fun _ _ => .pure trivial
  · exact parseType _ _ _
  · exact .pure trivial

theorem parseStringEntry (data : List UInt8) (depth : Nat) :
    Safe limits (fun _ => True) (parseStringEntry limits data depth) := by
  refine forFields trivial fun entry f _ _ => ?_
  simp only
  split
  · exact bind (decodeText _) fun _ _ => .pure trivial
  · exact bind (decodeText _) fun _ _ => .pure trivial
  · exact .pure trivial

end Safe

/-- The packed dimensions of a tensor are read to the end of their field. -/
theorem packedFrom_raises {value : List UInt8} {n offset : Nat} (inside : offset ≤ value.length)
    (fuel : value.length < n + offset) {exception : ParseException} (raises : packedFrom value n offset = .error exception) :
    ∃ text, exception = .protobufParseError text := by
  induction n generalizing offset with
  | zero => omega
  | succ n ih =>
      by_cases ends : offset < value.length
      · have tracks := readVarint_tracks inside
        cases number : varint (value.drop offset) with
        | error fault =>
            rw [number] at tracks
            have read : readVarint value offset = .error (raised fault) := tracks
            simp only [packedFrom, if_pos ends, read, bind, Except.bind] at raises
            exact ⟨message fault, (Except.error.inj raises).symm⟩
        | ok result =>
            rw [number] at tracks
            obtain ⟨next, read, rest, inside'⟩ := tracks
            have shorter := varint_shorter number
            rw [rest, List.length_drop, List.length_drop] at shorter
            cases later : packedFrom value n next with
            | error other =>
                simp only [packedFrom, if_pos ends, read, later, bind, Except.bind] at raises
                cases Except.error.inj raises
                exact ih inside' (by omega) later
            | ok items => simp [packedFrom, if_pos ends, read, later, bind, Except.bind, pure, Except.pure] at raises
      · simp [packedFrom, if_neg ends, pure, Except.pure] at raises

namespace Safe

theorem parseTensor (data : List UInt8) (depth : Nat) : Safe limits (fun _ => True) (parseTensor limits data depth) := by
  refine bind (Q := fun _ => True) (forFields trivial fun tensor f _ _ => ?_) fun _ _ => .pure trivial
  split
  · exact .pure trivial
  · refine bind (lift fun exception raises => ?_) fun _ _ => .pure trivial
    exact packedFrom_raises (Nat.zero_le _) (by omega) raises
  · exact .pure trivial
  · exact bind (decodeText _) fun _ _ => .pure trivial
  · exact .pure trivial
  · exact bind (parseStringEntry _ _) fun _ _ => .pure trivial
  · exact .pure trivial
  · exact .pure trivial

/-! ## The recursion -/

/-- The graphs of an attribute are shorter than the attribute. -/
theorem parseAttribute (data : List UInt8) (depth : Nat) :
    Safe limits (fun found => ∀ inner ∈ found.2, inner.length < data.length) (parseAttribute limits data depth) := by
  refine forFields nofun fun found f shorter member => ?_
  have added : ∀ value, f.payload = .delimited value → ∀ inner ∈ found.2 ++ [value], inner.length < data.length := by
    intro value here inner among
    cases List.mem_append.mp among with
    | inl old => exact shorter inner old
    | inr new => exact List.mem_singleton.mp new ▸ length_of_mem_scan member value here
  simp only
  split
  · exact bind (decodeText _) fun _ _ => .pure shorter
  · exact .pure (added _ rfl)
  · exact .pure (added _ rfl)
  · exact .pure shorter

variable {parseInner : List UInt8 → String → Nat → ParseCall Graph}

theorem parseSubgraphs (path attrName : String) (depth : Nat) {messages : List (List UInt8 × Nat)}
    (inner : ∀ item ∈ messages, ∀ path depth, Safe limits (fun _ => True) (parseInner item.1 path depth)) :
    Safe limits (fun _ => True) (parseSubgraphs parseInner path attrName depth messages) := by
  induction messages with
  | nil => exact .pure trivial
  | cons item messages ih =>
      refine bind (inner item List.mem_cons_self _ _) fun graph _ => ?_
      exact bind (ih fun other member => inner other (List.mem_cons_of_mem _ member)) fun _ _ => .pure trivial

/-- A node is safe to parse if the graphs inside it are. -/
theorem parseNode (data : List UInt8) (path : String) (depth : Nat)
    (inner : ∀ graph : List UInt8, graph.length < data.length → ∀ path depth, Safe limits (fun _ => True) (parseInner graph path depth)) :
    Safe limits (fun _ => True) (parseNode limits parseInner data path depth) := by
  refine bind consumeNode fun _ _ => bind (Q := fun _ => True) (forFields trivial fun node f _ member => ?_) fun _ _ => .pure trivial
  split
  · exact bind (decodeText _) fun _ _ => .pure trivial
  · exact bind (decodeText _) fun _ _ => .pure trivial
  · refine bind consumeAttribute fun _ _ => bind (parseAttribute _ _) fun found shorter => ?_
    refine bind (parseSubgraphs _ _ _ fun item among path depth => ?_) fun _ _ => .pure trivial
    exact inner item.1 ((shorter _ (List.fst_mem_of_mem_zipIdx among)).trans (length_of_mem_scan member _ rfl)) path depth
  · exact .pure trivial

/-- With fuel for every byte the descent through nested graphs ends. -/
theorem parseGraph {fuel : Nat} (data : List UInt8) (path : String) (depth : Nat) (enough : data.length < fuel) :
    Safe limits (fun _ => True) (parseGraph limits fuel data path depth) := by
  induction fuel generalizing data path depth with
  | zero => omega
  | succ fuel ih =>
      refine forFields trivial fun graph f _ member => ?_
      split
      · refine bind (parseNode _ _ _ fun inner shorter path depth => ?_) fun _ _ => .pure trivial
        have smaller := length_of_mem_scan member _ rfl
        exact ih inner path depth (by omega)
      · exact bind consumeInitializer fun _ _ => bind (parseTensor _ _) fun _ _ => .pure trivial
      · exact bind (parseValueInfo _ _) fun _ _ => .pure trivial
      · exact bind (parseValueInfo _ _) fun _ _ => .pure trivial
      · exact .pure trivial

theorem parseOpset (data : List UInt8) : Safe limits (fun _ => True) (parseOpset limits data) := by
  refine forFields trivial fun opset f _ _ => ?_
  split
  · exact bind (decodeText _) fun _ _ => .pure trivial
  · exact .pure trivial
  · exact .pure trivial

theorem parseModelFields (data : List UInt8) :
    Safe limits (fun model => ∀ graph ∈ model.graphPayload, graph.length < data.length) (parseModelFields limits data) := by
  refine forFields nofun fun model f shorter member => ?_
  split
  · exact .pure shorter
  · split
    · exact .protobufParseError _
    · refine .pure fun graph here => ?_
      cases here
      exact length_of_mem_scan member _ rfl
  · exact bind (parseOpset _) fun _ _ => .pure shorter
  · split
    · exact .protobufParseError _
    · exact .pure shorter
  · exact .pure shorter

theorem inspectWithin (data : List UInt8) : Safe limits (fun _ => True) (inspectWithin limits data) := by
  refine bind (parseModelFields data) fun model shorter => ?_
  cases payload : model.graphPayload with
  | none => exact .protobufParseError _
  | some graph =>
      have smaller := shorter graph payload
      refine bind (parseGraph graph "graph" 0 (by omega)) fun _ _ => ?_
      intro budget shallow within
      exact ⟨shallow, trivial, within⟩

end Safe

/-- On every byte string the inspector returns a result or raises
    `ProtobufParseError`; it yields no field of a message below the depth limit, and
    a result has used no more than the budget of fields, nodes and initializers. -/
theorem inspection_is_bounded (limits : ParseLimits) (data : List UInt8) :
    (∀ exception, (inspectWithin limits data {}).1 = .error exception → ∃ text, exception = .protobufParseError text) ∧
    (∀ depth ∈ (inspectWithin limits data {}).2.yielded, depth ≤ limits.maxDepth) ∧
    (∀ graph, (inspectWithin limits data {}).1 = .ok graph →
      (inspectWithin limits data {}).2.fieldsSeen ≤ limits.maxFields ∧
      (inspectWithin limits data {}).2.nodesSeen ≤ limits.maxNodes ∧
      (inspectWithin limits data {}).2.initializersSeen ≤ limits.maxInitializers) := by
  have fresh : Within limits {} := ⟨Nat.zero_le _, Nat.zero_le _, Nat.zero_le _, Nat.zero_le _⟩
  obtain ⟨shallow, settles⟩ := @Safe.inspectWithin limits data {} nofun fresh
  refine ⟨fun exception raises => ?_, shallow, fun graph returned => ?_⟩
  · rw [raises] at settles
    exact settles
  · rw [returned] at settles
    exact ⟨settles.2.fields, settles.2.nodes, settles.2.initializers⟩

end SentinelEdge.Runtime
