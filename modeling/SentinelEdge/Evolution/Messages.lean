import SentinelEdge.Evolution.WireBoundary

/-! # Messages across the boundary

What `encode` writes `validate_raw` reads back, field by field. Of what else it reads it
refuses most with a `ValueError`, but neither the kinds of the fields nor the presence of
the last two is looked at, and a length that is no number raises something else.
-/

namespace SentinelEdge.Evolution

open Foundation Domain Checks

namespace WireBoundaryPolicy

variable {lib : WireLibrary} {policy : WireBoundaryPolicy}

/-- The value is encoded, and decoded again. -/
def RoundTrips (lib : WireLibrary) (value : PyValue) : Prop :=
  ∃ bytes, lib.canonicalJsonBytes value = .ok bytes ∧ lib.loads bytes = .ok value

/-- What the policy asks of the fields of a message. -/
structure Allows (lib : WireLibrary) (policy : WireBoundaryPolicy) (fields : Fields) : Prop where
  major : majorOf (fields.contract.toText lib.repr) = some policy.contractMajor
  texts : ∀ value ∈ [fields.payloadType, fields.deliveryClass, fields.producerComponent, fields.producerIdentity,
    fields.idempotencyKey, fields.aggregateKey], (value.toText lib.repr).isBlank = false
  known : fields.deliveryClass.toText lib.repr ∈ delivery
  allowed : fields.deliveryClass.toText lib.repr ∈
    policy.classesOf (fields.producerComponent.toText lib.repr) (fields.payloadType.toText lib.repr)

theorem textOf_of_get? {data : PyDict} {key : String} {value : PyValue} (here : data.get? (PyText.of key) = some value) :
    textOf lib data key = value.toText lib.repr := by
  rw [textOf, here]
  rfl

/-- The envelope of fields that the policy allows passes every check. -/
theorem admitted_envelope {fields : Fields} {payload : PyDict} {payloadBytes : List UInt8} (allows : Allows lib policy fields)
    (isDict : fields.payload = .dict payload) (bytes : lib.canonicalJsonBytes (.dict payload) = .ok payloadBytes) :
    Admitted lib policy (envelope lib fields payloadBytes) payload payloadBytes := by
  have get : ∀ {i : Nat} {key : PyText} {value : PyValue}, (entries lib fields payloadBytes)[i]? = some (key, value) →
      (envelope lib fields payloadBytes).get? key = some value := envelope_get? fields payloadBytes
  obtain ⟨major, texts, known, allowed⟩ := allows
  have deliveryClass : textOf lib (envelope lib fields payloadBytes) "delivery_class" = fields.deliveryClass.toText lib.repr :=
    textOf_of_get? (get (i := 5) rfl)
  have payloadType : textOf lib (envelope lib fields payloadBytes) "payload_type" = fields.payloadType.toText lib.repr :=
    textOf_of_get? (get (i := 10) rfl)
  have component : textOf lib (envelope lib fields payloadBytes) "producer_component" = fields.producerComponent.toText lib.repr :=
    textOf_of_get? (get (i := 11) rfl)
  have identity : textOf lib (envelope lib fields payloadBytes) "producer_identity" = fields.producerIdentity.toText lib.repr :=
    textOf_of_get? (get (i := 12) rfl)
  have idempotency : textOf lib (envelope lib fields payloadBytes) "idempotency_key" = fields.idempotencyKey.toText lib.repr :=
    textOf_of_get? (get (i := 6) rfl)
  have aggregate : textOf lib (envelope lib fields payloadBytes) "aggregate_key" = fields.aggregateKey.toText lib.repr :=
    textOf_of_get? (get (i := 0) rfl)
  refine ⟨⟨?_, ?_, ?_, ?_⟩, bytes, ⟨_, get (i := 8) rfl, rfl⟩, textOf_of_get? (get (i := 9) rfl), ?_, ?_⟩
  · rw [textOf_of_get? (get (i := 3) rfl)]
    exact major
  · rw [← isDict]
    exact get (i := 7) rfl
  · simpa only [requiredTexts, List.forall_mem_cons, payloadType, deliveryClass, component, identity, idempotency, aggregate,
      List.not_mem_nil, IsEmpty.forall_iff, implies_true, and_true] using texts
  · simp only [requiredValues, List.forall_mem_cons]
    exact ⟨⟨_, get (i := 1) rfl⟩, ⟨_, get (i := 13) rfl⟩, ⟨_, get (i := 8) rfl⟩, ⟨_, get (i := 9) rfl⟩, nofun⟩
  · rw [deliveryClass]
    exact known
  · rw [deliveryClass, component, payloadType]
    exact allowed

/-- `encode` and `validate_raw` agree on fields that the policy allows. -/
theorem validateRaw_encode {fields : Fields} {payload : PyDict} {payloadBytes raw : List UInt8} (allows : Allows lib policy fields)
    (isDict : fields.payload = .dict payload) (bytes : lib.canonicalJsonBytes (.dict payload) = .ok payloadBytes)
    (read : lib.loads raw = .ok (.dict (envelope lib fields payloadBytes))) :
    validateRaw lib policy raw = .ok (fields.received lib payloadBytes) :=
  validateRaw_ok_iff.mpr ⟨_, payload, payloadBytes, read, admitted_envelope allows isDict bytes, messageOf_envelope fields payloadBytes⟩

/-- A message as a component sends it. -/
structure OutgoingMessage where
  contract : PyText
  payloadType : PyText
  deliveryClass : PyText
  producerComponent : PyText
  producerIdentity : PyText
  idempotencyKey : PyText
  aggregateKey : PyText
  aggregateVersion : Int
  producerSequence : Int
  payload : PyDict
  correlationId : Option PyText := none
  causationId : Option PyText := none

def optionalText : Option PyText → PyValue
  | some text => .str text
  | none => .null

def OutgoingMessage.fields (message : OutgoingMessage) : Fields where
  contract := .str message.contract
  payloadType := .str message.payloadType
  deliveryClass := .str message.deliveryClass
  producerComponent := .str message.producerComponent
  producerIdentity := .str message.producerIdentity
  idempotencyKey := .str message.idempotencyKey
  aggregateKey := .str message.aggregateKey
  aggregateVersion := .int message.aggregateVersion
  producerSequence := .int message.producerSequence
  payload := .dict message.payload
  correlationId := optionalText message.correlationId
  causationId := optionalText message.causationId

/-- A message that the policy allows arrives with the fields it was sent with, the length
    of its payload and its digest. -/
theorem message_survives (lib : WireLibrary) (policy : WireBoundaryPolicy) (message : OutgoingMessage)
    (major : majorOf message.contract = some policy.contractMajor)
    (texts : ∀ text ∈ [message.payloadType, message.deliveryClass, message.producerComponent, message.producerIdentity,
      message.idempotencyKey, message.aggregateKey], text.isBlank = false)
    (known : message.deliveryClass ∈ delivery)
    (allowed : message.deliveryClass ∈ policy.classesOf message.producerComponent message.payloadType)
    (payloadRoundTrips : RoundTrips lib (.dict message.payload))
    (envelopeRoundTrips : ∀ payloadBytes, lib.canonicalJsonBytes (.dict message.payload) = .ok payloadBytes →
      RoundTrips lib (.dict (envelope lib message.fields payloadBytes))) :
    ∃ payloadBytes raw, lib.canonicalJsonBytes (.dict message.payload) = .ok payloadBytes ∧
      encode lib message.fields = .ok raw ∧
      validateRaw lib policy raw = .ok
        { contract := .str message.contract
          payloadType := .str message.payloadType
          deliveryClass := .str message.deliveryClass
          producerComponent := .str message.producerComponent
          producerIdentity := .str message.producerIdentity
          idempotencyKey := .str message.idempotencyKey
          aggregateKey := .str message.aggregateKey
          aggregateVersion := .int message.aggregateVersion
          producerSequence := .int message.producerSequence
          payloadLength := .int payloadBytes.length
          payloadSha256 := .str (PyText.of (lib.sha256Bytes payloadBytes))
          payload := .dict message.payload
          correlationId := optionalText message.correlationId
          causationId := optionalText message.causationId } := by
  obtain ⟨payloadBytes, bytes, -⟩ := payloadRoundTrips
  obtain ⟨raw, encodes, read⟩ := envelopeRoundTrips payloadBytes bytes
  have allows : Allows lib policy message.fields := by
    refine ⟨major, ?_, known, allowed⟩
    simpa only [OutgoingMessage.fields, PyValue.toText_str, List.forall_mem_cons, List.not_mem_nil, IsEmpty.forall_iff, implies_true,
      and_true] using texts
  refine ⟨payloadBytes, raw, bytes, ?_, validateRaw_encode allows rfl bytes read⟩
  exact bind_eq_ok.mpr ⟨payloadBytes, bytes, encodes⟩

mutual
/-- The value that a document decodes to. -/
def ofJson : Json → PyValue
  | .null => .null
  | .bool b => .bool b
  | .int n => .int n
  | .float q => .float (.finite (toString q) q)
  | .str s => .str (PyText.of s)
  | .arr items => .list (ofItems items)
  | .obj fields => .dict (ofFields fields)

def ofItems : List Json → PyList
  | [] => .nil
  | item :: items => .cons (ofJson item) (ofItems items)

def ofFields : List (String × Json) → PyDict
  | [] => .nil
  | (key, value) :: fields => .cons (PyText.of key) (ofJson value) (ofFields fields)
end

def bytesOf (document : Json) : List UInt8 := document.chars.map fun c => UInt8.ofNat c.toNat

/-- A library to evaluate on, that knows some documents. -/
def knowing (documents : List Json) : WireLibrary :=
  let known : Dict (List UInt8) PyValue := documents.foldl (fun known doc => known.insert (bytesOf doc) (ofJson doc)) Dict.empty
  { loads := fun raw => match known.get? raw with
      | some value => .ok value
      | none => .error .jsonDecodeError
    canonicalJsonBytes := fun value => match known.items.find? (fun entry => entry.2 = value) with
      | some entry => .ok entry.1
      | none => .error (.typeError "Object is not JSON serializable")
    sha256Bytes := fun bytes => Platform.hexadecimal.hexdigest (Platform.hexadecimal.sha256Raw bytes)
    repr := fun _ => [] }

theorem knowing_roundTrips (documents : List Json) (value : PyValue) (bytes : List UInt8)
    (encoded : (knowing documents).canonicalJsonBytes value = .ok bytes) : (knowing documents).loads bytes = .ok value := by
  unfold knowing at encoded ⊢
  dsimp only at encoded ⊢
  split at encoded
  · next entry found =>
      cases encoded
      have member := List.mem_of_find?_eq_some found
      have same : entry.2 = value := by simpa using List.find?_some found
      rw [Dict.get?_eq_some_iff.mpr member, same]
  · cases encoded

def demoPayload : Json := .obj [("state", .str "suspected")]

/-- An envelope around the payload, with or without the two ids at its end. -/
def demoEnvelope (ids : Bool) : Json :=
  .obj ([("aggregate_key", .str "incident-1"), ("aggregate_version", .int 1)] ++
    (if ids then [("causation_id", .null)] else []) ++ [("contract", .str "1.0")] ++
    (if ids then [("correlation_id", .null)] else []) ++
    [("delivery_class", .str "critical_state"), ("idempotency_key", .str "i-1"), ("payload", demoPayload),
      ("payload_length", .int 21), ("payload_sha256", .str ((knowing []).sha256Bytes (bytesOf demoPayload))),
      ("payload_type", .str "incident"), ("producer_component", .str "component-1"), ("producer_identity", .str "node-a"),
      ("producer_sequence", .int 1)])

def demoLibrary : WireLibrary := knowing [demoPayload, demoEnvelope true, demoEnvelope false]

def demoPolicy : WireBoundaryPolicy where
  allowed := Dict.empty.insert (PyText.of "component-1") (Dict.empty.insert (PyText.of "incident") [PyText.of "critical_state"])

def demoMessage : OutgoingMessage where
  contract := PyText.of "1.0"
  payloadType := PyText.of "incident"
  deliveryClass := PyText.of "critical_state"
  producerComponent := PyText.of "component-1"
  producerIdentity := PyText.of "node-a"
  idempotencyKey := PyText.of "i-1"
  aggregateKey := PyText.of "incident-1"
  aggregateVersion := 1
  producerSequence := 1
  payload := ofFields [("state", .str "suspected")]

theorem demo_survives : ∃ payloadBytes raw, encode demoLibrary demoMessage.fields = .ok raw ∧
    validateRaw demoLibrary demoPolicy raw = .ok (demoMessage.fields.received demoLibrary payloadBytes) := by
  obtain ⟨payloadBytes, raw, -, encoded, read⟩ := message_survives demoLibrary demoPolicy demoMessage (by decide +kernel) (by decide +kernel)
    (by decide +kernel) (by decide +kernel) ⟨bytesOf demoPayload, by decide +kernel, by decide +kernel⟩ (by
      intro payloadBytes bytes
      have same : demoLibrary.canonicalJsonBytes (.dict demoMessage.payload) = .ok (bytesOf demoPayload) := by decide +kernel
      cases same.symm.trans bytes
      exact ⟨bytesOf (demoEnvelope true), by decide +kernel, by decide +kernel⟩)
  exact ⟨payloadBytes, raw, encoded, read⟩

end WireBoundaryPolicy

end SentinelEdge.Evolution
