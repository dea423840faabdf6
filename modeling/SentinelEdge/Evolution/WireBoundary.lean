import SentinelEdge.Domain.Platform
import SentinelEdge.Foundation.Checks
import SentinelEdge.Foundation.Dict
import SentinelEdge.Foundation.Values

/-! # The wire boundary

A message between components is an envelope of JSON around its payload, with the length
and the digest of the payload's canonical bytes. `validate_raw` reads untrusted bytes,
`encode` writes them; what the one asks for the other writes.
-/

namespace SentinelEdge.Evolution

open Foundation Domain Checks

/-- What the boundary calls. -/
structure WireLibrary where
  /-- `json.loads(raw.decode("utf-8"))`; bytes that are not UTF-8 count as `jsonDecodeError`. -/
  loads : List UInt8 → Except Error PyValue
  canonicalJsonBytes : PyValue → Except Error (List UInt8)
  sha256Bytes : List UInt8 → String
  /-- `repr` of a list or a dictionary. -/
  repr : PyValue → PyText

structure WireMessage where
  contract : PyValue
  payloadType : PyValue
  deliveryClass : PyValue
  producerComponent : PyValue
  producerIdentity : PyValue
  idempotencyKey : PyValue
  aggregateKey : PyValue
  aggregateVersion : PyValue
  producerSequence : PyValue
  payloadLength : PyValue
  payloadSha256 : PyValue
  payload : PyValue
  correlationId : PyValue := .null
  causationId : PyValue := .null
  deriving DecidableEq

/-- The fields of a message under their names. -/
def WireMessage.items (message : WireMessage) : List (String × PyValue) := [
  ("contract", message.contract),
  ("payload_type", message.payloadType),
  ("delivery_class", message.deliveryClass),
  ("producer_component", message.producerComponent),
  ("producer_identity", message.producerIdentity),
  ("idempotency_key", message.idempotencyKey),
  ("aggregate_key", message.aggregateKey),
  ("aggregate_version", message.aggregateVersion),
  ("producer_sequence", message.producerSequence),
  ("payload_length", message.payloadLength),
  ("payload_sha256", message.payloadSha256),
  ("payload", message.payload),
  ("correlation_id", message.correlationId),
  ("causation_id", message.causationId)]

structure WireBoundaryPolicy where
  allowed : Dict PyText (Dict PyText (List PyText))
  contractMajor : Int := 1

namespace WireBoundaryPolicy

/-- `_DELIVERY` -/
def delivery : List PyText :=
  [PyText.of "critical_state", PyText.of "replayable_compute", PyText.of "replace_latest", PyText.of "telemetry"]

/-- The first six of the required fields, and the others. -/
def requiredTexts : List String :=
  ["payload_type", "delivery_class", "producer_component", "producer_identity", "idempotency_key", "aggregate_key"]

def requiredValues : List String := ["aggregate_version", "producer_sequence", "payload_length", "payload_sha256"]

/-- `data[key]` -/
def item (data : PyDict) (key : String) : Except Error PyValue :=
  match data.get? (PyText.of key) with
  | some value => .ok value
  | none => .error (.keyError key)

/-- `int(value)` -/
def int (value : PyValue) : Except Error Int :=
  match value.toInt with
  | .ok n => .ok n
  | .error .valueError => .error (.valueError "invalid literal for int() with base 10")
  | .error .typeError => .error (.typeError "int() argument must be a string, a bytes-like object or a real number")
  | .error .overflowError => .error .overflowError

variable (lib : WireLibrary)

/-- `str(data.get(key, ""))` -/
def textOf (data : PyDict) (key : String) : PyText :=
  ((data.get? (PyText.of key)).map (PyValue.toText lib.repr)).getD []

def readEnvelope (raw : List UInt8) : Except Error PyDict :=
  match lib.loads raw with
  | .ok (.dict data) => .ok data
  | .ok _ => .error (.valueError "wire_envelope_required")
  | .error .jsonDecodeError => .error (.valueError "wire_payload_invalid_encoding")
  | .error e => .error e

/-- `int(contract.split(".", 1)[0])` -/
def majorOf (contract : PyText) : Option Int := PyText.toInt (contract.takeWhile fun c => c.val ≠ 0x2E)

def readMajor (data : PyDict) : Except Error Int :=
  match majorOf (textOf lib data "contract") with
  | some major => .ok major
  | none => .error (.valueError "wire_contract_invalid")

def readPayload (data : PyDict) : Except Error PyValue :=
  match data.get? (PyText.of "payload") with
  | some (.dict payload) => .ok (.dict payload)
  | _ => .error (.valueError "wire_payload_type_invalid")

/-- The payload types a component may send, and the delivery classes of one of them. -/
def typesOf (policy : WireBoundaryPolicy) (component : PyText) : Dict PyText (List PyText) :=
  (policy.allowed.get? component).getD Dict.empty

def classesOf (policy : WireBoundaryPolicy) (component payloadType : PyText) : List PyText :=
  ((policy.typesOf component).get? payloadType).getD []

/-- `WireMessage(**{key: data[key] for key in WireMessage.__dataclass_fields__})` -/
def messageOf (data : PyDict) : Except Error WireMessage := do
  return {
    contract := ← item data "contract"
    payloadType := ← item data "payload_type"
    deliveryClass := ← item data "delivery_class"
    producerComponent := ← item data "producer_component"
    producerIdentity := ← item data "producer_identity"
    idempotencyKey := ← item data "idempotency_key"
    aggregateKey := ← item data "aggregate_key"
    aggregateVersion := ← item data "aggregate_version"
    producerSequence := ← item data "producer_sequence"
    payloadLength := ← item data "payload_length"
    payloadSha256 := ← item data "payload_sha256"
    payload := ← item data "payload"
    correlationId := ← item data "correlation_id"
    causationId := ← item data "causation_id" }

/-- `validate_raw` up to the fields of the envelope: the payload of what is one. -/
def openEnvelope (policy : WireBoundaryPolicy) (data : PyDict) : Except Error PyValue := do
  let major ← readMajor lib data
  refuse (major ≠ policy.contractMajor) (.valueError "wire_contract_major_unsupported")
  let payload ← readPayload data
  refuse (requiredTexts.any (fun key => (textOf lib data key).isBlank) ||
      requiredValues.any fun key => (data.get? (PyText.of key)).isNone)
    (.valueError "wire_envelope_fields_missing")
  return payload

/-- `validate_raw` from there to the message. -/
def checkEnvelope (policy : WireBoundaryPolicy) (data : PyDict) (payload : PyValue) : Except Error Unit := do
  let payloadBytes ← lib.canonicalJsonBytes payload
  let length ← int (← item data "payload_length")
  refuse (length ≠ payloadBytes.length) (.valueError "wire_payload_length_mismatch")
  refuse (textOf lib data "payload_sha256" ≠ PyText.of (lib.sha256Bytes payloadBytes))
    (.valueError "wire_payload_digest_mismatch")
  let component := textOf lib data "producer_component"
  let payloadType := textOf lib data "payload_type"
  refuse ((policy.typesOf component).get? payloadType).isNone (.valueError "wire_producer_payload_not_allowed")
  refuse (textOf lib data "delivery_class" ∉ delivery) (.valueError "wire_delivery_class_unknown")
  refuse (textOf lib data "delivery_class" ∉ policy.classesOf component payloadType)
    (.valueError "wire_delivery_class_not_allowed")

def validateRaw (policy : WireBoundaryPolicy) (raw : List UInt8) : Except Error WireMessage := do
  let data ← readEnvelope lib raw
  let payload ← openEnvelope lib policy data
  checkEnvelope lib policy data payload
  messageOf data

/-- The arguments of `encode`. -/
structure Fields where
  contract : PyValue
  payloadType : PyValue
  deliveryClass : PyValue
  producerComponent : PyValue
  producerIdentity : PyValue
  idempotencyKey : PyValue
  aggregateKey : PyValue
  aggregateVersion : PyValue
  producerSequence : PyValue
  payload : PyValue
  correlationId : PyValue := .null
  causationId : PyValue := .null

/-- The envelope that `encode` writes, in key order. -/
def entries (fields : Fields) (payloadBytes : List UInt8) : List (PyText × PyValue) := [
  (PyText.of "aggregate_key", fields.aggregateKey),
  (PyText.of "aggregate_version", fields.aggregateVersion),
  (PyText.of "causation_id", fields.causationId),
  (PyText.of "contract", fields.contract),
  (PyText.of "correlation_id", fields.correlationId),
  (PyText.of "delivery_class", fields.deliveryClass),
  (PyText.of "idempotency_key", fields.idempotencyKey),
  (PyText.of "payload", fields.payload),
  (PyText.of "payload_length", .int payloadBytes.length),
  (PyText.of "payload_sha256", .str (PyText.of (lib.sha256Bytes payloadBytes))),
  (PyText.of "payload_type", fields.payloadType),
  (PyText.of "producer_component", fields.producerComponent),
  (PyText.of "producer_identity", fields.producerIdentity),
  (PyText.of "producer_sequence", fields.producerSequence)]

def envelope (fields : Fields) (payloadBytes : List UInt8) : PyDict := PyDict.ofList (entries lib fields payloadBytes)

def encode (fields : Fields) : Except Error (List UInt8) := do
  let payloadBytes ← lib.canonicalJsonBytes fields.payload
  lib.canonicalJsonBytes (.dict (envelope lib fields payloadBytes))

variable {lib} {policy : WireBoundaryPolicy} {data : PyDict}

/-- The checks up to the canonical bytes of the payload. -/
structure Opened (lib : WireLibrary) (policy : WireBoundaryPolicy) (data payload : PyDict) : Prop where
  major : majorOf (textOf lib data "contract") = some policy.contractMajor
  found : data.get? (PyText.of "payload") = some (.dict payload)
  texts : ∀ key ∈ requiredTexts, (textOf lib data key).isBlank = false
  values : ∀ key ∈ requiredValues, ∃ value, data.get? (PyText.of key) = some value

/-- All the checks. -/
structure Admitted (lib : WireLibrary) (policy : WireBoundaryPolicy) (data payload : PyDict) (payloadBytes : List UInt8) : Prop
    extends Opened lib policy data payload where
  bytes : lib.canonicalJsonBytes (.dict payload) = .ok payloadBytes
  length : ∃ value, data.get? (PyText.of "payload_length") = some value ∧ value.toInt = .ok payloadBytes.length
  digest : textOf lib data "payload_sha256" = PyText.of (lib.sha256Bytes payloadBytes)
  known : textOf lib data "delivery_class" ∈ delivery
  allowed : textOf lib data "delivery_class" ∈
    policy.classesOf (textOf lib data "producer_component") (textOf lib data "payload_type")

theorem item_ok_iff {key : String} {value : PyValue} : item data key = .ok value ↔ data.get? (PyText.of key) = some value := by
  unfold item
  cases data.get? (PyText.of key) with
  | none => simp
  | some found => simp

theorem int_ok_iff {value : PyValue} {n : Int} : int value = .ok n ↔ value.toInt = .ok n := by
  unfold int
  cases value.toInt with
  | ok m => simp
  | error e =>
      cases e with
      | valueError => simp
      | typeError => simp
      | overflowError => simp

theorem readMajor_ok_iff {major : Int} : readMajor lib data = .ok major ↔ majorOf (textOf lib data "contract") = some major := by
  unfold readMajor
  cases majorOf (textOf lib data "contract") with
  | none => simp
  | some found => simp

theorem readPayload_ok_iff {value : PyValue} :
    readPayload data = .ok value ↔ ∃ payload, value = .dict payload ∧ data.get? (PyText.of "payload") = some (.dict payload) := by
  unfold readPayload
  split
  · next payload found =>
      rw [found]
      constructor
      · rintro ⟨⟩
        exact ⟨payload, rfl, rfl⟩
      · rintro ⟨_, rfl, same⟩
        cases same
        rfl
  · next other =>
      constructor
      · rintro ⟨⟩
      · rintro ⟨payload, -, found⟩
        exact absurd found (other payload)

theorem readEnvelope_ok_iff {raw : List UInt8} : readEnvelope lib raw = .ok data ↔ lib.loads raw = .ok (.dict data) := by
  unfold readEnvelope
  split
  · next found => simp [found]
  · next other found =>
      rw [found]
      constructor
      · rintro ⟨⟩
      · rintro ⟨⟩
        exact absurd rfl (other data)
  · next found => simp [found]
  · next found => simp [found]

/-- A class that is allowed has its type allowed. -/
theorem typesOf_isSome {component payloadType deliveryClass : PyText} (allowed : deliveryClass ∈ policy.classesOf component payloadType) :
    ((policy.typesOf component).get? payloadType).isNone = false := by
  unfold classesOf at allowed
  cases found : (policy.typesOf component).get? payloadType with
  | none =>
      rw [found] at allowed
      cases allowed
  | some classes => rfl

theorem fieldsMissing_iff : (requiredTexts.any (fun key => (textOf lib data key).isBlank) ||
    requiredValues.any fun key => (data.get? (PyText.of key)).isNone) = false ↔
      (∀ key ∈ requiredTexts, (textOf lib data key).isBlank = false) ∧
        ∀ key ∈ requiredValues, ∃ value, data.get? (PyText.of key) = some value := by
  rw [Bool.or_eq_false_iff, List.any_eq_false, List.any_eq_false]
  simp only [Bool.not_eq_true, Option.isNone_eq_false_iff, Option.isSome_iff_exists]

theorem openEnvelope_ok_iff {value : PyValue} :
    openEnvelope lib policy data = .ok value ↔ ∃ payload, value = .dict payload ∧ Opened lib policy data payload := by
  simp only [openEnvelope, bind_eq_ok, refuse_eq_ok, exists_const, readMajor_ok_iff, fieldsMissing_iff, readPayload_ok_iff,
    decide_eq_false_iff_not, not_not]
  constructor
  · rintro ⟨_, major, rfl, _, ⟨payload, rfl, found⟩, ⟨texts, values⟩, ⟨⟩⟩
    exact ⟨payload, rfl, major, found, texts, values⟩
  · rintro ⟨payload, rfl, major, found, texts, values⟩
    exact ⟨_, major, rfl, _, ⟨payload, rfl, found⟩, ⟨texts, values⟩, rfl⟩

theorem checkEnvelope_ok_iff {payload : PyDict} (opened : Opened lib policy data payload) :
    checkEnvelope lib policy data (.dict payload) = .ok () ↔ ∃ payloadBytes, Admitted lib policy data payload payloadBytes := by
  simp only [checkEnvelope, bind_eq_ok, refuse_eq_ok, exists_const, item_ok_iff, int_ok_iff, decide_eq_false_iff_not, not_not]
  constructor
  · rintro ⟨payloadBytes, bytes, value, here, _, counts, rfl, digest, -, known, allowed⟩
    exact ⟨payloadBytes, opened, bytes, ⟨value, here, counts⟩, digest, known, allowed⟩
  · rintro ⟨payloadBytes, -, bytes, ⟨value, here, counts⟩, digest, known, allowed⟩
    exact ⟨payloadBytes, bytes, value, here, _, counts, rfl, digest, typesOf_isSome allowed, known, allowed⟩

theorem validateRaw_ok_iff {raw : List UInt8} {message : WireMessage} :
    validateRaw lib policy raw = .ok message ↔ ∃ data payload payloadBytes,
      lib.loads raw = .ok (.dict data) ∧ Admitted lib policy data payload payloadBytes ∧ messageOf data = .ok message := by
  simp only [validateRaw, bind_eq_ok, readEnvelope_ok_iff, openEnvelope_ok_iff]
  constructor
  · rintro ⟨data, read, _, ⟨payload, rfl, opened⟩, _, checked, message⟩
    obtain ⟨payloadBytes, admitted⟩ := (checkEnvelope_ok_iff opened).mp checked
    exact ⟨data, payload, payloadBytes, read, admitted, message⟩
  · rintro ⟨data, payload, payloadBytes, read, admitted, message⟩
    exact ⟨data, read, _, ⟨payload, rfl, admitted.toOpened⟩, (), (checkEnvelope_ok_iff admitted.toOpened).mpr ⟨payloadBytes, admitted⟩, message⟩

theorem messageOf_ok_iff {message : WireMessage} :
    messageOf data = .ok message ↔ ∀ entry ∈ message.items, data.get? (PyText.of entry.1) = some entry.2 := by
  simp only [messageOf, bind_eq_ok, item_ok_iff, WireMessage.items, List.forall_mem_cons]
  constructor
  · rintro ⟨_, contract, _, payloadType, _, deliveryClass, _, producerComponent, _, producerIdentity, _, idempotencyKey, _, aggregateKey,
      _, aggregateVersion, _, producerSequence, _, payloadLength, _, payloadSha256, _, payload, _, correlationId, _, causationId, ⟨⟩⟩
    exact ⟨contract, payloadType, deliveryClass, producerComponent, producerIdentity, idempotencyKey, aggregateKey, aggregateVersion,
      producerSequence, payloadLength, payloadSha256, payload, correlationId, causationId, nofun⟩
  · rintro ⟨contract, payloadType, deliveryClass, producerComponent, producerIdentity, idempotencyKey, aggregateKey, aggregateVersion,
      producerSequence, payloadLength, payloadSha256, payload, correlationId, causationId, -⟩
    exact ⟨_, contract, _, payloadType, _, deliveryClass, _, producerComponent, _, producerIdentity, _, idempotencyKey, _, aggregateKey,
      _, aggregateVersion, _, producerSequence, _, payloadLength, _, payloadSha256, _, payload, _, correlationId, _, causationId, rfl⟩

theorem envelope_get? (fields : Fields) (payloadBytes : List UInt8) {i : Nat} {key : PyText} {value : PyValue}
    (entry : (entries lib fields payloadBytes)[i]? = some (key, value)) :
    (envelope lib fields payloadBytes).get? key = some value := by
  have keys : (entries lib fields payloadBytes).map Prod.fst = ["aggregate_key", "aggregate_version", "causation_id", "contract",
      "correlation_id", "delivery_class", "idempotency_key", "payload", "payload_length", "payload_sha256", "payload_type",
      "producer_component", "producer_identity", "producer_sequence"].map PyText.of := rfl
  apply PyDict.get?_ofList _ (List.mem_of_getElem? entry)
  rw [keys]
  decide +kernel

/-- The message that an envelope carries. -/
def Fields.received (lib : WireLibrary) (fields : Fields) (payloadBytes : List UInt8) : WireMessage where
  contract := fields.contract
  payloadType := fields.payloadType
  deliveryClass := fields.deliveryClass
  producerComponent := fields.producerComponent
  producerIdentity := fields.producerIdentity
  idempotencyKey := fields.idempotencyKey
  aggregateKey := fields.aggregateKey
  aggregateVersion := fields.aggregateVersion
  producerSequence := fields.producerSequence
  payloadLength := .int payloadBytes.length
  payloadSha256 := .str (PyText.of (lib.sha256Bytes payloadBytes))
  payload := fields.payload
  correlationId := fields.correlationId
  causationId := fields.causationId

theorem messageOf_envelope (fields : Fields) (payloadBytes : List UInt8) :
    messageOf (envelope lib fields payloadBytes) = .ok (fields.received lib payloadBytes) := by
  have get : ∀ {i : Nat} {key : PyText} {value : PyValue}, (entries lib fields payloadBytes)[i]? = some (key, value) →
      (envelope lib fields payloadBytes).get? key = some value := envelope_get? fields payloadBytes
  rw [messageOf_ok_iff]
  simp only [WireMessage.items, List.forall_mem_cons]
  exact ⟨get (i := 3) rfl, get (i := 10) rfl, get (i := 5) rfl, get (i := 11) rfl, get (i := 12) rfl, get (i := 6) rfl,
    get (i := 0) rfl, get (i := 1) rfl, get (i := 13) rfl, get (i := 8) rfl, get (i := 9) rfl, get (i := 7) rfl,
    get (i := 4) rfl, get (i := 2) rfl, nofun⟩

end WireBoundaryPolicy

end SentinelEdge.Evolution
