import SentinelEdge.Evolution.Messages

/-! # What the boundary lets through

`validate_raw` should refuse bytes with a `ValueError` or give a message that is what it
says. It does exactly where none of six slips happens.
-/

namespace SentinelEdge.Evolution

open Foundation Domain Checks

/-- The fields have the types that the class declares. -/
structure WireMessage.Typed (message : WireMessage) : Prop where
  texts : ∀ value ∈ [message.contract, message.payloadType, message.deliveryClass, message.producerComponent,
    message.producerIdentity, message.idempotencyKey, message.aggregateKey, message.payloadSha256], value.isStr = true
  numbers : ∀ value ∈ [message.aggregateVersion, message.producerSequence, message.payloadLength], value.isInt = true
  payload : message.payload.isDict = true
  ids : ∀ value ∈ [message.correlationId, message.causationId], value = .null ∨ value.isStr = true

/-- `a == b` on two messages. -/
def WireMessage.eq (a b : WireMessage) : Bool := (a.items.zip b.items).all fun pair => PyValue.eq pair.1.2 pair.2.2

/-- The arguments to encode a message with again. -/
def WireMessage.fields (message : WireMessage) : WireBoundaryPolicy.Fields where
  contract := message.contract
  payloadType := message.payloadType
  deliveryClass := message.deliveryClass
  producerComponent := message.producerComponent
  producerIdentity := message.producerIdentity
  idempotencyKey := message.idempotencyKey
  aggregateKey := message.aggregateKey
  aggregateVersion := message.aggregateVersion
  producerSequence := message.producerSequence
  payload := message.payload
  correlationId := message.correlationId
  causationId := message.causationId

namespace WireBoundaryPolicy

variable {lib : WireLibrary} {policy : WireBoundaryPolicy} {raw : List UInt8}

/-- The message is typed, and encoding it again gives an equal message. -/
def Stands (lib : WireLibrary) (policy : WireBoundaryPolicy) (message : WireMessage) : Prop :=
  message.Typed ∧ ∃ raw again, encode lib message.fields = .ok raw ∧ validateRaw lib policy raw = .ok again ∧ again.eq message = true

/-- The boundary fails closed on these bytes. -/
def FailsClosed (lib : WireLibrary) (policy : WireBoundaryPolicy) (raw : List UInt8) : Prop :=
  (∃ e, validateRaw lib policy raw = .error e ∧ e.isValueError = true) ∨
    ∃ message, validateRaw lib policy raw = .ok message ∧ Stands lib policy message

/-- The ways that it does not. -/
inductive Slips (lib : WireLibrary) (policy : WireBoundaryPolicy) (raw : List UInt8) : Prop where
  /-- `json.loads` raises something else than a `ValueError`. -/
  | unreadable {e : Error} (raised : lib.loads raw = .error e) (other : e.isValueError = false)
  /-- So does `canonical_json_bytes` on the payload. -/
  | unencodablePayload {data payload : PyDict} {e : Error} (read : lib.loads raw = .ok (.dict data))
      (opened : Opened lib policy data payload) (raised : lib.canonicalJsonBytes (.dict payload) = .error e)
      (other : e.isValueError = false)
  /-- The length is null, a list, a dictionary or infinite. -/
  | noLength {data payload : PyDict} {payloadBytes : List UInt8} {value : PyValue} {failure : PyValue.NotInt}
      (read : lib.loads raw = .ok (.dict data)) (opened : Opened lib policy data payload)
      (bytes : lib.canonicalJsonBytes (.dict payload) = .ok payloadBytes)
      (here : data.get? (PyText.of "payload_length") = some value) (raised : value.toInt = .error failure)
      (other : failure ≠ .valueError)
  /-- One of the last two fields is missing. -/
  | missing {data payload : PyDict} {payloadBytes : List UInt8} (read : lib.loads raw = .ok (.dict data))
      (admitted : Admitted lib policy data payload payloadBytes)
      (absent : data.get? (PyText.of "correlation_id") = none ∨ data.get? (PyText.of "causation_id") = none)
  /-- A field is of another type. -/
  | mistyped {data payload : PyDict} {payloadBytes : List UInt8} {message : WireMessage} (read : lib.loads raw = .ok (.dict data))
      (admitted : Admitted lib policy data payload payloadBytes)
      (carries : ∀ entry ∈ message.items, data.get? (PyText.of entry.1) = some entry.2) (mistyped : ¬ message.Typed)
  /-- A field does not encode, as a text with a lone surrogate does not. -/
  | unencodable {data payload : PyDict} {payloadBytes : List UInt8} {message : WireMessage} (read : lib.loads raw = .ok (.dict data))
      (admitted : Admitted lib policy data payload payloadBytes)
      (carries : ∀ entry ∈ message.items, data.get? (PyText.of entry.1) = some entry.2)
      (raised : ∀ raw, lib.canonicalJsonBytes (.dict (envelope lib message.fields payloadBytes)) ≠ .ok raw)

theorem readEnvelope_error {e : Error} (raised : readEnvelope lib raw = .error e) :
    e.isValueError = true ∨ lib.loads raw = .error e := by
  unfold readEnvelope at raised
  split at raised
  · cases raised
  · cases raised
    exact .inl rfl
  · cases raised
    exact .inl rfl
  · next found =>
      cases raised
      exact .inr found

theorem openEnvelope_error {data : PyDict} {e : Error} (raised : openEnvelope lib policy data = .error e) : e.isValueError = true := by
  have major : ∀ e, readMajor lib data = .error e → e.isValueError = true := by
    intro e raised
    unfold readMajor at raised
    split at raised
    · cases raised
    · cases raised
      rfl
  have payload : ∀ e, readPayload data = .error e → e.isValueError = true := by
    intro e raised
    unfold readPayload at raised
    split at raised
    · cases raised
    · cases raised
      rfl
  simp only [openEnvelope, bind_eq_error, refuse_eq_error] at raised
  obtain raised | ⟨_, -, ⟨-, rfl⟩ | ⟨_, -, raised | ⟨_, -, ⟨-, rfl⟩ | ⟨_, -, raised⟩⟩⟩⟩ := raised
  · exact major e raised
  · rfl
  · exact payload e raised
  · rfl
  · cases raised

theorem int_error {value : PyValue} {e : Error} (raised : int value = .error e) :
    e.isValueError = true ∨ ∃ failure, value.toInt = .error failure ∧ failure ≠ .valueError := by
  unfold int at raised
  split at raised
  · cases raised
  · cases raised
    exact .inl rfl
  · next found => exact .inr ⟨_, found, nofun⟩
  · next found => exact .inr ⟨_, found, nofun⟩

theorem int_other {value : PyValue} {failure : PyValue.NotInt} (raised : value.toInt = .error failure) (other : failure ≠ .valueError) :
    ∃ e, int value = .error e ∧ e.isValueError = false := by
  unfold int
  rw [raised]
  cases failure with
  | valueError => exact absurd rfl other
  | typeError => exact ⟨_, rfl, rfl⟩
  | overflowError => exact ⟨_, rfl, rfl⟩

theorem checkEnvelope_error {data payload : PyDict} {e : Error} (opened : Opened lib policy data payload)
    (raised : checkEnvelope lib policy data (.dict payload) = .error e) :
    e.isValueError = true ∨ lib.canonicalJsonBytes (.dict payload) = .error e ∨ ∃ payloadBytes value failure,
      lib.canonicalJsonBytes (.dict payload) = .ok payloadBytes ∧ data.get? (PyText.of "payload_length") = some value ∧
        value.toInt = .error failure ∧ failure ≠ .valueError := by
  obtain ⟨value, here⟩ := opened.values "payload_length" (by decide)
  have found : item data "payload_length" = .ok value := item_ok_iff.mpr here
  simp only [checkEnvelope, found, ok_bind, bind_eq_error, refuse_eq_error] at raised
  obtain raised | ⟨payloadBytes, bytes, raised | ⟨_, -, rest⟩⟩ := raised
  · exact .inr (.inl raised)
  · cases int_error raised with
    | inl invalid => exact .inl invalid
    | inr failing =>
        obtain ⟨failure, raised, other⟩ := failing
        exact .inr (.inr ⟨payloadBytes, value, failure, bytes, here, raised, other⟩)
  · obtain ⟨-, rfl⟩ | ⟨_, -, ⟨-, rfl⟩ | ⟨_, -, ⟨-, rfl⟩ | ⟨_, -, ⟨-, rfl⟩ | ⟨_, -, -, rfl⟩⟩⟩⟩ := rest
    all_goals exact .inl rfl

/-- What is missing for a message raises a `KeyError`. -/
theorem messageOf_error {data : PyDict} : ∀ e, messageOf data = .error e → ∃ key, e = .keyError key := by
  have asks : ∀ {β : Type} (key : String) (f : PyValue → Except Error β), (∀ value e, f value = .error e → ∃ key, e = .keyError key) →
      ∀ e, (item data key >>= f) = .error e → ∃ key, e = .keyError key := by
    intro β key f later e raised
    unfold item at raised
    split at raised
    · next value _ => exact later value e raised
    · cases raised
      exact ⟨key, rfl⟩
  unfold messageOf
  iterate 14 refine asks _ _ fun _ => ?_
  exact nofun

theorem present_of_admitted {data payload : PyDict} {payloadBytes : List UInt8} (admitted : Admitted lib policy data payload payloadBytes) :
    (∃ value, data.get? (PyText.of "contract") = some value) ∧
      ∀ key ∈ requiredTexts, ∃ value, data.get? (PyText.of key) = some value := by
  constructor
  · cases found : data.get? (PyText.of "contract") with
    | some value => exact ⟨value, rfl⟩
    | none =>
        have major := admitted.major
        rw [textOf, found] at major
        cases major
  · intro key member
    cases found : data.get? (PyText.of key) with
    | some value => exact ⟨value, rfl⟩
    | none =>
        have text := admitted.texts key member
        rw [textOf, found] at text
        cases text

/-- With the last two fields the envelope makes a message. -/
theorem messageOf_of_admitted {data payload : PyDict} {payloadBytes : List UInt8} (admitted : Admitted lib policy data payload payloadBytes)
    (correlation : data.get? (PyText.of "correlation_id") ≠ none) (causation : data.get? (PyText.of "causation_id") ≠ none) :
    ∃ message, messageOf data = .ok message := by
  obtain ⟨⟨contract, hereContract⟩, texts⟩ := present_of_admitted admitted
  have values := admitted.values
  simp only [requiredTexts, requiredValues, List.forall_mem_cons] at texts values
  obtain ⟨⟨payloadType, herePayloadType⟩, ⟨deliveryClass, hereDeliveryClass⟩, ⟨component, hereComponent⟩, ⟨identity, hereIdentity⟩,
    ⟨idempotency, hereIdempotency⟩, ⟨aggregate, hereAggregate⟩, -⟩ := texts
  obtain ⟨⟨version, hereVersion⟩, ⟨sequence, hereSequence⟩, ⟨length, hereLength⟩, ⟨digest, hereDigest⟩, -⟩ := values
  obtain ⟨correlationId, hereCorrelation⟩ := Option.ne_none_iff_exists'.mp correlation
  obtain ⟨causationId, hereCausation⟩ := Option.ne_none_iff_exists'.mp causation
  refine ⟨⟨contract, payloadType, deliveryClass, component, identity, idempotency, aggregate, version, sequence, length, digest,
    .dict payload, correlationId, causationId⟩, messageOf_ok_iff.mpr ?_⟩
  simp only [WireMessage.items, List.forall_mem_cons]
  exact ⟨hereContract, herePayloadType, hereDeliveryClass, hereComponent, hereIdentity, hereIdempotency, hereAggregate, hereVersion,
    hereSequence, hereLength, hereDigest, admitted.found, hereCorrelation, hereCausation, List.forall_mem_nil _⟩

section

variable {data payload : PyDict} {payloadBytes : List UInt8} {message : WireMessage}
  (admitted : Admitted lib policy data payload payloadBytes) (made : messageOf data = .ok message)

include admitted made

theorem payload_of_made : message.payload = .dict payload := by
  have carries := messageOf_ok_iff.mp made
  simp only [WireMessage.items, List.forall_mem_cons] at carries
  obtain ⟨-, -, -, -, -, -, -, -, -, -, -, here, -⟩ := carries
  rw [admitted.found] at here
  exact (Option.some.inj here).symm

/-- The fields of an admitted message are allowed when they are sent again. -/
theorem allows_of_admitted : Allows lib policy message.fields := by
  have carries := messageOf_ok_iff.mp made
  have major := admitted.major
  have texts := admitted.texts
  have known := admitted.known
  have allowed := admitted.allowed
  simp only [WireMessage.items, List.forall_mem_cons] at carries
  obtain ⟨contract, payloadType, deliveryClass, component, identity, idempotency, aggregate, -⟩ := carries
  rw [textOf_of_get? contract] at major
  rw [textOf_of_get? deliveryClass] at known
  rw [textOf_of_get? deliveryClass, textOf_of_get? component, textOf_of_get? payloadType] at allowed
  refine ⟨major, ?_, known, allowed⟩
  simpa only [requiredTexts, List.forall_mem_cons, List.not_mem_nil, IsEmpty.forall_iff, implies_true, and_true, WireMessage.fields,
    textOf_of_get? payloadType, textOf_of_get? deliveryClass, textOf_of_get? component, textOf_of_get? identity,
    textOf_of_get? idempotency, textOf_of_get? aggregate] using texts

/-- What comes back is equal: only the length may be of another kind. -/
theorem received_eq (typed : message.Typed) : (message.fields.received lib payloadBytes).eq message = true := by
  have carries := messageOf_ok_iff.mp made
  have digest := admitted.digest
  obtain ⟨value, here, counts⟩ := admitted.length
  obtain ⟨texts, numbers, -, -⟩ := typed
  simp only [WireMessage.items, List.forall_mem_cons] at carries texts numbers
  obtain ⟨-, -, -, -, -, -, -, -, -, length, sha, -⟩ := carries
  rw [textOf_of_get? sha] at digest
  rw [length] at here
  cases here
  have sameLength : PyValue.eq (.int payloadBytes.length) message.payloadLength = true := by
    cases shape : message.payloadLength with
    | int n =>
        rw [shape] at counts
        cases counts
        exact PyValue.eq_self _
    | bool b =>
        rw [shape] at counts
        have same : (b.toNat : Int) = payloadBytes.length := Except.ok.inj counts
        simp only [PyValue.eq, PyValue.number, ← same, Rat.intCast_natCast, beq_self_eq_true]
    | null | float _ | str _ | list _ | dict _ =>
        rw [shape] at numbers
        cases numbers.2.2.1
  have sameDigest : message.payloadSha256 = .str (PyText.of (lib.sha256Bytes payloadBytes)) := by
    cases shape : message.payloadSha256 with
    | str text =>
        rw [shape] at digest
        exact congrArg PyValue.str digest
    | null | float _ | int _ | bool _ | list _ | dict _ =>
        rw [shape] at texts
        cases texts.2.2.2.2.2.2.2.1
  simp only [WireMessage.eq, WireMessage.items, Fields.received, WireMessage.fields, List.zip_cons_cons, List.zip_nil_right,
    List.all_cons, List.all_nil, PyValue.eq_self, sameLength, sameDigest, Bool.and_self]

theorem stands_iff (roundTrips : ∀ value bytes, lib.canonicalJsonBytes value = .ok bytes → lib.loads bytes = .ok value) :
    Stands lib policy message ↔
      message.Typed ∧ ∃ raw, lib.canonicalJsonBytes (.dict (envelope lib message.fields payloadBytes)) = .ok raw := by
  have isDict : message.fields.payload = .dict payload := payload_of_made admitted made
  have encodes : ∀ raw, encode lib message.fields = .ok raw ↔
      lib.canonicalJsonBytes (.dict (envelope lib message.fields payloadBytes)) = .ok raw := by
    intro raw
    rw [encode, isDict, admitted.bytes, ok_bind]
  constructor
  · rintro ⟨typed, raw, again, encoded, -, -⟩
    exact ⟨typed, raw, (encodes raw).mp encoded⟩
  · rintro ⟨typed, raw, encoded⟩
    exact ⟨typed, raw, _, (encodes raw).mpr encoded,
      validateRaw_encode (allows_of_admitted admitted made) isDict admitted.bytes (roundTrips _ _ encoded), received_eq admitted made typed⟩

end

theorem validateRaw_error {e : Error} (raised : validateRaw lib policy raw = .error e) (other : e.isValueError = false) :
    Slips lib policy raw := by
  simp only [validateRaw, bind_eq_error, readEnvelope_ok_iff, openEnvelope_ok_iff] at raised
  obtain raised | ⟨data, read, raised | ⟨_, ⟨payload, rfl, opened⟩, raised | ⟨_, checked, raised⟩⟩⟩ := raised
  · cases readEnvelope_error raised with
    | inl value => exact absurd value (by rw [other]; decide)
    | inr raised => exact .unreadable raised other
  · exact absurd (openEnvelope_error raised) (by rw [other]; decide)
  · obtain value | raised | ⟨payloadBytes, value, failure, bytes, here, raised, other⟩ := checkEnvelope_error opened raised
    · exact absurd value (by rw [other]; decide)
    · exact .unencodablePayload read opened raised other
    · exact .noLength read opened bytes here raised other
  · obtain ⟨payloadBytes, admitted⟩ := (checkEnvelope_ok_iff opened).mp checked
    refine .missing read admitted ?_
    by_contra both
    obtain ⟨correlation, causation⟩ := not_or.mp both
    obtain ⟨message, made⟩ := messageOf_of_admitted admitted correlation causation
    rw [made] at raised
    cases raised

/-- What a slip makes of the bytes is not a refusal, and no message that stands. -/
theorem not_failsClosed_of_error {e : Error} (raised : validateRaw lib policy raw = .error e) (other : e.isValueError = false) :
    ¬ FailsClosed lib policy raw := by
  rintro (⟨refused, raised', value⟩ | ⟨message, returned, -⟩)
  · rw [raised] at raised'
    cases raised'
    rw [other] at value
    cases value
  · rw [raised] at returned
    cases returned

theorem validateRaw_of_made {data payload : PyDict} {payloadBytes : List UInt8} {message : WireMessage}
    (read : lib.loads raw = .ok (.dict data)) (admitted : Admitted lib policy data payload payloadBytes)
    (made : messageOf data = .ok message) : validateRaw lib policy raw = .ok message :=
  validateRaw_ok_iff.mpr ⟨data, payload, payloadBytes, read, admitted, made⟩

theorem stands_of_failsClosed {message : WireMessage} (closed : FailsClosed lib policy raw)
    (returned : validateRaw lib policy raw = .ok message) : Stands lib policy message := by
  obtain ⟨e, raised, -⟩ | ⟨other, returned', stands⟩ := closed
  · rw [returned] at raised
    cases raised
  · rw [returned] at returned'
    cases returned'
    exact stands

/-- The boundary fails closed exactly on the bytes that none of the slips happens on. -/
theorem failsClosed_iff (lib : WireLibrary) (policy : WireBoundaryPolicy) (raw : List UInt8)
    (roundTrips : ∀ value bytes, lib.canonicalJsonBytes value = .ok bytes → lib.loads bytes = .ok value) :
    FailsClosed lib policy raw ↔ ¬ Slips lib policy raw := by
  constructor
  · intro closed slips
    cases slips with
    | @unreadable e raised other =>
        have envelope : readEnvelope lib raw = .error e := by
          unfold readEnvelope
          rw [raised]
          cases e with
          | jsonDecodeError => cases other
          | _ => rfl
        exact not_failsClosed_of_error (by rw [validateRaw, envelope, error_bind]) other closed
    | unencodablePayload read opened raised other =>
        refine not_failsClosed_of_error ?_ other closed
        rw [validateRaw, readEnvelope_ok_iff.mpr read, ok_bind, openEnvelope_ok_iff.mpr ⟨_, rfl, opened⟩, ok_bind, checkEnvelope, raised,
          error_bind, error_bind]
    | noLength read opened bytes here raised other =>
        obtain ⟨e, raised, other⟩ := int_other raised other
        refine not_failsClosed_of_error ?_ other closed
        rw [validateRaw, readEnvelope_ok_iff.mpr read, ok_bind, openEnvelope_ok_iff.mpr ⟨_, rfl, opened⟩, ok_bind, checkEnvelope, bytes,
          ok_bind, item_ok_iff.mpr here, ok_bind, raised, error_bind, error_bind]
    | @missing data payload payloadBytes read admitted absent =>
        cases made : messageOf data with
        | ok message =>
            have carries := messageOf_ok_iff.mp made
            simp only [WireMessage.items, List.forall_mem_cons] at carries
            obtain ⟨-, -, -, -, -, -, -, -, -, -, -, -, correlation, causation, -⟩ := carries
            rw [correlation, causation] at absent
            cases absent with
            | inl none => cases none
            | inr none => cases none
        | error e =>
            obtain ⟨key, rfl⟩ := messageOf_error e made
            refine not_failsClosed_of_error (e := .keyError key) ?_ rfl closed
            rw [validateRaw, readEnvelope_ok_iff.mpr read, ok_bind, openEnvelope_ok_iff.mpr ⟨_, rfl, admitted.toOpened⟩, ok_bind,
              (checkEnvelope_ok_iff admitted.toOpened).mpr ⟨_, admitted⟩, ok_bind, made]
    | mistyped read admitted carries mistyped =>
        have returned := validateRaw_of_made read admitted (messageOf_ok_iff.mpr carries)
        exact mistyped (stands_of_failsClosed closed returned).1
    | unencodable read admitted carries raised =>
        have made := messageOf_ok_iff.mpr carries
        have stands := stands_of_failsClosed closed (validateRaw_of_made read admitted made)
        obtain ⟨-, raw, encoded⟩ := (stands_iff admitted made roundTrips).mp stands
        exact raised raw encoded
  · intro sound
    cases outcome : validateRaw lib policy raw with
    | error e =>
        cases value : e.isValueError with
        | true => exact .inl ⟨e, outcome, value⟩
        | false => exact absurd (validateRaw_error outcome value) sound
    | ok message =>
        obtain ⟨data, payload, payloadBytes, read, admitted, made⟩ := validateRaw_ok_iff.mp outcome
        refine .inr ⟨message, outcome, (stands_iff admitted made roundTrips).mpr ⟨?_, ?_⟩⟩
        · by_contra mistyped
          exact sound (.mistyped read admitted (messageOf_ok_iff.mp made) mistyped)
        · by_contra none
          exact sound (.unencodable read admitted (messageOf_ok_iff.mp made) fun raw encoded => none ⟨raw, encoded⟩)

theorem demo_failsClosed_iff : FailsClosed demoLibrary demoPolicy (bytesOf (demoEnvelope true)) ↔
    ¬ Slips demoLibrary demoPolicy (bytesOf (demoEnvelope true)) :=
  failsClosed_iff demoLibrary demoPolicy (bytesOf (demoEnvelope true)) (knowing_roundTrips _)

/-- An envelope without the last two fields raises a `KeyError`. -/
theorem envelope_without_ids : ¬ FailsClosed demoLibrary demoPolicy (bytesOf (demoEnvelope false)) :=
  not_failsClosed_of_error (e := .keyError "correlation_id") (by decide +kernel) rfl

end WireBoundaryPolicy

end SentinelEdge.Evolution
