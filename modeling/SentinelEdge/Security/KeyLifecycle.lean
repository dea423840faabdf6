import Mathlib.Data.List.Sort
import SentinelEdge.Domain.Incidents
import SentinelEdge.Foundation.Run
import SentinelEdge.Foundation.Table

/-! # The key lifecycle registry

`KeyLifecycleRegistry` keeps one row per key generation, with its current state,
and an append-only table of lifecycle events. `register` and `transition` are
transactions; `signing_allowed` and `verify` only read. Raw keys stand for their
base64 text, a row holds its record instead of the JSON of it, and times are UTC
instants, so that the order of their texts is their order.
-/

namespace SentinelEdge.Security

open Foundation Domain

inductive KeyPurpose where
  | auditSigning | sourceSigning | deviceIdentity | updateSigning
  deriving DecidableEq, Repr

def KeyPurpose.value : KeyPurpose → String
  | .auditSigning => "audit_signing"
  | .sourceSigning => "source_signing"
  | .deviceIdentity => "device_identity"
  | .updateSigning => "update_signing"

inductive KeyLifecycleAction where
  | activate | rotate | retire | revokePolicy | suspectCompromise | confirmCompromise
  deriving DecidableEq, Repr

inductive KeyState where
  | active | retired | revokedPolicy | suspectedCompromise | compromised
  deriving DecidableEq, Repr

def KeyState.value : KeyState → String
  | .active => "active"
  | .retired => "retired"
  | .revokedPolicy => "revoked_policy"
  | .suspectedCompromise => "suspected_compromise"
  | .compromised => "compromised"

namespace KeyLifecycleAction

def value : KeyLifecycleAction → String
  | .activate => "activate"
  | .rotate => "rotate"
  | .retire => "retire"
  | .revokePolicy => "revoke_policy"
  | .suspectCompromise => "suspect_compromise"
  | .confirmCompromise => "confirm_compromise"

/-- `_ACTION_TO_STATE` -/
def toState : KeyLifecycleAction → KeyState
  | .activate | .rotate => .active
  | .retire => .retired
  | .revokePolicy => .revokedPolicy
  | .suspectCompromise => .suspectedCompromise
  | .confirmCompromise => .compromised

def activates (action : KeyLifecycleAction) : Bool := action = .activate || action = .rotate

def compromises (action : KeyLifecycleAction) : Bool := action = .suspectCompromise || action = .confirmCompromise

end KeyLifecycleAction

/-- The primary key of a generation. -/
structure KeyRef where
  identityId : String
  generation : Int
  purpose : KeyPurpose
  deriving DecidableEq, Repr

/-- `key_ref` -/
def KeyRef.text (ref : KeyRef) : String := ref.identityId ++ ":" ++ toString ref.generation ++ ":" ++ ref.purpose.value

structure KeyIdentityRecord (P : Platform) where
  ref : KeyRef
  /-- The bytes behind `public_key_b64`. -/
  publicKey : List UInt8
  publicKeySha256 : P.Digest
  policyVersion : String
  activeFrom : DateTime
  activeUntil : Option DateTime
  state : KeyState
  registeredAt : DateTime
  deriving DecidableEq

structure KeyLifecycleEvent (P : Platform) where
  eventId : UUID
  ref : KeyRef
  action : KeyLifecycleAction
  fromState : Option KeyState
  toState : KeyState
  effectiveAt : DateTime
  actor : String
  reason : String
  policyVersion : String
  compromiseFloorPosition : Option Int
  payloadSha256 : P.Digest
  deriving DecidableEq

/-- A row of `key_identities`: the record as registered and its current state. -/
structure KeyIdentityRow (P : Platform) where
  record : KeyIdentityRecord P
  currentState : KeyState
  deriving DecidableEq

structure SignatureVerification where
  accepted : Bool
  status : String
  ref : KeyRef
  policyVersion : Option String := none
  keyStateAtObservation : Option KeyState := none
  currentKeyState : Option KeyState := none
  historical : Bool
  reasonCodes : List String := []
  deriving DecidableEq, Repr

structure KeyLifecycleRegistry (P : Platform) where
  keyIdentities : List (KeyIdentityRow P) := []
  keyLifecycleEvents : List (KeyLifecycleEvent P) := []

/-- The arguments of `register`, with the clock's time where `registered_at` is
    not given. -/
structure RegisterRequest where
  ref : KeyRef
  publicKey : List UInt8
  policyVersion : String
  actor : String
  reason : String
  activeFrom : Option DateTime := none
  activeUntil : Option DateTime := none
  registeredAt : DateTime

/-- The arguments of `transition`. -/
structure TransitionRequest where
  ref : KeyRef
  action : KeyLifecycleAction
  actor : String
  reason : String
  policyVersion : String
  effectiveAt : DateTime
  compromiseFloorPosition : Option Int := none

/-- `at < active_from or (active_until is not None and at >= active_until)` -/
def KeyIdentityRecord.outsideValidity {P : Platform} (record : KeyIdentityRecord P) (moment : DateTime) : Bool :=
  moment < record.activeFrom || record.activeUntil.any (fun limit => limit ≤ moment)

namespace KeyLifecycleRegistry

variable {P : Platform}

abbrev RegistryCall (P : Platform) (α : Type) := Call (KeyLifecycleRegistry P) Error α

def keyIdentitiesTable : Table (KeyLifecycleRegistry P) (KeyIdentityRow P) where
  rows := keyIdentities
  setRows s rows := { s with keyIdentities := rows }
  clash row old := row.record.ref = old.record.ref

/-- `public_key_b64` and the validators of `KeyIdentityRecord`. -/
def newRecord (P : Platform) (request : RegisterRequest) : Except Error (KeyIdentityRecord P) :=
  let activeFrom := request.activeFrom.getD request.registeredAt
  if request.publicKey.length ≠ 32 then .error (.valueError "Ed25519 public key must contain 32 raw bytes")
  else if isBlank request.ref.identityId || isBlank request.policyVersion then
    .error (.validationError "key identity fields must not be blank")
  else if request.ref.generation < 1 then .error (.validationError "generation must be at least 1")
  else if request.activeUntil.any (fun limit => limit ≤ activeFrom) then
    .error (.validationError "active_until must follow active_from")
  else .ok {
    ref := request.ref
    publicKey := request.publicKey
    publicKeySha256 := P.sha256Raw request.publicKey
    policyVersion := request.policyVersion
    activeFrom := activeFrom
    activeUntil := request.activeUntil
    state := .active
    registeredAt := request.registeredAt }

def find (s : KeyLifecycleRegistry P) (ref : KeyRef) : Option (KeyIdentityRow P) :=
  s.keyIdentities.find? (fun row => row.record.ref = ref)

/-- The document whose digest names an event. -/
def eventPayload (P : Platform) (ref : KeyRef) (action : KeyLifecycleAction) (fromState : Option KeyState)
    (toState : KeyState) (effectiveAt : DateTime) (actor reason policyVersion : String) (floor : Option Int) : Json :=
  .obj [
    ("action", .str action.value),
    ("actor", .str actor),
    ("compromise_floor_position", Json.optional .int floor),
    ("effective_at", Dump.time P effectiveAt),
    ("from_state", Json.optional (fun state => .str state.value) fromState),
    ("generation", .int ref.generation),
    ("identity_id", .str ref.identityId),
    ("policy_version", .str policyVersion),
    ("purpose", .str ref.purpose.value),
    ("reason", .str reason),
    ("to_state", .str toState.value)]

/-- The new event repeats a key of the old one: its id, or the same action on
    the same generation at the same time. -/
def clashes (event old : KeyLifecycleEvent P) : Bool :=
  event.eventId = old.eventId ||
    (event.ref = old.ref && event.effectiveAt = old.effectiveAt && event.action = old.action)

/-- `INSERT OR IGNORE INTO key_lifecycle_events` -/
def insertOrIgnore (event : KeyLifecycleEvent P) : RegistryCall P Unit :=
  Call.modify (fun s =>
    if s.keyLifecycleEvents.any (clashes event) then s
    else { s with keyLifecycleEvents := s.keyLifecycleEvents ++ [event] })

/-- `_append_event`. The event is returned also where the insert is ignored. -/
def appendEvent (ref : KeyRef) (action : KeyLifecycleAction) (fromState : Option KeyState) (toState : KeyState)
    (effectiveAt : DateTime) (actor reason policyVersion : String) (floor : Option Int) :
    RegistryCall P (KeyLifecycleEvent P) :=
  let digest := P.sha256 (eventPayload P ref action fromState toState effectiveAt actor reason policyVersion floor)
  let event : KeyLifecycleEvent P := {
    eventId := P.uuid5 ("sentinel-key-lifecycle:" ++ P.hexdigest digest)
    ref := ref
    action := action
    fromState := fromState
    toState := toState
    effectiveAt := effectiveAt
    actor := actor
    reason := reason
    policyVersion := policyVersion
    compromiseFloorPosition := floor
    payloadSha256 := digest }
  if isBlank actor || isBlank reason || isBlank policyVersion then
    Call.raise (.valueError "key lifecycle governance fields must not be blank")
  else if ref.generation < 1 || floor.any (fun position => position < 1) then
    Call.raise (.validationError "generation and compromise_floor_position must be at least 1")
  else do
    insertOrIgnore event
    pure event

/-- `_load`: the registered record with its current state. -/
def load (s : KeyLifecycleRegistry P) (ref : KeyRef) : Except Error (KeyIdentityRecord P) :=
  match s.find ref with
  | none => .error (.keyError ref.text)
  | some row => .ok { row.record with state := row.currentState }

/-- `UPDATE key_identities SET current_state=?` -/
def setState (ref : KeyRef) (state : KeyState) : RegistryCall P Unit :=
  Call.modify (fun s => { s with keyIdentities := s.keyIdentities.map (fun row =>
    if row.record.ref = ref then { row with currentState := state } else row) })

/-- `_transition_locked` -/
def transitionLocked (request : TransitionRequest) : RegistryCall P (KeyLifecycleEvent P) := do
  let loaded ← Call.read (fun s => s.load request.ref)
  let current ← Call.lift loaded
  if request.action.activates && current.state = .compromised then
    Call.raise (.valueError "a compromised generation cannot be reactivated")
  else do
    let event ← appendEvent request.ref request.action (some current.state) request.action.toState request.effectiveAt
      request.actor request.reason request.policyVersion request.compromiseFloorPosition
    setState request.ref request.action.toState
    pure event

def transition (request : TransitionRequest) : RegistryCall P (KeyLifecycleEvent P) :=
  if !request.action.compromises && request.compromiseFloorPosition.isSome then
    Call.raise (.valueError "compromise floor is valid only for compromise lifecycle actions")
  else Call.atomically (transitionLocked request)

/-- The generations of the pair that are active, newest first. -/
def priorActive (s : KeyLifecycleRegistry P) (identityId : String) (purpose : KeyPurpose) : List Int :=
  ((s.keyIdentities.filter (fun row => row.record.ref.identityId = identityId ∧ row.record.ref.purpose = purpose ∧
    row.currentState = .active)).map (fun row => row.record.ref.generation)).insertionSort (fun a b => a ≥ b)

/-- How `register` retires an active generation of the same pair. -/
def retirement (request : RegisterRequest) (activeFrom : DateTime) (generation : Int) : TransitionRequest where
  ref := ⟨request.ref.identityId, generation, request.ref.purpose⟩
  action := .retire
  actor := request.actor
  reason := "superseded_by_generation_" ++ toString request.ref.generation
  policyVersion := request.policyVersion
  effectiveAt := activeFrom

/-- The loop of `register` over the generations it supersedes. -/
def supersede (request : RegisterRequest) (activeFrom : DateTime) : List Int → RegistryCall P Unit
  | [] => pure ()
  | generation :: later => do
      let _ ← transitionLocked (retirement request activeFrom generation)
      supersede request activeFrom later

def registerBody (request : RegisterRequest) (record : KeyIdentityRecord P) : RegistryCall P (KeyIdentityRecord P) := do
  let existing ← Call.read (fun s => s.find request.ref)
  match existing with
  | some row => if row.record ≠ record then Call.raise (.valueError "key identity conflict") else pure row.record
  | none => do
      let prior ← Call.read (fun s => s.priorActive request.ref.identityId request.ref.purpose)
      if prior.max?.any (fun newest => request.ref.generation ≤ newest) then
        Call.raise (.valueError "new key generation must be greater than the active generation")
      else do
        keyIdentitiesTable.insert (.integrityError "key_identities") ⟨record, record.state⟩
        let _ ← appendEvent request.ref (if prior.isEmpty then .activate else .rotate) none .active record.activeFrom
          request.actor request.reason request.policyVersion none
        supersede request record.activeFrom prior
        pure record

def register (request : RegisterRequest) : RegistryCall P (KeyIdentityRecord P) := do
  let record ← Call.lift (newRecord P request)
  Call.atomically (registerBody request record)

/-- `events` of one generation, in the order of time and event id. -/
def events (s : KeyLifecycleRegistry P) (ref : KeyRef) : List (KeyLifecycleEvent P) :=
  (s.keyLifecycleEvents.filter (fun event => event.ref = ref)).insertionSort
    (fun a b => a.effectiveAt < b.effectiveAt ∨ (a.effectiveAt = b.effectiveAt ∧ a.eventId.value ≤ b.eventId.value))

/-- `_state_at`: the last event at or before the time. -/
def eventAt (s : KeyLifecycleRegistry P) (ref : KeyRef) (observedAt : DateTime) : Option (KeyLifecycleEvent P) :=
  ((s.events ref).filter (fun event => event.effectiveAt ≤ observedAt)).getLast?

def stateAt (s : KeyLifecycleRegistry P) (ref : KeyRef) (observedAt : DateTime) : Option KeyState :=
  (s.eventAt ref observedAt).map KeyLifecycleEvent.toState

def signingAllowed (s : KeyLifecycleRegistry P) (ref : KeyRef) (moment : DateTime) : Except Error (KeyIdentityRecord P) := do
  let record ← s.load ref
  if s.stateAt ref moment ≠ some .active ∨ record.state ≠ .active then
    .error (.permissionError "key generation is not active for new signatures")
  else if record.outsideValidity moment then
    .error (.permissionError "key generation is outside its validity window")
  else .ok record

/-- The first later event that suspects or confirms a compromise. -/
def laterCompromise (s : KeyLifecycleRegistry P) (ref : KeyRef) (observedAt : DateTime) : Option (KeyLifecycleEvent P) :=
  ((s.events ref).filter (fun event => observedAt < event.effectiveAt)).find? (fun event => event.action.compromises)

/-- The outcome of `verify(historical=True)` once the signature is correct and
    the signing time is covered. -/
def verifyHistorical (s : KeyLifecycleRegistry P) (record : KeyIdentityRecord P) (ref : KeyRef) (observedAt : DateTime)
    (authorityPosition : Option Int) : SignatureVerification :=
  let report (accepted : Bool) (status : String) (reasonCodes : List String) : SignatureVerification := {
    accepted := accepted
    status := status
    ref := ref
    policyVersion := some (match s.eventAt ref observedAt with
      | some event => event.policyVersion
      | none => record.policyVersion)
    keyStateAtObservation := s.stateAt ref observedAt
    currentKeyState := some record.state
    historical := true
    reasonCodes := reasonCodes }
  match s.laterCompromise ref observedAt with
  | some compromise => match compromise.compromiseFloorPosition with
      | none => report false "indeterminate_compromise_interval" ["compromise_start_unknown"]
      | some floor =>
          if authorityPosition.all (fun position => floor ≤ position) then
            report false "not_validated_after_compromise_floor" ["checkpoint_at_or_after_compromise_floor"]
          else report true "valid_before_compromise_floor" ["checkpoint_precedes_known_compromise_floor"]
  | none => match record.state with
      | .retired => report true "historically_valid_retired" []
      | .revokedPolicy => report true "historically_valid_before_policy_revocation" []
      | _ => report true "valid_active" []

/-- The outcome of `verify(historical=False)`, likewise. -/
def verifyCurrent (s : KeyLifecycleRegistry P) (record : KeyIdentityRecord P) (ref : KeyRef)
    (observedAt acceptedAt : DateTime) : SignatureVerification :=
  let report (accepted : Bool) (status : String) (reasonCodes : List String) : SignatureVerification := {
    accepted := accepted
    status := status
    ref := ref
    policyVersion := some record.policyVersion
    keyStateAtObservation := s.stateAt ref observedAt
    currentKeyState := some record.state
    historical := false
    reasonCodes := reasonCodes }
  match s.signingAllowed ref acceptedAt with
  | .error _ => report false "key_not_accepted_for_new_evidence" ["current_key_lifecycle_blocks_new_acceptance"]
  | .ok _ => report true "valid_active" []

def verify (s : KeyLifecycleRegistry P) (ref : KeyRef) (message : List UInt8) (signature : String)
    (observedAt acceptedAt : DateTime) (historical : Bool) (authorityPosition : Option Int) : SignatureVerification :=
  match s.load ref with
  | .error _ => {
      accepted := false
      status := "unknown_signer"
      ref := ref
      historical := historical
      reasonCodes := ["identity_generation_not_registered"] }
  | .ok record =>
      if !P.ed25519Verify record.publicKey message signature then {
        accepted := false
        status := "invalid_signature"
        ref := ref
        policyVersion := some record.policyVersion
        currentKeyState := some record.state
        historical := historical
        reasonCodes := ["ed25519_verification_failed"] }
      else if (s.stateAt ref observedAt).isNone || record.outsideValidity observedAt then {
        accepted := false
        status := "outside_key_validity"
        ref := ref
        policyVersion := some record.policyVersion
        currentKeyState := some record.state
        historical := historical
        reasonCodes := ["signature_time_not_covered_by_key_generation"] }
      else if historical then s.verifyHistorical record ref observedAt authorityPosition
      else s.verifyCurrent record ref observedAt acceptedAt

/-! ## Runs -/

inductive Operation where
  | register (request : RegisterRequest)
  | transition (request : TransitionRequest)

/-- The registry after one call, whether it returned or raised. -/
def step (s : KeyLifecycleRegistry P) : Operation → KeyLifecycleRegistry P
  | .register request => (register request s).2
  | .transition request => (transition request s).2

def run (ops : List Operation) : KeyLifecycleRegistry P := Foundation.run step {} ops

end KeyLifecycleRegistry

end SentinelEdge.Security
