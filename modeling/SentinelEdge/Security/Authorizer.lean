import SentinelEdge.Domain.Incidents

/-! # Command authorization

`CommandAuthorizer` binds a decision to a payload, a principal, an operation
and a target, and scopes client idempotency keys to all of these.
-/

namespace SentinelEdge.Security

open Foundation Domain

variable {P : Platform}

structure CommandAuthorizer where
  secret : String
  policyVersion : String := "local-policy-v1"
  ttlSeconds : Int := 30

namespace CommandAuthorizer

def canonicalEncodingVersion : String := "sentinel-cjson-v1"

/-- `_tag_payload` -/
def tagPayload (P : Platform) (self : CommandAuthorizer) (principal : PrincipalRef) (operation target : String)
    (payloadSha256 : P.Digest) (acceptedAt expiresAt : DateTime) : Json := .obj [
  ("accepted_at", Dump.time P acceptedAt),
  ("canonical_encoding_version", .str canonicalEncodingVersion),
  ("expires_at", Dump.time P expiresAt),
  ("operation", .str operation),
  ("payload_sha256", .str (P.hexdigest payloadSha256)),
  ("policy_version", .str self.policyVersion),
  ("principal", principal.modelDump),
  ("target", .str target)]

/-- `decide`: the decision id is drawn by `uuid4`. -/
def decide (self : CommandAuthorizer) (decisionId : UUID) (principal : PrincipalRef) (operation target : String)
    (payload : Json) (acceptedAt : DateTime) : AuthorizationDecision P :=
  let expiresAt := acceptedAt + self.ttlSeconds * 1000000
  { decisionId := decisionId
    principal := principal
    operation := operation
    target := target
    payloadSha256 := P.sha256 payload
    policyVersion := self.policyVersion
    canonicalEncodingVersion := canonicalEncodingVersion
    acceptedAt := acceptedAt
    expiresAt := expiresAt
    authorizationTag := P.hmac self.secret
      (self.tagPayload P principal operation target (P.sha256 payload) acceptedAt expiresAt) }

/-- `verify`, in the order the checks are made. -/
def verify (self : CommandAuthorizer) (decision : AuthorizationDecision P) (payload : Json)
    (operation target : String) (currentPrincipal : Option PrincipalRef) (now : DateTime) : Except Error Unit :=
  if decision.expiresAt ≤ now then .error (.authorizationError "authorization decision expired")
  else if decision.canonicalEncodingVersion ≠ canonicalEncodingVersion then
    .error (.authorizationError "authorization canonical encoding version mismatch")
  else if decision.operation ≠ operation ∨ decision.target ≠ target then
    .error (.authorizationError "authorization operation or target mismatch")
  else if P.sha256 payload ≠ decision.payloadSha256 then
    .error (.authorizationError "authorization payload mismatch")
  else if currentPrincipal.any (fun principal => decision.principal ≠ principal) then
    .error (.authorizationError "authorization principal or trust epoch changed")
  else if P.hmac self.secret (self.tagPayload P decision.principal decision.operation decision.target
      decision.payloadSha256 decision.acceptedAt decision.expiresAt) ≠ decision.authorizationTag then
    .error (.authorizationError "authorization tag invalid")
  else .ok ()

/-- The document `scoped_idempotency_key` hashes. -/
def scopedKeyDocument (principal : PrincipalRef) (operation target clientKey : String) : Json := .obj [
  ("canonical_encoding_version", .str canonicalEncodingVersion),
  ("client_key", .str clientKey),
  ("device_trust_epoch", .int principal.deviceTrustEpoch),
  ("operation", .str operation),
  ("principal_id", .str principal.principalId),
  ("session_epoch", .int principal.sessionEpoch),
  ("target", .str target)]

def scopedIdempotencyKey (P : Platform) (principal : PrincipalRef) (operation target clientKey : String) : P.Digest :=
  P.sha256 (scopedKeyDocument principal operation target clientKey)

end CommandAuthorizer

end SentinelEdge.Security
