import SentinelEdge.Foundation.Call
import SentinelEdge.Foundation.Run
import SentinelEdge.Security.Hmac

/-! # Signed webhooks

A webhook is signed over its timestamp and its body. What is claimed against replays is
the provider with the delivery id, which the signature does not cover: a webhook that
was accepted once is accepted again under a delivery id of its own.
-/

namespace SentinelEdge.Qualification

open Foundation Domain Security

/-- `DeliveryReplayStore`: the set of the ids claimed. -/
structure DeliveryReplayStore where
  deliveryIds : List String
  deriving DecidableEq

namespace DeliveryReplayStore

def fresh : DeliveryReplayStore := ⟨[]⟩

def claim (deliveryId : String) : Call DeliveryReplayStore Error Bool := do
  if (← Call.read fun s => isBlank deliveryId || s.deliveryIds.contains deliveryId) then
    return false
  Call.modify fun s => { s with deliveryIds := deliveryId :: s.deliveryIds }
  return true

end DeliveryReplayStore

/-- The codes of a decision. -/
inductive WebhookCode where
  | missingProviderOrDeliveryId | payloadTooLarge | acknowledgementWindowExceeded | timestampOutOfWindow
  | signatureMissing | signatureInvalid | deliveryReplayed | accepted
  deriving DecidableEq, Repr

structure WebhookDecision where
  accepted : Bool
  code : WebhookCode
  deliveryId : String
  deriving DecidableEq, Repr

/-- One current key and at most one grace key. -/
structure WebhookKeyRing where
  current : List UInt8
  previous : Option (List UInt8) := none
  previousUntil : Option Int := none
  deriving DecidableEq

namespace WebhookKeyRing

def rotate (newKey : List UInt8) (graceSeconds now : Int) : Call WebhookKeyRing Error Unit := do
  if newKey = [] ∨ graceSeconds < 0 then
    Call.raise (.valueError "new key and non-negative grace are required")
  Call.modify fun ring =>
    { current := newKey, previous := some ring.current, previousUntil := some (now + graceSeconds) }

/-- `candidates` forgets a grace key that is past its time. -/
def candidates (now : Int) : Call WebhookKeyRing Error (List (List UInt8)) := fun ring =>
  match ring.previous, ring.previousUntil with
  | some previous, some deadline =>
      if now ≤ deadline then (.ok [ring.current, previous], ring)
      else (.ok [ring.current], { ring with previous := none, previousUntil := none })
  | _, _ => (.ok [ring.current], { ring with previous := none, previousUntil := none })

/-- The keys that a time accepts. -/
def inForce (ring : WebhookKeyRing) (now : Int) : List (List UInt8) :=
  match ring.previous, ring.previousUntil with
  | some previous, some deadline => if now ≤ deadline then [ring.current, previous] else [ring.current]
  | _, _ => [ring.current]

theorem candidates_eq (ring : WebhookKeyRing) (now : Int) :
    candidates now ring = (.ok (ring.inForce now), (candidates now ring).2) := by
  unfold candidates inForce
  split
  · split <;> rfl
  · rfl

end WebhookKeyRing

/-- What the sender's request carries. -/
structure Webhook where
  rawBody : List UInt8
  provider : String
  deliveryId : String
  timestamp : Int
  signature : String
  deriving DecidableEq

namespace Webhook

/-- What the signature covers, with the signature. -/
abbrev Signed := Int × List UInt8 × String

def signed (webhook : Webhook) : Signed := (webhook.timestamp, webhook.rawBody, webhook.signature)

/-- `f"{timestamp}.".encode() + raw_body` -/
def material (webhook : Webhook) : List UInt8 := encode (toString webhook.timestamp ++ ".") ++ webhook.rawBody

def expected (mac : HmacSha256) (secret : List UInt8) (webhook : Webhook) : String :=
  "sha256=" ++ mac.hexdigest secret webhook.material

/-- `f"{provider}:{delivery_id}"` -/
def replayKey (webhook : Webhook) : String := webhook.provider ++ ":" ++ webhook.deliveryId

end Webhook

/-- The bounds a call is made with. -/
structure WebhookBounds where
  maxSkewSeconds : Int := 300
  verificationStarted : Option Int := none
  maxVerificationSeconds : Int := 5
  deriving DecidableEq

/-- The first check that `verify_hmac_webhook` makes before it looks at the signature and
    that the request fails. -/
def refusal (webhook : Webhook) (now : Int) (secret : List UInt8) (bounds : WebhookBounds) : Option WebhookCode :=
  if isBlank webhook.provider || isBlank webhook.deliveryId then some .missingProviderOrDeliveryId
  else if webhook.rawBody.length > 1048576 then some .payloadTooLarge
  else if bounds.verificationStarted.any (fun started =>
      bounds.maxVerificationSeconds < 0 || now - started > bounds.maxVerificationSeconds) then
    some .acknowledgementWindowExceeded
  else if bounds.maxSkewSeconds < 0 ∨ (now - webhook.timestamp).natAbs > bounds.maxSkewSeconds then some .timestampOutOfWindow
  else if secret = [] ∨ ¬ "sha256=".toList.isPrefixOf webhook.signature.toList then some .signatureMissing
  else none

variable (mac : HmacSha256)

def verifyHmacWebhook (webhook : Webhook) (now : Int) (secret : List UInt8) (bounds : WebhookBounds) :
    Call DeliveryReplayStore Error WebhookDecision := do
  match refusal webhook now secret bounds with
  | some code => return ⟨false, code, webhook.deliveryId⟩
  | none =>
      if !(← Call.lift (compareDigest (webhook.expected mac secret) webhook.signature)) then
        return ⟨false, .signatureInvalid, webhook.deliveryId⟩
      if !(← DeliveryReplayStore.claim webhook.replayKey) then
        return ⟨false, .deliveryReplayed, webhook.deliveryId⟩
      return ⟨true, .accepted, webhook.deliveryId⟩

/-- The loop of `verify_hmac_webhook_with_keyring` over the candidate keys. -/
def tryCandidates (webhook : Webhook) (now maxSkewSeconds : Int) :
    List (List UInt8) → Call DeliveryReplayStore Error WebhookDecision
  | [] => return ⟨false, .signatureInvalid, webhook.deliveryId⟩
  | secret :: rest => do
      let decision ← verifyHmacWebhook mac webhook now secret { maxSkewSeconds }
      if decision.accepted || decision.code = .deliveryReplayed then
        return decision
      tryCandidates webhook now maxSkewSeconds rest

def verifyHmacWebhookWithKeyring (webhook : Webhook) (now maxSkewSeconds : Int) :
    Call (DeliveryReplayStore × WebhookKeyRing) Error WebhookDecision := do
  let secrets ← Call.zoom Prod.snd (fun s ring => (s.1, ring)) (WebhookKeyRing.candidates now)
  Call.zoom Prod.fst (fun s store => (store, s.2)) (tryCandidates mac webhook now maxSkewSeconds secrets)

/-- The request passes every check before the claim of its delivery. -/
def Genuine (webhook : Webhook) (now : Int) (bounds : WebhookBounds) (secret : List UInt8) : Prop :=
  refusal webhook now secret bounds = none ∧ webhook.signature = webhook.expected mac secret

instance (webhook : Webhook) (now : Int) (bounds : WebhookBounds) (secret : List UInt8) :
    Decidable (Genuine mac webhook now bounds secret) := inferInstanceAs (Decidable (_ ∧ _))

/-- The ways a verification can end. -/
inductive Answers (webhook : Webhook) (genuine : Prop) (store : DeliveryReplayStore) :
    Except Error WebhookDecision → DeliveryReplayStore → Prop where
  | refused {result : Except Error WebhookDecision} (forged : ¬ genuine)
      (refusing : ∀ decision, result = .ok decision → decision.accepted = false ∧ decision.code ≠ .deliveryReplayed) :
      Answers webhook genuine store result store
  | replayed (signed : genuine) (claimed : webhook.replayKey ∈ store.deliveryIds) :
      Answers webhook genuine store (.ok ⟨false, .deliveryReplayed, webhook.deliveryId⟩) store
  | accepted (signed : genuine) (new : webhook.replayKey ∉ store.deliveryIds) :
      Answers webhook genuine store (.ok ⟨true, .accepted, webhook.deliveryId⟩) ⟨webhook.replayKey :: store.deliveryIds⟩

variable {mac}

theorem expected_ascii (secret : List UInt8) (webhook : Webhook) : isAscii (webhook.expected mac secret) = true := by
  have bytes : ∀ c ∈ "sha256=".toList, c.toNat < 128 := by simp
  unfold Webhook.expected HmacSha256.hexdigest hex
  rw [← String.ofList_toList (s := "sha256="), ← String.ofList_append]
  apply isAscii_ofList
  intro c member
  cases List.mem_append.mp member with
  | inl plain => exact bytes c plain
  | inr digit => exact hex_ascii c digit

/-- The replay key is never blank: it holds a colon. -/
theorem replayKey_not_blank (webhook : Webhook) : isBlank webhook.replayKey = false := by
  have colon : ':' ∈ webhook.replayKey.toList := by simp [Webhook.replayKey]
  rw [isBlank, List.all_eq_false]
  exact ⟨':', colon, by decide⟩

theorem claim_replayKey (webhook : Webhook) (store : DeliveryReplayStore) :
    DeliveryReplayStore.claim webhook.replayKey store =
      if webhook.replayKey ∈ store.deliveryIds then (.ok false, store)
      else (.ok true, ⟨webhook.replayKey :: store.deliveryIds⟩) := by
  unfold DeliveryReplayStore.claim
  rw [Call.read_bind, replayKey_not_blank, Bool.false_or]
  by_cases claimed : webhook.replayKey ∈ store.deliveryIds
  · rw [if_pos (by simpa using claimed), if_pos claimed]
    rfl
  · rw [if_neg (by simpa using claimed), if_neg claimed]
    rfl

theorem refusal_code {webhook : Webhook} {now : Int} {secret : List UInt8} {bounds : WebhookBounds} {code : WebhookCode}
    (refused : refusal webhook now secret bounds = some code) : code ≠ .deliveryReplayed := by
  rintro rfl
  unfold refusal at refused
  split_ifs at refused <;> cases refused

theorem verifyHmacWebhook_answers (mac : HmacSha256) (webhook : Webhook) (now : Int) (secret : List UInt8) (bounds : WebhookBounds)
    (store : DeliveryReplayStore) :
    Answers webhook (Genuine mac webhook now bounds secret) store
      (verifyHmacWebhook mac webhook now secret bounds store).1 (verifyHmacWebhook mac webhook now secret bounds store).2 := by
  unfold verifyHmacWebhook
  cases refused : refusal webhook now secret bounds with
  | some code =>
      refine .refused (fun genuine => by rw [genuine.1] at refused; cases refused) ?_
      rintro _ ⟨⟩
      exact ⟨rfl, refusal_code refused⟩
  | none =>
      have same : compareDigest (webhook.expected mac secret) webhook.signature = .ok true ↔ _ :=
        compareDigest_iff (expected_ascii secret webhook)
      dsimp only
      cases compared : compareDigest (webhook.expected mac secret) webhook.signature with
      | error e =>
          refine .refused ?_ (fun _ raised => nomatch raised)
          intro genuine
          rw [compared] at same
          cases same.mpr genuine.2
      | ok equal =>
          rw [compared] at same
          cases equal with
          | false =>
              refine .refused ?_ ?_
              · intro genuine
                cases same.mpr genuine.2
              · rintro _ ⟨⟩
                exact ⟨rfl, nofun⟩
          | true =>
              have genuine : Genuine mac webhook now bounds secret := ⟨refused, same.mp rfl⟩
              have claims := claim_replayKey webhook store
              by_cases claimed : webhook.replayKey ∈ store.deliveryIds
              · rw [if_pos claimed] at claims
                rw [Call.bind_of_ok (Call.lift_apply _ _), if_neg (by decide), Call.bind_of_ok claims]
                exact .replayed genuine claimed
              · rw [if_neg claimed] at claims
                rw [Call.bind_of_ok (Call.lift_apply _ _), if_neg (by decide), Call.bind_of_ok claims]
                exact .accepted genuine claimed

/-- A verification raises for signatures alone that are not ASCII. -/
theorem verifyHmacWebhook_error {webhook : Webhook} {now : Int} {secret : List UInt8} {bounds : WebhookBounds}
    {store store' : DeliveryReplayStore} {e : Error}
    (raised : verifyHmacWebhook mac webhook now secret bounds store = (.error e, store')) :
    isAscii webhook.signature = false := by
  unfold verifyHmacWebhook at raised
  cases refused : refusal webhook now secret bounds with
  | some code =>
      rw [refused] at raised
      cases raised
  | none =>
      rw [refused] at raised
      dsimp only at raised
      unfold compareDigest at raised
      rw [expected_ascii, Bool.true_and] at raised
      cases ascii : isAscii webhook.signature with
      | false => rfl
      | true =>
          exfalso
          rw [if_pos ascii, Call.bind_of_ok (Call.lift_apply _ _)] at raised
          split at raised
          · cases raised
          · have claims := claim_replayKey webhook store
            by_cases claimed : webhook.replayKey ∈ store.deliveryIds
            · rw [if_pos claimed] at claims
              rw [Call.bind_of_ok claims] at raised
              cases raised
            · rw [if_neg claimed] at claims
              rw [Call.bind_of_ok claims] at raised
              cases raised

theorem tryCandidates_answers (mac : HmacSha256) (webhook : Webhook) (now maxSkewSeconds : Int) (secrets : List (List UInt8))
    (store : DeliveryReplayStore) :
    Answers webhook (∃ secret ∈ secrets, Genuine mac webhook now { maxSkewSeconds } secret) store
      (tryCandidates mac webhook now maxSkewSeconds secrets store).1 (tryCandidates mac webhook now maxSkewSeconds secrets store).2 := by
  induction secrets with
  | nil =>
      refine .refused (fun ⟨_, member, _⟩ => nomatch member) ?_
      rintro _ ⟨⟩
      exact ⟨rfl, nofun⟩
  | cons secret rest ih =>
      have first := verifyHmacWebhook_answers mac webhook now secret { maxSkewSeconds } store
      unfold tryCandidates
      rcases outcome : verifyHmacWebhook mac webhook now secret { maxSkewSeconds } store with ⟨result, left⟩
      rw [outcome] at first
      cases first with
      | replayed signed claimed =>
          rw [Call.bind_of_ok outcome]
          exact .replayed ⟨secret, List.mem_cons_self, signed⟩ claimed
      | accepted signed new =>
          rw [Call.bind_of_ok outcome]
          exact .accepted ⟨secret, List.mem_cons_self, signed⟩ new
      | refused forged refusing =>
          cases result with
          | error e =>
              rw [Call.bind_of_error outcome]
              refine .refused ?_ (fun _ raised => nomatch raised)
              rintro ⟨other, -, genuine⟩
              have ascii := verifyHmacWebhook_error outcome
              rw [genuine.2, expected_ascii] at ascii
              cases ascii
          | ok decision =>
              obtain ⟨unaccepted, unclaimed⟩ := refusing decision rfl
              rw [Call.bind_of_ok outcome, if_neg (by simp [unaccepted, unclaimed])]
              simpa only [List.mem_cons, exists_eq_or_imp, forged, false_or] using ih

end SentinelEdge.Qualification
