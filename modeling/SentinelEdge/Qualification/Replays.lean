import SentinelEdge.Qualification.Webhooks

/-! # Webhooks that are accepted twice

In a run of verifications that share one store no delivery of a provider is accepted
twice. A signed webhook is, wherever it comes again in order under a delivery that
nobody has claimed.
-/

namespace SentinelEdge.Qualification

open Foundation Domain Security

/-- The two calls that verify a webhook. -/
inductive WebhookOperation where
  | verifyHmacWebhook (webhook : Webhook) (now : Int) (secret : List UInt8) (bounds : WebhookBounds)
  | verifyHmacWebhookWithKeyring (webhook : Webhook) (now maxSkewSeconds : Int) (keyring : WebhookKeyRing)

namespace WebhookOperation

def webhook : WebhookOperation → Webhook
  | verifyHmacWebhook webhook _ _ _ => webhook
  | verifyHmacWebhookWithKeyring webhook _ _ _ => webhook

variable (mac : HmacSha256)

/-- What the call answers, and the store it leaves. -/
def perform : WebhookOperation → DeliveryReplayStore → Except Error WebhookDecision × DeliveryReplayStore
  | verifyHmacWebhook webhook now secret bounds, store => Qualification.verifyHmacWebhook mac webhook now secret bounds store
  | verifyHmacWebhookWithKeyring webhook now maxSkewSeconds keyring, store =>
      let outcome := Qualification.verifyHmacWebhookWithKeyring mac webhook now maxSkewSeconds (store, keyring)
      (outcome.1, outcome.2.1)

/-- The request is in order: it passes every check before the claim of its delivery, under
    one of the keys in force. -/
def InOrder : WebhookOperation → Prop
  | verifyHmacWebhook webhook now secret bounds => Genuine mac webhook now bounds secret
  | verifyHmacWebhookWithKeyring webhook now maxSkewSeconds keyring =>
      ∃ secret ∈ keyring.inForce now, Genuine mac webhook now { maxSkewSeconds } secret

instance : ∀ op, Decidable (InOrder mac op)
  | verifyHmacWebhook webhook now secret bounds => inferInstanceAs (Decidable (Genuine mac webhook now bounds secret))
  | verifyHmacWebhookWithKeyring webhook now maxSkewSeconds keyring =>
      inferInstanceAs (Decidable (∃ secret ∈ keyring.inForce now, Genuine mac webhook now { maxSkewSeconds } secret))

variable {mac}

theorem perform_answers (mac : HmacSha256) (op : WebhookOperation) (store : DeliveryReplayStore) :
    Answers op.webhook (op.InOrder mac) store (op.perform mac store).1 (op.perform mac store).2 := by
  cases op with
  | verifyHmacWebhook webhook now secret bounds => exact verifyHmacWebhook_answers mac webhook now secret bounds store
  | verifyHmacWebhookWithKeyring webhook now maxSkewSeconds keyring =>
      have answers := tryCandidates_answers mac webhook now maxSkewSeconds (keyring.inForce now) store
      have candidates : Call.zoom Prod.snd (fun s ring => (s.1, ring)) (WebhookKeyRing.candidates now) (store, keyring) =
          (.ok (keyring.inForce now), (store, (WebhookKeyRing.candidates now keyring).2)) :=
        Call.zoom_of_eq (keyring.candidates_eq now)
      simp only [perform, Qualification.verifyHmacWebhookWithKeyring]
      rw [Call.bind_of_ok candidates]
      exact answers

end WebhookOperation

variable (mac : HmacSha256)

def step (store : DeliveryReplayStore) (op : WebhookOperation) : DeliveryReplayStore := (op.perform mac store).2

/-- The webhook of a call that accepts it. -/
def acceptance (store : DeliveryReplayStore) (op : WebhookOperation) : List Webhook :=
  match (op.perform mac store).1 with
  | .ok decision => if decision.accepted then [op.webhook] else []
  | .error _ => []

/-- The store with the webhooks accepted so far. -/
abbrev verifying : DeliveryReplayStore × List Webhook → WebhookOperation → DeliveryReplayStore × List Webhook :=
  traced (step mac) (acceptance mac)

variable {mac}

theorem acceptance_eq (store : DeliveryReplayStore) (op : WebhookOperation) :
    acceptance mac store op =
      if op.InOrder mac ∧ op.webhook.replayKey ∉ store.deliveryIds then [op.webhook] else [] := by
  have answers := op.perform_answers mac store
  unfold acceptance
  generalize (op.perform mac store).1 = result at answers ⊢
  generalize (op.perform mac store).2 = left at answers
  cases answers with
  | accepted signed new =>
      rw [if_pos ⟨signed, new⟩]
      rfl
  | replayed signed claimed =>
      rw [if_neg (fun fresh => fresh.2 claimed)]
      rfl
  | refused forged refusing =>
      rw [if_neg (fun fresh => forged fresh.1)]
      cases result with
      | error e => rfl
      | ok decision => exact if_neg (by simp [(refusing decision rfl).1])

/-- Only an acceptance changes the store, and it claims the delivery. -/
theorem step_deliveryIds (store : DeliveryReplayStore) (op : WebhookOperation) :
    (step mac store op).deliveryIds = (acceptance mac store op).map Webhook.replayKey ++ store.deliveryIds := by
  rw [acceptance_eq]
  have answers := op.perform_answers mac store
  unfold step
  generalize (op.perform mac store).1 = result at answers
  generalize (op.perform mac store).2 = left at answers ⊢
  cases answers with
  | accepted signed new => rw [if_pos ⟨signed, new⟩, List.map_singleton, List.singleton_append]
  | replayed signed claimed => rw [if_neg (fun fresh => fresh.2 claimed), List.map_nil, List.nil_append]
  | refused forged refusing => rw [if_neg (fun fresh => forged fresh.1), List.map_nil, List.nil_append]

/-- No delivery of a provider is accepted twice. -/
theorem delivery_accepted_once (store : DeliveryReplayStore) (ops : List WebhookOperation) :
    ((run (verifying mac) (store, []) ops).2.map Webhook.replayKey).Nodup := by
  let Claimed : DeliveryReplayStore × List Webhook → Prop := fun x =>
    (x.2.map Webhook.replayKey).Nodup ∧ ∀ webhook ∈ x.2, webhook.replayKey ∈ x.1.deliveryIds
  have keeps : ∀ x op, Claimed x → Claimed (verifying mac x op) := by
    rintro ⟨store, accepted⟩ op ⟨once, claimed⟩
    show ((accepted ++ acceptance mac store op).map Webhook.replayKey).Nodup ∧
      ∀ webhook ∈ accepted ++ acceptance mac store op, webhook.replayKey ∈ (step mac store op).deliveryIds
    rw [step_deliveryIds, acceptance_eq]
    split
    · next fresh =>
        constructor
        · rw [List.map_append, List.nodup_append]
          refine ⟨once, List.nodup_singleton _, ?_⟩
          intro key old _ same equal
          obtain ⟨webhook, member, rfl⟩ := List.mem_map.mp old
          rw [List.mem_singleton.mp same] at equal
          exact fresh.2 (equal ▸ claimed webhook member)
        · intro webhook member
          cases List.mem_append.mp member with
          | inl old => exact List.mem_append_right _ (claimed webhook old)
          | inr new => exact List.mem_append_left _ (List.mem_map_of_mem new)
    · simpa using ⟨once, claimed⟩
  have start : Claimed (store, []) := ⟨List.nodup_nil, fun _ none => nomatch none⟩
  exact (run_invariant keeps start ops).1

/-- A webhook that was accepted does not come again in order under a delivery that
    nobody has claimed. -/
def NoNewDelivery (mac : HmacSha256) (x : DeliveryReplayStore × List Webhook) (op : WebhookOperation) : Prop :=
  op.InOrder mac → op.webhook.signed ∈ x.2.map Webhook.signed → op.webhook.replayKey ∈ x.1.deliveryIds

instance (x : DeliveryReplayStore × List Webhook) (op : WebhookOperation) : Decidable (NoNewDelivery mac x op) :=
  inferInstanceAs (Decidable (_ → _))

theorem emitsAfter_iff (x : DeliveryReplayStore × List Webhook) (op : WebhookOperation) :
    EmitsAfter (acceptance mac) (fun a b => a.signed ≠ b.signed) x op ↔ NoNewDelivery mac x op := by
  unfold EmitsAfter NoNewDelivery
  rw [acceptance_eq]
  by_cases fresh : op.InOrder mac ∧ op.webhook.replayKey ∉ x.1.deliveryIds
  · rw [if_pos fresh]
    constructor
    · rintro ⟨-, after⟩ _ before
      obtain ⟨earlier, member, same⟩ := List.mem_map.mp before
      exact absurd same (after earlier member _ (List.mem_singleton_self _))
    · intro claimed
      refine ⟨List.pairwise_singleton _ _, ?_⟩
      intro earlier member later new same
      rw [List.mem_singleton.mp new] at same
      exact fresh.2 (claimed fresh.1 (List.mem_map.mpr ⟨earlier, member, same⟩))
  · rw [if_neg fresh]
    refine iff_of_true ⟨List.Pairwise.nil, fun _ _ _ new => nomatch new⟩ ?_
    intro inOrder _
    by_contra new
    exact fresh ⟨inOrder, new⟩

/-- Each signed webhook is accepted at most once exactly when none comes again, in order,
    under a delivery that nobody has claimed. -/
theorem accepted_once_iff (store : DeliveryReplayStore) (ops : List WebhookOperation) :
    ((run (verifying mac) (store, []) ops).2.map Webhook.signed).Nodup ↔
      Meets (verifying mac) (NoNewDelivery mac) (store, []) ops := by
  have ordered : ([] : List Webhook).Pairwise fun a b => a.signed ≠ b.signed := List.Pairwise.nil
  unfold List.Nodup
  rw [List.pairwise_map]
  refine (trace_pairwise_iff (x := (store, [])) ordered ops).trans ?_
  exact Meets.congr (I := fun _ => True) (fun x op _ => emitsAfter_iff x op) (fun _ _ _ _ => trivial) trivial ops

/-- A webhook signed once. -/
def observedWebhook (deliveryId : String) : Webhook where
  rawBody := encode "report"
  provider := "provider"
  deliveryId := deliveryId
  timestamp := 1700000000
  signature := "sha256=" ++ HmacSha256.mixing.hexdigest (encode "provider-secret") (encode "1700000000.report")

/-- The same signature is accepted under a second delivery id. -/
theorem accepted_under_two_deliveries :
    let present := fun deliveryId => WebhookOperation.verifyHmacWebhook (observedWebhook deliveryId) 1700000001
      (encode "provider-secret") {}
    let accepted := (run (verifying HmacSha256.mixing) (DeliveryReplayStore.fresh, []) [present "d-1", present "d-2"]).2
    accepted.length = 2 ∧ ¬ (accepted.map Webhook.signed).Nodup := by
  decide +kernel

end SentinelEdge.Qualification
