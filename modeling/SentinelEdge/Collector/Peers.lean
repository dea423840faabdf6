import SentinelEdge.Foundation.Call
import SentinelEdge.Foundation.Dict
import SentinelEdge.Foundation.Run
import SentinelEdge.Security.Hmac

/-! # Peers

`PeerTrustRegistry` takes a message of an enrolled peer once, and of a revoked peer
never. A trigger of several nodes asks for two such results; that they are of two
peers it does not ask.
-/

namespace SentinelEdge.Collector

open Foundation Domain Security

structure PeerIdentity where
  peerId : String
  issuer : String := "local-root"
  enrollmentMethod : String := "pre_shared_key"
  revoked : Bool := false
  deriving DecidableEq

inductive PeerReason where
  | unknownPeer | peerRevoked | replayRejected | authenticationFailed | authenticated
  deriving DecidableEq, Repr

structure PeerVerification where
  peerId : String
  authenticated : Bool
  transportIntegrity : Bool
  replayed : Bool
  reasonCode : PeerReason
  deriving DecidableEq, Repr

structure PeerTrustRegistry where
  keys : Dict String (List UInt8)
  identities : Dict String PeerIdentity
  seen : Dict String Int := Dict.empty

namespace PeerTrustRegistry

/-- `PeerTrustRegistry(peers)` -/
def make (peers : Dict String (List UInt8)) : PeerTrustRegistry where
  keys := peers
  identities := Dict.ofList PeerIdentity.peerId (peers.keys.map fun peer => { peerId := peer })

def identity (peerId : String) : Call PeerTrustRegistry Error PeerIdentity := do
  let some identity ← Call.read fun registry => registry.identities.get? peerId
    | Call.raise (.valueError "unknown_peer")
  return identity

def revoke (peerId : String) : Call PeerTrustRegistry Error Unit := do
  let _ ← identity peerId
  Call.modify fun registry =>
    { registry with identities := registry.identities.insert peerId { peerId := peerId, revoked := true } }

/-- The document that a message is signed over. -/
def body (peerId : String) (sequence : Int) (payload : Json) : Json :=
  .obj [("payload", payload), ("peer_id", .str peerId), ("sequence", .int sequence)]

variable (mac : HmacSha256) (dumps : Json → Except Error (List UInt8))

def sign (registry : PeerTrustRegistry) (peerId : String) (sequence : Int) (payload : Json) : Except Error String := do
  let some key := registry.keys.get? peerId | .error (.keyError peerId)
  let body ← dumps (body peerId sequence payload)
  return mac.hexdigest key body

def verify (peerId : String) (sequence : Int) (payload : Json) (code : String) :
    Call PeerTrustRegistry Error PeerVerification := fun registry =>
  if registry.keys.get? peerId = none then (.ok ⟨peerId, false, false, false, .unknownPeer⟩, registry)
  else match registry.identities.get? peerId with
  | none => (.error (.keyError peerId), registry)
  | some identity =>
      if identity.revoked then (.ok ⟨peerId, false, false, false, .peerRevoked⟩, registry)
      else if sequence ≤ (registry.seen.get? peerId).getD (-1) then (.ok ⟨peerId, false, true, true, .replayRejected⟩, registry)
      else match sign mac dumps registry peerId sequence payload with
      | .error e => (.error e, registry)
      | .ok expected => match compareDigest expected code with
        | .error e => (.error e, registry)
        | .ok false => (.ok ⟨peerId, false, true, false, .authenticationFailed⟩, registry)
        | .ok true => (.ok ⟨peerId, true, true, false, .authenticated⟩,
            { registry with seen := registry.seen.insert peerId sequence })

/-- `multi_node_trigger_allowed`, which reads nothing of the registry. -/
def multiNodeTriggerAllowed (verifications : List PeerVerification) : Bool :=
  2 ≤ verifications.length && verifications.all fun item => item.authenticated && !item.replayed

end PeerTrustRegistry

inductive PeerOperation where
  | verify (peerId : String) (sequence : Int) (payload : Json) (code : String)
  | revoke (peerId : String)

/-- What a call that returned has done. -/
inductive PeerEvent where
  | verified (peerId : String) (sequence : Int) (result : PeerVerification)
  | revoked (peerId : String)
  deriving DecidableEq

namespace PeerTrustRegistry

variable (mac : HmacSha256) (dumps : Json → Except Error (List UInt8))

def step (registry : PeerTrustRegistry) : PeerOperation → PeerTrustRegistry
  | .verify peerId sequence payload code => (verify mac dumps peerId sequence payload code registry).2
  | .revoke peerId => (revoke peerId registry).2

def returned (registry : PeerTrustRegistry) : PeerOperation → List PeerEvent
  | .verify peerId sequence payload code => match (verify mac dumps peerId sequence payload code registry).1 with
      | .ok result => [.verified peerId sequence result]
      | .error _ => []
  | .revoke peerId => match (revoke peerId registry).1 with
      | .ok _ => [.revoked peerId]
      | .error _ => []

/-- A result that a message of the peer was authentic, the first with a number so high,
    before any revocation. -/
def Attested (peers : Dict String (List UInt8)) (events : List PeerEvent) (result : PeerVerification) : Prop :=
  result.authenticated = true ∧ (peers.get? result.peerId).isSome ∧
    ∃ before sequence after, events = before ++ .verified result.peerId sequence result :: after ∧
      .revoked result.peerId ∉ before ∧
      ∀ lower earlier, .verified result.peerId lower earlier ∈ before → earlier.authenticated = true → lower < sequence

/-- The results are of two peers at least. -/
def TwoPeers (peers : Dict String (List UInt8)) (events : List PeerEvent) (verifications : List PeerVerification) : Prop :=
  ∃ a ∈ verifications, ∃ b ∈ verifications, a.peerId ≠ b.peerId ∧ Attested peers events a ∧ Attested peers events b

/-- Several results that the trigger counts, all of one peer. -/
def AllOfOnePeer (verifications : List PeerVerification) : Prop :=
  2 ≤ verifications.length ∧ ∃ peerId, ∀ item ∈ verifications,
    item.peerId = peerId ∧ item.authenticated = true ∧ item.replayed = false

variable {mac : HmacSha256} {dumps : Json → Except Error (List UInt8)}

/-- The ways a verification can end. -/
inductive Verifies (registry : PeerTrustRegistry) (peerId : String) (sequence : Int) :
    Except Error PeerVerification → PeerTrustRegistry → Prop where
  | refused {result : Except Error PeerVerification}
      (refusing : ∀ item, result = .ok item → item.peerId = peerId ∧ item.authenticated = false) :
      Verifies registry peerId sequence result registry
  | authenticated (registered : (registry.keys.get? peerId).isSome)
      (trusted : ∀ identity, registry.identities.get? peerId = some identity → identity.revoked = false)
      (higher : (registry.seen.get? peerId).getD (-1) < sequence) :
      Verifies registry peerId sequence (.ok ⟨peerId, true, true, false, .authenticated⟩)
        { registry with seen := registry.seen.insert peerId sequence }

theorem verify_verifies (mac : HmacSha256) (dumps : Json → Except Error (List UInt8)) (registry : PeerTrustRegistry) (peerId : String) (sequence : Int) (payload : Json) (code : String) :
    Verifies registry peerId sequence (verify mac dumps peerId sequence payload code registry).1
      (verify mac dumps peerId sequence payload code registry).2 := by
  have refused : ∀ item : PeerVerification, item.peerId = peerId → item.authenticated = false →
      Verifies registry peerId sequence (.ok item) registry := by
    intro item named unauthenticated
    refine .refused ?_
    rintro _ ⟨⟩
    exact ⟨named, unauthenticated⟩
  have raised : ∀ e, Verifies registry peerId sequence (.error e) registry := fun e => .refused nofun
  unfold verify
  by_cases unknown : registry.keys.get? peerId = none
  · rw [if_pos unknown]
    exact refused _ rfl rfl
  rw [if_neg unknown]
  cases found : registry.identities.get? peerId with
  | none => exact raised _
  | some identity =>
      dsimp only
      cases revoked : identity.revoked with
      | true => exact refused _ rfl rfl
      | false =>
          rw [if_neg (by decide)]
          split
          · exact refused _ rfl rfl
          · next higher =>
              cases sign mac dumps registry peerId sequence payload with
              | error e => exact raised e
              | ok expected =>
                  dsimp only
                  cases compareDigest expected code with
                  | error e => exact raised e
                  | ok same =>
                      cases same with
                      | false => exact refused _ rfl rfl
                      | true =>
                          refine .authenticated (Option.isSome_iff_ne_none.mpr unknown) ?_ (Int.not_le.mp higher)
                          intro other known
                          rw [found] at known
                          cases known
                          exact revoked

theorem revoke_eq (registry : PeerTrustRegistry) (peerId : String) :
    ((revoke peerId registry).1 = .ok () ∧ (revoke peerId registry).2 =
      { registry with identities := registry.identities.insert peerId { peerId := peerId, revoked := true } }) ∨
    ∃ e, revoke peerId registry = (.error e, registry) := by
  unfold revoke
  cases found : registry.identities.get? peerId with
  | some known =>
      have looked : identity peerId registry = (.ok known, registry) := by rw [identity, Call.read_bind, found]; rfl
      rw [Call.bind_of_ok looked]
      exact .inl ⟨rfl, rfl⟩
  | none =>
      have looked : identity peerId registry = (.error (.valueError "unknown_peer"), registry) := by
        rw [identity, Call.read_bind, found]; rfl
      exact .inr ⟨_, Call.bind_of_error looked⟩

/-- What the registry remembers of the calls that returned. -/
structure Remembers (peers : Dict String (List UInt8)) (x : PeerTrustRegistry × List PeerEvent) : Prop where
  keys : x.1.keys = peers
  revoked : ∀ peerId, .revoked peerId ∈ x.2 → ∃ identity, x.1.identities.get? peerId = some identity ∧ identity.revoked = true
  seen : ∀ peerId sequence result, .verified peerId sequence result ∈ x.2 → result.authenticated = true →
    sequence ≤ (x.1.seen.get? peerId).getD (-1)

/-- The registry with the calls that returned so far. -/
abbrev trusting (mac : HmacSha256) (dumps : Json → Except Error (List UInt8)) :
    PeerTrustRegistry × List PeerEvent → PeerOperation → PeerTrustRegistry × List PeerEvent :=
  traced (step mac dumps) (returned mac dumps)

/-- A peer is believed with higher numbers alone, and never after its revocation. -/
def Orderly (earlier later : PeerEvent) : Prop :=
  ∀ peerId sequence result, later = .verified peerId sequence result → result.authenticated = true →
    earlier ≠ .revoked peerId ∧
    ∀ lower before, earlier = .verified peerId lower before → before.authenticated = true → lower < sequence

/-- The ways a call can add to the events. -/
inductive Adds (registry : PeerTrustRegistry) : PeerTrustRegistry → List PeerEvent → Prop where
  | nothing : Adds registry registry []
  | refused (peerId : String) (sequence : Int) (result : PeerVerification) (named : result.peerId = peerId)
      (refused : result.authenticated = false) : Adds registry registry [.verified peerId sequence result]
  | authenticated (peerId : String) (sequence : Int) (registered : (registry.keys.get? peerId).isSome)
      (trusted : ∀ identity, registry.identities.get? peerId = some identity → identity.revoked = false)
      (higher : (registry.seen.get? peerId).getD (-1) < sequence) :
      Adds registry { registry with seen := registry.seen.insert peerId sequence }
        [.verified peerId sequence ⟨peerId, true, true, false, .authenticated⟩]
  | revoked (peerId : String) : Adds registry
      { registry with identities := registry.identities.insert peerId { peerId := peerId, revoked := true } } [.revoked peerId]

theorem step_adds (mac : HmacSha256) (dumps : Json → Except Error (List UInt8)) (registry : PeerTrustRegistry) (op : PeerOperation) :
    Adds registry (step mac dumps registry op) (returned mac dumps registry op) := by
  cases op with
  | verify peerId sequence payload code =>
      have verifies := verify_verifies mac dumps registry peerId sequence payload code
      unfold step returned
      dsimp only
      generalize (verify mac dumps peerId sequence payload code registry).1 = result at verifies ⊢
      generalize (verify mac dumps peerId sequence payload code registry).2 = left at verifies ⊢
      cases verifies with
      | authenticated registered trusted higher => exact .authenticated peerId sequence registered trusted higher
      | refused refusing =>
          cases result with
          | error e => exact .nothing
          | ok item => exact .refused peerId sequence item (refusing item rfl).1 (refusing item rfl).2
  | revoke peerId =>
      unfold step returned
      dsimp only
      cases revoke_eq registry peerId with
      | inl done =>
          rw [done.1, done.2]
          exact .revoked peerId
      | inr raised =>
          obtain ⟨e, raised⟩ := raised
          rw [raised]
          exact .nothing

theorem remembers_step {peers : Dict String (List UInt8)} {x : PeerTrustRegistry × List PeerEvent} (op : PeerOperation)
    (remembers : Remembers peers x) : Remembers peers (trusting mac dumps x op) := by
  obtain ⟨registry, events⟩ := x
  obtain ⟨keys, revoked, seen⟩ := remembers
  have adds := step_adds mac dumps registry op
  unfold trusting traced
  dsimp only at keys revoked seen ⊢
  generalize step mac dumps registry op = left at adds ⊢
  generalize returned mac dumps registry op = new at adds ⊢
  cases adds with
  | nothing =>
      rw [List.append_nil]
      exact ⟨keys, revoked, seen⟩
  | refused peerId sequence result named refused =>
      refine ⟨keys, ?_, ?_⟩
      · intro other member
        exact revoked other (by simpa using member)
      · intro other higher item member authenticated
        cases List.mem_append.mp member with
        | inl old => exact seen other higher item old authenticated
        | inr new =>
            cases List.mem_singleton.mp new
            rw [refused] at authenticated
            cases authenticated
  | authenticated peerId sequence registered trusted higher =>
      refine ⟨keys, ?_, ?_⟩
      · intro other member
        exact revoked other (by simpa using member)
      · intro other number item member authenticated
        dsimp only
        rw [Dict.get?_insert]
        cases List.mem_append.mp member with
        | inl old =>
            have bound := seen other number item old authenticated
            split
            · next same =>
                rw [same] at bound
                exact (bound.trans_lt higher).le
            · exact bound
        | inr new =>
            cases List.mem_singleton.mp new
            rw [if_pos rfl]
            exact le_rfl
  | revoked peerId =>
      refine ⟨keys, ?_, ?_⟩
      · intro other member
        dsimp only
        rw [Dict.get?_insert]
        split
        · exact ⟨_, rfl, rfl⟩
        · next different =>
            refine revoked other ?_
            cases List.mem_append.mp member with
            | inl old => exact old
            | inr new =>
                cases List.mem_singleton.mp new
                exact absurd rfl different
      · intro other number item member authenticated
        exact seen other number item (by simpa using member) authenticated

theorem returned_orderly {peers : Dict String (List UInt8)} {x : PeerTrustRegistry × List PeerEvent} (op : PeerOperation)
    (remembers : Remembers peers x) : EmitsAfter (returned mac dumps) Orderly x op := by
  obtain ⟨registry, events⟩ := x
  obtain ⟨-, revoked, seen⟩ := remembers
  have adds := step_adds mac dumps registry op
  unfold EmitsAfter
  dsimp only at revoked seen ⊢
  generalize step mac dumps registry op = left at adds
  generalize returned mac dumps registry op = new at adds ⊢
  cases adds with
  | nothing => exact ⟨List.Pairwise.nil, fun _ _ _ none => nomatch none⟩
  | refused peerId sequence result named refused =>
      refine ⟨List.pairwise_singleton _ _, ?_⟩
      intro earlier _ later new other higher item shape authenticated
      rw [List.mem_singleton.mp new] at shape
      cases shape
      rw [refused] at authenticated
      cases authenticated
  | revoked peerId =>
      refine ⟨List.pairwise_singleton _ _, ?_⟩
      intro earlier _ later new other higher item shape authenticated
      rw [List.mem_singleton.mp new] at shape
      cases shape
  | authenticated peerId sequence registered trusted higher =>
      refine ⟨List.pairwise_singleton _ _, ?_⟩
      intro earlier old later new other number item shape authenticated
      rw [List.mem_singleton.mp new] at shape
      cases shape
      constructor
      · rintro rfl
        obtain ⟨identity, found, revoked⟩ := revoked peerId old
        rw [trusted identity found] at revoked
        cases revoked
      · rintro lower before rfl authenticated
        exact (seen peerId lower before old authenticated).trans_lt higher

/-- A result names the peer that was verified, and an authentic one is of a registered peer. -/
def Known (peers : Dict String (List UInt8)) (event : PeerEvent) : Prop :=
  ∀ peerId sequence result, event = .verified peerId sequence result → result.authenticated = true →
    result.peerId = peerId ∧ (peers.get? peerId).isSome

theorem returned_known {peers : Dict String (List UInt8)} {x : PeerTrustRegistry × List PeerEvent} (op : PeerOperation)
    (remembers : Remembers peers x) : ∀ event ∈ returned mac dumps x.1 op, Known peers event := by
  have adds := step_adds mac dumps x.1 op
  have keys := remembers.keys
  generalize step mac dumps x.1 op = left at adds
  generalize returned mac dumps x.1 op = new at adds ⊢
  intro event member peerId sequence result shape authenticated
  cases adds with
  | nothing => cases member
  | refused _ _ _ named refused =>
      rw [List.mem_singleton.mp member] at shape
      cases shape
      rw [refused] at authenticated
      cases authenticated
  | authenticated _ _ registered trusted higher =>
      rw [List.mem_singleton.mp member] at shape
      cases shape
      exact ⟨rfl, keys ▸ registered⟩
  | revoked _ =>
      rw [List.mem_singleton.mp member] at shape
      cases shape

theorem remembers_make (peers : Dict String (List UInt8)) : Remembers peers (make peers, []) where
  keys := rfl
  revoked _ member := nomatch member
  seen _ _ _ member := nomatch member

theorem all_known (mac : HmacSha256) (dumps : Json → Except Error (List UInt8)) (peers : Dict String (List UInt8)) (ops : List PeerOperation) :
    ∀ event ∈ (run (trusting mac dumps) (make peers, []) ops).2, Known peers event := by
  have keeps : ∀ x op, Remembers peers x ∧ (∀ event ∈ x.2, Known peers event) →
      Remembers peers (trusting mac dumps x op) ∧ ∀ event ∈ (trusting mac dumps x op).2, Known peers event := by
    rintro x op ⟨remembers, known⟩
    refine ⟨remembers_step op remembers, ?_⟩
    intro event member
    cases List.mem_append.mp member with
    | inl old => exact known event old
    | inr new => exact returned_known op remembers event new
  exact (run_invariant keeps ⟨remembers_make peers, fun _ none => nomatch none⟩ ops).2

/-- All that a registry answers for an authentic message is attested by its calls. -/
theorem attested_of_authenticated {peers : Dict String (List UInt8)} {ops : List PeerOperation}
    {peerId : String} {sequence : Int} {result : PeerVerification}
    (given : .verified peerId sequence result ∈ (run (trusting mac dumps) (make peers, []) ops).2)
    (authenticated : result.authenticated = true) :
    Attested peers (run (trusting mac dumps) (make peers, []) ops).2 result := by
  have orderly : (run (trusting mac dumps) (make peers, []) ops).2.Pairwise Orderly :=
    trace_pairwise (fun _ op => remembers_step op) (fun _ op => returned_orderly op) (remembers_make peers) List.Pairwise.nil ops
  have known := all_known mac dumps peers ops
  obtain ⟨before, after, split⟩ := List.append_of_mem given
  obtain ⟨rfl, registered⟩ := known _ given peerId sequence result rfl authenticated
  rw [split, List.pairwise_append] at orderly
  have earlier : ∀ event ∈ before, Orderly event (.verified result.peerId sequence result) :=
    fun event member => orderly.2.2 event member _ List.mem_cons_self
  refine ⟨authenticated, registered, before, sequence, after, split, ?_, ?_⟩
  · intro revoked
    exact (earlier _ revoked result.peerId sequence result rfl authenticated).1 rfl
  · intro lower item member believed
    exact (earlier _ member result.peerId sequence result rfl authenticated).2 lower item rfl believed

/-- The trigger has two peers behind it, unless all the results it counts are of one. -/
theorem trigger_has_two_peers_iff {peers : Dict String (List UInt8)} {ops : List PeerOperation}
    {verifications : List PeerVerification}
    (given : ∀ item ∈ verifications, ∃ peerId sequence, .verified peerId sequence item ∈
      (run (trusting mac dumps) (make peers, []) ops).2) :
    (multiNodeTriggerAllowed verifications = true →
        TwoPeers peers (run (trusting mac dumps) (make peers, []) ops).2 verifications) ↔
      ¬ AllOfOnePeer verifications := by
  have counted : multiNodeTriggerAllowed verifications = true ↔
      2 ≤ verifications.length ∧ ∀ item ∈ verifications, item.authenticated = true ∧ item.replayed = false := by
    simp [multiNodeTriggerAllowed]
  rw [counted]
  constructor
  · rintro two ⟨several, peerId, all⟩
    obtain ⟨a, hereA, b, hereB, apart, -⟩ := two ⟨several, fun item member => (all item member).2⟩
    exact apart ((all a hereA).1.trans (all b hereB).1.symm)
  · rintro mixed ⟨several, all⟩
    have attested : ∀ item ∈ verifications, Attested peers (run (trusting mac dumps) (make peers, []) ops).2 item := by
      intro item member
      obtain ⟨peerId, sequence, returned⟩ := given item member
      exact attested_of_authenticated returned (all item member).1
    obtain ⟨first, here⟩ := List.exists_mem_of_length_pos (Nat.zero_lt_of_lt several)
    by_contra alone
    refine mixed ⟨several, first.peerId, ?_⟩
    intro item member
    refine ⟨?_, all item member⟩
    by_contra apart
    exact alone ⟨item, member, first, here, apart, attested item member, attested first here⟩

/-- A registry of two nodes, to evaluate on. -/
def nodes : Dict String (List UInt8) := (Dict.empty.insert "node-a" (encode "a-secret")).insert "node-b" (encode "b-secret")

/-- `json.dumps(...).encode()` for documents without escapes. -/
def compact (document : Json) : Except Error (List UInt8) :=
  .ok (document.chars.map fun c => UInt8.ofNat c.toNat)

/-- A message that a peer signed. -/
def signedMessage (peerId : String) (sequence : Int) (payload : Json) : PeerOperation :=
  .verify peerId sequence payload ((sign HmacSha256.mixing compact (make nodes) peerId sequence payload).toOption.getD "")

def believed (peerId : String) : PeerVerification := ⟨peerId, true, true, false, .authenticated⟩

/-- One result, twice in the tuple, is enough for the trigger. -/
theorem trigger_by_one_peer :
    let events := (run (trusting HmacSha256.mixing compact) (make nodes, [])
      [signedMessage "node-a" 1 (.obj [("trigger", .bool true)])]).2
    events = [.verified "node-a" 1 (believed "node-a")] ∧
      multiNodeTriggerAllowed [believed "node-a", believed "node-a"] = true ∧
      ¬ TwoPeers nodes events [believed "node-a", believed "node-a"] := by
  refine ⟨by decide +kernel, by decide, ?_⟩
  rintro ⟨a, hereA, b, hereB, apart, -⟩
  simp only [List.mem_cons, List.not_mem_nil, or_false, or_self] at hereA hereB
  exact apart (by rw [hereA, hereB])

theorem trigger_of_two_nodes :
    let events := (run (trusting HmacSha256.mixing compact) (make nodes, [])
      [signedMessage "node-a" 1 (.obj [("trigger", .bool true)]), signedMessage "node-b" 4 (.obj [("trigger", .bool true)])]).2
    (multiNodeTriggerAllowed [believed "node-a", believed "node-b"] = true →
        TwoPeers nodes events [believed "node-a", believed "node-b"]) ↔
      ¬ AllOfOnePeer [believed "node-a", believed "node-b"] := by
  refine trigger_has_two_peers_iff ?_
  have returned : (run (trusting HmacSha256.mixing compact) (make nodes, [])
      [signedMessage "node-a" 1 (.obj [("trigger", .bool true)]), signedMessage "node-b" 4 (.obj [("trigger", .bool true)])]).2 =
      [.verified "node-a" 1 (believed "node-a"), .verified "node-b" 4 (believed "node-b")] := by decide +kernel
  rw [returned]
  intro item member
  simp only [List.mem_cons, List.not_mem_nil, or_false] at member
  obtain rfl | rfl := member
  · exact ⟨"node-a", 1, by simp⟩
  · exact ⟨"node-b", 4, by simp⟩

end PeerTrustRegistry

end SentinelEdge.Collector
