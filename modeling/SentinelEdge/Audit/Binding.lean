import SentinelEdge.Audit.Checkpoints
import SentinelEdge.Foundation.HashChain
import SentinelEdge.Foundation.Numbering
import SentinelEdge.Security.KeyStates

/-! # A checkpoint binds the journal prefix it was made over

What the chain sees of an entry is its summary. The root and the transcript are
functions of the summaries in order of position, and the root determines them,
so the chain check of `verify` passes exactly for journals with the same
summaries up to the head.
-/

namespace SentinelEdge.Audit

open Foundation Domain Security

variable {P : Platform}

/-- What a checkpoint binds of an entry. -/
structure Summary (P : Platform) where
  position : Int
  kind : AuthorityMutationKind
  entityId : String
  acceptedAt : DateTime
  payloadSha256 : P.Digest
  deriving DecidableEq

def AuthorityMutation.summary (P : Platform) (entry : AuthorityMutation) : Summary P where
  position := entry.position
  kind := entry.kind
  entityId := entry.entityId
  acceptedAt := entry.acceptedAt
  payloadSha256 := P.sha256 entry.payload

theorem kind_value_injective {a b : AuthorityMutationKind} (h : a.value = b.value) : a = b := by
  have decided : ∀ a ∈ AuthorityMutationKind.all, ∀ b ∈ AuthorityMutationKind.all, a.value = b.value → a = b := by
    decide +kernel
  have complete : ∀ a : AuthorityMutationKind, a ∈ AuthorityMutationKind.all := by
    intro a
    cases a <;> decide
  exact decided a (complete a) b (complete b) h

/-- The payload of an entry determines its summary, as texts of digests and of
    times are unambiguous. -/
theorem entryPayload_injective (hexdigest : Function.Injective P.hexdigest) (isoformat : Function.Injective P.isoformat)
    {a b : AuthorityMutation} (h : entryPayload P a = entryPayload P b) : a.summary P = b.summary P := by
  simp only [entryPayload, Dump.time, Json.obj.injEq, List.cons.injEq, Prod.mk.injEq, Json.str.injEq, Json.int.injEq,
    true_and, and_true] at h
  obtain ⟨accepted, entity, kind, payload, position⟩ := h
  simp only [AuthorityMutation.summary, position, entity, isoformat accepted, kind_value_injective kind,
    hexdigest payload]

/-! ## The chain of a list of entries -/

theorem chainFrom_root (previous : P.Digest) (entries : List AuthorityMutation) :
    (chainFrom P previous entries).1 = chainRoot P.sha256Chained previous (entries.map (entryPayload P)) := by
  induction entries generalizing previous with
  | nil => rfl
  | cons entry rest ih => exact ih _

theorem summary_payload {a b : AuthorityMutation} (h : a.summary P = b.summary P) :
    entryPayload P a = entryPayload P b ∧
      ∀ predecessor digest, transcriptEntry P a predecessor digest = transcriptEntry P b predecessor digest := by
  simp only [AuthorityMutation.summary, Summary.mk.injEq] at h
  obtain ⟨position, kind, entity, accepted, payload⟩ := h
  constructor
  · simp only [entryPayload, position, kind, entity, accepted, payload]
  · intro predecessor digest
    simp only [transcriptEntry, position, kind, entity, accepted, payload]

theorem chainFrom_congr {as bs : List AuthorityMutation} (previous : P.Digest)
    (h : as.map (AuthorityMutation.summary P) = bs.map (AuthorityMutation.summary P)) :
    chainFrom P previous as = chainFrom P previous bs := by
  induction as generalizing bs previous with
  | nil =>
      cases bs with
      | nil => rfl
      | cons b bs => cases h
  | cons a as ih =>
      cases bs with
      | nil => cases h
      | cons b bs =>
          obtain ⟨first, rest⟩ := List.cons.inj h
          obtain ⟨payload, listed⟩ := summary_payload first
          simp only [chainFrom, payload, listed, ih _ rest]

/-! ## Contiguous prefixes -/

theorem byPosition_perm (entries : List AuthorityMutation) : (byPosition entries).Perm entries :=
  List.perm_insertionSort _ _

theorem byPosition_sorted (entries : List AuthorityMutation) :
    (byPosition entries).Pairwise (fun a b => a.position ≤ b.position) := by
  have total : Std.Total (fun a b : AuthorityMutation => a.position ≤ b.position) := ⟨fun a b => le_total _ _⟩
  have trans : IsTrans AuthorityMutation (fun a b => a.position ≤ b.position) := ⟨fun _ _ _ => le_trans⟩
  exact List.pairwise_insertionSort _ _

theorem positionsUpTo_nodup (head : Int) : (positionsUpTo head).Nodup := by
  unfold positionsUpTo
  apply List.Nodup.map _ List.nodup_range
  intro i j same
  simp only at same
  omega

/-- What `authority_chain` accepts. -/
theorem authorityChain_ok {entries : List AuthorityMutation} {chain : P.Digest × List Json} :
    authorityChain P entries = .ok chain ↔
      (∃ last ∈ (byPosition entries).getLast?,
        (byPosition entries).map AuthorityMutation.position = positionsUpTo last.position) ∧
      chain = chainFrom P P.zeroDigest (byPosition entries) := by
  unfold authorityChain
  cases final : (byPosition entries).getLast? with
  | none => simp
  | some last =>
      by_cases contiguous : (byPosition entries).map AuthorityMutation.position = positionsUpTo last.position
      · simp [contiguous, eq_comm]
      · simp [contiguous]

theorem byPosition_eq_self {entries : List AuthorityMutation}
    (sorted : entries.Pairwise (fun a b => a.position ≤ b.position)) : byPosition entries = entries :=
  List.Pairwise.insertionSort_eq sorted

theorem prefixOf_sorted (c : AuditCheckpoint P) (entries : List AuthorityMutation) :
    byPosition (AuditCheckpointService.prefixOf c entries) = AuditCheckpointService.prefixOf c entries :=
  byPosition_eq_self ((byPosition_sorted entries).filter _)

theorem map_position (entries : List AuthorityMutation) :
    (entries.map (AuthorityMutation.summary P)).map Summary.position = entries.map AuthorityMutation.position := by
  simp only [List.map_map]
  rfl

theorem summaries_of_payloads (hexdigest : Function.Injective P.hexdigest) (isoformat : Function.Injective P.isoformat)
    {as bs : List AuthorityMutation} (h : as.map (entryPayload P) = bs.map (entryPayload P)) :
    as.map (AuthorityMutation.summary P) = bs.map (AuthorityMutation.summary P) := by
  induction as generalizing bs with
  | nil =>
      cases bs with
      | nil => rfl
      | cons b bs => cases h
  | cons a as ih =>
      cases bs with
      | nil => cases h
      | cons b bs =>
          obtain ⟨first, rest⟩ := List.cons.inj h
          rw [List.map_cons, List.map_cons, entryPayload_injective hexdigest isoformat first, ih rest]

namespace AuditCheckpointService

/-- The check passes for the entry count, the root and the transcript that the
    checkpoint carries. -/
theorem chainFailures_eq_nil {c : AuditCheckpoint P} {entries : List AuthorityMutation} :
    chainFailures c entries = [] ↔ ∃ chain, authorityChain P (prefixOf c entries) = .ok chain ∧
      ((prefixOf c entries).length : Int) = c.entryCount ∧ chain.1 = c.chainRootSha256 ∧
      P.sha256 (.arr chain.2) = c.transcriptSha256 := by
  unfold chainFailures
  cases outcome : authorityChain P (prefixOf c entries) with
  | error e => cases e <;> simp
  | ok chain => simp

theorem record_ok {checkpoint c : AuditCheckpoint P} {store store' : AuditStore P}
    (h : record checkpoint store = (.ok c, store')) : c = checkpoint := by
  simp only [record, Call.atomically_ok, Call.read_bind] at h
  cases existing : store.auditCheckpoints.find? (fun old => old.checkpointId = checkpoint.checkpointId) with
  | some observed =>
      simp only [existing] at h
      split at h
      · cases h
      · next same =>
          have returned := Except.ok.inj (Prod.mk.inj h).1
          rw [← returned]
          exact not_not.mp same
  | none =>
      simp only [existing] at h
      obtain ⟨_, _, _, returned⟩ := Call.bind_ok.mp h
      exact (Except.ok.inj (Prod.mk.inj returned).1).symm

theorem create_ok {registry : KeyLifecycleRegistry P} {request : CheckpointRequest} {c : AuditCheckpoint P}
    {store store' : AuditStore P} (h : create registry request store = (.ok c, store')) :
    ∃ signer chain, authorityChain P request.entries = .ok chain ∧ c = signedCheckpoint request signer chain.1 chain.2 := by
  obtain ⟨signer, _, _, h⟩ := Call.bind_ok.mp h
  obtain ⟨chain, _, chained, h⟩ := Call.bind_ok.mp h
  split at h
  · cases h
  · obtain ⟨checkpoint, _, valid, h⟩ := Call.bind_ok.mp h
    refine ⟨signer, chain, (Prod.mk.inj chained).1, ?_⟩
    have kept := (Prod.mk.inj valid).1
    unfold AuditCheckpoint.validate at kept
    split at kept
    · cases kept
    · split at kept
      · cases kept
      · split at kept
        · cases kept
        · rw [record_ok h]
          exact (Except.ok.inj kept).symm

/-- What a created checkpoint says about the journal it was made over. -/
structure MadeOver (c : AuditCheckpoint P) (entries : List AuthorityMutation) : Prop where
  contiguous : (byPosition entries).map AuthorityMutation.position = positionsUpTo c.headPosition
  last : ∃ last ∈ (byPosition entries).getLast?, last.position = c.headPosition
  count : c.entryCount = (byPosition entries).length
  root : c.chainRootSha256 = (chainFrom P P.zeroDigest (byPosition entries)).1
  transcript : c.transcriptSha256 = P.sha256 (.arr (chainFrom P P.zeroDigest (byPosition entries)).2)

theorem create_madeOver {registry : KeyLifecycleRegistry P} {request : CheckpointRequest} {c : AuditCheckpoint P}
    {store store' : AuditStore P} (h : create registry request store = (.ok c, store')) :
    MadeOver c request.entries := by
  obtain ⟨signer, chain, ok, rfl⟩ := create_ok h
  obtain ⟨⟨last, final, contiguous⟩, rfl⟩ := authorityChain_ok.mp ok
  have head : (signedCheckpoint request signer (chainFrom P P.zeroDigest (byPosition request.entries)).1
      (chainFrom P P.zeroDigest (byPosition request.entries)).2).headPosition = last.position := by
    simp [signedCheckpoint, Option.mem_def.mp final]
  exact ⟨by rw [head]; exact contiguous, ⟨last, final, head.symm⟩, rfl, rfl, rfl⟩

variable {c : AuditCheckpoint P} {made entries : List AuthorityMutation}

theorem prefixOf_perm (c : AuditCheckpoint P) (entries : List AuthorityMutation) :
    (prefixOf c entries).Perm (entries.filter (fun item => item.position ≤ c.headPosition)) :=
  (byPosition_perm entries).filter _

theorem summaries_eq_of_check (chained : Function.Injective2 P.sha256Chained) (hexdigest : Function.Injective P.hexdigest)
    (isoformat : Function.Injective P.isoformat) (covers : MadeOver c made) (passes : chainFailures c entries = []) :
    (prefixOf c entries).map (AuthorityMutation.summary P) = (byPosition made).map (AuthorityMutation.summary P) := by
  obtain ⟨chain, ok, length, root, _⟩ := chainFailures_eq_nil.mp passes
  obtain ⟨_, rfl⟩ := authorityChain_ok.mp ok
  rw [prefixOf_sorted, covers.root, chainFrom_root, chainFrom_root] at root
  rw [covers.count] at length
  have lengths : ((prefixOf c entries).map (entryPayload P)).length = ((byPosition made).map (entryPayload P)).length := by
    simpa using length
  exact summaries_of_payloads hexdigest isoformat (chainRoot_injective chained lengths root).2

theorem check_of_summaries_eq (covers : MadeOver c made)
    (same : (prefixOf c entries).map (AuthorityMutation.summary P) = (byPosition made).map (AuthorityMutation.summary P)) :
    chainFailures c entries = [] := by
  have positions := congrArg (List.map Summary.position) same
  rw [map_position, map_position, covers.contiguous] at positions
  obtain ⟨last, final, head⟩ := covers.last
  have ends := congrArg List.getLast? same
  rw [List.getLast?_map, List.getLast?_map, Option.mem_def.mp final] at ends
  obtain ⟨newest, final', summary⟩ := Option.map_eq_some_iff.mp ends
  have position : newest.position = c.headPosition := (congrArg Summary.position summary).trans head
  apply chainFailures_eq_nil.mpr
  refine ⟨chainFrom P P.zeroDigest (prefixOf c entries), authorityChain_ok.mpr ⟨⟨newest, ?_, ?_⟩, ?_⟩, ?_, ?_, ?_⟩
  · rw [prefixOf_sorted]
    exact final'
  · rw [prefixOf_sorted, position]
    exact positions
  · rw [prefixOf_sorted]
  · rw [covers.count]
    simpa using congrArg List.length same
  · rw [covers.root, chainFrom_congr _ same]
  · rw [covers.transcript, chainFrom_congr _ same]

/-- Sorting by position brings equal collections of summaries into equal lists,
    because the positions of the checkpointed journal are distinct. -/
theorem summaries_eq_iff_perm (covers : MadeOver c made) :
    (prefixOf c entries).map (AuthorityMutation.summary P) = (byPosition made).map (AuthorityMutation.summary P) ↔
      ((entries.filter (fun item => item.position ≤ c.headPosition)).map (AuthorityMutation.summary P)).Perm
        (made.map (AuthorityMutation.summary P)) := by
  have left := (prefixOf_perm c entries).map (AuthorityMutation.summary P)
  have right := (byPosition_perm made).map (AuthorityMutation.summary P)
  constructor
  · intro same
    exact left.symm.trans ((List.Perm.of_eq same).trans right)
  · intro perm
    symm
    apply eq_of_perm_of_sorted Summary.position (right.trans (perm.symm.trans left.symm))
    · exact List.pairwise_map.mpr (byPosition_sorted made)
    · exact List.pairwise_map.mpr ((byPosition_sorted entries).filter _)
    · rw [map_position, covers.contiguous]
      exact positionsUpTo_nodup _

/-- The chain check of `verify` passes exactly for the journals whose entries up
    to the head agree with the checkpointed journal on position, kind, entity,
    acceptance time and payload digest; later entries play no part. -/
theorem chainValid_iff_prefix_agrees (chained : Function.Injective2 P.sha256Chained)
    (hexdigest : Function.Injective P.hexdigest) (isoformat : Function.Injective P.isoformat)
    {registry : KeyLifecycleRegistry P} {request : CheckpointRequest} {c : AuditCheckpoint P} {store store' : AuditStore P}
    (created : create registry request store = (.ok c, store')) (later : KeyLifecycleRegistry P)
    (entries : List AuthorityMutation) (acceptedAt : DateTime) :
    (verify later c entries acceptedAt).chainValid = true ↔
      ((entries.filter (fun item => item.position ≤ c.headPosition)).map (AuthorityMutation.summary P)).Perm
        (request.entries.map (AuthorityMutation.summary P)) := by
  have covers := create_madeOver created
  rw [← summaries_eq_iff_perm covers]
  simp only [verify, List.isEmpty_iff]
  constructor
  · exact summaries_eq_of_check chained hexdigest isoformat covers
  · exact check_of_summaries_eq covers

/-- A platform whose digests are numbers that tell all documents apart. -/
def numbered : Platform where
  Digest := Nat
  Text := Json
  sha256 := Json.code
  hexdigest n := toString n
  dumps := id
  loads := some
  loads_dumps := Platform.mixing.loads_dumps
  uuid5 := Platform.mixing.uuid5
  isoformat t := toString (Encodable.encode t)
  hmac secret payload := Nat.pair (codeString secret) payload.code
  sqrt := Platform.mixing.sqrt
  lower := Platform.mixing.lower
  canonicalJsonBytes := Platform.mixing.canonicalJsonBytes
  sha256Raw raw := Json.codeItems (raw.map (fun b => .int b.toNat))
  zeroDigest := 0
  sha256Chained previous payload := Nat.pair previous payload.code
  ed25519Sign := Platform.mixing.ed25519Sign
  ed25519Verify := Platform.mixing.ed25519Verify

theorem toString_injective {m n : Nat} (h : toString m = toString n) : m = n :=
  decimal_injective (congrArg String.toList h)

theorem numbered_chained : Function.Injective2 numbered.sha256Chained := by
  intro c d a b h
  obtain ⟨previous, payload⟩ := Nat.pair_eq_pair.mp h
  exact ⟨previous, Json.code_injective a b payload⟩

theorem numbered_isoformat : Function.Injective numbered.isoformat :=
  fun _ _ h => Encodable.encode_injective (toString_injective h)

def mutation (position : Nat) (entityId : String) : AuthorityMutation where
  position := position + 1
  kind := .command
  entityId := entityId
  acceptedAt := 0
  payload := .null
  positive := by omega

def checkpointRequest : CheckpointRequest where
  entries := [mutation 0 "a", mutation 1 "b"]
  authorityEpochId := "authority-epoch-1"
  signerIdentityId := "field-audit"
  signerGeneration := 1
  privateKey := List.replicate 32 7
  createdAt := 10

/-- A checkpoint over two entries accepts a journal that goes on after them and
    refuses one in which the second is replaced. -/
theorem chainValid_of_appended_not_substituted :
    ∃ c store', create (KeyLifecycleRegistry.run [.register (KeyLifecycleRegistry.registration 1 0)])
        checkpointRequest ({} : AuditStore numbered) = (.ok c, store') ∧
      (verify {} c [mutation 2 "c", mutation 1 "b", mutation 0 "a"] 20).chainValid = true ∧
      (verify {} c [mutation 0 "a", mutation 1 "x", mutation 2 "c"] 20).chainValid = false := by
  have returns : (create (KeyLifecycleRegistry.run [.register (KeyLifecycleRegistry.registration 1 0)])
      checkpointRequest ({} : AuditStore numbered)).1.isOk = true := by decide +kernel
  rcases created : create (KeyLifecycleRegistry.run [.register (KeyLifecycleRegistry.registration 1 0)])
      checkpointRequest ({} : AuditStore numbered) with ⟨result, store'⟩
  cases result with
  | error e =>
      rw [created] at returns
      cases returns
  | ok c =>
      obtain ⟨signer, chain, _, made⟩ := create_ok created
      have head : c.headPosition = 2 := by
        rw [made]
        rfl
      have agrees := chainValid_iff_prefix_agrees numbered_chained (fun _ _ => toString_injective)
        numbered_isoformat created {}
      refine ⟨c, store', rfl, (agrees _ 20).mpr ?_, ?_⟩
      · rw [head]
        exact List.Perm.swap ..
      · rw [Bool.eq_false_iff]
        intro passes
        have perm := (agrees _ 20).mp passes
        rw [head] at perm
        have entity := perm.map Summary.entityId
        exact absurd entity (by decide)

end AuditCheckpointService

end SentinelEdge.Audit
