import Mathlib.Data.List.Nodup
import SentinelEdge.Collaboration.Durable

/-! # Where the repositories agree

A new signal under the transport message id of another one is refused by the table
alone. The two evict the same envelope when the one stored first was received first,
by the texts of the times, and purge the same when texts and instants say the same.
-/

namespace SentinelEdge.Collaboration

open Foundation Domain

/-- Under distinct keys, the key of an item stays exactly when the item does. -/
theorem key_mem_filter {α κ : Type} {key : α → κ} {items : List α} (distinct : (items.map key).Nodup) (keep : α → Bool) {item : α}
    (member : item ∈ items) : key item ∈ (items.filter keep).map key ↔ keep item = true := by
  constructor
  · intro among
    obtain ⟨other, kept, same⟩ := List.mem_map.mp among
    obtain ⟨inside, keeps⟩ := List.mem_filter.mp kept
    rw [← List.inj_on_of_nodup_map distinct inside member same]
    exact keeps
  · intro keeps
    exact List.mem_map_of_mem (List.mem_filter.mpr ⟨member, keeps⟩)

namespace SqliteCollaborationRepository

variable {s : SqliteCollaborationRepository} {e : CollaborativeSignalEnvelope}

theorem addEnvelope_of_clash (clash : s.clashes (rowOf e) = true) : addEnvelope e s = (.ok false, s) := by
  unfold addEnvelope
  rw [Call.read_bind, clash]
  rfl

theorem addEnvelope_of_fresh (fresh : s.clashes (rowOf e) = false) :
    addEnvelope e s = (.ok true, { s with rows := bounded { s with rows := s.rows ++ [rowOf e] } }) := by
  unfold addEnvelope
  rw [Call.read_bind, fresh]
  rfl

/-- The first row is the oldest one exactly when no other was received before it. -/
theorem oldest_one_iff {first : SignalRow} {rest : List SignalRow} (distinct : ((first :: rest).map SignalRow.signalId).Nodup) :
    oldest (first :: rest) 1 = [first.signalId] ↔ ∀ row ∈ rest, first.receivedAt ≤ row.receivedAt := by
  constructor
  · intro same row member
    have sorted : ((first :: rest).insertionSort (fun a b => a.receivedAt ≤ b.receivedAt)).Pairwise
        (fun a b => a.receivedAt ≤ b.receivedAt) := List.pairwise_insertionSort _ _
    have members : ∀ row, row ∈ (first :: rest).insertionSort (fun a b => a.receivedAt ≤ b.receivedAt) ↔ row ∈ first :: rest :=
      fun row => List.mem_insertionSort _
    unfold oldest at same
    cases shape : (first :: rest).insertionSort (fun a b => a.receivedAt ≤ b.receivedAt) with
    | nil =>
        rw [shape] at same
        cases same
    | cons least later =>
        rw [shape] at same sorted members
        have lowest : least.signalId = first.signalId := List.head_eq_of_cons_eq same
        have equal : least = first :=
          List.inj_on_of_nodup_map distinct ((members least).mp List.mem_cons_self) List.mem_cons_self lowest
        have among := (members row).mpr (List.mem_cons_of_mem _ member)
        rw [equal] at sorted among
        cases among with
        | head => exact String.le_refl _
        | tail _ among => exact (List.pairwise_cons.mp sorted).1 row among
  · intro earliest
    unfold oldest
    rw [List.insertionSort_cons_of_forall_rel _ earliest]
    rfl

theorem oldest_one (first : SignalRow) (rest : List SignalRow) : ∃ id, oldest (first :: rest) 1 = [id] := by
  apply List.length_eq_one_iff.mp
  unfold oldest
  rw [List.length_map, List.length_take, List.length_insertionSort, List.length_cons]
  omega

theorem without_oldest {first : SignalRow} {rest : List SignalRow} (distinct : ((first :: rest).map SignalRow.signalId).Nodup)
    (earliest : oldest (first :: rest) 1 = [first.signalId]) :
    (first :: rest).filter (fun row => row.signalId ∉ oldest (first :: rest) 1) = rest := by
  rw [earliest, List.filter_cons_of_neg (by simp)]
  apply List.filter_eq_self.mpr
  intro row member
  apply decide_eq_true
  rw [List.mem_singleton]
  intro clash
  exact (List.nodup_cons.mp distinct).1 (clash ▸ List.mem_map_of_mem member)

/-- Without its oldest row a table has the ids of all rows but the first exactly when that is the oldest. -/
theorem drops_first_iff {first : SignalRow} {rest : List SignalRow} (distinct : ((first :: rest).map SignalRow.signalId).Nodup) :
    (∀ id, id ∈ rest.map SignalRow.signalId ↔
      id ∈ ((first :: rest).filter (fun row => row.signalId ∉ oldest (first :: rest) 1)).map SignalRow.signalId) ↔
      oldest (first :: rest) 1 = [first.signalId] := by
  constructor
  · intro same
    obtain ⟨evicted, one⟩ := oldest_one first rest
    have away : first.signalId ∉ rest.map SignalRow.signalId := (List.nodup_cons.mp distinct).1
    have gone := mt (same first.signalId).mpr away
    rw [key_mem_filter distinct _ List.mem_cons_self, one, decide_eq_true_eq, not_not, List.mem_singleton] at gone
    rw [one, gone]
  · intro earliest id
    rw [without_oldest distinct earliest]

end SqliteCollaborationRepository

namespace Repositories

variable {s : Repositories} {e : CollaborativeSignalEnvelope} {now : Timestamp}

theorem Mirror.ids (mirror : Mirror s) : s.2.rows.map SignalRow.signalId = s.1.signalIds := by
  rw [mirror.rows, s.1.indexed, List.map_map]
  rfl

theorem Mirror.clashes_iff (mirror : Mirror s) : s.2.clashes (rowOf e) = true ↔
    e.signalId ∈ s.1.signalIds ∨ ∃ item ∈ s.1.envelopes, item.transportMessageId = e.transportMessageId := by
  unfold SqliteCollaborationRepository.clashes
  rw [mirror.rows, s.1.indexed, List.any_eq_true]
  constructor
  · rintro ⟨row, member, clash⟩
    obtain ⟨item, among, rfl⟩ := List.mem_map.mp member
    cases of_decide_eq_true clash with
    | inl signal => exact Or.inl (List.mem_map.mpr ⟨item, among, signal⟩)
    | inr message => exact Or.inr ⟨item, among, message⟩
  · rintro (signal | ⟨item, among, message⟩)
    · obtain ⟨item, among, same⟩ := List.mem_map.mp signal
      exact ⟨rowOf item, List.mem_map_of_mem among, decide_eq_true (Or.inl same)⟩
    · exact ⟨rowOf item, List.mem_map_of_mem among, decide_eq_true (Or.inr message)⟩

theorem add_taken (mirror : Mirror s) (taken : e.signalId ∈ s.1.signalIds) :
    s.step (.add e) = s ∧ s.answers (.add e) = (.ok (.added false), .ok (.added false)) := by
  have adds := CollaborationRepository.addEnvelope_adds s.1 e
  have refused := SqliteCollaborationRepository.addEnvelope_of_clash (mirror.clashes_iff.mpr (Or.inl taken))
  unfold step answers
  dsimp only
  rw [refused]
  generalize (CollaborationRepository.addEnvelope e s.1).1 = a at adds ⊢
  generalize (CollaborationRepository.addEnvelope e s.1).2 = r at adds ⊢
  cases adds with
  | duplicate taken => exact ⟨rfl, rfl⟩
  | raises new unbounded emptied => exact absurd taken new
  | adds new positive added => exact absurd taken new

/-- What a new signal does to the envelopes, in a repository that can hold one. -/
theorem add_new (new : e.signalId ∉ s.1.signalIds) (positive : 0 < s.1.maxEnvelopes) :
    (s.answers (.add e)).1 = .ok (.added true) ∧
      (s.step (.add e)).1.Holds s.1 (s.1.envelopes.drop s.1.surplus ++ [e]) := by
  have adds := CollaborationRepository.addEnvelope_adds s.1 e
  unfold step answers
  dsimp only
  generalize (CollaborationRepository.addEnvelope e s.1).1 = a at adds ⊢
  generalize (CollaborationRepository.addEnvelope e s.1).2 = r at adds ⊢
  cases adds with
  | duplicate taken => exact absurd taken new
  | raises new unbounded emptied => omega
  | adds new positive added => exact ⟨rfl, added⟩

theorem disagree_of_unbounded (new : e.signalId ∉ s.1.signalIds) (unbounded : s.1.maxEnvelopes ≤ 0) : ¬ Agree s (.add e) := by
  rintro ⟨⟨answer, same⟩, -⟩
  have adds := CollaborationRepository.addEnvelope_adds s.1 e
  have returned := congrArg Prod.fst same
  unfold answers at returned
  dsimp only at returned
  generalize (CollaborationRepository.addEnvelope e s.1).1 = a at adds returned
  generalize (CollaborationRepository.addEnvelope e s.1).2 = r at adds
  cases adds with
  | duplicate taken => exact new taken
  | raises new unbounded emptied => cases returned
  | adds new positive added => omega

theorem disagree_of_message (mirror : Mirror s) (new : e.signalId ∉ s.1.signalIds) (positive : 0 < s.1.maxEnvelopes)
    {item : CollaborativeSignalEnvelope} (member : item ∈ s.1.envelopes)
    (message : item.transportMessageId = e.transportMessageId) : ¬ Agree s (.add e) := by
  rintro ⟨⟨answer, same⟩, -⟩
  have taken := (add_new (s := s) new positive).1
  have refused : (s.answers (.add e)).2 = .ok (.added false) := by
    unfold answers
    dsimp only
    rw [SqliteCollaborationRepository.addEnvelope_of_clash (mirror.clashes_iff.mpr (Or.inr ⟨item, member, message⟩))]
    rfl
  rw [same] at taken refused
  cases taken
  cases refused

theorem mirror_of_rows {op : RepositoryOperation} {kept : List CollaborativeSignalEnvelope} (mirror : Mirror s)
    (holds : (s.step op).1.Holds s.1 kept) (rows : (s.step op).2 = ⟨s.2.maxEnvelopes, kept.map rowOf⟩)
    (fits : kept = [] ∨ kept.length ≤ s.1.maxEnvelopes) : Mirror (s.step op) where
  rows := by rw [rows, holds.1]
  bound := by rw [rows, holds.2.1, mirror.bound]
  fits := by
    rw [holds.1, holds.2.1]
    exact fits

/-- The rows of the envelopes and of a new one have different ids. -/
theorem rows_distinct (new : e.signalId ∉ s.1.signalIds) : (((s.1.envelopes ++ [e]).map rowOf).map SignalRow.signalId).Nodup := by
  have distinct := s.1.distinct
  rw [s.1.indexed] at distinct new
  rw [List.map_map, List.map_append]
  refine List.nodup_append.mpr ⟨distinct, List.nodup_singleton _, ?_⟩
  rintro a old b same rfl
  rw [List.mem_singleton.mp same] at old
  exact new old

section

variable (mirror : Mirror s) (new : e.signalId ∉ s.1.signalIds) (positive : 0 < s.1.maxEnvelopes)
  (unused : ∀ item ∈ s.1.envelopes, item.transportMessageId ≠ e.transportMessageId)
include mirror new positive unused

theorem add_fresh : s.answers (.add e) = (.ok (.added true), .ok (.added true)) ∧
    (s.step (.add e)).1.Holds s.1 (s.1.envelopes.drop s.1.surplus ++ [e]) ∧
    (s.step (.add e)).2 = ⟨s.2.maxEnvelopes,
      SqliteCollaborationRepository.bounded ⟨s.2.maxEnvelopes, (s.1.envelopes ++ [e]).map rowOf⟩⟩ := by
  have fresh : s.2.clashes (rowOf e) = false := by
    rw [← Bool.not_eq_true, mirror.clashes_iff]
    rintro (taken | ⟨item, member, message⟩)
    · exact new taken
    · exact unused item member message
  have inserted := SqliteCollaborationRepository.addEnvelope_of_fresh fresh
  have rows : s.2.rows ++ [rowOf e] = (s.1.envelopes ++ [e]).map rowOf := by
    rw [mirror.rows, List.map_append, List.map_singleton]
  rw [rows] at inserted
  obtain ⟨answered, holds⟩ := add_new (s := s) new positive
  refine ⟨Prod.ext answered ?_, holds, ?_⟩
  · unfold answers
    dsimp only
    rw [inserted]
    rfl
  · unfold step
    dsimp only
    rw [inserted]

/-- With room for it the envelope is the last of both. -/
theorem add_room (room : s.1.envelopes.length < s.1.maxEnvelopes) :
    (s.step (.add e)).1.Holds s.1 (s.1.envelopes ++ [e]) ∧
      (s.step (.add e)).2 = ⟨s.2.maxEnvelopes, (s.1.envelopes ++ [e]).map rowOf⟩ := by
  obtain ⟨-, holds, inserted⟩ := add_fresh mirror new positive unused
  have none : s.1.surplus = 0 := by
    unfold CollaborationRepository.surplus
    omega
  rw [none, List.drop_zero] at holds
  have few : ¬ (0 : Int) < (((s.1.envelopes ++ [e]).map rowOf).length : Int) - s.2.maxEnvelopes := by
    rw [mirror.bound, List.length_map, List.length_append, List.length_singleton]
    omega
  have kept : SqliteCollaborationRepository.bounded ⟨s.2.maxEnvelopes, (s.1.envelopes ++ [e]).map rowOf⟩ =
      (s.1.envelopes ++ [e]).map rowOf := if_neg few
  rw [kept] at inserted
  exact ⟨holds, inserted⟩

/-- Without room the first envelope goes, and the oldest row. -/
theorem add_full {first : CollaborativeSignalEnvelope} {rest : List CollaborativeSignalEnvelope}
    (shape : s.1.envelopes = first :: rest) (full : s.1.envelopes.length = s.1.maxEnvelopes) :
    (s.step (.add e)).1.Holds s.1 (rest ++ [e]) ∧
      (s.step (.add e)).2 = ⟨s.2.maxEnvelopes, ((first :: (rest ++ [e])).map rowOf).filter (fun row =>
        row.signalId ∉ SqliteCollaborationRepository.oldest ((first :: (rest ++ [e])).map rowOf) 1)⟩ := by
  obtain ⟨-, holds, inserted⟩ := add_fresh mirror new positive unused
  have one : s.1.surplus = 1 := by
    unfold CollaborationRepository.surplus
    omega
  rw [one, shape] at holds
  rw [shape] at inserted
  have excess : (((first :: rest ++ [e]).map rowOf).length : Int) - s.2.maxEnvelopes = 1 := by
    rw [mirror.bound, List.length_map, List.length_append, List.length_singleton, ← full, shape]
    omega
  refine ⟨holds, inserted.trans ?_⟩
  unfold SqliteCollaborationRepository.bounded
  dsimp only
  rw [excess]
  rfl

theorem agree_of_rows {kept : List CollaborativeSignalEnvelope} (holds : (s.step (.add e)).1.Holds s.1 kept) :
    Agree s (.add e) ↔ ∀ id, id ∈ (kept.map rowOf).map SignalRow.signalId ↔ id ∈ (s.step (.add e)).2.rows.map SignalRow.signalId := by
  have answered := (add_fresh mirror new positive unused).1
  have ids : (s.step (.add e)).1.signalIds = (kept.map rowOf).map SignalRow.signalId := by
    rw [CollaborationRepository.indexed, holds.1, List.map_map]
    rfl
  unfold Agree
  rw [ids]
  exact and_iff_right ⟨.added true, answered⟩

theorem add_room_agrees (room : s.1.envelopes.length < s.1.maxEnvelopes) : Agree s (.add e) ∧ Mirror (s.step (.add e)) := by
  obtain ⟨holds, rows⟩ := add_room mirror new positive unused room
  constructor
  · apply (agree_of_rows mirror new positive unused holds).mpr
    intro id
    rw [rows]
  · apply mirror_of_rows mirror holds rows
    rw [List.length_append, List.length_singleton]
    omega

theorem add_full_agree_iff {first : CollaborativeSignalEnvelope} {rest : List CollaborativeSignalEnvelope}
    (shape : s.1.envelopes = first :: rest) (full : s.1.envelopes.length = s.1.maxEnvelopes) :
    Agree s (.add e) ↔ ∀ item ∈ rest ++ [e], first.receivedAt.isoformat ≤ item.receivedAt.isoformat := by
  obtain ⟨holds, rows⟩ := add_full mirror new positive unused shape full
  have distinct := rows_distinct new
  rw [shape, List.cons_append] at distinct
  rw [agree_of_rows mirror new positive unused holds, rows]
  apply (SqliteCollaborationRepository.drops_first_iff distinct).trans
  apply (SqliteCollaborationRepository.oldest_one_iff distinct).trans
  exact List.forall_mem_map

theorem add_full_mirror {first : CollaborativeSignalEnvelope} {rest : List CollaborativeSignalEnvelope}
    (shape : s.1.envelopes = first :: rest) (full : s.1.envelopes.length = s.1.maxEnvelopes)
    (earliest : ∀ item ∈ rest ++ [e], first.receivedAt.isoformat ≤ item.receivedAt.isoformat) : Mirror (s.step (.add e)) := by
  obtain ⟨holds, rows⟩ := add_full mirror new positive unused shape full
  have distinct := rows_distinct new
  rw [shape, List.cons_append] at distinct
  have oldest := (SqliteCollaborationRepository.oldest_one_iff distinct).mpr (List.forall_mem_map.mpr earliest)
  rw [List.map_cons, SqliteCollaborationRepository.without_oldest distinct oldest] at rows
  apply mirror_of_rows mirror holds rows
  rw [shape, List.length_cons] at full
  rw [List.length_append, List.length_singleton, ← full]
  exact Or.inr (Int.le_refl _)

end

/-! ## One call -/

theorem full_or_room (mirror : Mirror s) (positive : 0 < s.1.maxEnvelopes) :
    s.1.envelopes.length < s.1.maxEnvelopes ∨
      ∃ first rest, s.1.envelopes = first :: rest ∧ s.1.envelopes.length = s.1.maxEnvelopes := by
  cases shape : s.1.envelopes with
  | nil => exact Or.inl (by simpa using positive)
  | cons first rest =>
      have fits := mirror.fits
      rw [shape] at fits
      cases fits with
      | inl empty => cases empty
      | inr fits =>
          cases Int.lt_or_eq_of_le fits with
          | inl room => exact Or.inl room
          | inr full => exact Or.inr ⟨first, rest, rfl, full⟩

/-- What `Alike` asks of the first envelope, without comparing it to itself. -/
theorem earliest_iff {first : CollaborativeSignalEnvelope} {rest : List CollaborativeSignalEnvelope}
    (shape : s.1.envelopes = first :: rest) :
    (∀ first ∈ s.1.envelopes.head?, ∀ item ∈ s.1.envelopes ++ [e], first.receivedAt.isoformat ≤ item.receivedAt.isoformat) ↔
      ∀ item ∈ rest ++ [e], first.receivedAt.isoformat ≤ item.receivedAt.isoformat := by
  rw [shape, List.cons_append]
  constructor
  · intro earliest item member
    exact earliest first rfl item (List.mem_cons_of_mem _ member)
  · intro earliest least same item member
    cases same
    cases member with
    | head => exact String.le_refl _
    | tail _ member => exact earliest item member

theorem add_agree_iff (mirror : Mirror s) : Agree s (.add e) ↔ Alike s (.add e) := by
  by_cases taken : e.signalId ∈ s.1.signalIds
  · obtain ⟨same, answered⟩ := add_taken mirror taken
    constructor
    · intro _
      exact Or.inl taken
    · intro _
      refine ⟨⟨.added false, answered⟩, fun id => ?_⟩
      rw [same, mirror.ids]
  · constructor
    · intro agree
      have positive : 0 < s.1.maxEnvelopes := by
        by_contra unbounded
        exact disagree_of_unbounded taken (by omega) agree
      have unused : ∀ item ∈ s.1.envelopes, item.transportMessageId ≠ e.transportMessageId :=
        fun item member message => disagree_of_message mirror taken positive member message agree
      refine Or.inr ⟨positive, unused, fun full => ?_⟩
      cases full_or_room mirror positive with
      | inl room => omega
      | inr found =>
          obtain ⟨first, rest, shape, full⟩ := found
          exact (earliest_iff shape).mpr ((add_full_agree_iff mirror taken positive unused shape full).mp agree)
    · rintro (among | ⟨positive, unused, earliest⟩)
      · exact absurd among taken
      · cases full_or_room mirror positive with
        | inl room => exact (add_room_agrees mirror taken positive unused room).1
        | inr found =>
            obtain ⟨first, rest, shape, full⟩ := found
            exact (add_full_agree_iff mirror taken positive unused shape full).mpr ((earliest_iff shape).mp (earliest full))

theorem add_mirror (mirror : Mirror s) (alike : Alike s (.add e)) : Mirror (s.step (.add e)) := by
  by_cases taken : e.signalId ∈ s.1.signalIds
  · rw [(add_taken mirror taken).1]
    exact mirror
  · cases alike with
    | inl among => exact absurd among taken
    | inr new =>
        obtain ⟨positive, unused, earliest⟩ := new
        cases full_or_room mirror positive with
        | inl room => exact (add_room_agrees mirror taken positive unused room).2
        | inr found =>
            obtain ⟨first, rest, shape, full⟩ := found
            exact add_full_mirror mirror taken positive unused shape full ((earliest_iff shape).mp (earliest full))

theorem rowOf_expiresAt : (rowOf e).expiresAt = e.signal.expiresAt.isoformat := rfl

/-- The row of an envelope stays exactly when the text of its time says so. -/
theorem rows_unexpired (envelopes : List CollaborativeSignalEnvelope) (now : Timestamp) :
    (envelopes.map rowOf).filter (fun row => ¬ row.expiresAt ≤ now.isoformat) =
      (envelopes.filter (fun item => ¬ item.signal.expiresAt.isoformat ≤ now.isoformat)).map rowOf := by
  rw [List.filter_map]
  apply congrArg (List.map rowOf)
  apply List.filter_congr
  intro item _
  rw [Function.comp_apply, decide_eq_decide, rowOf_expiresAt]

theorem purge_step (now : Timestamp) (mirror : Mirror s) : (s.step (.purge now)).2 = ⟨s.2.maxEnvelopes,
    (s.1.envelopes.filter (fun item => ¬ item.signal.expiresAt.isoformat ≤ now.isoformat)).map rowOf⟩ := by
  rw [← rows_unexpired, ← mirror.rows]
  rfl

/-- Instants and texts leave the same envelopes. -/
theorem unexpired_iff : Alike s (.purge now) ↔
    ∀ item ∈ s.1.envelopes, decide (now.instant < item.signal.expiresAt.instant) =
      decide (¬ item.signal.expiresAt.isoformat ≤ now.isoformat) := by
  apply forall₂_congr
  intro item _
  rw [decide_eq_decide, ← Int.not_le]
  exact not_iff_not.symm

theorem ids_of_rows (envelopes : List CollaborativeSignalEnvelope) :
    (envelopes.map rowOf).map SignalRow.signalId = envelopes.map CollaborativeSignalEnvelope.signalId := by
  rw [List.map_map]
  rfl

theorem purge_answers (mirror : Mirror s) (alike : Alike s (.purge now)) : ∃ answer, s.answers (.purge now) = (.ok answer, .ok answer) := by
  have rows := purge_step now mirror
  refine ⟨.purged (s.1.envelopes.length - (s.step (.purge now)).1.envelopes.length), Prod.ext rfl ?_⟩
  show Except.ok (Answer.purged (s.2.rows.length - (s.step (.purge now)).2.rows.length)) = _
  rw [rows, ← List.filter_congr (unexpired_iff.mp alike), mirror.rows, List.length_map, List.length_map]
  rfl

theorem purge_agree_iff (mirror : Mirror s) : Agree s (.purge now) ↔ Alike s (.purge now) := by
  have rows := purge_step now mirror
  have ids : (s.step (.purge now)).1.signalIds = (s.1.envelopes.filter (fun item => now.instant < item.signal.expiresAt.instant)).map
      CollaborativeSignalEnvelope.signalId := rfl
  have distinct := s.1.distinct
  rw [s.1.indexed] at distinct
  constructor
  · rintro ⟨-, same⟩
    apply unexpired_iff.mpr
    intro item member
    have same := same item.signalId
    rw [rows, ids, ids_of_rows, key_mem_filter distinct _ member, key_mem_filter distinct _ member] at same
    exact Bool.eq_iff_iff.mpr same
  · intro alike
    refine ⟨purge_answers mirror alike, fun id => ?_⟩
    rw [rows, ids, ids_of_rows, List.filter_congr (unexpired_iff.mp alike)]

theorem purge_mirror (mirror : Mirror s) (alike : Alike s (.purge now)) : Mirror (s.step (.purge now)) := by
  have rows := purge_step now mirror
  rw [← List.filter_congr (unexpired_iff.mp alike)] at rows
  have holds : (s.step (.purge now)).1.Holds s.1 (s.1.envelopes.filter (fun item => now.instant < item.signal.expiresAt.instant)) :=
    ⟨rfl, rfl, rfl, rfl⟩
  apply mirror_of_rows mirror holds rows
  cases mirror.fits with
  | inl empty => exact Or.inl (by rw [empty, List.filter_nil])
  | inr fits =>
      have fewer := List.length_filter_le (fun item => now.instant < item.signal.expiresAt.instant) s.1.envelopes
      exact Or.inr (by omega)

/-! ## Whole runs -/

theorem start_mirror (maxEnvelopes : Int) : Mirror (start maxEnvelopes) where
  rows := rfl
  bound := rfl
  fits := Or.inl rfl

theorem agree_iff {op : RepositoryOperation} (mirror : Mirror s) : Agree s op ↔ Alike s op := by
  cases op with
  | add e => exact add_agree_iff mirror
  | purge now => exact purge_agree_iff mirror

theorem mirror_step {op : RepositoryOperation} (mirror : Mirror s) (alike : Alike s op) : Mirror (s.step op) := by
  cases op with
  | add e => exact add_mirror mirror alike
  | purge now => exact purge_mirror mirror alike

theorem alike_throughout_iff (maxEnvelopes : Int) (ops : List RepositoryOperation) :
    Meets step Agree (start maxEnvelopes) ops ↔ Meets step Alike (start maxEnvelopes) ops :=
  Meets.congr (I := Mirror) (fun _ _ => agree_iff)
    (fun _ _ mirror agree => mirror_step mirror ((agree_iff mirror).mp agree)) (start_mirror maxEnvelopes) ops

theorem repositories_agree {maxEnvelopes : Int} {ops : List RepositoryOperation}
    (alike : Meets step Alike (start maxEnvelopes) ops) : Meets step Agree (start maxEnvelopes) ops :=
  (alike_throughout_iff maxEnvelopes ops).mpr alike

/-- A report received at that second, under that message id, that expires at that instant on a clock with that offset. -/
def report (signalId message : String) (second expiry offset : Int) : CollaborativeSignalEnvelope where
  receivedAt := ⟨second * 1000000, 0⟩
  transportMessageId := message
  transportTrust := .fixtureQualified
  signal :=
    { signalId := signalId
      nodePseudonym := "peer_1234567890123456"
      hazard := .earthquake
      observation := "local_trigger"
      correlationDomain := ⟨.spatialCell, "cell:demo"⟩
      eventTimeBucket := ⟨second * 1000000, 0⟩
      clockUncertaintyBand := .low
      sourceMode := .simulated
      expiresAt := ⟨expiry * 1000000, offset⟩ }
  validationState := .admitted

theorem queue_of_two_agrees : Meets step Agree (start 2)
    [.add (report "signal-a" "message-a" 1 30 0), .add (report "signal-b" "message-b" 2 20 0),
      .add (report "signal-c" "message-c" 3 30 0), .purge ⟨20000000, 0⟩] :=
  repositories_agree (by decide +kernel)

/-- A message id comes back, the later one was received first, there is room for none,
    or the clock of an expiry stands an hour ahead. -/
theorem repositories_disagree : ¬ ∃ run ∈ [
    (2, [.add (report "signal-a" "message" 1 30 0), .add (report "signal-b" "message" 2 30 0)]),
    (1, [.add (report "signal-a" "message-a" 2 30 0), .add (report "signal-b" "message-b" 1 30 0)]),
    (0, [.add (report "signal-a" "message-a" 1 30 0)]),
    ((2 : Int), [.add (report "signal-a" "message-a" 1 30 3600000000), .purge ⟨60000000, 0⟩])],
    Meets step Agree (start run.1) run.2 := by
  simp only [alike_throughout_iff]
  decide +kernel

end Repositories

end SentinelEdge.Collaboration
