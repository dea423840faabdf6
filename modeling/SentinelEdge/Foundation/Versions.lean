import Mathlib.Data.List.Induction
import Mathlib.Data.List.Nodup
import Mathlib.Data.List.Sort

/-! # Versioned logs

Events that carry a version number. The latest event of a log is one with the
highest number; in a log that is numbered from one without a gap it is the last
one, and sorting by version changes nothing.
-/

namespace SentinelEdge.Foundation

variable {ε : Type} {version : ε → Nat} {log : List ε} {e e' : ε}

/-- The event is in the log and none there has a higher version. -/
structure Latest (version : ε → Nat) (log : List ε) (e : ε) : Prop where
  member : e ∈ log
  highest : ∀ other ∈ log, version other ≤ version e

theorem Latest.unique (first : Latest version log e) (second : Latest version log e')
    (distinct : (log.map version).Nodup) : e = e' := by
  have same : version e = version e' :=
    Nat.le_antisymm (second.highest e first.member) (first.highest e' second.member)
  exact List.inj_on_of_nodup_map distinct first.member second.member same

theorem Latest.snoc (above : ∀ other ∈ log, version other ≤ version e) : Latest version (log ++ [e]) e where
  member := by simp
  highest := by
    intro other member
    rcases List.mem_append.mp member with old | new
    · exact above other old
    · rw [List.mem_singleton.mp new]

/-- The first event with the highest version. -/
def latest (version : ε → Nat) (log : List ε) : Option ε :=
  log.foldl (fun best e => match best with
    | some b => if version b < version e then some e else some b
    | none => some e) none

theorem latest_snoc (log : List ε) (e : ε) :
    latest version (log ++ [e]) = match latest version log with
      | some b => if version b < version e then some e else some b
      | none => some e := by
  simp [latest]

theorem latest_spec (log : List ε) :
    (latest version log = none ∧ log = []) ∨ ∃ e, latest version log = some e ∧ Latest version log e := by
  induction log using List.reverseRecOn with
  | nil => exact .inl ⟨rfl, rfl⟩
  | append_singleton log e ih =>
      right
      rw [latest_snoc]
      rcases ih with ⟨none, rfl⟩ | ⟨best, found, highest⟩
      · rw [none]
        exact ⟨e, rfl, Latest.snoc (by simp)⟩
      · rw [found]
        by_cases newer : version best < version e
        · refine ⟨e, by simp [newer], Latest.snoc ?_⟩
          intro other member
          exact (highest.highest other member).trans newer.le
        · refine ⟨best, by simp [newer], List.mem_append_left _ highest.member, ?_⟩
          intro other member
          rcases List.mem_append.mp member with old | new
          · exact highest.highest other old
          · rw [List.mem_singleton.mp new]
            omega

theorem Latest.latest_eq (highest : Latest version log e) (distinct : (log.map version).Nodup) :
    latest version log = some e := by
  rcases @latest_spec _ version log with ⟨-, rfl⟩ | ⟨found, eq, spec⟩
  · cases highest.member
  · rw [eq, spec.unique highest distinct]

/-- `ORDER BY version` -/
def byVersion (version : ε → Nat) (log : List ε) : List ε := log.insertionSort (fun a b => version a ≤ version b)

theorem byVersion_pairwise (log : List ε) : (byVersion version log).Pairwise (fun a b => version a ≤ version b) := by
  have : Std.Total (fun a b : ε => version a ≤ version b) := ⟨fun a b => Nat.le_total _ _⟩
  have : IsTrans ε (fun a b => version a ≤ version b) := ⟨fun _ _ _ => Nat.le_trans⟩
  exact List.pairwise_insertionSort _ log

/-- The last event in the order of versions is the latest. -/
theorem getLast?_byVersion (distinct : (log.map version).Nodup) :
    (byVersion version log).getLast? = latest version log := by
  cases last : (byVersion version log).getLast? with
  | none =>
      have empty : byVersion version log = [] := List.getLast?_eq_none_iff.mp last
      have length : log.length = 0 := by
        rw [← List.length_insertionSort (fun a b => version a ≤ version b) log]
        exact congrArg List.length empty
      rw [List.length_eq_zero_iff.mp length]
      rfl
  | some e =>
      obtain ⟨front, sorted⟩ := List.getLast?_eq_some_iff.mp last
      have order := @byVersion_pairwise _ version log
      rw [sorted, List.pairwise_append] at order
      refine (Latest.latest_eq ⟨?_, ?_⟩ distinct).symm
      · rw [← List.mem_insertionSort (fun a b => version a ≤ version b)]
        exact List.mem_of_getLast? last
      · intro other member
        rw [← List.mem_insertionSort (fun a b => version a ≤ version b)] at member
        have listed : other ∈ front ++ [e] := sorted ▸ member
        rcases List.mem_append.mp listed with old | new
        · exact order.2.2 other old e (by simp)
        · rw [List.mem_singleton.mp new]

/-! ## Numbered logs -/

/-- The versions are 1, 2, ... without a gap. -/
def Numbered (version : ε → Nat) (log : List ε) : Prop := log.map version = List.range' 1 log.length

theorem Numbered.nil : Numbered version [] := rfl

theorem Numbered.snoc (numbered : Numbered version log) (next : version e = log.length + 1) :
    Numbered version (log ++ [e]) := by
  unfold Numbered
  rw [List.map_append, List.length_append, List.length_singleton, List.range'_concat, numbered.symm]
  simp only [List.map_cons, List.map_nil, next]
  rw [Nat.one_mul, Nat.add_comm]

theorem Numbered.nodup (numbered : Numbered version log) : (log.map version).Nodup := by
  rw [numbered]
  exact List.nodup_range'

theorem Numbered.pairwise (numbered : Numbered version log) : log.Pairwise (fun a b => version a < version b) := by
  have order : (log.map version).Pairwise (· < ·) := by
    rw [numbered]
    exact List.pairwise_lt_range'
  exact List.pairwise_map.mp order

theorem Numbered.byVersion_eq (numbered : Numbered version log) : byVersion version log = log :=
  (numbered.pairwise.imp (fun less => less.le)).insertionSort_eq

theorem Numbered.latest_eq (numbered : Numbered version log) : latest version log = log.getLast? := by
  rw [← getLast?_byVersion numbered.nodup, numbered.byVersion_eq]

theorem Numbered.version_getElem (numbered : Numbered version log) {i : Nat} (found : log[i]? = some e) :
    version e = i + 1 := by
  have mapped : (log.map version)[i]? = some (version e) := by rw [List.getElem?_map, found]; rfl
  rw [numbered] at mapped
  obtain ⟨below, eq⟩ := List.getElem?_eq_some_iff.mp mapped
  rw [List.getElem_range'] at eq
  omega

theorem Numbered.version_last (numbered : Numbered version log) (last : log.getLast? = some e) :
    version e = log.length := by
  rw [List.getLast?_eq_getElem?] at last
  have eq := numbered.version_getElem last
  have nonempty : log ≠ [] := by
    rintro rfl
    cases last
  have positive := List.length_pos_of_ne_nil nonempty
  omega

theorem Numbered.of_prefix {front : List ε} (numbered : Numbered version log) (pre : front <+: log) :
    Numbered version front := by
  obtain ⟨back, rfl⟩ := pre
  have ranges := numbered
  rw [Numbered, List.map_append, List.length_append, ← List.range'_append_1] at ranges
  exact (List.append_inj ranges (by simp)).1

/-- Logs of the same events in the order of their versions are one log. -/
theorem eq_of_increasing {other : List ε} (same : log.Perm other)
    (increasing : log.Pairwise (fun a b => version a < version b))
    (increasingOther : other.Pairwise (fun a b => version a < version b)) : log = other := by
  refine List.Perm.eq_of_pairwise ?_ increasing increasingOther same
  intro a b _ _ before after
  omega

/-- Versions that repeat nowhere in the log of one key identify an event with its key. -/
theorem nodup_of_keys {κ : Type} [DecidableEq κ] {key : ε → κ}
    (apart : ∀ k, ((log.filter (fun e => key e = k)).map version).Nodup) :
    (log.map (fun e => (key e, version e))).Nodup := by
  induction log with
  | nil => exact List.nodup_nil
  | cons e log ih =>
      rw [List.map_cons, List.nodup_cons]
      refine ⟨?_, ih ?_⟩
      · intro repeated
        obtain ⟨other, member, same⟩ := List.mem_map.mp repeated
        obtain ⟨sameKey, sameVersion⟩ := Prod.mk.inj same
        have own := apart (key e)
        rw [List.filter_cons_of_pos (by simp), List.map_cons, List.nodup_cons] at own
        refine own.1 (List.mem_map.mpr ⟨other, ?_, sameVersion⟩)
        exact List.mem_filter.mpr ⟨member, decide_eq_true sameKey⟩
      · intro k
        have own := apart k
        by_cases here : key e = k
        · rw [List.filter_cons_of_pos (by simpa using here), List.map_cons] at own
          exact (List.nodup_cons.mp own).2
        · rwa [List.filter_cons_of_neg (by simpa using here)] at own

end SentinelEdge.Foundation
