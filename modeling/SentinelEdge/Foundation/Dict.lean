import Mathlib.Data.List.Nodup
import Mathlib.Data.List.Induction

/-! # Insertion-ordered dictionaries

Keys occur once. Assigning to a present key keeps its place, assigning to a new
key puts it last, and iteration follows that order.
-/

namespace SentinelEdge.Foundation

structure Dict (κ α : Type) where
  items : List (κ × α)
  nodup : (items.map Prod.fst).Nodup

namespace Dict

variable {κ α : Type}

/-- Two entries have two keys. -/
theorem two_le_length_iff (d : Dict κ α) : 2 ≤ d.items.length ↔ ∃ a ∈ d.items, ∃ b ∈ d.items, a.1 ≠ b.1 := by
  have nodup := d.nodup
  constructor
  · intro two
    cases shape : d.items with
    | nil => simp [shape] at two
    | cons a rest =>
        cases rest with
        | nil => simp [shape] at two
        | cons b rest =>
            rw [shape, List.map_cons, List.map_cons, List.nodup_cons] at nodup
            exact ⟨a, by simp, b, by simp, fun same => nodup.1 (same ▸ List.mem_cons_self)⟩
  · rintro ⟨a, hereA, b, hereB, apart⟩
    cases shape : d.items with
    | nil => simp [shape] at hereA
    | cons first rest =>
        cases rest with
        | nil =>
            rw [shape, List.mem_singleton] at hereA hereB
            exact absurd (congrArg Prod.fst (hereA.trans hereB.symm)) apart
        | cons second rest => simp

variable [DecidableEq κ]

/-- Replace the value at `k` where the key stands, or put the pair last. -/
def assign (k : κ) (v : α) : List (κ × α) → List (κ × α)
  | [] => [(k, v)]
  | (k', v') :: rest => if k' = k then (k, v) :: rest else (k', v') :: assign k v rest

theorem mem_keys_assign (k : κ) (v : α) (items : List (κ × α)) (x : κ) :
    x ∈ (assign k v items).map Prod.fst ↔ x = k ∨ x ∈ items.map Prod.fst := by
  induction items with
  | nil => simp [assign]
  | cons head rest ih =>
      rcases head with ⟨k', v'⟩
      by_cases hk : k' = k
      · simp [assign, hk]
      · simp only [assign, hk, if_false, List.map_cons, List.mem_cons, ih]
        tauto

theorem nodup_assign (k : κ) (v : α) {items : List (κ × α)} (h : (items.map Prod.fst).Nodup) :
    ((assign k v items).map Prod.fst).Nodup := by
  induction items with
  | nil => simp [assign]
  | cons head rest ih =>
      rcases head with ⟨k', v'⟩
      obtain ⟨hn, hr⟩ := List.nodup_cons.mp h
      by_cases hk : k' = k
      · subst hk
        simpa [assign] using h
      · simp only [assign, hk, if_false, List.map_cons, List.nodup_cons]
        refine ⟨?_, ih hr⟩
        rw [mem_keys_assign]
        rintro (h' | h')
        · exact hk h'
        · exact hn h'

def empty : Dict κ α := ⟨[], List.nodup_nil⟩

def insert (d : Dict κ α) (k : κ) (v : α) : Dict κ α := ⟨assign k v d.items, nodup_assign k v d.nodup⟩

/-- `{key(x): x for x in xs}`: a later element replaces an earlier one. -/
def ofList (key : α → κ) (xs : List α) : Dict κ α := xs.foldl (fun d x => d.insert (key x) x) empty

def get? (d : Dict κ α) (k : κ) : Option α := (d.items.find? (fun item => item.1 = k)).map Prod.snd

def keys (d : Dict κ α) : List κ := d.items.map Prod.fst

def values (d : Dict κ α) : List α := d.items.map Prod.snd

private theorem find_assign (k x : κ) (v : α) (items : List (κ × α)) :
    ((assign k v items).find? (fun item => item.1 = x)).map Prod.snd =
      if x = k then some v else (items.find? (fun item => item.1 = x)).map Prod.snd := by
  induction items with
  | nil => by_cases h : x = k <;> simp [assign, h, eq_comm]
  | cons head rest ih =>
      rcases head with ⟨k', v'⟩
      by_cases hk : k' = k
      · subst hk
        by_cases hx : x = k'
        · simp [assign, hx]
        · simp [assign, hx, Ne.symm hx]
      · by_cases hx : k' = x
        · subst hx
          simp [assign, hk]
        · simp only [assign, hk, if_false, List.find?_cons, hx, decide_false, ih]

theorem get?_insert (d : Dict κ α) (k x : κ) (v : α) :
    (d.insert k v).get? x = if x = k then some v else d.get? x :=
  find_assign k x v d.items

@[simp] theorem get?_insert_self (d : Dict κ α) (k : κ) (v : α) : (d.insert k v).get? k = some v := by
  simp [get?_insert]

theorem get?_eq_some_iff {d : Dict κ α} {k : κ} {v : α} : d.get? k = some v ↔ (k, v) ∈ d.items := by
  constructor
  · intro h
    obtain ⟨⟨k', v'⟩, found, rfl⟩ := Option.map_eq_some_iff.mp h
    have hk : k' = k := by simpa using List.find?_some found
    exact hk ▸ List.mem_of_find?_eq_some found
  · intro h
    cases found : d.items.find? (fun item => item.1 = k) with
    | none =>
        have absent := List.find?_eq_none.mp found (k, v) h
        simp at absent
    | some item =>
        have hk : item.1 = k := by simpa using List.find?_some found
        -- keys occur once, so the pair found is the pair given
        have same : item = (k, v) :=
          List.inj_on_of_nodup_map d.nodup (List.mem_of_find?_eq_some found) h hk
        simp [get?, found, same]

theorem mem_values_iff {d : Dict κ α} {v : α} : v ∈ d.values ↔ ∃ k, d.get? k = some v := by
  simp only [values, List.mem_map, get?_eq_some_iff]
  constructor
  · rintro ⟨⟨k, w⟩, member, rfl⟩
    exact ⟨k, member⟩
  · rintro ⟨k, member⟩
    exact ⟨(k, v), member, rfl⟩

theorem mem_keys_iff {d : Dict κ α} {k : κ} : k ∈ d.keys ↔ (d.get? k).isSome := by
  rw [Option.isSome_iff_exists]
  simp only [keys, List.mem_map, get?_eq_some_iff]
  constructor
  · rintro ⟨⟨k', w⟩, member, rfl⟩
    exact ⟨w, member⟩
  · rintro ⟨v, member⟩
    exact ⟨(k, v), member, rfl⟩

/-- `{k: v for k, v in d.items() if keep(k)}` -/
def restrict (d : Dict κ α) (keep : κ → Bool) : Dict κ α :=
  ⟨d.items.filter (fun item => keep item.1), List.Nodup.sublist (List.filter_sublist.map Prod.fst) d.nodup⟩

theorem keys_insert (d : Dict κ α) (k : κ) (v : α) :
    (d.insert k v).keys = if k ∈ d.keys then d.keys else d.keys ++ [k] := by
  have assigned : ∀ items : List (κ × α), (assign k v items).map Prod.fst =
      if k ∈ items.map Prod.fst then items.map Prod.fst else items.map Prod.fst ++ [k] := by
    intro items
    induction items with
    | nil => simp [assign]
    | cons head rest ih =>
        rcases head with ⟨k', v'⟩
        by_cases hk : k' = k
        · simp [assign, hk]
        · simp only [assign, hk, if_false, List.map_cons, ih, List.mem_cons, Ne.symm hk, false_or]
          split <;> simp
  exact assigned d.items

/-- A new key puts its value last. -/
theorem values_insert_of_absent {d : Dict κ α} {k : κ} (absent : d.get? k = none) (v : α) :
    (d.insert k v).values = d.values ++ [v] := by
  have assigned : ∀ items : List (κ × α), items.find? (fun item => item.1 = k) = none →
      assign k v items = items ++ [(k, v)] := by
    intro items
    induction items with
    | nil => intro _; rfl
    | cons head rest ih =>
        intro missing
        have other : head.1 ≠ k := by simpa using List.find?_eq_none.mp missing head List.mem_cons_self
        rw [List.find?_cons_of_neg (by simpa using other)] at missing
        simp [assign, other, ih missing]
  have missing : d.items.find? (fun item => item.1 = k) = none := Option.map_eq_none_iff.mp absent
  simp only [values, insert, assigned d.items missing, List.map_append, List.map_cons, List.map_nil]

theorem insert_insert (d : Dict κ α) (k : κ) (v w : α) : (d.insert k v).insert k w = d.insert k w := by
  have assigned : ∀ items : List (κ × α), assign k w (assign k v items) = assign k w items := by
    intro items
    induction items with
    | nil => simp [assign]
    | cons head rest ih =>
        by_cases hk : head.1 = k
        · simp [assign, hk]
        · simp [assign, hk, ih]
  simp only [insert, assigned]

theorem get?_restrict (d : Dict κ α) (keep : κ → Bool) (k : κ) :
    (d.restrict keep).get? k = if keep k then d.get? k else none := by
  apply Option.ext
  intro v
  have member : (d.restrict keep).get? k = some v ↔ (k, v) ∈ d.items ∧ keep k = true := by
    rw [get?_eq_some_iff, restrict, List.mem_filter]
  rw [member, ← get?_eq_some_iff]
  cases keep k with
  | true => simp
  | false => simp

theorem restrict_insert_of_out {d : Dict κ α} {keep : κ → Bool} {k : κ} (out : keep k = false) (v : α) :
    (d.insert k v).restrict keep = d.restrict keep := by
  have assigned : ∀ items : List (κ × α),
      (assign k v items).filter (fun item => keep item.1) = items.filter (fun item => keep item.1) := by
    intro items
    induction items with
    | nil => simp [assign, out]
    | cons head rest ih =>
        by_cases hk : head.1 = k
        · simp [assign, hk, out]
        · simp [assign, hk, List.filter_cons, ih]
  simp only [restrict, insert, assigned]

theorem restrict_insert {d : Dict κ α} {keep : κ → Bool} {k : κ} (kept : keep k = true) (v : α) :
    (d.insert k v).restrict keep = (d.restrict keep).insert k v := by
  have assigned : ∀ items : List (κ × α),
      (assign k v items).filter (fun item => keep item.1) = assign k v (items.filter (fun item => keep item.1)) := by
    intro items
    induction items with
    | nil => simp [assign, kept]
    | cons head rest ih =>
        by_cases hk : head.1 = k
        · simp [assign, hk, kept]
        · by_cases stays : keep head.1 = true
          · simp [assign, hk, stays, ih]
          · simp [assign, hk, stays, ih]
  simp only [restrict, insert, assigned]

/-- Values may be counted along the keys. -/
theorem countP_values (d : Dict κ α) (p : α → Bool) :
    d.values.countP p = d.keys.countP (fun k => (d.get? k).any p) := by
  have looked : ∀ item ∈ d.items, p item.2 = (d.get? item.1).any p := by
    intro item member
    rw [get?_eq_some_iff.mpr member, Option.any_some]
  simp only [values, keys, List.countP_map]
  exact List.countP_congr (fun item member => by simp [← looked item member])

/-- Looking up `k` in a dictionary built from a list finds the last element
    with that key. -/
theorem get?_ofList (key : α → κ) (xs : List α) (k : κ) :
    (ofList key xs).get? k = (xs.filter (fun x => key x = k)).getLast? := by
  induction xs using List.reverseRecOn with
  | nil => rfl
  | append_singleton xs x ih =>
      have last : ofList key (xs ++ [x]) = (ofList key xs).insert (key x) x := by
        simp [ofList]
      rw [last, get?_insert, ih, List.filter_append]
      by_cases h : key x = k
      · simp [h]
      · simp [h, Ne.symm h]

/-- `{key: f(key, value) for key, value in d.items()}` -/
def mapValues (f : κ → α → α) (d : Dict κ α) : Dict κ α where
  items := d.items.map (fun item => (item.1, f item.1 item.2))
  nodup := by simpa [Function.comp_def] using d.nodup

theorem get?_mapValues (f : κ → α → α) (d : Dict κ α) (k : κ) : (d.mapValues f).get? k = (d.get? k).map (f k) := by
  have found : ∀ items : List (κ × α),
      ((items.map (fun item => (item.1, f item.1 item.2))).find? (fun item => item.1 = k)).map Prod.snd =
        ((items.find? (fun item => item.1 = k)).map Prod.snd).map (f k) := by
    intro items
    induction items with
    | nil => rfl
    | cons head rest ih =>
        by_cases same : head.1 = k
        · simp [same]
        · simpa [same] using ih
  exact found d.items

/-- `{key: value for key, value in pairs}` -/
def ofPairs (pairs : List (κ × α)) : Dict κ α := pairs.foldl (fun d item => d.insert item.1 item.2) empty

theorem get?_ofPairs (pairs : List (κ × α)) (k : κ) :
    (ofPairs pairs).get? k = (pairs.filter (fun item => item.1 = k)).getLast?.map Prod.snd := by
  induction pairs using List.reverseRecOn with
  | nil => rfl
  | append_singleton pairs item ih =>
      have last : ofPairs (pairs ++ [item]) = (ofPairs pairs).insert item.1 item.2 := by
        simp [ofPairs]
      rw [last, get?_insert, ih, List.filter_append]
      by_cases h : item.1 = k
      · simp [h]
      · simp [h, Ne.symm h]

/-- Under distinct keys every element of the list is looked up under its own. -/
theorem get?_ofList_of_nodup {key : α → κ} {xs : List α} (distinct : (xs.map key).Nodup) {k : κ} {x : α} :
    (ofList key xs).get? k = some x ↔ x ∈ xs ∧ key x = k := by
  rw [get?_ofList]
  constructor
  · intro last
    simpa using List.mem_of_getLast? last
  · rintro ⟨member, named⟩
    cases last : (xs.filter (fun x => key x = k)).getLast? with
    | none => exact absurd (List.getLast?_eq_none_iff.mp last) (List.ne_nil_of_mem (by simpa using ⟨member, named⟩))
    | some y =>
        have other : y ∈ xs ∧ key y = k := by simpa using List.mem_of_getLast? last
        rw [List.inj_on_of_nodup_map distinct other.1 member (other.2.trans named.symm)]

end Dict

end SentinelEdge.Foundation
