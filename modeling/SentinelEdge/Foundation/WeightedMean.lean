import Mathlib.Algebra.Order.Field.Basic
import Mathlib.Algebra.Order.BigOperators.Group.List
import Mathlib.Tactic.Linarith

/-! # Weighted means

The mean of a list of values by their weights, 0 when nothing has any weight. It
follows its values and stays between bounds they keep.
-/

namespace SentinelEdge.Foundation

variable {𝕜 : Type*} [Field 𝕜] [LinearOrder 𝕜] [IsStrictOrderedRing 𝕜]

def totalWeight (entries : List (𝕜 × 𝕜)) : 𝕜 := (entries.map Prod.fst).sum

def weightedSum (entries : List (𝕜 × 𝕜)) : 𝕜 := (entries.map (fun entry => entry.1 * entry.2)).sum

def weightedMean (entries : List (𝕜 × 𝕜)) : 𝕜 :=
  if totalWeight entries ≠ 0 then weightedSum entries / totalWeight entries else 0

theorem totalWeight_nonneg {entries : List (𝕜 × 𝕜)} (weights : ∀ entry ∈ entries, 0 ≤ entry.1) :
    0 ≤ totalWeight entries :=
  List.sum_nonneg (by simpa using fun a b here => weights (a, b) here)

/-- The sums of entries that differ in their values only. -/
theorem weightedSum_mono {entries others : List (𝕜 × 𝕜)}
    (below : List.Forall₂ (fun a b => a.1 = b.1 ∧ 0 ≤ a.1 ∧ a.2 ≤ b.2) entries others) :
    totalWeight entries = totalWeight others ∧ weightedSum entries ≤ weightedSum others := by
  induction below with
  | nil => exact ⟨rfl, le_refl _⟩
  | @cons a b entries others head tail ih =>
      obtain ⟨same, nonneg, le⟩ := head
      have product : a.1 * a.2 ≤ b.1 * b.2 := same ▸ mul_le_mul_of_nonneg_left le nonneg
      simp only [totalWeight, weightedSum, List.map_cons, List.sum_cons] at ih ⊢
      exact ⟨by rw [same, ih.1], add_le_add product ih.2⟩

theorem weightedMean_mono {entries others : List (𝕜 × 𝕜)}
    (below : List.Forall₂ (fun a b => a.1 = b.1 ∧ 0 ≤ a.1 ∧ a.2 ≤ b.2) entries others) :
    weightedMean entries ≤ weightedMean others := by
  obtain ⟨same, le⟩ := weightedSum_mono below
  have weights : ∀ entry ∈ entries, 0 ≤ entry.1 := by
    clear same le
    induction below with
    | nil => simp
    | cons head tail ih => exact List.forall_mem_cons.mpr ⟨head.2.1, ih⟩
  have nonneg := totalWeight_nonneg weights
  rw [weightedMean, weightedMean, ← same]
  split
  · exact div_le_div_of_nonneg_right le nonneg
  · exact le_refl _

/-- Values between 0 and a bound have a mean between them. -/
theorem weightedMean_mem {entries : List (𝕜 × 𝕜)} {high : 𝕜} (positive : 0 ≤ high)
    (inside : ∀ entry ∈ entries, 0 ≤ entry.1 ∧ 0 ≤ entry.2 ∧ entry.2 ≤ high) :
    0 ≤ weightedMean entries ∧ weightedMean entries ≤ high := by
  have nonneg := totalWeight_nonneg fun entry here => (inside entry here).1
  have sums : 0 ≤ weightedSum entries ∧ weightedSum entries ≤ totalWeight entries * high := by
    clear nonneg
    induction entries with
    | nil => simp [weightedSum, totalWeight]
    | cons entry rest ih =>
        obtain ⟨head, tail⟩ := List.forall_mem_cons.mp inside
        obtain ⟨low, up⟩ := ih tail
        have first : 0 ≤ entry.1 * entry.2 := mul_nonneg head.1 head.2.1
        have second : entry.1 * entry.2 ≤ entry.1 * high := mul_le_mul_of_nonneg_left head.2.2 head.1
        simp only [totalWeight, weightedSum, List.map_cons, List.sum_cons, add_mul] at low up ⊢
        exact ⟨add_nonneg first low, add_le_add second up⟩
  unfold weightedMean
  split
  case isTrue some =>
    have weight : 0 < totalWeight entries := lt_of_le_of_ne nonneg (Ne.symm some)
    refine ⟨div_nonneg sums.1 nonneg, ?_⟩
    rw [div_le_iff₀ weight, mul_comm]
    exact sums.2
  case isFalse => exact ⟨le_refl _, positive⟩

omit [IsStrictOrderedRing 𝕜] in
theorem weightedMean_perm {entries others : List (𝕜 × 𝕜)} (same : entries.Perm others) :
    weightedMean entries = weightedMean others := by
  have weights : totalWeight entries = totalWeight others := (same.map Prod.fst).sum_eq
  have sums : weightedSum entries = weightedSum others := (same.map fun entry : 𝕜 × 𝕜 => entry.1 * entry.2).sum_eq
  rw [weightedMean, weightedMean, weights, sums]

/-- An entry that is at least the mean of the others does not lower it. -/
theorem weightedMean_le_cons {entry : 𝕜 × 𝕜} {entries : List (𝕜 × 𝕜)} (weight : 0 < entry.1)
    (weights : ∀ other ∈ entries, 0 ≤ other.1) (le : weightedMean entries ≤ entry.2) :
    weightedMean entries ≤ weightedMean (entry :: entries) := by
  have nonneg := totalWeight_nonneg weights
  have more : 0 < totalWeight (entry :: entries) := by
    simp only [totalWeight, List.map_cons, List.sum_cons] at nonneg ⊢
    linarith
  have sum : weightedSum (entry :: entries) = entry.1 * entry.2 + weightedSum entries := by
    simp [weightedSum]
  have total : totalWeight (entry :: entries) = entry.1 + totalWeight entries := by simp [totalWeight]
  have others : weightedMean entries * totalWeight entries ≤ weightedSum entries := by
    unfold weightedMean
    split
    case isTrue some => rw [div_mul_cancel₀ _ some]
    case isFalse none =>
      have empty : totalWeight entries = 0 := not_not.mp none
      have zero : ∀ other ∈ entries, other.1 = 0 := by
        intro other here
        have below := List.single_le_sum (l := entries.map Prod.fst) (by simpa using fun a b here => weights (a, b) here)
          other.1 (List.mem_map_of_mem here)
        exact le_antisymm (below.trans empty.le) (weights other here)
      have nothing : weightedSum entries = 0 := by
        apply List.sum_eq_zero
        intro product here
        obtain ⟨other, member, rfl⟩ := List.mem_map.mp here
        rw [zero other member, zero_mul]
      rw [nothing, zero_mul]
  have mine : weightedMean entries * entry.1 ≤ entry.1 * entry.2 := by
    rw [mul_comm]
    exact mul_le_mul_of_nonneg_left le weight.le
  rw [show weightedMean (entry :: entries) = weightedSum (entry :: entries) / totalWeight (entry :: entries) from
    if_pos more.ne', le_div_iff₀ more, total, sum, mul_add]
  exact add_le_add mine others

end SentinelEdge.Foundation
