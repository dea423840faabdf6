import Mathlib.Data.List.Sort
import Mathlib.Logic.Function.Basic

/-! # Hash chains

A chain digests a list from the left, each digest taking in the one before it.
When the digest of a pair determines the pair, the last digest of a chain
determines the list it was made from, once the length is known.
-/

namespace SentinelEdge.Foundation

variable {δ α κ : Type}

/-- The digest at the end of a chain that starts from `previous`. -/
def chainRoot (digest : δ → α → δ) (previous : δ) (items : List α) : δ := items.foldl digest previous

/-- Chains of equal length that end in the same digest are the same chain. -/
theorem chainRoot_injective {digest : δ → α → δ} (injective : Function.Injective2 digest) {xs ys : List α} {c d : δ}
    (length : xs.length = ys.length) (roots : chainRoot digest c xs = chainRoot digest d ys) : c = d ∧ xs = ys := by
  induction xs generalizing ys c d with
  | nil =>
      obtain rfl := List.length_eq_zero_iff.mp length.symm
      exact ⟨roots, rfl⟩
  | cons x xs ih =>
      cases ys with
      | nil => cases length
      | cons y ys =>
          obtain ⟨link, rest⟩ := ih (Nat.succ.inj length) roots
          obtain ⟨previous, first⟩ := injective link
          exact ⟨previous, by rw [first, rest]⟩

/-- Lists in the order of a key that tells their elements apart are equal as soon
    as they have the same elements. -/
theorem eq_of_perm_of_sorted [LinearOrder κ] (key : α → κ) {xs ys : List α} (perm : xs.Perm ys)
    (sortedX : xs.Pairwise (fun a b => key a ≤ key b)) (sortedY : ys.Pairwise (fun a b => key a ≤ key b))
    (unique : (xs.map key).Nodup) : xs = ys := by
  apply List.Perm.eq_of_pairwise _ sortedX sortedY perm
  intro a b memberA memberB below above
  exact List.inj_on_of_nodup_map unique memberA (perm.mem_iff.mpr memberB) (le_antisymm below above)

end SentinelEdge.Foundation
