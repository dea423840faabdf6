import SentinelEdge.Foundation.Call

/-! # Tables with uniqueness constraints

A table is a field of a database state: its rows in rowid order and the
relation its PRIMARY KEY and UNIQUE declarations forbid between two rows.
-/

namespace SentinelEdge.Foundation

structure Table (σ ρ : Type) where
  rows : σ → List ρ
  setRows : σ → List ρ → σ
  /-- `clash new old`: the new row repeats a key of the old one. -/
  clash : ρ → ρ → Bool

namespace Table

variable {σ ρ ε : Type}

/-- `INSERT`: the new row gets the next rowid, or the constraint violation is
    raised and nothing is written. -/
def insert (t : Table σ ρ) (violation : ε) (row : ρ) : Call σ ε Unit := fun s =>
  if (t.rows s).any (t.clash row) then (.error violation, s)
  else (.ok (), t.setRows s (t.rows s ++ [row]))

theorem insert_of_fresh {t : Table σ ρ} {violation : ε} {row : ρ} {s : σ}
    (fresh : (t.rows s).any (t.clash row) = false) :
    t.insert violation row s = (.ok (), t.setRows s (t.rows s ++ [row])) := by
  simp [insert, fresh]

theorem insert_of_clash {t : Table σ ρ} {violation : ε} {row : ρ} {s : σ}
    (clash : (t.rows s).any (t.clash row) = true) :
    t.insert violation row s = (.error violation, s) := by
  simp [insert, clash]

theorem insert_ok {t : Table σ ρ} {violation : ε} {row : ρ} {s s' : σ} {u : Unit}
    (h : t.insert violation row s = (.ok u, s')) :
    (t.rows s).any (t.clash row) = false ∧ s' = t.setRows s (t.rows s ++ [row]) := by
  cases clash : (t.rows s).any (t.clash row) with
  | true => rw [insert_of_clash clash] at h; cases h
  | false =>
      rw [insert_of_fresh clash] at h
      exact ⟨rfl, (Prod.mk.inj h).2.symm⟩

end Table

end SentinelEdge.Foundation
