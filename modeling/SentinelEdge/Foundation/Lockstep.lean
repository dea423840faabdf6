import SentinelEdge.Foundation.Table

/-! # Two calls side by side

`Lockstep R Q x y`: started in related states, `x` and `y` return together or
raise together, their results are related by `Q`, and they leave related states
behind. The rules follow the structure of the calls.
-/

namespace SentinelEdge.Foundation

namespace Call

variable {σ τ σ' τ' ε δ α β γ κ : Type} {R : σ → τ → Prop}

/-- Both returned, with related values, or both raised. -/
def Agree (Q : α → β → Prop) : Except ε α → Except δ β → Prop
  | .ok a, .ok b => Q a b
  | .error _, .error _ => True
  | .ok _, .error _ => False
  | .error _, .ok _ => False

def Lockstep (R : σ → τ → Prop) (Q : α → β → Prop) (x : Call σ ε α) (y : Call τ δ β) : Prop :=
  ∀ s t, R s t → R (x s).2 (y t).2 ∧ Agree Q (x s).1 (y t).1

namespace Lockstep

theorem pure {Q : α → β → Prop} {a : α} {b : β} (same : Q a b) :
    Lockstep R Q (Pure.pure a : Call σ ε α) (Pure.pure b : Call τ δ β) := fun _ _ related => ⟨related, same⟩

theorem raise {Q : α → β → Prop} (e : ε) (d : δ) :
    Lockstep R Q (Call.raise e : Call σ ε α) (Call.raise d : Call τ δ β) := fun _ _ related => ⟨related, trivial⟩

theorem read {Q : α → β → Prop} {f : σ → α} {g : τ → β} (same : ∀ s t, R s t → Q (f s) (g t)) :
    Lockstep R Q (Call.read f : Call σ ε α) (Call.read g : Call τ δ β) :=
  fun s t related => ⟨related, same s t related⟩

theorem modify {f : σ → σ} {g : τ → τ} (keeps : ∀ s t, R s t → R (f s) (g t)) :
    Lockstep R (fun _ _ => True) (Call.modify f : Call σ ε Unit) (Call.modify g : Call τ δ Unit) :=
  fun s t related => ⟨keeps s t related, trivial⟩

theorem bind {α' β' : Type} {Q : α → β → Prop} {Q' : α' → β' → Prop} {x : Call σ ε α} {y : Call τ δ β}
    {f : α → Call σ ε α'} {g : β → Call τ δ β'} (first : Lockstep R Q x y)
    (later : ∀ a b, Q a b → Lockstep R Q' (f a) (g b)) : Lockstep R Q' (x >>= f) (y >>= g) := by
  intro s t related
  obtain ⟨after, results⟩ := first s t related
  rcases hx : x s with ⟨r, s'⟩
  rcases hy : y t with ⟨q, t'⟩
  rw [hx, hy] at after results
  cases r with
  | ok a =>
      cases q with
      | ok b =>
          rw [bind_of_ok hx, bind_of_ok hy]
          exact later a b results s' t' after
      | error d => exact results.elim
  | error e =>
      cases q with
      | ok b => exact results.elim
      | error d =>
          rw [bind_of_error hx, bind_of_error hy]
          exact ⟨after, trivial⟩

theorem atomically {Q : α → β → Prop} {x : Call σ ε α} {y : Call τ δ β} (body : Lockstep R Q x y) :
    Lockstep R Q (Call.atomically x) (Call.atomically y) := by
  intro s t related
  obtain ⟨after, results⟩ := body s t related
  rcases hx : x s with ⟨r, s'⟩
  rcases hy : y t with ⟨q, t'⟩
  rw [hx, hy] at after results
  cases r with
  | ok a =>
      cases q with
      | ok b =>
          rw [atomically_of_ok hx, atomically_of_ok hy]
          exact ⟨after, results⟩
      | error d => exact results.elim
  | error e =>
      cases q with
      | ok b => exact results.elim
      | error d =>
          rw [atomically_of_error hx, atomically_of_error hy]
          exact ⟨related, trivial⟩

theorem zoom {S : σ' → τ' → Prop} {Q : α → β → Prop} {x : Call σ' ε α} {y : Call τ' δ β} {part : σ → σ'}
    {put : σ → σ' → σ} {part' : τ → τ'} {put' : τ → τ' → τ} (body : Lockstep S Q x y)
    (down : ∀ s t, R s t → S (part s) (part' t))
    (up : ∀ s t u v, R s t → S u v → R (put s u) (put' t v)) :
    Lockstep R Q (Call.zoom part put x) (Call.zoom part' put' y) := by
  intro s t related
  obtain ⟨after, results⟩ := body _ _ (down s t related)
  exact ⟨up s t _ _ related after, results⟩

/-- Two tables whose constraints read the same keys accept the same rows. -/
theorem insert {ρ ω : Type} {table : Table σ ρ} {other : Table τ ω} {violation : ε} {violation' : δ} {row : ρ} {row' : ω}
    (key : ρ → κ) (key' : ω → κ) (clashes : κ → Bool) (reads : ∀ old, table.clash row old = clashes (key old))
    (reads' : ∀ old, other.clash row' old = clashes (key' old))
    (rows : ∀ s t, R s t → (table.rows s).map key = (other.rows t).map key')
    (keeps : ∀ s t, R s t → R (table.setRows s (table.rows s ++ [row])) (other.setRows t (other.rows t ++ [row']))) :
    Lockstep R (fun _ _ => True) (table.insert violation row) (other.insert violation' row') := by
  intro s t related
  have left : (table.rows s).any (table.clash row) = ((table.rows s).map key).any clashes := by
    rw [List.any_map]
    exact List.any_congr rfl reads
  have right : (other.rows t).any (other.clash row') = ((other.rows t).map key').any clashes := by
    rw [List.any_map]
    exact List.any_congr rfl reads'
  have same : (table.rows s).any (table.clash row) = (other.rows t).any (other.clash row') := by
    rw [left, right, rows s t related]
  cases clash : (other.rows t).any (other.clash row') with
  | true =>
      rw [Table.insert_of_clash (same.trans clash), Table.insert_of_clash clash]
      exact ⟨related, trivial⟩
  | false =>
      rw [Table.insert_of_fresh (same.trans clash), Table.insert_of_fresh clash]
      exact ⟨keeps s t related, trivial⟩

end Lockstep

end Call

end SentinelEdge.Foundation
