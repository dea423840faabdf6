import Mathlib.Logic.Basic

/-! # Calls on a mutable object

A method call returns a value or raises, and in both cases leaves its object in
some state. Effects made before a raise therefore survive it, unless the call
runs inside a transaction, which restores the state it started from.
-/

namespace SentinelEdge.Foundation

/-- A call on an object with state `σ`. The state component is the object as
    the call leaves it, also when the result is an exception. -/
def Call (σ ε α : Type) : Type := σ → Except ε α × σ

namespace Call

variable {σ τ ε α β : Type}

/-- Sequencing: a raise in `x` skips `f` and keeps what `x` has already done. -/
def bind (x : Call σ ε α) (f : α → Call σ ε β) : Call σ ε β := fun s =>
  match x s with
  | (.ok a, s') => f a s'
  | (.error e, s') => (.error e, s')

instance : Monad (Call σ ε) where
  pure a := fun s => (.ok a, s)
  bind := Call.bind

def raise (e : ε) : Call σ ε α := fun s => (.error e, s)

/-- A query: it reads the object and leaves it alone. -/
def read (f : σ → α) : Call σ ε α := fun s => (.ok (f s), s)

def modify (f : σ → σ) : Call σ ε Unit := fun s => (.ok (), f s)

/-- A computation that may raise but has no access to the object. -/
def lift (r : Except ε α) : Call σ ε α := fun s => (r, s)

/-- One transaction: commit what `x` did when it returns, roll all of it back
    when it raises. -/
def atomically (x : Call σ ε α) : Call σ ε α := fun s =>
  match x s with
  | (.ok a, s') => (.ok a, s')
  | (.error e, _) => (.error e, s)

/-- `try`: the result of `x` as a value, with what `x` did before it raised. -/
def attempt (x : Call σ ε α) : Call σ ε (Except ε α) := fun s => (.ok (x s).1, (x s).2)

/-- A call on a component of the object. -/
def zoom (part : σ → τ) (put : σ → τ → σ) (x : Call τ ε α) : Call σ ε α := fun s =>
  ((x (part s)).1, put s (x (part s)).2)

@[simp] theorem pure_apply (a : α) (s : σ) : (pure a : Call σ ε α) s = (.ok a, s) := rfl

@[simp] theorem raise_apply (e : ε) (s : σ) : (raise e : Call σ ε α) s = (.error e, s) := rfl

@[simp] theorem attempt_apply (x : Call σ ε α) (s : σ) : attempt x s = (.ok (x s).1, (x s).2) := rfl

@[simp] theorem lift_apply (r : Except ε α) (s : σ) : (lift r : Call σ ε α) s = (r, s) := rfl

private theorem bind_assoc_apply {γ : Type} (x : Call σ ε α) (f : α → Call σ ε β) (g : β → Call σ ε γ) :
    (x >>= f) >>= g = x >>= fun a => f a >>= g := by
  funext s
  show Call.bind (Call.bind x f) g s = Call.bind x (fun a => Call.bind (f a) g) s
  unfold Call.bind
  rcases x s with ⟨r, t⟩
  cases r with
  | error e => rfl
  | ok a => rfl

private theorem map_id (x : Call σ ε α) : id <$> x = x := by
  funext s
  show Call.bind x (fun a => pure (id a)) s = x s
  unfold Call.bind
  rcases x s with ⟨r, t⟩
  cases r with
  | error e => rfl
  | ok a => rfl

instance : LawfulMonad (Call σ ε) := LawfulMonad.mk' _ map_id (fun _ _ => rfl) bind_assoc_apply

theorem bind_of_ok {x : Call σ ε α} {f : α → Call σ ε β} {s t : σ} {a : α}
    (h : x s = (.ok a, t)) : (x >>= f) s = f a t := by
  show Call.bind x f s = _
  simp only [Call.bind, h]

theorem bind_of_error {x : Call σ ε α} {f : α → Call σ ε β} {s t : σ} {e : ε}
    (h : x s = (.error e, t)) : (x >>= f) s = (.error e, t) := by
  show Call.bind x f s = _
  simp only [Call.bind, h]

/-- A sequence returns exactly when both halves do. -/
theorem bind_ok {x : Call σ ε α} {f : α → Call σ ε β} {s s'' : σ} {b : β} :
    (x >>= f) s = (.ok b, s'') ↔ ∃ a s', x s = (.ok a, s') ∧ f a s' = (.ok b, s'') := by
  rcases h : x s with ⟨r, s'⟩
  cases r with
  | error e => simp [bind_of_error h]
  | ok a =>
      rw [bind_of_ok h]
      constructor
      · intro later
        exact ⟨a, s', rfl, later⟩
      · rintro ⟨a', t, first, later⟩
        obtain ⟨ha, rfl⟩ := Prod.mk.inj first
        exact Except.ok.inj ha ▸ later

/-- A sequence raises where its first half does, or where the second half does after it. -/
theorem bind_error {x : Call σ ε α} {f : α → Call σ ε β} {s s'' : σ} {e : ε} :
    (x >>= f) s = (.error e, s'') ↔ x s = (.error e, s'') ∨ ∃ a s', x s = (.ok a, s') ∧ f a s' = (.error e, s'') := by
  rcases h : x s with ⟨r, s'⟩
  cases r with
  | error e => simp [bind_of_error h]
  | ok a =>
      rw [bind_of_ok h]
      constructor
      · intro later
        exact Or.inr ⟨a, s', rfl, later⟩
      · rintro (first | ⟨a', t, first, later⟩)
        · cases first
        · cases first
          exact later

@[simp] theorem read_bind (f : σ → α) (g : α → Call σ ε β) (s : σ) :
    ((read f : Call σ ε α) >>= g) s = g (f s) s := bind_of_ok rfl

@[simp] theorem modify_bind (f : σ → σ) (g : Unit → Call σ ε β) (s : σ) :
    ((modify f : Call σ ε Unit) >>= g) s = g () (f s) := bind_of_ok rfl

/-- Wrapping up a result leaves the state as it is. -/
theorem bind_pure_state (x : Call σ ε α) (f : α → β) (s : σ) : ((x >>= fun a => pure (f a)) s).2 = (x s).2 := by
  rcases h : x s with ⟨r, s'⟩
  cases r with
  | ok a => rw [bind_of_ok h, pure_apply]
  | error e => rw [bind_of_error h]

theorem atomically_of_ok {x : Call σ ε α} {s t : σ} {a : α} (h : x s = (.ok a, t)) :
    atomically x s = (.ok a, t) := by
  simp only [atomically, h]

theorem atomically_of_error {x : Call σ ε α} {s t : σ} {e : ε} (h : x s = (.error e, t)) :
    atomically x s = (.error e, s) := by
  simp only [atomically, h]

@[simp] theorem atomically_ok {x : Call σ ε α} {s s' : σ} {a : α} :
    atomically x s = (.ok a, s') ↔ x s = (.ok a, s') := by
  rcases h : x s with ⟨r, t⟩
  cases r with
  | error e => simp [atomically_of_error h]
  | ok b => simp [atomically_of_ok h]

/-- What a transaction that raised leaves behind is what it found. -/
theorem atomically_error {x : Call σ ε α} {s s' : σ} {e : ε}
    (h : atomically x s = (.error e, s')) : s' = s := by
  rcases hx : x s with ⟨r, t⟩
  cases r with
  | error e' =>
      rw [atomically_of_error hx] at h
      exact (Prod.mk.inj h).2.symm
  | ok b =>
      rw [atomically_of_ok hx] at h
      cases h

/-- The call leaves what `field` reads as it is, whether it returns or raises. -/
def Keeps {γ : Type} (field : σ → γ) (x : Call σ ε α) : Prop := ∀ s, field (x s).2 = field s

namespace Keeps

variable {γ : Type} {field : σ → γ}

theorem pure (a : α) : Keeps field (Pure.pure a : Call σ ε α) := fun _ => rfl

theorem raise (e : ε) : Keeps field (Call.raise e : Call σ ε α) := fun _ => rfl

theorem read (f : σ → α) : Keeps field (Call.read f : Call σ ε α) := fun _ => rfl

theorem lift (r : Except ε α) : Keeps field (Call.lift r : Call σ ε α) := fun _ => rfl

theorem modify {f : σ → σ} (same : ∀ s, field (f s) = field s) : Keeps field (Call.modify f : Call σ ε Unit) := same

theorem bind {x : Call σ ε α} {f : α → Call σ ε β} (first : Keeps field x) (later : ∀ a, Keeps field (f a)) :
    Keeps field (x >>= f) := by
  intro s
  have kept := first s
  rcases h : x s with ⟨r, t⟩
  rw [h] at kept
  cases r with
  | error e => rw [bind_of_error h, kept]
  | ok a => rw [bind_of_ok h, later a t, kept]

theorem atomically {x : Call σ ε α} (body : Keeps field x) : Keeps field (Call.atomically x) := by
  intro s
  have kept := body s
  rcases h : x s with ⟨r, t⟩
  rw [h] at kept
  cases r with
  | error e => rw [atomically_of_error h]
  | ok a => rw [atomically_of_ok h, kept]

end Keeps

/-- Where `I` holds it holds after the call, whether that returns or raises. -/
def Preserves (I : σ → Prop) (x : Call σ ε α) : Prop := ∀ s, I s → I (x s).2

namespace Preserves

variable {I : σ → Prop}

theorem pure (a : α) : Preserves I (Pure.pure a : Call σ ε α) := fun _ holds => holds

theorem raise (e : ε) : Preserves I (Call.raise e : Call σ ε α) := fun _ holds => holds

theorem read (f : σ → α) : Preserves I (Call.read f : Call σ ε α) := fun _ holds => holds

theorem lift (r : Except ε α) : Preserves I (Call.lift r : Call σ ε α) := fun _ holds => holds

theorem modify {f : σ → σ} (keeps : ∀ s, I s → I (f s)) : Preserves I (Call.modify f : Call σ ε Unit) := keeps

theorem bind {x : Call σ ε α} {f : α → Call σ ε β} (first : Preserves I x) (later : ∀ a, Preserves I (f a)) :
    Preserves I (x >>= f) := by
  intro s holds
  have after := first s holds
  rcases h : x s with ⟨r, t⟩
  rw [h] at after
  cases r with
  | error e =>
      rw [bind_of_error h]
      exact after
  | ok a =>
      rw [bind_of_ok h]
      exact later a t after

theorem attempt {x : Call σ ε α} (body : Preserves I x) : Preserves I (Call.attempt x) := body

theorem atomically {x : Call σ ε α} (body : Preserves I x) : Preserves I (Call.atomically x) := by
  intro s holds
  have after := body s holds
  rcases h : x s with ⟨r, t⟩
  rw [h] at after
  cases r with
  | error e =>
      rw [atomically_of_error h]
      exact holds
  | ok a =>
      rw [atomically_of_ok h]
      exact after

theorem zoom {part : σ → τ} {put : σ → τ → σ} {J : τ → Prop} {x : Call τ ε α} (body : Preserves J x)
    (down : ∀ s, I s → J (part s)) (up : ∀ s t, I s → J t → I (put s t)) : Preserves I (Call.zoom part put x) :=
  fun s holds => up s _ holds (body _ (down s holds))

end Preserves

/-- The call raises or returns something of `Q`, and leaves the object alone. -/
def Reads (x : Call σ ε α) (Q : α → Prop) (s : σ) : Prop := (∃ e, x s = (.error e, s)) ∨ ∃ a, Q a ∧ x s = (.ok a, s)

namespace Reads

variable {x : Call σ ε α} {Q : α → Prop} {s : σ}

theorem pure {a : α} (holds : Q a) : Reads (Pure.pure a : Call σ ε α) Q s := .inr ⟨a, holds, rfl⟩

theorem lift (r : Except ε α) (s : σ) : Reads (Call.lift r) (fun a => r = .ok a) s := by
  cases r with
  | error e => exact .inl ⟨e, rfl⟩
  | ok a => exact .inr ⟨a, rfl, rfl⟩

/-- What holds where the first call raises, and of all that comes after it, holds of the sequence. -/
theorem andThen {f : α → Call σ ε β} {M : Except ε β × σ → Prop} (first : Reads x Q s) (raised : ∀ e, M (.error e, s))
    (later : ∀ a, Q a → M (f a s)) : M ((x >>= f) s) := by
  obtain ⟨e, h⟩ | ⟨a, holds, h⟩ := first
  · rw [bind_of_error h]
    exact raised e
  · rw [bind_of_ok h]
    exact later a holds

theorem bind {f : α → Call σ ε β} {R : β → Prop} (first : Reads x Q s) (later : ∀ a, Q a → Reads (f a) R s) :
    Reads (x >>= f) R s := by
  obtain ⟨e, h⟩ | ⟨a, holds, h⟩ := first
  · exact .inl ⟨e, bind_of_error h⟩
  · unfold Reads
    rw [bind_of_ok h]
    exact later a holds

end Reads

theorem zoom_of_eq {part : σ → τ} {put : σ → τ → σ} {x : Call τ ε α} {s : σ} {r : Except ε α} {t : τ}
    (h : x (part s) = (r, t)) : zoom part put x s = (r, put s t) := by
  simp only [zoom, h]

end Call

end SentinelEdge.Foundation
