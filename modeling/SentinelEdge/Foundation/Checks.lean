import Mathlib.Data.List.Forall2

/-! # Checks one after another

A computation that may raise, written as a sequence of checks and of loops over
lists. What returns has passed every check, and the results of a loop stand beside
its items.
-/

namespace SentinelEdge.Foundation.Checks

variable {ε α β : Type}

/-- `if condition: raise error` -/
def refuse (condition : Bool) (error : ε) : Except ε Unit := if condition then .error error else .ok ()

@[simp] theorem refuse_eq_ok {condition : Bool} {error : ε} {done : Unit} :
    refuse condition error = .ok done ↔ condition = false := by
  cases condition <;> simp [refuse]

theorem refuse_eq_error {condition : Bool} {error e : ε} : refuse condition error = .error e ↔ condition = true ∧ error = e := by
  cases condition <;> simp [refuse]

theorem ok_bind (a : α) (f : α → Except ε β) : (Except.ok a >>= f) = f a := rfl

theorem error_bind (e : ε) (f : α → Except ε β) : (Except.error e >>= f) = .error e := rfl

theorem ok_of_isOk {x : Except ε α} (returns : x.isOk = true) : ∃ a, x = .ok a := by
  cases x with
  | error e => cases returns
  | ok a => exact ⟨a, rfl⟩

theorem toOption_eq_some {x : Except ε α} {a : α} : x.toOption = some a ↔ x = .ok a := by
  cases x with
  | error e =>
      constructor
      · intro none
        cases none
      · intro none
        cases none
  | ok b => exact ⟨fun same => congrArg Except.ok (Option.some.inj same), fun same => congrArg some (Except.ok.inj same)⟩

theorem bind_eq_ok {x : Except ε α} {f : α → Except ε β} {b : β} :
    (x >>= f) = .ok b ↔ ∃ a, x = .ok a ∧ f a = .ok b := by
  cases x with
  | error e =>
      constructor
      · intro returned
        cases returned
      · rintro ⟨_, returned, _⟩
        cases returned
  | ok a =>
      constructor
      · intro returned
        exact ⟨a, rfl, returned⟩
      · rintro ⟨_, here, returned⟩
        cases here
        exact returned

theorem bind_eq_error {x : Except ε α} {f : α → Except ε β} {e : ε} :
    (x >>= f) = .error e ↔ x = .error e ∨ ∃ a, x = .ok a ∧ f a = .error e := by
  cases x with
  | error e' =>
      constructor
      · intro raised
        cases raised
        exact Or.inl rfl
      · rintro (raised | ⟨_, returned, _⟩)
        · cases raised
          rfl
        · cases returned
  | ok a =>
      constructor
      · intro raised
        exact Or.inr ⟨a, rfl, raised⟩
      · rintro (raised | ⟨_, returned, raised⟩)
        · cases raised
        · cases returned
          exact raised

theorem mapM_eq_ok {f : α → Except ε β} {xs : List α} {ys : List β} :
    xs.mapM f = .ok ys ↔ List.Forall₂ (fun x y => f x = .ok y) xs ys := by
  induction xs generalizing ys with
  | nil =>
      rw [List.mapM_nil, List.forall₂_nil_left_iff]
      exact ⟨fun returned => (Except.ok.inj returned).symm, fun none => by rw [none]; rfl⟩
  | cons x xs ih =>
      rw [List.mapM_cons, bind_eq_ok, List.forall₂_cons_left_iff]
      constructor
      · rintro ⟨y, first, rest⟩
        obtain ⟨ys', later, whole⟩ := bind_eq_ok.mp rest
        exact ⟨y, ys', first, ih.mp later, (Except.ok.inj whole).symm⟩
      · rintro ⟨y, ys', first, later, rfl⟩
        exact ⟨y, first, bind_eq_ok.mpr ⟨ys', ih.mpr later, rfl⟩⟩

variable {f : α → Except ε β} {xs : List α} {ys : List β}

/-- Every result of a loop is that of one of its items. -/
theorem item_of_result (returned : xs.mapM f = .ok ys) {y : β} (member : y ∈ ys) : ∃ x ∈ xs, f x = .ok y := by
  have beside := mapM_eq_ok.mp returned
  induction beside with
  | nil => cases member
  | cons first later ih =>
      cases List.mem_cons.mp member with
      | inl here => exact ⟨_, by simp, here ▸ first⟩
      | inr there =>
          obtain ⟨x, among, result⟩ := ih (mapM_eq_ok.mpr later) there
          exact ⟨x, by simp [among], result⟩

/-- Every item of a loop has a result. -/
theorem result_of_item (returned : xs.mapM f = .ok ys) {x : α} (member : x ∈ xs) : ∃ y ∈ ys, f x = .ok y := by
  have beside := mapM_eq_ok.mp returned
  induction beside with
  | nil => cases member
  | cons first later ih =>
      cases List.mem_cons.mp member with
      | inl here => exact ⟨_, by simp, here ▸ first⟩
      | inr there =>
          obtain ⟨y, among, result⟩ := ih (mapM_eq_ok.mpr later) there
          exact ⟨y, by simp [among], result⟩

theorem pure_eq_ok {a b : α} : (pure a : Except ε α) = .ok b ↔ b = a :=
  ⟨fun same => (Except.ok.inj same).symm, fun same => congrArg Except.ok same.symm⟩

/-- A loop of checks returns exactly when each of them does. -/
theorem forM_eq_ok {check : α → Except ε Unit} {xs : List α} {done : Unit} :
    xs.forM check = .ok done ↔ ∀ x ∈ xs, check x = .ok () := by
  induction xs with
  | nil => exact iff_of_true rfl nofun
  | cons x xs ih =>
      show (check x >>= fun _ => xs.forM check) = _ ↔ _
      rw [bind_eq_ok, List.forall_mem_cons, ← ih]
      constructor
      · rintro ⟨_, first, later⟩
        exact ⟨first, later⟩
      · rintro ⟨first, later⟩
        exact ⟨(), first, later⟩

/-- What each turn of a loop keeps holds at its end. -/
theorem foldlM_invariant {f : β → α → Except ε β} {I : β → Prop}
    (keeps : ∀ state x state', x ∈ xs → I state → f state x = .ok state' → I state') {start final : β} (init : I start)
    (returned : xs.foldlM f start = .ok final) : I final := by
  induction xs generalizing start with
  | nil =>
      rw [List.foldlM_nil, pure_eq_ok] at returned
      exact returned ▸ init
  | cons x xs ih =>
      rw [List.foldlM_cons, bind_eq_ok] at returned
      obtain ⟨next, first, later⟩ := returned
      refine ih ?_ (keeps start x next List.mem_cons_self init first) later
      intro state y state' member
      exact keeps state y state' (List.mem_cons_of_mem x member)

end SentinelEdge.Foundation.Checks
