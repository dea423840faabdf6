import Mathlib.Data.List.Basic

/-! # Runs of a system that takes one operation at a time

`run` feeds a list of operations to a step function. An invariant of a run is
proved from one step; `Meets` restricts a run to steps whose input and state
before the step satisfy a condition.
-/

namespace SentinelEdge.Foundation

variable {σ ι : Type}

def run (step : σ → ι → σ) (s : σ) (ops : List ι) : σ := ops.foldl step s

theorem run_append (step : σ → ι → σ) (s : σ) (ops more : List ι) :
    run step s (ops ++ more) = run step (run step s ops) more :=
  List.foldl_append

/-- What holds at the start and is preserved by every step holds after any run. -/
theorem run_invariant {step : σ → ι → σ} {I : σ → Prop} (keeps : ∀ s op, I s → I (step s op))
    {s : σ} (init : I s) (ops : List ι) : I (run step s ops) := by
  induction ops generalizing s with
  | nil => exact init
  | cons op ops ih => exact ih (keeps s op init)

/-- Every step of the run meets `C`, a condition on the state before the step
    and on its operation. -/
def Meets (step : σ → ι → σ) (C : σ → ι → Prop) : σ → List ι → Prop
  | _, [] => True
  | s, op :: ops => C s op ∧ Meets step C (step s op) ops

def Meets.decide (step : σ → ι → σ) (C : σ → ι → Prop) [∀ s op, Decidable (C s op)] :
    ∀ s ops, Decidable (Meets step C s ops)
  | _, [] => isTrue trivial
  | s, op :: ops => @instDecidableAnd _ _ inferInstance (Meets.decide step C (step s op) ops)

instance (step : σ → ι → σ) (C : σ → ι → Prop) [∀ s op, Decidable (C s op)] (s : σ) (ops : List ι) :
    Decidable (Meets step C s ops) :=
  Meets.decide step C s ops

theorem Meets.invariant {step : σ → ι → σ} {C : σ → ι → Prop} {I : σ → Prop}
    (keeps : ∀ s op, C s op → I s → I (step s op)) {s : σ} (init : I s) {ops : List ι}
    (meets : Meets step C s ops) : I (run step s ops) := by
  induction ops generalizing s with
  | nil => exact init
  | cons op ops ih => exact ih (keeps s op meets.1 init) meets.2

theorem Meets.mono {step : σ → ι → σ} {C D : σ → ι → Prop} (weaker : ∀ s op, C s op → D s op) {s : σ} {ops : List ι}
    (meets : Meets step C s ops) : Meets step D s ops := by
  induction ops generalizing s with
  | nil => trivial
  | cons op ops ih => exact ⟨weaker s op meets.1, ih meets.2⟩

theorem Meets.append {step : σ → ι → σ} {C : σ → ι → Prop} {s : σ} {ops more : List ι} :
    Meets step C s (ops ++ more) ↔ Meets step C s ops ∧ Meets step C (run step s ops) more := by
  induction ops generalizing s with
  | nil => simp [Meets, run]
  | cons op ops ih =>
      simp only [List.cons_append, Meets, ih, and_assoc]
      rfl

theorem Meets.take {step : σ → ι → σ} {C : σ → ι → Prop} {s : σ} {ops : List ι} (meets : Meets step C s ops) (n : Nat) :
    Meets step C s (ops.take n) := by
  induction ops generalizing s n with
  | nil => simpa using meets
  | cons op ops ih =>
      cases n with
      | zero => trivial
      | succ n => exact ⟨meets.1, ih meets.2 n⟩

/-- What holds after a run and not before it was brought about by one step. -/
theorem run_origin {step : σ → ι → σ} {Q : σ → Prop} {s : σ} (before : ¬ Q s) {ops : List ι} (after : Q (run step s ops)) :
    ∃ earlier op later, ops = earlier ++ op :: later ∧ ¬ Q (run step s earlier) ∧ Q (step (run step s earlier) op) := by
  induction ops generalizing s with
  | nil => exact absurd after before
  | cons op ops ih =>
      by_cases here : Q (step s op)
      · exact ⟨[], op, ops, rfl, before, here⟩
      · obtain ⟨earlier, op', later, split, still, then_⟩ := ih here after
        exact ⟨op :: earlier, op', later, by rw [split]; rfl, still, then_⟩

end SentinelEdge.Foundation

/-! ## Traces

A system that gives something out at each step, and the list of all it has given
out. A relation between earlier and later items of a trace is kept over a whole run
exactly when every step gives out items that stand in it to all items before.
-/

namespace SentinelEdge.Foundation

variable {σ ι α : Type}

/-- The system with its trace. -/
def traced (step : σ → ι → σ) (emit : σ → ι → List α) (x : σ × List α) (op : ι) : σ × List α :=
  (step x.1 op, x.2 ++ emit x.1 op)

/-- The step gives out items that stand in `R` to each other and to the trace. -/
def EmitsAfter (emit : σ → ι → List α) (R : α → α → Prop) (x : σ × List α) (op : ι) : Prop :=
  (emit x.1 op).Pairwise R ∧ ∀ earlier ∈ x.2, ∀ later ∈ emit x.1 op, R earlier later

variable {step : σ → ι → σ} {emit : σ → ι → List α}

theorem trace_grows (x : σ × List α) (ops : List ι) : x.2 <+: (run (traced step emit) x ops).2 := by
  induction ops generalizing x with
  | nil => exact List.prefix_refl _
  | cons op ops ih => exact (List.prefix_append x.2 _).trans (ih (traced step emit x op))

theorem pairwise_traced_iff {R : α → α → Prop} {x : σ × List α} (ordered : x.2.Pairwise R) (op : ι) :
    (traced step emit x op).2.Pairwise R ↔ EmitsAfter emit R x op := by
  rw [traced, List.pairwise_append]
  constructor
  · rintro ⟨-, among, across⟩
    exact ⟨among, across⟩
  · rintro ⟨among, across⟩
    exact ⟨ordered, among, across⟩

/-- A trace is ordered exactly when every step gives out its items in order. -/
theorem trace_pairwise_iff {R : α → α → Prop} {x : σ × List α} (ordered : x.2.Pairwise R) (ops : List ι) :
    (run (traced step emit) x ops).2.Pairwise R ↔ Meets (traced step emit) (EmitsAfter emit R) x ops := by
  induction ops generalizing x with
  | nil =>
      constructor
      · intro _
        trivial
      · intro _
        exact ordered
  | cons op ops ih =>
      constructor
      · intro whole
        have first : (traced step emit x op).2.Pairwise R := whole.sublist (trace_grows _ ops).sublist
        exact ⟨(pairwise_traced_iff ordered op).mp first, (ih first).mp whole⟩
      · rintro ⟨first, later⟩
        exact (ih ((pairwise_traced_iff ordered op).mpr first)).mpr later

/-- A trace is ordered where an invariant makes every step give out its items in order. -/
theorem trace_pairwise {R : α → α → Prop} {I : σ × List α → Prop} (keeps : ∀ x op, I x → I (traced step emit x op))
    (orderly : ∀ x op, I x → EmitsAfter emit R x op) {x : σ × List α} (init : I x) (ordered : x.2.Pairwise R)
    (ops : List ι) : (run (traced step emit) x ops).2.Pairwise R := by
  have both : ∀ x op, I x ∧ x.2.Pairwise R → I (traced step emit x op) ∧ (traced step emit x op).2.Pairwise R := by
    rintro x op ⟨holds, ordered⟩
    exact ⟨keeps x op holds, (pairwise_traced_iff ordered op).mpr (orderly x op holds)⟩
  exact (run_invariant both ⟨init, ordered⟩ ops).2

/-- What holds of all that each step gives out holds of the whole trace. -/
theorem forall_trace {C : σ → ι → Prop} {Q : α → Prop} (holds : ∀ s op, C s op → ∀ item ∈ emit s op, Q item)
    {x : σ × List α} (before : ∀ item ∈ x.2, Q item) {ops : List ι} (meets : Meets step C x.1 ops) :
    ∀ item ∈ (run (traced step emit) x ops).2, Q item := by
  induction ops generalizing x with
  | nil => exact before
  | cons op ops ih =>
      refine ih ?_ meets.2
      intro item member
      cases List.mem_append.mp member with
      | inl old => exact before item old
      | inr new => exact holds x.1 op meets.1 item new

/-- The whole trace has a property exactly when all that the steps give out has it. -/
theorem forall_trace_iff {Q : α → Prop} {x : σ × List α} (ops : List ι) :
    (∀ item ∈ (run (traced step emit) x ops).2, Q item) ↔
      (∀ item ∈ x.2, Q item) ∧ Meets step (fun s op => ∀ item ∈ emit s op, Q item) x.1 ops := by
  induction ops generalizing x with
  | nil =>
      constructor
      · intro before
        exact ⟨before, trivial⟩
      · rintro ⟨before, -⟩
        exact before
  | cons op ops ih =>
      refine (ih (x := traced step emit x op)).trans ?_
      simp only [traced, List.mem_append, or_imp, forall_and, and_assoc]
      exact Iff.rfl

/-- Two conditions that agree wherever an invariant holds are met by the same runs. -/
theorem Meets.congr {C D : σ → ι → Prop} {I : σ → Prop} (same : ∀ s op, I s → (C s op ↔ D s op))
    (keeps : ∀ s op, I s → C s op → I (step s op)) {s : σ} (init : I s) (ops : List ι) :
    Meets step C s ops ↔ Meets step D s ops := by
  induction ops generalizing s with
  | nil => exact Iff.rfl
  | cons op ops ih =>
      constructor
      · rintro ⟨first, later⟩
        exact ⟨(same s op init).mp first, (ih (keeps s op init first)).mp later⟩
      · rintro ⟨first, later⟩
        have first := (same s op init).mpr first
        exact ⟨first, (ih (keeps s op init first)).mpr later⟩

/-- A condition that does not look at the trace. -/
theorem meets_traced_iff {C : σ → ι → Prop} {x : σ × List α} (ops : List ι) :
    Meets (traced step emit) (fun x op => C x.1 op) x ops ↔ Meets step C x.1 ops := by
  induction ops generalizing x with
  | nil => exact Iff.rfl
  | cons op ops ih => exact and_congr_right fun _ => ih

end SentinelEdge.Foundation
