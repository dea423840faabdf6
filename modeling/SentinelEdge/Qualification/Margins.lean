import Mathlib.Tactic.Linarith
import SentinelEdge.Analysis.Hazards

/-! # Decision margins

A margin keeps the decided scores away from every threshold. Two decided scores
that are no further apart than both margins lie on the same side of each
threshold, so no small variation takes one state to the other.
-/

namespace SentinelEdge.Qualification

open Foundation Domain Analysis

/-- Thresholds that are strictly increasing once they are put in order. -/
structure Declared (thresholds : List (ℚ × IncidentState)) : Prop where
  inside : ∀ t ∈ thresholds, 0 ≤ t.1 ∧ t.1 ≤ 1
  apart : thresholds.Pairwise (fun a b => a.1 ≠ b.1)

def ordered (thresholds : List (ℚ × IncidentState)) : List (ℚ × IncidentState) :=
  thresholds.insertionSort (fun a b => a.1 ≤ b.1)

/-- The state after the last threshold that the score reaches. -/
def lastReached (score : ℚ) (thresholds : List (ℚ × IncidentState)) (start : IncidentState) : IncidentState :=
  thresholds.foldl (fun state t => if t.1 ≤ score then t.2 else state) start

/-- `state` is the one of the greatest threshold not above the score. -/
def GreatestReached (thresholds : List (ℚ × IncidentState)) (score : ℚ) (state : IncidentState) : Prop :=
  ((∀ t ∈ thresholds, score < t.1) ∧ state = .normal) ∨
    ∃ t ∈ thresholds, t.1 ≤ score ∧ t.2 = state ∧ ∀ u ∈ thresholds, u.1 ≤ score → u.1 ≤ t.1

theorem Declared.of_increasing {thresholds increasing : List (ℚ × IncidentState)}
    (strict : increasing.Pairwise (fun a b => a.1 < b.1)) (inside : ∀ t ∈ increasing, 0 ≤ t.1 ∧ t.1 ≤ 1)
    (supplied : thresholds.Perm increasing) : Declared thresholds where
  inside t here := inside t (supplied.mem_iff.mp here)
  apart := by
    have apart : increasing.Pairwise (fun a b => a.1 ≠ b.1) := strict.imp ne_of_lt
    exact (supplied.pairwise_iff Ne.symm).mpr apart

theorem mem_ordered {thresholds : List (ℚ × IncidentState)} {t : ℚ × IncidentState} :
    t ∈ ordered thresholds ↔ t ∈ thresholds := List.mem_insertionSort _

/-- Distinct thresholds are strictly increasing in order. -/
theorem Declared.ordered_strict {thresholds : List (ℚ × IncidentState)} (declared : Declared thresholds) :
    (ordered thresholds).Pairwise (fun a b => a.1 < b.1) := by
  have sorted : (ordered thresholds).Pairwise (fun a b => a.1 ≤ b.1) := List.pairwise_insertionSort _ _
  have apart : (ordered thresholds).Pairwise (fun a b => a.1 ≠ b.1) :=
    ((List.perm_insertionSort _ thresholds).pairwise_iff Ne.symm).mpr declared.apart
  exact (sorted.and apart).imp (fun both => lt_of_le_of_ne both.1 both.2)

/-- A strictly increasing list passes the check of neighbours. -/
theorem neighbours_increase {thresholds : List (ℚ × IncidentState)} (strict : thresholds.Pairwise (fun a b => a.1 < b.1)) :
    (thresholds.zip thresholds.tail).any (fun pair => pair.2.1 ≤ pair.1.1) = false := by
  induction thresholds with
  | nil => rfl
  | cons first rest ih =>
      cases rest with
      | nil => rfl
      | cons second rest =>
          have step := List.rel_of_pairwise_cons strict (List.mem_cons_self (a := second))
          have later := ih strict.of_cons
          simp only [List.tail_cons, List.zip_cons_cons, List.any_cons, Bool.or_eq_false_iff, decide_eq_false_iff_not,
            not_le] at later ⊢
          exact ⟨step, later⟩

/-- Over increasing thresholds the last one reached is the greatest one reached. -/
theorem lastReached_spec (score : ℚ) {thresholds : List (ℚ × IncidentState)}
    (strict : thresholds.Pairwise (fun a b => a.1 < b.1)) (start : IncidentState) :
    ((∀ t ∈ thresholds, score < t.1) ∧ lastReached score thresholds start = start) ∨
      ∃ t ∈ thresholds, t.1 ≤ score ∧ t.2 = lastReached score thresholds start ∧
        ∀ u ∈ thresholds, u.1 ≤ score → u.1 ≤ t.1 := by
  induction thresholds generalizing start with
  | nil => exact .inl ⟨by simp, rfl⟩
  | cons first rest ih =>
      have below := List.pairwise_cons.mp strict
      have step : lastReached score (first :: rest) start =
          lastReached score rest (if first.1 ≤ score then first.2 else start) := rfl
      rw [step]
      obtain ⟨above, same⟩ | ⟨t, here, reached, state, greatest⟩ := ih below.2 (if first.1 ≤ score then first.2 else start)
      · rw [same]
        by_cases reached : first.1 ≤ score
        · refine .inr ⟨first, by simp, reached, by simp [reached], ?_⟩
          intro u member within
          obtain rfl | member := List.mem_cons.mp member
          · exact le_refl _
          · exact absurd within (not_le.mpr (above u member))
        · refine .inl ⟨?_, by simp [reached]⟩
          intro u member
          obtain rfl | member := List.mem_cons.mp member
          · exact not_le.mp reached
          · exact above u member
      · refine .inr ⟨t, by simp [here], reached, state, ?_⟩
        intro u member within
        obtain rfl | member := List.mem_cons.mp member
        · exact (below.1 t here).le
        · exact greatest u member within

/-- `decide_with_margin` on declared thresholds. -/
theorem decideWithMargin_declared {thresholds : List (ℚ × IncidentState)} (declared : Declared thresholds) {score margin : ℚ}
    (low : 0 ≤ score) (high : score ≤ 1) (nonneg : 0 ≤ margin) :
    ∃ decision, decideWithMargin score thresholds margin = .ok decision ∧
      (decision.abstained = true ↔ ∃ t ∈ thresholds, |score - t.1| ≤ margin) ∧
      (decision.abstained = true → decision.state = .watch) ∧
      (decision.abstained = false → decision.state = lastReached score (ordered thresholds) .normal) := by
  have inside : (ordered thresholds).any (fun t => ¬ (0 ≤ t.1 ∧ t.1 ≤ 1)) = false := by
    simp only [List.any_eq_false, decide_eq_true_eq, not_not]
    exact fun t here => declared.inside t (mem_ordered.mp here)
  have increasing := neighbours_increase declared.ordered_strict
  have near : (ordered thresholds).any (fun t => |score - t.1| ≤ margin) = true ↔
      ∃ t ∈ thresholds, |score - t.1| ≤ margin := by
    simp only [List.any_eq_true, mem_ordered, decide_eq_true_eq]
  simp only [ordered] at inside increasing near
  simp only [decideWithMargin, low, high, and_self, not_true, if_false, not_lt.mpr nonneg, inside, increasing,
    Bool.false_eq_true]
  by_cases close : ∃ t ∈ thresholds, |score - t.1| ≤ margin
  · rw [if_pos (near.mpr close)]
    exact ⟨_, rfl, by simp [close], fun _ => rfl, by simp⟩
  · rw [if_neg (mt near.mp close)]
    exact ⟨_, rfl, by simp [close], by simp, fun _ => rfl⟩

/-- Two scores beyond the margin of a threshold, on one side of it. -/
theorem same_side {score other margin threshold : ℚ} (close : |score - other| ≤ 2 * margin)
    (far : margin < |score - threshold|) (farOther : margin < |other - threshold|) :
    threshold ≤ score ↔ threshold ≤ other := by
  obtain ⟨lower, upper⟩ := abs_le.mp close
  constructor
  · intro reached
    rw [abs_of_nonneg (by linarith)] at far
    by_contra missed
    rw [abs_of_neg (by linarith)] at farOther
    linarith
  · intro reached
    rw [abs_of_nonneg (by linarith)] at farOther
    by_contra missed
    rw [abs_of_neg (by linarith)] at far
    linarith

theorem lastReached_congr {score other : ℚ} {thresholds : List (ℚ × IncidentState)}
    (sides : ∀ t ∈ thresholds, t.1 ≤ score ↔ t.1 ≤ other) (start : IncidentState) :
    lastReached score thresholds start = lastReached other thresholds start :=
  List.foldl_ext _ _ _ (fun _ t here => by simp only [sides t here])

/-- No variation within both margins flips a decision, and what is decided is
    the state of the greatest threshold not above the score. -/
theorem decision_does_not_flip {thresholds increasing : List (ℚ × IncidentState)} {margin score other : ℚ}
    (strict : increasing.Pairwise (fun a b => a.1 < b.1)) (inside : ∀ t ∈ increasing, 0 ≤ t.1 ∧ t.1 ≤ 1)
    (supplied : thresholds.Perm increasing) (scoreInside : 0 ≤ score ∧ score ≤ 1) (otherInside : 0 ≤ other ∧ other ≤ 1)
    (close : |score - other| ≤ 2 * margin) :
    ∃ decision decision', decideWithMargin score thresholds margin = .ok decision ∧
      decideWithMargin other thresholds margin = .ok decision' ∧
      (decision.abstained = false → decision'.abstained = false →
        decision.state = decision'.state ∧ GreatestReached thresholds score decision.state ∧
          GreatestReached thresholds other decision'.state) := by
  have declared := Declared.of_increasing strict inside supplied
  have nonneg : 0 ≤ margin := by linarith [abs_nonneg (score - other)]
  obtain ⟨decision, ok, abstains, -, state⟩ := decideWithMargin_declared declared scoreInside.1 scoreInside.2 nonneg
  obtain ⟨decision', ok', abstains', -, state'⟩ := decideWithMargin_declared declared otherInside.1 otherInside.2 nonneg
  refine ⟨decision, decision', ok, ok', ?_⟩
  intro decided decided'
  have far : ∀ t ∈ thresholds, margin < |score - t.1| := by simpa [decided] using abstains
  have far' : ∀ t ∈ thresholds, margin < |other - t.1| := by simpa [decided'] using abstains'
  have sides : ∀ t ∈ ordered thresholds, t.1 ≤ score ↔ t.1 ≤ other := by
    intro t here
    have member := mem_ordered.mp here
    exact same_side close (far t member) (far' t member)
  have greatest (value : ℚ) : GreatestReached thresholds value (lastReached value (ordered thresholds) .normal) := by
    have reached := lastReached_spec value declared.ordered_strict .normal
    simp only [mem_ordered] at reached
    exact reached
  rw [state decided, state' decided']
  exact ⟨lastReached_congr sides _, greatest score, greatest other⟩

/-- 0.40 and 0.46 lie between two thresholds given out of order. -/
theorem decision_does_not_flip_between : ∃ decision decision',
    decideWithMargin 0.40 [(0.55, .suspected), (0.30, .watch)] 0.03 = .ok decision ∧
      decideWithMargin 0.46 [(0.55, .suspected), (0.30, .watch)] 0.03 = .ok decision' ∧
      (decision.abstained = false → decision'.abstained = false →
        decision.state = decision'.state ∧ GreatestReached [(0.55, .suspected), (0.30, .watch)] 0.40 decision.state ∧
          GreatestReached [(0.55, .suspected), (0.30, .watch)] 0.46 decision'.state) :=
  @decision_does_not_flip _ [(0.30, .watch), (0.55, .suspected)] _ _ _ (by norm_num) (by norm_num) (List.Perm.swap _ _ _)
    (by norm_num) (by norm_num) (by norm_num [abs_le])

end SentinelEdge.Qualification
