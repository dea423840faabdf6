import SentinelEdge.Foundation.Versions

/-! # Bounded retries

The attempts at one thing, in order. An attempt may allow another one from some
instant on; one that does not is the last. Attempts that only note that time has run
out lapse: they are made without waiting.
-/

namespace SentinelEdge.Foundation

/-- How attempts are read. -/
structure Retrying (α : Type) where
  number : α → Nat
  made : α → Int
  /-- The instant from which another attempt may follow. -/
  again : α → Option Int
  lapsed : α → Bool

variable {α : Type} {R : Retrying α} {maximum : Nat} {delay : Int} {log : List α} {a last next : α}

/-- The second attempt may follow the first. -/
def Retrying.MayFollow (R : Retrying α) (a b : α) : Prop :=
  ∃ due, R.again a = some due ∧ R.made a < R.made b ∧ (R.lapsed b = false → due ≤ R.made b)

/-- What an attempt may allow. -/
structure Retrying.Allows (R : Retrying α) (maximum : Nat) (delay : Int) (a : α) : Prop where
  retried : ∀ due, R.again a = some due → due = R.made a + delay ∧ R.number a < maximum
  lapsed : R.lapsed a = true → R.again a = none

/-- Attempts numbered from one, each allowed by those before it. -/
structure Course (R : Retrying α) (maximum : Nat) (delay : Int) (log : List α) : Prop where
  numbered : Numbered R.number log
  allows : ∀ a ∈ log, R.Allows maximum delay a
  spaced : log.Pairwise R.MayFollow

theorem Course.nil : Course R maximum delay [] where
  numbered := Numbered.nil
  allows := by simp
  spaced := List.Pairwise.nil

/-- What the last attempt allows waits longer than what any other one does. -/
theorem Course.dues (course : Course R maximum delay log) (positive : 0 < delay) (found : log.getLast? = some last)
    {due : Int} (again : R.again last = some due) (member : a ∈ log) : R.made a ≤ R.made last ∧
      ∀ due', R.again a = some due' → due' ≤ due := by
  obtain ⟨front, rfl⟩ := List.getLast?_eq_some_iff.mp found
  obtain ⟨-, -, before⟩ := List.pairwise_append.mp course.spaced
  have own := course.allows last (by simp)
  rcases List.mem_append.mp member with earlier | latest
  · obtain ⟨first, allowed, increasing, waits⟩ := before a earlier last (by simp)
    refine ⟨increasing.le, ?_⟩
    intro due' again'
    have inTime : R.lapsed last = false := by
      cases lapsed : R.lapsed last with
      | false => rfl
      | true =>
          rw [own.lapsed lapsed] at again
          cases again
    have reached := waits inTime
    rw [again', Option.some.injEq] at allowed
    have later := (own.retried due again).1
    omega
  · rw [List.mem_singleton.mp latest]
    refine ⟨Int.le_refl _, ?_⟩
    intro due' again'
    rw [again, Option.some.injEq] at again'
    omega

/-- One more attempt, as the last one allows it. -/
theorem Course.snoc (course : Course R maximum delay log) (positive : 0 < delay) (number : R.number next = log.length + 1)
    (allows : R.Allows maximum delay next) (follows : ∀ last, log.getLast? = some last → R.MayFollow last next) :
    Course R maximum delay (log ++ [next]) where
  numbered := course.numbered.snoc number
  allows := by
    intro a member
    rcases List.mem_append.mp member with old | new
    · exact course.allows a old
    · rw [List.mem_singleton.mp new]
      exact allows
  spaced := by
    refine List.pairwise_append.mpr ⟨course.spaced, List.pairwise_singleton _ _, ?_⟩
    intro a member b single
    rw [List.mem_singleton.mp single]
    obtain ⟨last, found⟩ := Option.isSome_iff_exists.mp (List.getLast?_isSome.mpr (List.ne_nil_of_mem member))
    obtain ⟨due, again, increasing, waits⟩ := follows last found
    obtain ⟨earlier, sooner⟩ := course.dues positive found again member
    obtain ⟨front, rfl⟩ := List.getLast?_eq_some_iff.mp found
    rcases List.mem_append.mp member with inFront | isLast
    · obtain ⟨due', again', -, -⟩ := (List.pairwise_append.mp course.spaced).2.2 a inFront last (by simp)
      refine ⟨due', again', by omega, ?_⟩
      intro inTime
      exact (sooner due' again').trans (waits inTime)
    · rw [List.mem_singleton.mp isLast]
      exact ⟨due, again, increasing, waits⟩

/-- There are no more attempts than allowed. -/
theorem Course.length_le (course : Course R maximum delay log) (positive : 0 < maximum) : log.length ≤ maximum := by
  rcases List.eq_nil_or_concat' log with rfl | ⟨front, last, rfl⟩
  · exact Nat.zero_le _
  · rcases List.eq_nil_or_concat' front with rfl | ⟨earlier, previous, rfl⟩
    · exact positive
    · obtain ⟨due, again, -, -⟩ := (List.pairwise_append.mp course.spaced).2.2 previous (by simp) last (by simp)
      have number := (course.numbered.of_prefix (List.prefix_append _ [last])).version_last
        (List.getLast?_concat : (earlier ++ [previous]).getLast? = some previous)
      have below := ((course.allows previous (by simp)).retried due again).2
      rw [List.length_append, List.length_singleton]
      omega

/-- Only the last attempt is final. -/
theorem Course.again_of_dropLast (course : Course R maximum delay log) (member : a ∈ log.dropLast) :
    ∃ due, R.again a = some due := by
  rcases List.eq_nil_or_concat' log with rfl | ⟨front, last, rfl⟩
  · cases member
  · rw [List.dropLast_concat] at member
    obtain ⟨due, again, -, -⟩ := (List.pairwise_append.mp course.spaced).2.2 a member last (by simp)
    exact ⟨due, again⟩

theorem Course.increasing (course : Course R maximum delay log) : log.Pairwise (fun a b => R.made a < R.made b) := by
  refine course.spaced.imp ?_
  rintro a b ⟨due, -, increasing, -⟩
  exact increasing

end SentinelEdge.Foundation
