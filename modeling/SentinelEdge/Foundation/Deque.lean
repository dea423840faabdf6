import Mathlib.Data.List.Basic

/-! # Bounded deques

`collections.deque(maxlen=...)`: what is appended to a full one pushes out the first
item.
-/

namespace SentinelEdge.Foundation

structure Deque (α : Type) (maxlen : Nat) where
  items : List α := []
  bounded : items.length ≤ maxlen := by exact Nat.zero_le _

namespace Deque

variable {α : Type} {maxlen : Nat}

def append (d : Deque α maxlen) (item : α) : Deque α maxlen where
  items := (d.items ++ [item]).drop (d.items.length + 1 - maxlen)
  bounded := by
    rw [List.length_drop, List.length_append, List.length_singleton]
    omega

/-- `popleft`, `n` times, of a deque with so many items. -/
def popLeft (d : Deque α maxlen) (n : Nat) : List α × Deque α maxlen :=
  (d.items.take n, ⟨d.items.drop n, by
    rw [List.length_drop]
    exact Nat.le_trans (Nat.sub_le _ _) d.bounded⟩)

theorem append_of_room {d : Deque α maxlen} (room : d.items.length < maxlen) (item : α) :
    (d.append item).items = d.items ++ [item] := by
  have none : d.items.length + 1 - maxlen = 0 := Nat.sub_eq_zero_of_le room
  show (d.items ++ [item]).drop (d.items.length + 1 - maxlen) = d.items ++ [item]
  rw [none, List.drop_zero]

theorem popLeft_items (d : Deque α maxlen) (n : Nat) : (d.popLeft n).1 ++ (d.popLeft n).2.items = d.items :=
  List.take_append_drop n d.items

end Deque

end SentinelEdge.Foundation
