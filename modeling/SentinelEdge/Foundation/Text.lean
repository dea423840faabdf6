import Mathlib.Algebra.Group.Nat.Defs
import Mathlib.Data.List.Basic
import Mathlib.Tactic.FinCases

/-! # Formatted identifiers

Keys assembled from fields and separators determine their fields as long as no
field contains the separator. Decimal numbers and UUIDs are such fields.
-/

namespace SentinelEdge.Foundation

/-- The part before the first separator is determined by the whole. -/
theorem split_at_separator {α : Type} {c : α} {a b x y : List α} (ha : c ∉ a) (hb : c ∉ b)
    (h : a ++ c :: x = b ++ c :: y) : a = b ∧ x = y := by
  induction a generalizing b with
  | nil =>
      cases b with
      | nil => exact ⟨rfl, (List.cons.inj h).2⟩
      | cons d b => exact absurd (List.cons.inj h).1 (fun same => hb (same ▸ List.mem_cons_self))
  | cons d a ih =>
      cases b with
      | nil => exact absurd (List.cons.inj h).1 (fun same => ha (same ▸ List.mem_cons_self))
      | cons d' b =>
          obtain ⟨rfl, tail⟩ := List.cons.inj h
          obtain ⟨rfl, rfl⟩ := ih (fun m => ha (List.mem_cons_of_mem _ m))
            (fun m => hb (List.mem_cons_of_mem _ m)) tail
          exact ⟨rfl, rfl⟩

theorem decimal_injective {m n : Nat} (h : (toString m).toList = (toString n).toList) : m = n := by
  have digits : Nat.toDigits 10 m = Nat.toDigits 10 n := by
    simpa only [Nat.toString_eq_repr, Nat.toList_repr] using h
  rw [← @Nat.ofDigitChars_ten_toDigits m, digits, Nat.ofDigitChars_ten_toDigits]

theorem decimal_isDigit {n : Nat} {c : Char} (h : c ∈ (toString n).toList) : c.isDigit := by
  rw [Nat.toString_eq_repr, Nat.toList_repr] at h
  exact Nat.isDigit_of_mem_toDigits (by decide) (by decide) h

/-- The decimal text of an integer. -/
theorem integer_cases (n : Int) : (∃ m : Nat, n = m ∧ (toString n).toList = (toString m).toList) ∨
    ∃ m : Nat, n = -((m : Int) + 1) ∧ (toString n).toList = '-' :: (toString (m + 1)).toList := by
  cases n with
  | ofNat m => exact .inl ⟨m, rfl, rfl⟩
  | negSucc m =>
      refine .inr ⟨m, Int.negSucc_eq m, ?_⟩
      show ("-" ++ toString (m + 1)).toList = _
      rw [String.toList_append]
      rfl

theorem integer_plain {n : Int} {c : Char} (h : c ∈ (toString n).toList) : c = '-' ∨ c.isDigit := by
  rcases integer_cases n with ⟨m, -, text⟩ | ⟨m, -, text⟩
  · rw [text] at h
    exact .inr (decimal_isDigit h)
  · rw [text, List.mem_cons] at h
    exact h.imp_right decimal_isDigit

theorem integer_injective {m n : Int} (h : (toString m).toList = (toString n).toList) : m = n := by
  have signed : ∀ a b : Nat, (toString a).toList ≠ '-' :: (toString b).toList := by
    intro a b same
    have digit : '-'.isDigit := decimal_isDigit (n := a) (same ▸ List.mem_cons_self)
    revert digit
    decide
  rcases integer_cases m with ⟨a, rfl, left⟩ | ⟨a, rfl, left⟩ <;>
    rcases integer_cases n with ⟨b, rfl, right⟩ | ⟨b, rfl, right⟩ <;>
    rw [left, right] at h
  · rw [decimal_injective h]
  · exact absurd h (signed a (b + 1))
  · exact absurd h.symm (signed b (a + 1))
  · have same := decimal_injective (List.cons.inj h).2
    rw [Nat.succ.inj same]

/-- A 128-bit identifier. -/
structure UUID where
  value : Fin (2 ^ 128)
  deriving DecidableEq, Repr

namespace UUID

def ofNat (n : Nat) : UUID := ⟨Fin.ofNat (2 ^ 128) n⟩

def hexChar (d : Nat) : Char := ['0', '1', '2', '3', '4', '5', '6', '7', '8', '9', 'a', 'b', 'c', 'd', 'e', 'f'].getD d '0'

/-- The last `width` hexadecimal digits, most significant first. -/
def hexDigits : Nat → Nat → List Char
  | 0, _ => []
  | width + 1, n => hexDigits width (n / 16) ++ [hexChar (n % 16)]

/-- `str(uuid)`: 32 hexadecimal digits in groups of 8, 4, 4, 4 and 12. -/
def dashed (d : List Char) : List Char :=
  d.take 8 ++ '-' :: ((d.drop 8).take 4 ++ '-' :: ((d.drop 12).take 4 ++ '-' ::
    ((d.drop 16).take 4 ++ '-' :: d.drop 20)))

def str (u : UUID) : String := String.ofList (dashed (hexDigits 32 u.value))

theorem hexChar_injective : ∀ a b : Fin 16, hexChar a = hexChar b → a = b := by decide

theorem hexChar_plain : ∀ a : Fin 16, hexChar a ≠ '-' ∧ hexChar a ≠ ':' := by decide

theorem hexDigits_plain {width n : Nat} {c : Char} (h : c ∈ hexDigits width n) : c ≠ '-' ∧ c ≠ ':' := by
  induction width generalizing n with
  | zero => cases h
  | succ width ih =>
      rcases List.mem_append.mp h with h | h
      · exact ih h
      · obtain rfl := List.mem_singleton.mp h
        exact hexChar_plain ⟨n % 16, Nat.mod_lt _ (by decide)⟩

theorem hexDigits_hexChar {width n : Nat} {c : Char} (member : c ∈ hexDigits width n) : ∃ d : Fin 16, c = hexChar d := by
  induction width generalizing n with
  | zero => cases member
  | succ width ih =>
      rcases List.mem_append.mp member with high | low
      · exact ih high
      · exact ⟨⟨n % 16, Nat.mod_lt _ (by decide)⟩, List.mem_singleton.mp low⟩

theorem length_hexDigits (width n : Nat) : (hexDigits width n).length = width := by
  induction width generalizing n with
  | zero => rfl
  | succ width ih => rw [hexDigits, List.length_append, ih, List.length_singleton]

theorem hexDigits_injective {width m n : Nat} (h : hexDigits width m = hexDigits width n) :
    m % 16 ^ width = n % 16 ^ width := by
  induction width generalizing m n with
  | zero => simp [Nat.mod_one]
  | succ width ih =>
      obtain ⟨high, low⟩ := List.append_inj' h rfl
      have digit : m % 16 = n % 16 := by
        have same := hexChar_injective ⟨m % 16, Nat.mod_lt _ (by decide)⟩ ⟨n % 16, Nat.mod_lt _ (by decide)⟩
          (List.cons.inj low).1
        exact congrArg Fin.val same
      rw [Nat.pow_succ', Nat.mod_mul, Nat.mod_mul, digit, ih high]

theorem dashed_filter {d : List Char} (h : '-' ∉ d) : (dashed d).filter (· ≠ '-') = d := by
  have plain : ∀ l : List Char, (∀ c ∈ l, c ∈ d) → l.filter (· ≠ '-') = l := by
    intro l sub
    refine List.filter_eq_self.mpr (fun c hc => ?_)
    simpa using fun same : c = '-' => h (same ▸ sub c hc)
  have part : ∀ i k, ((d.drop i).take k).filter (· ≠ '-') = (d.drop i).take k :=
    fun i k => plain _ (fun c hc => List.mem_of_mem_drop (List.mem_of_mem_take hc))
  have start : (d.take 8).filter (· ≠ '-') = d.take 8 := plain _ (fun c hc => List.mem_of_mem_take hc)
  have rest : (d.drop 20).filter (· ≠ '-') = d.drop 20 := plain _ (fun c hc => List.mem_of_mem_drop hc)
  have dash : ∀ l : List Char, ('-' :: l).filter (· ≠ '-') = l.filter (· ≠ '-') :=
    fun l => List.filter_cons_of_neg (by decide)
  simp only [dashed, List.filter_append, dash, part, start, rest]
  calc d.take 8 ++ ((d.drop 8).take 4 ++ ((d.drop 12).take 4 ++ ((d.drop 16).take 4 ++ d.drop 20)))
      = d.take 8 ++ ((d.drop 8).take 4 ++ ((d.drop 12).take 4 ++ d.drop 16)) := by
        rw [show d.drop 20 = (d.drop 16).drop 4 by rw [List.drop_drop], List.take_append_drop]
    _ = d.take 8 ++ ((d.drop 8).take 4 ++ d.drop 12) := by
        rw [show d.drop 16 = (d.drop 12).drop 4 by rw [List.drop_drop], List.take_append_drop]
    _ = d.take 8 ++ d.drop 8 := by
        rw [show d.drop 12 = (d.drop 8).drop 4 by rw [List.drop_drop], List.take_append_drop]
    _ = d := List.take_append_drop 8 d

theorem str_injective {u v : UUID} (h : u.str.toList = v.str.toList) : u = v := by
  have dashes : dashed (hexDigits 32 u.value) = dashed (hexDigits 32 v.value) := by
    simpa only [str, String.toList_ofList] using h
  have digits : hexDigits 32 u.value = hexDigits 32 v.value := by
    have noDash : ∀ n, '-' ∉ hexDigits 32 n := fun n h => (hexDigits_plain h).1 rfl
    rw [← dashed_filter (noDash u.value), dashes, dashed_filter (noDash v.value)]
  have value : u.value.val % 16 ^ 32 = v.value.val % 16 ^ 32 := hexDigits_injective digits
  have bound (w : UUID) : w.value.val < 16 ^ 32 := w.value.isLt
  rw [Nat.mod_eq_of_lt (bound u), Nat.mod_eq_of_lt (bound v)] at value
  cases u; cases v
  exact congrArg UUID.mk (Fin.ext value)

theorem str_noColon (u : UUID) : ':' ∉ u.str.toList := by
  have digits : ':' ∉ hexDigits 32 u.value := fun h => (hexDigits_plain h).2 rfl
  have drop : ∀ i, ':' ∉ (hexDigits 32 u.value).drop i := fun i h => digits (List.mem_of_mem_drop h)
  have take : ∀ i k, ':' ∉ ((hexDigits 32 u.value).drop i).take k := fun i k h => drop i (List.mem_of_mem_take h)
  have start : ':' ∉ (hexDigits 32 u.value).take 8 := fun h => digits (List.mem_of_mem_take h)
  simp only [str, String.toList_ofList, dashed, List.mem_append, List.mem_cons, start, take, drop,
    or_false, false_or, not_or]
  decide

end UUID

end SentinelEdge.Foundation
