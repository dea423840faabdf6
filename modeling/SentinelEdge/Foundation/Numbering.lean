import Mathlib.Data.Nat.Pairing
import Mathlib.Data.Rat.Encodable
import SentinelEdge.Foundation.Json

/-! # A numbering of JSON documents

Different documents get different numbers. A digest that is assumed to be free
of collisions can be read as such a number.
-/

namespace SentinelEdge.Foundation

def codeChars : List Char → Nat
  | [] => 0
  | c :: cs => Nat.pair c.toNat (codeChars cs) + 1

theorem codeChars_injective {as bs : List Char} (h : codeChars as = codeChars bs) : as = bs := by
  induction as generalizing bs with
  | nil =>
      cases bs with
      | nil => rfl
      | cons b bs => simp [codeChars] at h
  | cons a as ih =>
      cases bs with
      | nil => simp [codeChars] at h
      | cons b bs =>
          obtain ⟨head, tail⟩ := Nat.pair_eq_pair.mp (Nat.succ.inj h)
          rw [Char.toNat_inj.mp head, ih tail]

def codeString (s : String) : Nat := codeChars s.toList

theorem codeString_injective {a b : String} (h : codeString a = codeString b) : a = b :=
  String.toList_inj.mp (codeChars_injective h)

namespace Json

mutual
def code : Json → Nat
  | .null => Nat.pair 0 0
  | .bool b => Nat.pair 1 b.toNat
  | .int n => Nat.pair 2 (Encodable.encode n)
  | .float q => Nat.pair 3 (Encodable.encode q)
  | .str s => Nat.pair 4 (codeString s)
  | .arr items => Nat.pair 5 (codeItems items)
  | .obj fields => Nat.pair 6 (codeFields fields)

def codeItems : List Json → Nat
  | [] => 0
  | item :: items => Nat.pair (code item) (codeItems items) + 1

def codeFields : List (String × Json) → Nat
  | [] => 0
  | (key, value) :: fields => Nat.pair (codeString key) (Nat.pair (code value) (codeFields fields)) + 1
end

mutual
theorem code_injective : (a b : Json) → code a = code b → a = b
  | .null, b, h => by
      cases b <;> simp_all [code, Nat.pair_eq_pair]
  | .bool x, b, h => by
      cases b with
      | bool y => cases x <;> cases y <;> simp_all [code, Nat.pair_eq_pair]
      | _ => simp [code, Nat.pair_eq_pair] at h
  | .int x, b, h => by
      cases b with
      | int y => simpa [code, Nat.pair_eq_pair] using h
      | _ => simp [code, Nat.pair_eq_pair] at h
  | .float x, b, h => by
      cases b with
      | float y => simpa [code, Nat.pair_eq_pair] using h
      | _ => simp [code, Nat.pair_eq_pair] at h
  | .str x, b, h => by
      cases b with
      | str y =>
          simp only [code, Nat.pair_eq_pair, true_and] at h
          rw [codeString_injective h]
      | _ => simp [code, Nat.pair_eq_pair] at h
  | .arr xs, b, h => by
      cases b with
      | arr ys =>
          simp only [code, Nat.pair_eq_pair, true_and] at h
          rw [codeItems_injective xs ys h]
      | _ => simp [code, Nat.pair_eq_pair] at h
  | .obj xs, b, h => by
      cases b with
      | obj ys =>
          simp only [code, Nat.pair_eq_pair, true_and] at h
          rw [codeFields_injective xs ys h]
      | _ => simp [code, Nat.pair_eq_pair] at h

theorem codeItems_injective : (as bs : List Json) → codeItems as = codeItems bs → as = bs
  | [], [], _ => rfl
  | [], b :: bs, h => by simp [codeItems] at h
  | a :: as, [], h => by simp [codeItems] at h
  | a :: as, b :: bs, h => by
      simp only [codeItems, Nat.add_right_cancel_iff, Nat.pair_eq_pair] at h
      rw [code_injective a b h.1, codeItems_injective as bs h.2]

theorem codeFields_injective : (as bs : List (String × Json)) → codeFields as = codeFields bs → as = bs
  | [], [], _ => rfl
  | [], (k, b) :: bs, h => by simp [codeFields] at h
  | (k, a) :: as, [], h => by simp [codeFields] at h
  | (k, a) :: as, (l, b) :: bs, h => by
      simp only [codeFields, Nat.add_right_cancel_iff, Nat.pair_eq_pair] at h
      rw [codeString_injective h.1, code_injective a b h.2.1, codeFields_injective as bs h.2.2]
end

end Json

end SentinelEdge.Foundation
