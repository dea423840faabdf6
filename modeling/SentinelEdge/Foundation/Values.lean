import Mathlib.Algebra.Order.Ring.Unbundled.Rat
import Mathlib.Data.Fin.Basic

/-! # Python values

The values that `json.loads` gives, with what `str`, `int` and `==` make of them. A text is
a list of code points, lone surrogates included; a dictionary is listed in key order, so
that it is one value whatever order it was built in.
-/

namespace SentinelEdge.Foundation

abbrev CodePoint := Fin 0x110000

/-- `str` -/
abbrev PyText := List CodePoint

namespace PyText

def of (text : String) : PyText := text.toList.map fun c => Fin.ofNat 0x110000 c.toNat

/-- `str.isspace` on one character. -/
def isSpace (c : CodePoint) : Bool :=
  let n := c.val
  (9 ≤ n && n ≤ 13) || (28 ≤ n && n ≤ 32) || n = 133 || n = 160 || n = 5760 || (8192 ≤ n && n ≤ 8202) ||
    n = 8232 || n = 8233 || n = 8239 || n = 8287 || n = 12288

/-- `not text.strip()` -/
def isBlank (text : PyText) : Bool := text.all isSpace

/-- The zeros of the decimal digits. -/
def zeros : List Nat :=
  [0x30, 0x660, 0x6F0, 0x7C0, 0x966, 0x9E6, 0xA66, 0xAE6, 0xB66, 0xBE6, 0xC66, 0xCE6, 0xD66, 0xDE6, 0xE50, 0xED0, 0xF20,
    0x1040, 0x1090, 0x17E0, 0x1810, 0x1946, 0x19D0, 0x1A80, 0x1A90, 0x1B50, 0x1BB0, 0x1C40, 0x1C50, 0xA620, 0xA8D0, 0xA900,
    0xA9D0, 0xA9F0, 0xAA50, 0xABF0, 0xFF10, 0x104A0, 0x10D30, 0x11066, 0x110F0, 0x11136, 0x111D0, 0x112F0, 0x11450, 0x114D0,
    0x11650, 0x116C0, 0x11730, 0x118E0, 0x11950, 0x11C50, 0x11D50, 0x11DA0, 0x16A60, 0x16AC0, 0x16B50, 0x1D7CE, 0x1D7D8,
    0x1D7E2, 0x1D7EC, 0x1D7F6, 0x1E140, 0x1E2F0, 0x1E950, 0x1FBF0]

/-- `unicodedata.decimal` -/
def decimal (c : CodePoint) : Option Nat := (zeros.find? fun first => first ≤ c.val && c.val < first + 10).map (c.val - ·)

/-- The spaces that `int` passes over: of the ASCII characters only those of C. -/
def isIntSpace (c : CodePoint) : Bool := (isSpace c && 128 ≤ c.val) || (9 ≤ c.val && c.val ≤ 13) || c.val = 32

/-- Digits, with single underscores between them. -/
def digits : PyText → Bool → Nat → Option Nat
  | [], afterDigit, n => if afterDigit then some n else none
  | c :: rest, afterDigit, n =>
      if c.val = 0x5F then if afterDigit then digits rest false n else none
      else match decimal c with
        | some d => digits rest true (n * 10 + d)
        | none => none

/-- The digits that `int` takes at most. -/
def maxDigits : Nat := 4300

/-- `int(text)`, `none` where it raises `ValueError`. -/
def toInt (text : PyText) : Option Int :=
  let stripped := ((text.dropWhile isIntSpace).reverse.dropWhile isIntSpace).reverse
  let number (text : PyText) : Option Nat :=
    if (text.filter fun c => c.val ≠ 0x5F).length ≤ maxDigits then digits text false 0 else none
  match stripped with
  | [] => none
  | sign :: rest =>
      if sign.val = 0x2D then (number rest).map fun n => -(n : Int)
      else if sign.val = 0x2B then (number rest).map fun n => (n : Int)
      else (number stripped).map fun n => (n : Int)

example : toInt (of " -1_024 ") = some (-1024) := by decide +kernel

end PyText

/-- `float`: a finite one carries its `repr`. -/
inductive PyFloat where
  | finite (repr : String) (value : ℚ)
  | infinity (negative : Bool)
  | nan
  deriving DecidableEq

mutual
inductive PyValue where
  | null
  | bool (b : Bool)
  | int (n : Int)
  | float (f : PyFloat)
  | str (text : PyText)
  | list (items : PyList)
  | dict (items : PyDict)
  deriving DecidableEq

inductive PyList where
  | nil
  | cons (head : PyValue) (tail : PyList)
  deriving DecidableEq

inductive PyDict where
  | nil
  | cons (key : PyText) (value : PyValue) (rest : PyDict)
  deriving DecidableEq
end

namespace PyDict

def ofList : List (PyText × PyValue) → PyDict
  | [] => .nil
  | (key, value) :: rest => .cons key value (ofList rest)

/-- `items.get(key)` -/
def get? : PyDict → PyText → Option PyValue
  | .nil, _ => none
  | .cons key value rest, k => if key = k then some value else rest.get? k

/-- Under distinct keys every entry is looked up under its own. -/
theorem get?_ofList {entries : List (PyText × PyValue)} (distinct : (entries.map Prod.fst).Nodup) {key : PyText} {value : PyValue}
    (member : (key, value) ∈ entries) : (ofList entries).get? key = some value := by
  induction entries with
  | nil => cases member
  | cons entry entries ih =>
      obtain ⟨new, distinct⟩ := List.nodup_cons.mp distinct
      rw [ofList, get?]
      cases List.mem_cons.mp member with
      | inl here =>
          cases here
          exact if_pos rfl
      | inr later =>
          have other : entry.1 ≠ key := by
            rintro rfl
            exact new (List.mem_map.mpr ⟨_, later, rfl⟩)
          rw [if_neg other]
          exact ih distinct later

end PyDict

namespace PyValue

/-- `str(value)`; the texts of lists and dictionaries are given. -/
def toText (repr : PyValue → PyText) : PyValue → PyText
  | .null => PyText.of "None"
  | .bool true => PyText.of "True"
  | .bool false => PyText.of "False"
  | .int n => PyText.of (toString n)
  | .float (.finite text _) => PyText.of text
  | .float (.infinity false) => PyText.of "inf"
  | .float (.infinity true) => PyText.of "-inf"
  | .float .nan => PyText.of "nan"
  | .str text => text
  | value => repr value

@[simp] theorem toText_str (repr : PyValue → PyText) (text : PyText) : (PyValue.str text).toText repr = text := rfl

/-- The exceptions of `int(value)`. -/
inductive NotInt where
  | valueError | typeError | overflowError
  deriving DecidableEq

/-- `int(value)` -/
def toInt : PyValue → Except NotInt Int
  | .int n => .ok n
  | .bool b => .ok b.toNat
  | .float (.finite _ q) => .ok (q.num.tdiv q.den)
  | .float (.infinity _) => .error .overflowError
  | .float .nan => .error .valueError
  | .str text => match text.toInt with
      | some n => .ok n
      | none => .error .valueError
  | _ => .error .typeError

/-- The number that a value is compared as. -/
def number : PyValue → Option ℚ
  | .bool b => some b.toNat
  | .int n => some n
  | .float (.finite _ q) => some q
  | _ => none

/-- `isinstance(value, str)`, and of `int` (which `bool` is a kind of) and `dict`. -/
def isStr : PyValue → Bool
  | .str _ => true
  | _ => false

def isInt : PyValue → Bool
  | .int _ | .bool _ => true
  | _ => false

def isDict : PyValue → Bool
  | .dict _ => true
  | _ => false

end PyValue

mutual
/-- `a == b` on values that were decoded from JSON: every `NaN` among them is one object, and
    comparing fields and items starts with identity. -/
def PyValue.eq : PyValue → PyValue → Bool
  | .null, .null => true
  | .str a, .str b => a == b
  | .float .nan, .float .nan => true
  | .float (.infinity a), .float (.infinity b) => a == b
  | .list a, .list b => PyList.eq a b
  | .dict a, .dict b => PyDict.eq a b
  | a, b => match a.number, b.number with
      | some p, some q => p == q
      | _, _ => false

def PyList.eq : PyList → PyList → Bool
  | .nil, .nil => true
  | .cons a as, .cons b bs => PyValue.eq a b && PyList.eq as bs
  | _, _ => false

def PyDict.eq : PyDict → PyDict → Bool
  | .nil, .nil => true
  | .cons k a as, .cons l b bs => k == l && PyValue.eq a b && PyDict.eq as bs
  | _, _ => false
end

mutual
theorem PyValue.eq_self (a : PyValue) : PyValue.eq a a = true := by
  cases a with
  | null => rfl
  | bool b => simp [PyValue.eq, PyValue.number]
  | int n => simp [PyValue.eq, PyValue.number]
  | float f =>
      cases f with
      | finite repr value => simp [PyValue.eq, PyValue.number]
      | infinity negative => simp [PyValue.eq]
      | nan => simp [PyValue.eq]
  | str text => simp [PyValue.eq]
  | list items =>
      rw [PyValue.eq]
      exact PyList.eq_self items
  | dict items =>
      rw [PyValue.eq]
      exact PyDict.eq_self items

theorem PyList.eq_self (as : PyList) : PyList.eq as as = true := by
  cases as with
  | nil => rw [PyList.eq]
  | cons a as => rw [PyList.eq, PyValue.eq_self a, PyList.eq_self as, Bool.and_self]

theorem PyDict.eq_self (as : PyDict) : PyDict.eq as as = true := by
  cases as with
  | nil => rw [PyDict.eq]
  | cons k a as => rw [PyDict.eq, beq_self_eq_true, PyValue.eq_self a, PyDict.eq_self as, Bool.and_self, Bool.and_self]
end

end SentinelEdge.Foundation
