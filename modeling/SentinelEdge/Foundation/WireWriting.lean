import Mathlib.Algebra.Group.Nat.Defs
import Mathlib.Tactic.Common
import SentinelEdge.Foundation.Wire

/-! # Writing the wire format

Fields that are written one after the other scan to the fields that were written.
A varint holds ten groups of seven bits, so a key holds a field number of up to
67 bits; anything larger is written all the same and not read back.
-/

namespace SentinelEdge.Foundation.Wire

/-- The low seven bits. -/
def lowByte (value : Nat) : UInt8 := UInt8.ofNat (value &&& 0x7F)

/-- Groups of seven bits from the least significant on; all but the last are marked. -/
def writeVarint (value : Nat) : List UInt8 :=
  if value >>> 7 = 0 then [lowByte value] else (lowByte value ||| 0x80) :: writeVarint (value >>> 7)
termination_by value
decreasing_by
  rw [Nat.shiftRight_eq_div_pow] at *
  omega

/-- The wire type of a payload. -/
def Payload.wire : Payload → Nat
  | .varint _ => 0
  | .fixed64 _ => 1
  | .delimited _ => 2
  | .fixed32 _ => 5

def Payload.write : Payload → List UInt8
  | .varint value => writeVarint value
  | .fixed64 bytes => bytes
  | .delimited bytes => writeVarint bytes.length ++ bytes
  | .fixed32 bytes => bytes

def Field.key (f : Field) : Nat := (f.number <<< 3) ||| f.payload.wire

def Field.write (f : Field) : List UInt8 := writeVarint f.key ++ f.payload.write

def write (fields : List Field) : List UInt8 := fields.flatMap Field.write

/-- The payload is as wide as its wire type says, and its varint fits. -/
def Payload.Fits : Payload → Prop
  | .varint value => value < 2 ^ 70
  | .fixed64 bytes => bytes.length = 8
  | .delimited bytes => bytes.length < 2 ^ 70
  | .fixed32 bytes => bytes.length = 4

/-- The field can be read back. -/
structure Field.Fits (f : Field) : Prop where
  positive : 1 ≤ f.number
  number : f.number < 2 ^ 67
  payload : f.payload.Fits

/-! ## Varints -/

theorem lowByte_eq (value : Nat) : (lowByte value &&& 0x7F).toNat = value % 128 ∧ lowByte value &&& 0x80 = 0 := by
  have low : value &&& 0x7F = value % 128 := Nat.and_two_pow_sub_one_eq_mod value 7
  have all : ∀ n < 128, ((UInt8.ofNat n) &&& 0x7F).toNat = n ∧ (UInt8.ofNat n) &&& 0x80 = 0 := by decide +kernel
  rw [lowByte, low]
  exact all _ (Nat.mod_lt value (by decide))

theorem markedByte_eq (value : Nat) :
    ((lowByte value ||| 0x80) &&& 0x7F).toNat = value % 128 ∧ (lowByte value ||| 0x80) &&& 0x80 ≠ 0 := by
  have low : value &&& 0x7F = value % 128 := Nat.and_two_pow_sub_one_eq_mod value 7
  have all : ∀ n < 128, ((UInt8.ofNat n ||| 0x80) &&& 0x7F).toNat = n ∧ (UInt8.ofNat n ||| 0x80) &&& 0x80 ≠ 0 := by
    decide +kernel
  rw [lowByte, low]
  exact all _ (Nat.mod_lt value (by decide))

/-- A number is its low seven bits and the rest. -/
theorem low_or_high (value shift : Nat) :
    ((value % 128) <<< shift) ||| ((value >>> 7) <<< (shift + 7)) = value <<< shift := by
  have halves : (value >>> 7) <<< 7 ||| value % 128 = value := by
    rw [← Nat.shiftLeft_add_eq_or_of_lt (Nat.mod_lt value (by decide)), Nat.shiftLeft_eq, Nat.shiftRight_eq_div_pow]
    omega
  rw [Nat.add_comm shift 7, Nat.shiftLeft_add, ← Nat.shiftLeft_or_distrib, Nat.or_comm, halves]

theorem writeVarint_ne_nil (value : Nat) : writeVarint value ≠ [] := by
  rw [writeVarint]
  split <;> simp

/-- A number of up to seven bits for each byte is read back. -/
theorem varintFrom_write {n value acc shift : Nat} (rest : List UInt8) (fits : value < 2 ^ (7 * (n + 1))) :
    varintFrom (n + 1) (writeVarint value ++ rest) acc shift = .ok (acc ||| (value <<< shift), rest) := by
  induction n generalizing value acc shift with
  | zero =>
      have last : value >>> 7 = 0 := by
        rw [Nat.shiftRight_eq_div_pow]
        omega
      obtain ⟨low, ends⟩ := lowByte_eq value
      rw [writeVarint, if_pos last]
      simp only [List.cons_append, List.nil_append, varintFrom, low, ends, if_true]
      rw [Nat.mod_eq_of_lt (by omega)]
  | succ n ih =>
      rw [writeVarint]
      split
      · next last =>
          obtain ⟨low, ends⟩ := lowByte_eq value
          simp only [List.cons_append, List.nil_append, varintFrom, low, ends, if_true]
          rw [Nat.shiftRight_eq_div_pow] at last
          rw [Nat.mod_eq_of_lt (by omega)]
      · have high : value >>> 7 < 2 ^ (7 * (n + 1)) := by
          rw [Nat.shiftRight_eq_div_pow, Nat.div_lt_iff_lt_mul (by decide), ← Nat.pow_add]
          exact fits
        obtain ⟨low, continues⟩ := markedByte_eq value
        rw [List.cons_append, varintFrom]
        simp only [low, if_neg continues]
        rw [ih high, Nat.or_assoc, low_or_high]

/-- A number that needs more bytes is refused. -/
theorem varintFrom_write_oversized {n value acc shift : Nat} (rest : List UInt8) (large : 2 ^ (7 * n) ≤ value) :
    varintFrom n (writeVarint value ++ rest) acc shift = .error .oversizedVarint := by
  induction n generalizing value acc shift with
  | zero => rfl
  | succ n ih =>
      have high : 2 ^ (7 * n) ≤ value >>> 7 := by
        rw [Nat.shiftRight_eq_div_pow, Nat.le_div_iff_mul_le (by decide), ← Nat.pow_add]
        exact large
      have more : value >>> 7 ≠ 0 := Nat.ne_of_gt (Nat.lt_of_lt_of_le (Nat.two_pow_pos _) high)
      obtain ⟨-, continues⟩ := markedByte_eq value
      rw [writeVarint, if_neg more, List.cons_append, varintFrom]
      simp only [if_neg continues]
      exact ih high

theorem varint_write {value : Nat} (rest : List UInt8) (fits : value < 2 ^ 70) :
    varint (writeVarint value ++ rest) = .ok (value, rest) := by
  have ten : value < 2 ^ (7 * (9 + 1)) := by simpa using fits
  rw [varint, varintFrom_write rest ten]
  simp

/-! ## Fields -/

theorem block_write {n : Nat} {fault : Fault} {bytes : List UInt8} (rest : List UInt8) (length : bytes.length = n) :
    block n fault (bytes ++ rest) = .ok (bytes, rest) := by
  subst length
  simp [block]

theorem payload_write {p : Payload} (rest : List UInt8) (fits : p.Fits) :
    payload (p.write ++ rest) p.wire = .ok (p, rest) := by
  cases p with
  | varint value =>
      simp only [Payload.write, Payload.wire, payload, varint_write rest fits]
      rfl
  | fixed64 bytes =>
      simp only [Payload.write, Payload.wire, payload, block_write rest fits]
      rfl
  | delimited bytes =>
      simp only [Payload.write, Payload.wire, payload, List.append_assoc, varint_write (bytes ++ rest) fits, bind,
        Except.bind, block_write rest rfl]
      rfl
  | fixed32 bytes =>
      simp only [Payload.write, Payload.wire, payload, block_write rest fits]
      rfl

theorem key_eq (f : Field) : f.key = f.number * 8 + f.payload.wire ∧ f.payload.wire < 8 := by
  have small : f.payload.wire < 2 ^ 3 := by cases f.payload <;> simp [Payload.wire]
  rw [Field.key, ← Nat.shiftLeft_add_eq_or_of_lt small, Nat.shiftLeft_eq]
  exact ⟨rfl, small⟩

/-- A field that fits is read back. -/
theorem field_write {f : Field} (rest : List UInt8) (fits : f.Fits) : field (f.write ++ rest) = .ok (f, rest) := by
  obtain ⟨key, small⟩ := key_eq f
  have positive := fits.positive
  have bounded := fits.number
  have number : f.key >>> 3 = f.number := by
    rw [Nat.shiftRight_eq_div_pow]
    omega
  have wire : f.key &&& 7 = f.payload.wire := by
    rw [show 7 = 2 ^ 3 - 1 from rfl, Nat.and_two_pow_sub_one_eq_mod]
    omega
  rw [Field.write, List.append_assoc, field, varint_write _ (by omega)]
  simp only [bind, Except.bind, number, wire, payload_write rest fits.payload]
  rw [if_neg (by omega)]
  rfl

/-- Fields that fit are read back. -/
theorem scan_write {fields : List Field} (fit : ∀ f ∈ fields, f.Fits) : scan (write fields) = (fields, none) := by
  induction fields with
  | nil => rfl
  | cons f fields ih =>
      have later := ih fun other member => fit other (List.mem_cons_of_mem _ member)
      rw [write, List.flatMap_cons, scan_of_ok (field_write _ (fit f List.mem_cons_self)), ← write, later]

/-- A field number of more than 67 bits is not read back. -/
theorem field_write_oversized {f : Field} (rest : List UInt8) (large : 2 ^ 67 ≤ f.number) :
    field (f.write ++ rest) = .error .oversizedVarint := by
  obtain ⟨key, -⟩ := key_eq f
  have tooLarge : 2 ^ (7 * 10) ≤ f.key := by omega
  rw [Field.write, List.append_assoc, field, varint, varintFrom_write_oversized _ tooLarge]
  rfl

end SentinelEdge.Foundation.Wire
