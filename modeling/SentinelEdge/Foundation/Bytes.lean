import Mathlib.Data.List.Induction
import Mathlib.Tactic.Ring

/-! # Numbers as bytes

Big-endian words of a fixed width, and the cyclic redundancy check over bytes.
-/

namespace SentinelEdge.Foundation

/-- The last `width` bytes of a number, most significant first. -/
def bigEndian : Nat → Nat → List UInt8
  | 0, _ => []
  | width + 1, n => bigEndian width (n / 256) ++ [UInt8.ofNat n]

def ofBigEndian (bytes : List UInt8) : Nat := bytes.foldl (fun n byte => n * 256 + byte.toNat) 0

theorem ofBigEndian_concat (bytes : List UInt8) (byte : UInt8) :
    ofBigEndian (bytes ++ [byte]) = ofBigEndian bytes * 256 + byte.toNat := by
  rw [ofBigEndian, List.foldl_append]
  rfl

@[simp] theorem length_bigEndian (width n : Nat) : (bigEndian width n).length = width := by
  induction width generalizing n with
  | zero => rfl
  | succ width ih => rw [bigEndian, List.length_append, ih, List.length_singleton]

theorem ofBigEndian_lt (bytes : List UInt8) : ofBigEndian bytes < 256 ^ bytes.length := by
  induction bytes using List.reverseRecOn with
  | nil => decide
  | append_singleton bytes byte ih =>
      have low := byte.toNat_lt
      rw [ofBigEndian_concat, List.length_append, List.length_singleton, pow_succ]
      omega

theorem ofBigEndian_bigEndian {width n : Nat} (small : n < 256 ^ width) : ofBigEndian (bigEndian width n) = n := by
  induction width generalizing n with
  | zero =>
      rw [pow_zero] at small
      exact (Nat.lt_one_iff.mp small).symm
  | succ width ih =>
      have high : n / 256 < 256 ^ width := by
        rw [Nat.div_lt_iff_lt_mul (by decide), ← pow_succ]
        exact small
      rw [bigEndian, ofBigEndian_concat, ih high, UInt8.toNat_ofNat']
      exact Nat.div_add_mod' n 256

theorem bigEndian_ofBigEndian (bytes : List UInt8) : bigEndian bytes.length (ofBigEndian bytes) = bytes := by
  induction bytes using List.reverseRecOn with
  | nil => rfl
  | append_singleton bytes byte ih =>
      have low := byte.toNat_lt
      have high : (ofBigEndian bytes * 256 + byte.toNat) / 256 = ofBigEndian bytes := by omega
      have last : UInt8.ofNat (ofBigEndian bytes * 256 + byte.toNat) = byte := by
        apply UInt8.toNat_inj.mp
        rw [UInt8.toNat_ofNat']
        omega
      rw [List.length_append, List.length_singleton, bigEndian, ofBigEndian_concat, high, ih, last]

/-! ## CRC-32 -/

/-- The reflected generator polynomial. -/
def crcPolynomial : BitVec 32 := 0xEDB88320#32

/-- One bit of the division. -/
def crcBit (remainder : BitVec 32) : BitVec 32 :=
  if remainder.getLsbD 0 then (remainder >>> 1) ^^^ crcPolynomial else remainder >>> 1

def crcByte (remainder : BitVec 32) (byte : UInt8) : BitVec 32 :=
  Nat.iterate crcBit 8 (remainder ^^^ byte.toBitVec.setWidth 32)

/-- `zlib.crc32` -/
def crc32 (bytes : List UInt8) : BitVec 32 := bytes.foldl crcByte (BitVec.allOnes 32) ^^^ BitVec.allOnes 32

/-- The check value of "123456789". -/
example : crc32 [0x31, 0x32, 0x33, 0x34, 0x35, 0x36, 0x37, 0x38, 0x39] = 0xCBF43926#32 := by decide +kernel

end SentinelEdge.Foundation
