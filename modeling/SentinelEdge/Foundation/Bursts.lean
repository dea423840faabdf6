import Mathlib.Logic.Function.Iterate
import SentinelEdge.Foundation.Bytes

/-! # Bursts of flipped bits

A register divides a stream of bits by a generator, least significant bit first. Two
streams that differ only within as many consecutive bits as the register is wide leave
different remainders, whatever comes before and after.
-/

namespace SentinelEdge.Foundation

/-! ## Division -/

section

variable {width : Nat} {generator r r' : BitVec width} {bits xs ys : List Bool}

/-- One step of the division by a reflected generator. -/
def divideBit (generator remainder : BitVec width) : BitVec width :=
  if remainder.getLsbD 0 then (remainder >>> 1) ^^^ generator else remainder >>> 1

def feedBit (generator remainder : BitVec width) (bit : Bool) : BitVec width :=
  divideBit generator (remainder ^^^ (BitVec.ofBool bit).setWidth width)

/-- The remainder after a stream of bits. -/
def feed (generator remainder : BitVec width) (bits : List Bool) : BitVec width := bits.foldl (feedBit generator) remainder

/-- The first bits of a stream as a number, the first one least significant. -/
def word (width : Nat) (bits : List Bool) : BitVec width := (BitVec.ofBoolListLE bits).setWidth width

@[simp] theorem getLsbD_word (bits : List Bool) (i : Nat) :
    (word width bits).getLsbD i = (decide (i < width) && bits.getD i false) := by
  simp [word]

@[simp] theorem getElem_word (bits : List Bool) {i : Nat} (inside : i < width) :
    (word width bits)[i] = bits.getD i false := by
  rw [← BitVec.getLsbD_eq_getElem, getLsbD_word]
  simp [inside]

theorem divideBit_xor (generator r r' : BitVec width) :
    divideBit generator (r ^^^ r') = divideBit generator r ^^^ divideBit generator r' := by
  apply BitVec.eq_of_getLsbD_eq
  intro i _
  unfold divideBit
  cases low : r.getLsbD 0 <;> cases low' : r'.getLsbD 0 <;> simp [low, low']
  all_goals cases r.getLsbD (1 + i) <;> cases r'.getLsbD (1 + i) <;> cases generator.getLsbD i <;> rfl

@[simp] theorem divideBit_zero (generator : BitVec width) :
    divideBit generator (BitVec.ofNat width 0) = BitVec.ofNat width 0 := by
  simp [divideBit]

/-- A generator with a constant term divides nothing to zero but zero. -/
theorem divideBit_eq_zero (constant : generator.getLsbD (width - 1) = true)
    (gone : divideBit generator r = BitVec.ofNat width 0) :
    r = BitVec.ofNat width 0 := by
  unfold divideBit at gone
  cases low : r.getLsbD 0 with
  | true =>
      rw [if_pos low] at gone
      have top := congrArg (fun word => word.getLsbD (width - 1)) gone
      simp [constant] at top
      have beyond : r.getLsbD (1 + (width - 1)) = false := BitVec.getLsbD_of_ge _ _ (by omega)
      rw [beyond] at top
      cases top
  | false =>
      rw [if_neg (by simp [low])] at gone
      apply BitVec.eq_of_getLsbD_eq
      intro i _
      cases i with
      | zero => simp [low]
      | succ i =>
          have shifted := congrArg (fun word => word.getLsbD i) gone
          simpa [Nat.add_comm] using shifted

theorem iterate_divideBit_eq_zero (constant : generator.getLsbD (width - 1) = true) {steps : Nat}
    (gone : (divideBit generator)^[steps] r = BitVec.ofNat width 0) : r = BitVec.ofNat width 0 := by
  induction steps generalizing r with
  | zero => exact gone
  | succ steps ih => exact divideBit_eq_zero constant (ih gone)

@[simp] theorem feed_nil (generator r : BitVec width) : feed generator r [] = r := rfl

@[simp] theorem feed_cons (generator r : BitVec width) (bit : Bool) (bits : List Bool) :
    feed generator r (bit :: bits) = feed generator (feedBit generator r bit) bits := rfl

theorem feed_append (generator r : BitVec width) (xs ys : List Bool) :
    feed generator r (xs ++ ys) = feed generator (feed generator r xs) ys := List.foldl_append

theorem feed_zeros (generator r : BitVec width) (n : Nat) :
    feed generator r (List.replicate n false) = (divideBit generator)^[n] r := by
  induction n generalizing r with
  | zero => rfl
  | succ n ih =>
      rw [List.replicate_succ, feed_cons, ih, Function.iterate_succ_apply]
      simp [feedBit]

/-- The division is linear. -/
theorem feed_xor (same : xs.length = ys.length) (generator r r' : BitVec width) :
    feed generator r xs ^^^ feed generator r' ys = feed generator (r ^^^ r') (List.zipWith xor xs ys) := by
  induction xs generalizing r r' ys with
  | nil =>
      cases ys with
      | nil => rfl
      | cons y ys => cases same
  | cons x xs ih =>
      cases ys with
      | nil => cases same
      | cons y ys =>
          have both : feedBit generator r x ^^^ feedBit generator r' y = feedBit generator (r ^^^ r') (xor x y) := by
            rw [feedBit, feedBit, feedBit, ← divideBit_xor, ← BitVec.ofBool_xor_ofBool, BitVec.setWidth_xor]
            congr 1
            ac_rfl
          rw [feed_cons, feed_cons, ih (Nat.succ.inj same), both, List.zipWith_cons_cons, feed_cons]

/-- As many bits as the register holds may be put into it before the steps. -/
theorem feed_word (short : bits.length ≤ width) (generator r : BitVec width) :
    feed generator r bits = (divideBit generator)^[bits.length] (r ^^^ word width bits) := by
  induction bits generalizing r with
  | nil =>
      have empty : word width [] = BitVec.ofNat width 0 := by
        apply BitVec.eq_of_getLsbD_eq
        simp
      simp [empty]
  | cons bit bits ih =>
      have room : bits.length < width := short
      have parts : word width (bit :: bits) = (BitVec.ofBool bit).setWidth width ^^^ (word width bits <<< 1) := by
        apply BitVec.eq_of_getLsbD_eq
        intro i inside
        cases i with
        | zero => simp [inside]
        | succ i => simp [inside]
      have shifted : divideBit generator (word width bits <<< 1) = word width bits := by
        have low : (word width bits <<< 1).getLsbD 0 = false := by simp
        rw [divideBit, if_neg (by simp [low])]
        apply BitVec.eq_of_getLsbD_eq
        intro i inside
        by_cases top : 1 + i < width
        · simp [inside, top]
        · have beyond : bits.length ≤ i := by omega
          simp [inside, top, beyond]
      rw [feed_cons, ih (Nat.le_of_lt room), List.length_cons, Function.iterate_succ_apply, parts, ← BitVec.xor_assoc,
        divideBit_xor, shifted, feedBit]

/-! ## Bursts -/

/-- A stream that is not all zeros and whose ones lie in a burst leaves a remainder. -/
theorem feed_burst_ne_zero (constant : generator.getLsbD (width - 1) = true) {start : Nat} (set : true ∈ bits)
    (within : ∀ i, bits[i]? = some true → start ≤ i ∧ i < start + width) :
    feed generator (BitVec.ofNat width 0) bits ≠ BitVec.ofNat width 0 := by
  intro gone
  have zeros : ∀ part : List Bool, (∀ i : Nat, part[i]? ≠ some true) → part = List.replicate part.length false := by
    intro part unset
    refine List.eq_replicate_of_mem fun bit member => ?_
    obtain ⟨i, here⟩ := List.mem_iff_getElem?.mp member
    cases bit with
    | false => rfl
    | true => exact absurd here (unset i)
  have before : bits.take start = List.replicate (bits.take start).length false := by
    refine zeros _ fun i here => ?_
    rw [List.getElem?_take] at here
    split at here
    · next early => exact absurd (within i here).1 (Nat.not_le.mpr early)
    · cases here
  have after : (bits.drop start).drop width = List.replicate ((bits.drop start).drop width).length false := by
    refine zeros _ fun i here => ?_
    rw [List.getElem?_drop, List.getElem?_drop] at here
    have late := (within _ here).2
    omega
  have short : ((bits.drop start).take width).length ≤ width := by
    rw [List.length_take]
    exact Nat.min_le_left _ _
  have whole : bits = bits.take start ++ ((bits.drop start).take width ++ (bits.drop start).drop width) := by
    rw [List.take_append_drop, List.take_append_drop]
  rw [whole, feed_append, feed_append, before, feed_zeros, after, feed_zeros, feed_word short] at gone
  have nothing := iterate_divideBit_eq_zero constant (iterate_divideBit_eq_zero constant gone)
  have fixed : ∀ n, (divideBit generator)^[n] (BitVec.ofNat width 0) = BitVec.ofNat width 0 :=
    fun n => Function.iterate_fixed (divideBit_zero generator) n
  rw [fixed, BitVec.zero_xor] at nothing
  obtain ⟨i, here⟩ := List.mem_iff_getElem?.mp set
  obtain ⟨reached, inside⟩ := within i here
  have bit := congrArg (fun word => word.getLsbD (i - start)) nothing
  have there : ((bits.drop start).take width)[i - start]? = some true := by
    rw [List.getElem?_take, if_pos (by omega), List.getElem?_drop, Nat.add_sub_cancel' reached]
    exact here
  simp [List.getD, there] at bit
  omega

/-- Streams that differ in a burst only leave different remainders. -/
theorem feed_ne_of_burst (constant : generator.getLsbD (width - 1) = true) (same : xs.length = ys.length) (start : Nat)
    (set : true ∈ List.zipWith xor xs ys)
    (within : ∀ i, (List.zipWith xor xs ys)[i]? = some true → start ≤ i ∧ i < start + width) (r : BitVec width) :
    feed generator r xs ≠ feed generator r ys := by
  intro equal
  have gone := feed_xor same generator r r
  rw [equal, BitVec.xor_self, BitVec.xor_self] at gone
  exact feed_burst_ne_zero constant set within gone.symm

end

/-! ## Bytes -/

/-- The bits of a byte, least significant first. -/
def byteBits (byte : UInt8) : List Bool := (List.range 8).map byte.toBitVec.getLsbD

def bitsOf (bytes : List UInt8) : List Bool := bytes.flatMap byteBits

def flipByte (flipped : Nat → Bool) (byte : UInt8) : UInt8 := ⟨byte.toBitVec ^^^ word 8 ((List.range 8).map flipped)⟩

/-- The bytes with some of their bits flipped. -/
def flipBits (flipped : Nat → Bool) : List UInt8 → List UInt8
  | [] => []
  | byte :: rest => flipByte flipped byte :: flipBits (fun i => flipped (8 + i)) rest

@[simp] theorem length_byteBits (byte : UInt8) : (byteBits byte).length = 8 := by simp [byteBits]

@[simp] theorem length_bitsOf (bytes : List UInt8) : (bitsOf bytes).length = 8 * bytes.length := by
  induction bytes with
  | nil => rfl
  | cons byte bytes ih =>
      rw [bitsOf, List.flatMap_cons, List.length_append, ← bitsOf, ih, length_byteBits, List.length_cons]
      omega

@[simp] theorem length_flipBits (flipped : Nat → Bool) (bytes : List UInt8) :
    (flipBits flipped bytes).length = bytes.length := by
  induction bytes generalizing flipped with
  | nil => rfl
  | cons byte bytes ih => rw [flipBits, List.length_cons, List.length_cons, ih]

theorem flipBits_append (flipped : Nat → Bool) (front back : List UInt8) :
    flipBits flipped (front ++ back) = flipBits flipped front ++ flipBits (fun i => flipped (8 * front.length + i)) back := by
  induction front generalizing flipped with
  | nil => simp [flipBits]
  | cons byte front ih =>
      rw [List.cons_append, flipBits, flipBits, ih, List.cons_append, List.length_cons]
      congr 3
      funext i
      congr 1
      omega

theorem byteBits_flipByte (flipped : Nat → Bool) (byte : UInt8) :
    List.zipWith xor (byteBits byte) (byteBits (flipByte flipped byte)) = (List.range 8).map flipped := by
  apply List.ext_getElem
  · simp
  · intro i short _
    have inside : i < 8 := by simpa using short
    simp [byteBits, flipByte, inside]

/-- Where the bits differ is where they were flipped. -/
theorem bitsOf_flipBits (flipped : Nat → Bool) (bytes : List UInt8) :
    List.zipWith xor (bitsOf bytes) (bitsOf (flipBits flipped bytes)) = (List.range (8 * bytes.length)).map flipped := by
  induction bytes generalizing flipped with
  | nil => rfl
  | cons byte bytes ih =>
      have lengths : 8 * (bytes.length + 1) = 8 + 8 * bytes.length := by omega
      rw [flipBits, bitsOf, bitsOf, List.flatMap_cons, List.flatMap_cons, List.zipWith_append (by simp), ← bitsOf, ← bitsOf,
        byteBits_flipByte, ih, List.length_cons, lengths, List.range_add, List.map_append, List.map_map]
      rfl

theorem flipByte_of_none {flipped : Nat → Bool} (none : ∀ i < 8, flipped i = false) (byte : UInt8) :
    flipByte flipped byte = byte := by
  have nothing : word 8 ((List.range 8).map flipped) = 0#8 := by
    apply BitVec.eq_of_getLsbD_eq
    intro i inside
    simp [inside, none i inside]
  rw [flipByte, nothing, BitVec.xor_zero]

/-- Bits that are not flipped stay. -/
theorem flipBits_of_none {flipped : Nat → Bool} {bytes : List UInt8} (none : ∀ i < 8 * bytes.length, flipped i = false) :
    flipBits flipped bytes = bytes := by
  induction bytes generalizing flipped with
  | nil => rfl
  | cons byte bytes ih =>
      rw [List.length_cons] at none
      rw [flipBits, flipByte_of_none (fun i inside => none i (by omega)), ih fun i inside => none (8 + i) (by omega)]

theorem flipBits_ne {flipped : Nat → Bool} {bytes : List UInt8} {i : Nat} (inside : i < 8 * bytes.length)
    (isFlipped : flipped i = true) : flipBits flipped bytes ≠ bytes := by
  intro same
  have differ := bitsOf_flipBits flipped bytes
  rw [same] at differ
  have here := congrArg (fun bits => bits[i]?) differ
  simp [inside, isFlipped] at here

/-! ## CRC-32 -/

theorem crcByte_eq (remainder : BitVec 32) (byte : UInt8) :
    crcByte remainder byte = feed crcPolynomial remainder (byteBits byte) := by
  have whole : word 32 (byteBits byte) = byte.toBitVec.setWidth 32 := by
    apply BitVec.eq_of_getLsbD_eq
    intro i inside
    by_cases low : i < 8
    · simp [byteBits, inside, low]
    · simp [byteBits, inside, low, BitVec.getLsbD_of_ge byte.toBitVec i (by omega)]
  rw [feed_word (by simp), whole, length_byteBits]
  rfl

theorem crc32_eq (bytes : List UInt8) :
    crc32 bytes = feed crcPolynomial (BitVec.allOnes 32) (bitsOf bytes) ^^^ BitVec.allOnes 32 := by
  have folded : ∀ remainder, bytes.foldl crcByte remainder = feed crcPolynomial remainder (bitsOf bytes) := by
    induction bytes with
    | nil => exact fun _ => rfl
    | cons byte bytes ih =>
        intro remainder
        have parts : bitsOf (byte :: bytes) = byteBits byte ++ bitsOf bytes := rfl
        rw [List.foldl_cons, ih, parts, feed_append, crcByte_eq]
  rw [crc32, folded]

/-- Bits flipped within 32 consecutive ones change the check value. -/
theorem crc32_flipBits_ne {flipped : Nat → Bool} {bytes : List UInt8} {start : Nat}
    (some : ∃ i < 8 * bytes.length, flipped i = true)
    (within : ∀ i < 8 * bytes.length, flipped i = true → start ≤ i ∧ i < start + 32) :
    crc32 (flipBits flipped bytes) ≠ crc32 bytes := by
  intro equal
  rw [crc32_eq, crc32_eq] at equal
  have remainders := (BitVec.xor_left_inj (BitVec.allOnes 32)).mp equal
  refine feed_ne_of_burst (by decide) (by simp) start ?_ ?_ (BitVec.allOnes 32) remainders.symm
  · rw [bitsOf_flipBits]
    obtain ⟨i, inside, isFlipped⟩ := some
    exact List.mem_map.mpr ⟨i, List.mem_range.mpr inside, isFlipped⟩
  · rw [bitsOf_flipBits]
    intro i here
    rw [List.getElem?_map, Option.map_eq_some_iff] at here
    obtain ⟨_, position, isFlipped⟩ := here
    obtain ⟨inside, rfl⟩ := List.getElem?_eq_some_iff.mp position
    rw [List.getElem_range] at isFlipped
    exact within i (by simpa using inside) isFlipped

end SentinelEdge.Foundation
