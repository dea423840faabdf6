import Mathlib.Data.List.Basic

/-! # The protocol buffer wire format

A message is a sequence of fields, each a key followed by a payload. `scan` reads
a message from its front as far as it is well formed. Messages written one after
the other scan to their fields one after the other, which is what merging them
means.
-/

namespace SentinelEdge.Foundation.Wire

inductive Payload where
  | varint (value : Nat)
  | fixed64 (bytes : List UInt8)
  | delimited (bytes : List UInt8)
  | fixed32 (bytes : List UInt8)
  deriving DecidableEq, Repr

structure Field where
  number : Nat
  payload : Payload
  deriving DecidableEq, Repr

/-- Where a message stops being well formed. -/
inductive Fault where
  | truncatedVarint
  | oversizedVarint
  | invalidFieldNumber
  | truncatedFixed64
  | truncatedLengthDelimited
  | truncatedFixed32
  | unsupportedWireType (wire : Nat)
  deriving DecidableEq, Repr

/-- Groups of seven bits from the least significant on, at most `n` of them. -/
def varintFrom : Nat → List UInt8 → Nat → Nat → Except Fault (Nat × List UInt8)
  | 0, _, _, _ => .error .oversizedVarint
  | _ + 1, [], _, _ => .error .truncatedVarint
  | n + 1, byte :: rest, value, shift =>
      let value := value ||| ((byte &&& 0x7F).toNat <<< shift)
      if byte &&& 0x80 = 0 then .ok (value, rest) else varintFrom n rest value (shift + 7)

def varint (bytes : List UInt8) : Except Fault (Nat × List UInt8) := varintFrom 10 bytes 0 0

/-- The next `n` bytes. -/
def block (n : Nat) (fault : Fault) (bytes : List UInt8) : Except Fault (List UInt8 × List UInt8) :=
  if bytes.length < n then .error fault else .ok (bytes.take n, bytes.drop n)

/-- The payload that follows a key. -/
def payload (bytes : List UInt8) : Nat → Except Fault (Payload × List UInt8)
  | 0 => do
      let (value, rest) ← varint bytes
      pure (.varint value, rest)
  | 1 => do
      let (here, rest) ← block 8 .truncatedFixed64 bytes
      pure (.fixed64 here, rest)
  | 2 => do
      let (length, rest) ← varint bytes
      let (here, rest) ← block length .truncatedLengthDelimited rest
      pure (.delimited here, rest)
  | 5 => do
      let (here, rest) ← block 4 .truncatedFixed32 bytes
      pure (.fixed32 here, rest)
  | wire => .error (.unsupportedWireType wire)

/-- The first field of a message. -/
def field (bytes : List UInt8) : Except Fault (Field × List UInt8) := do
  let (key, rest) ← varint bytes
  if key >>> 3 = 0 then .error .invalidFieldNumber
  else do
    let (payload, rest) ← payload rest (key &&& 7)
    pure (⟨key >>> 3, payload⟩, rest)

def scanFrom : Nat → List UInt8 → List Field × Option Fault
  | 0, _ => ([], none)
  | n + 1, bytes =>
      if bytes = [] then ([], none)
      else match field bytes with
        | .error fault => ([], some fault)
        | .ok (field, rest) => (field :: (scanFrom n rest).1, (scanFrom n rest).2)

/-- The fields of a message, and the fault the message ends with, if it does. -/
def scan (bytes : List UInt8) : List Field × Option Fault := scanFrom bytes.length bytes

/-! ## Every field takes bytes -/

theorem varintFrom_shorter {n value shift out : Nat} {bytes rest : List UInt8}
    (read : varintFrom n bytes value shift = .ok (out, rest)) : rest.length < bytes.length := by
  induction n generalizing bytes value shift with
  | zero => cases read
  | succ n ih =>
      cases bytes with
      | nil => cases read
      | cons byte bytes =>
          simp only [varintFrom] at read
          split at read
          · cases read
            exact Nat.lt_succ_self _
          · exact Nat.lt_trans (ih read) (Nat.lt_succ_self _)

theorem varint_shorter {out : Nat} {bytes rest : List UInt8} (read : varint bytes = .ok (out, rest)) :
    rest.length < bytes.length := varintFrom_shorter read

private theorem ok_of_bind {ε α β : Type} {x : Except ε α} {f : α → Except ε β} {b : β} (read : (x >>= f) = .ok b) :
    ∃ a, x = .ok a ∧ f a = .ok b := by
  cases x with
  | error e => cases read
  | ok a => exact ⟨a, rfl, read⟩

theorem block_ok {n : Nat} {fault : Fault} {bytes here rest : List UInt8} (read : block n fault bytes = .ok (here, rest)) :
    here ++ rest = bytes := by
  unfold block at read
  split at read
  · cases read
  · cases read
    exact List.take_append_drop n bytes

theorem block_shorter {n : Nat} {fault : Fault} {bytes here rest : List UInt8}
    (read : block n fault bytes = .ok (here, rest)) : rest.length ≤ bytes.length ∧ here.length ≤ bytes.length := by
  have split := congrArg List.length (block_ok read)
  rw [List.length_append] at split
  omega

/-- What is left after a payload is no longer than the message, and so is a
    message inside it. -/
theorem payload_shorter {wire : Nat} {bytes rest : List UInt8} {value : Payload}
    (read : payload bytes wire = .ok (value, rest)) :
    rest.length ≤ bytes.length ∧ ∀ inner, value = .delimited inner → inner.length ≤ bytes.length := by
  unfold payload at read
  split at read
  · obtain ⟨⟨n, after⟩, number, same⟩ := ok_of_bind read
    cases same
    exact ⟨Nat.le_of_lt (varint_shorter number), nofun⟩
  · obtain ⟨⟨here, after⟩, taken, same⟩ := ok_of_bind read
    cases same
    exact ⟨(block_shorter taken).1, nofun⟩
  · obtain ⟨⟨length, after⟩, number, read⟩ := ok_of_bind read
    obtain ⟨⟨here, last⟩, taken, same⟩ := ok_of_bind read
    cases same
    have shorter := varint_shorter number
    have parts := block_shorter taken
    refine ⟨by omega, fun inner same => ?_⟩
    cases same
    omega
  · obtain ⟨⟨here, after⟩, taken, same⟩ := ok_of_bind read
    cases same
    exact ⟨(block_shorter taken).1, nofun⟩
  · cases read

theorem field_shorter {bytes rest : List UInt8} {f : Field} (read : field bytes = .ok (f, rest)) :
    rest.length < bytes.length ∧ ∀ inner, f.payload = .delimited inner → inner.length < bytes.length := by
  obtain ⟨⟨key, after⟩, number, read⟩ := ok_of_bind read
  simp only at read
  split at read
  · cases read
  · obtain ⟨⟨value, last⟩, value_read, same⟩ := ok_of_bind read
    cases same
    have shorter := varint_shorter number
    have parts := payload_shorter value_read
    exact ⟨Nat.lt_of_le_of_lt parts.1 shorter, fun inner same => Nat.lt_of_le_of_lt (parts.2 inner same) shorter⟩

theorem scanFrom_eq_of_length {n m : Nat} {bytes : List UInt8} (enough : bytes.length ≤ n) (also : bytes.length ≤ m) :
    scanFrom n bytes = scanFrom m bytes := by
  induction n generalizing m bytes with
  | zero =>
      obtain rfl := List.length_eq_zero_iff.mp (Nat.le_zero.mp enough)
      cases m with
      | zero => rfl
      | succ m => rfl
  | succ n ih =>
      cases m with
      | zero =>
          obtain rfl := List.length_eq_zero_iff.mp (Nat.le_zero.mp also)
          rfl
      | succ m =>
          simp only [scanFrom]
          split
          · rfl
          · cases read : field bytes with
            | error fault => rfl
            | ok result =>
                have shorter := (field_shorter read).1
                simp only [@ih m result.2 (by omega) (by omega)]

theorem scan_nil : scan [] = ([], none) := rfl

theorem scan_of_error {bytes : List UInt8} {fault : Fault} (some : bytes ≠ []) (read : field bytes = .error fault) :
    scan bytes = ([], .some fault) := by
  cases bytes with
  | nil => exact absurd rfl some
  | cons byte bytes => simp [scan, scanFrom, read]

theorem scan_of_ok {bytes rest : List UInt8} {f : Field} (read : field bytes = .ok (f, rest)) :
    scan bytes = (f :: (scan rest).1, (scan rest).2) := by
  have shorter := (field_shorter read).1
  cases bytes with
  | nil => simp at shorter
  | cons byte bytes =>
      have same : scanFrom bytes.length rest = scan rest :=
        scanFrom_eq_of_length (by simpa [Nat.lt_succ_iff] using shorter) (Nat.le_refl _)
      simp [scan, scanFrom, read] at same ⊢
      simp [same]

/-- The delimited payloads of a message are shorter than it is. -/
theorem length_of_mem_scan {bytes : List UInt8} {f : Field} (member : f ∈ (scan bytes).1) :
    ∀ inner, f.payload = .delimited inner → inner.length < bytes.length := by
  induction bytes using (measure List.length).wf.induction with
  | _ bytes ih =>
      by_cases empty : bytes = []
      · subst empty
        simp [scan_nil] at member
      · cases read : field bytes with
        | error fault => simp [scan_of_error empty read] at member
        | ok result =>
            obtain ⟨restShort, innerShort⟩ := field_shorter read
            rw [scan_of_ok read] at member
            cases List.mem_cons.mp member with
            | inl same => exact same ▸ innerShort
            | inr later => exact fun inner same => Nat.lt_trans (ih result.2 restShort later inner same) restShort

/-! ## Messages one after the other -/

theorem varintFrom_append {n value shift out : Nat} {bytes rest more : List UInt8}
    (read : varintFrom n bytes value shift = .ok (out, rest)) :
    varintFrom n (bytes ++ more) value shift = .ok (out, rest ++ more) := by
  induction n generalizing bytes value shift with
  | zero => cases read
  | succ n ih =>
      cases bytes with
      | nil => cases read
      | cons byte bytes =>
          simp only [varintFrom, List.cons_append] at read ⊢
          split at read
          · cases read
            rw [if_pos ‹_›]
          · rw [if_neg ‹_›]
            exact ih read

theorem varint_append {out : Nat} {bytes rest more : List UInt8} (read : varint bytes = .ok (out, rest)) :
    varint (bytes ++ more) = .ok (out, rest ++ more) := varintFrom_append read

theorem block_append {n : Nat} {fault : Fault} {bytes here rest more : List UInt8}
    (read : block n fault bytes = .ok (here, rest)) : block n fault (bytes ++ more) = .ok (here, rest ++ more) := by
  unfold block at read ⊢
  split at read
  · cases read
  · cases read
    rw [if_neg (by simp; omega), List.take_append_of_le_length (by omega), List.drop_append_of_le_length (by omega)]

theorem payload_append {wire : Nat} {bytes rest more : List UInt8} {value : Payload}
    (read : payload bytes wire = .ok (value, rest)) : payload (bytes ++ more) wire = .ok (value, rest ++ more) := by
  unfold payload at read ⊢
  split at read
  · obtain ⟨⟨n, after⟩, number, same⟩ := ok_of_bind read
    cases same
    simp only [varint_append number, bind, Except.bind]
    rfl
  · obtain ⟨⟨here, after⟩, taken, same⟩ := ok_of_bind read
    cases same
    simp only [block_append taken, bind, Except.bind]
    rfl
  · obtain ⟨⟨length, after⟩, number, read⟩ := ok_of_bind read
    obtain ⟨⟨here, last⟩, taken, same⟩ := ok_of_bind read
    cases same
    simp only [varint_append number, bind, Except.bind, block_append taken]
    rfl
  · obtain ⟨⟨here, after⟩, taken, same⟩ := ok_of_bind read
    cases same
    simp only [block_append taken, bind, Except.bind]
    rfl
  · cases read

theorem field_append {bytes rest more : List UInt8} {f : Field} (read : field bytes = .ok (f, rest)) :
    field (bytes ++ more) = .ok (f, rest ++ more) := by
  obtain ⟨⟨key, after⟩, number, read⟩ := ok_of_bind read
  simp only at read
  split at read
  · cases read
  · obtain ⟨⟨value, last⟩, taken, same⟩ := ok_of_bind read
    cases same
    simp only [field, varint_append number, bind, Except.bind, if_neg ‹_›, payload_append taken]
    rfl

/-- A well-formed message, continued by another one. -/
theorem scan_append {bytes more : List UInt8} (whole : (scan bytes).2 = none) :
    scan (bytes ++ more) = ((scan bytes).1 ++ (scan more).1, (scan more).2) := by
  induction bytes using (measure List.length).wf.induction with
  | _ bytes ih =>
      by_cases empty : bytes = []
      · subst empty
        rfl
      · cases read : field bytes with
        | error fault => simp [scan_of_error empty read] at whole
        | ok result =>
            have later := ih result.2 (field_shorter read).1 (by simpa [scan_of_ok read] using whole)
            rw [scan_of_ok (field_append read), later, scan_of_ok read]
            rfl

/-! ## The fields with one number -/

/-- The payloads of an embedded message or a text, in order. -/
def delimited (number : Nat) (fields : List Field) : List (List UInt8) :=
  fields.filterMap (fun f => match f.payload with
    | .delimited bytes => if f.number = number then some bytes else none
    | _ => none)

/-- The values of an integer, in order. -/
def varints (number : Nat) (fields : List Field) : List Nat :=
  fields.filterMap (fun f => match f.payload with
    | .varint value => if f.number = number then some value else none
    | _ => none)

theorem mem_delimited {number : Nat} {fields : List Field} {bytes : List UInt8} :
    bytes ∈ delimited number fields ↔ ⟨number, .delimited bytes⟩ ∈ fields := by
  simp only [delimited, List.mem_filterMap]
  constructor
  · rintro ⟨⟨n, value⟩, member, here⟩
    cases value with
    | delimited inner =>
        simp only [Option.ite_none_right_eq_some, Option.some.injEq] at here
        obtain ⟨rfl, rfl⟩ := here
        exact member
    | varint n => cases here
    | fixed64 bytes => cases here
    | fixed32 bytes => cases here
  · intro member
    exact ⟨_, member, by simp⟩

theorem delimited_append (number : Nat) (fields more : List Field) :
    delimited number (fields ++ more) = delimited number fields ++ delimited number more :=
  List.filterMap_append

theorem varints_append (number : Nat) (fields more : List Field) :
    varints number (fields ++ more) = varints number fields ++ varints number more :=
  List.filterMap_append

/-- The fields of messages merged by writing them one after the other. -/
theorem scan_flatten {messages : List (List UInt8)} (whole : ∀ bytes ∈ messages, (scan bytes).2 = none) :
    scan messages.flatten = (messages.flatMap (fun bytes => (scan bytes).1), none) := by
  induction messages with
  | nil => rfl
  | cons bytes messages ih =>
      rw [List.flatten_cons, scan_append (whole bytes List.mem_cons_self),
        ih (fun other member => whole other (List.mem_cons_of_mem _ member))]
      rfl

theorem delimited_flatMap {α : Type} (number : Nat) (read : α → List Field) (messages : List α) :
    delimited number (messages.flatMap read) = messages.flatMap (fun m => delimited number (read m)) := by
  induction messages with
  | nil => rfl
  | cons m messages ih => rw [List.flatMap_cons, delimited_append, ih, List.flatMap_cons]

end SentinelEdge.Foundation.Wire
