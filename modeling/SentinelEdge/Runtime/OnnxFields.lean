import SentinelEdge.Foundation.WireWriting
import SentinelEdge.Runtime.OnnxReader

/-! # Iterating over fields

Within its budget `_iter_fields` yields what the wire format reads: messages that
are written one after the other yield their fields one after the other, and fields
that are written are yielded again.
-/

namespace SentinelEdge.Runtime

open Foundation Wire

/-- `_field_varint` -/
def fieldVarint (number value : Nat) : List UInt8 := writeVarint ((number <<< 3) ||| 0) ++ writeVarint value

/-- `_field_bytes` -/
def fieldBytes (number : Nat) (value : List UInt8) : List UInt8 :=
  writeVarint ((number <<< 3) ||| 2) ++ (writeVarint value.length ++ value)

section

variable (limits : ParseLimits) (depth : Nat)

/-- The iterations of the generator: each charges the budget before it reads. -/
def yieldFields (ending : Option ParseException) : List Field → ParseBudget → List Field × Option ParseException
  | [], budget => match ending with
      | none => ([], none)
      | some exception => match ParseBudget.consume limits depth budget with
          | (.error stopped, _) => ([], some stopped)
          | (.ok _, _) => ([], some exception)
  | field :: fields, budget => match ParseBudget.consume limits depth budget with
      | (.error stopped, _) => ([], some stopped)
      | (.ok _, budget) => (field :: (yieldFields ending fields budget).1, (yieldFields ending fields budget).2)

/-- `_iter_fields(data, budget, depth=depth)`: what it yields, and what it raises then
    if it does. -/
def iterFieldsWithin (budget : ParseBudget) (data : List UInt8) : List Field × Option ParseException :=
  if limits.maxTotalBytes < data.length then ([], some (.protobufParseError "protobuf_message_too_large"))
  else yieldFields limits depth (iterFields data).2 (iterFields data).1 budget

/-- The fields that are yielded, and the one that cannot be read. -/
def iterations (data : List UInt8) : Nat := (iterFields data).1.length + (iterFields data).2.toList.length

/-- Iterating over the bytes stays within the limits. -/
structure Room (budget : ParseBudget) (data : List UInt8) : Prop where
  size : data.length ≤ limits.maxTotalBytes
  depth : depth ≤ limits.maxDepth
  fields : budget.fieldsSeen + iterations data ≤ limits.maxFields

end

variable {limits : ParseLimits} {depth : Nat} {budget : ParseBudget} {a b data : List UInt8} {fields : List Field}

theorem consume_of_room (shallow : depth ≤ limits.maxDepth) (room : budget.fieldsSeen < limits.maxFields) :
    ParseBudget.consume limits depth budget = (.ok (), { budget with fieldsSeen := budget.fieldsSeen + 1 }) := by
  have deep : ¬ limits.maxDepth < depth := Nat.not_lt.mpr shallow
  have spent : ¬ limits.maxFields < budget.fieldsSeen + 1 := by omega
  rw [ParseBudget.consume, if_neg deep, Call.modify_bind, Call.read_bind, if_neg spent]
  rfl

theorem yieldFields_of_room {ending : Option ParseException} (shallow : depth ≤ limits.maxDepth)
    (room : budget.fieldsSeen + (fields.length + ending.toList.length) ≤ limits.maxFields) :
    yieldFields limits depth ending fields budget = (fields, ending) := by
  induction fields generalizing budget with
  | nil =>
      cases ending with
      | none => rfl
      | some exception =>
          have left : budget.fieldsSeen < limits.maxFields := Nat.lt_of_succ_le (by simpa using room)
          simp only [yieldFields, consume_of_room shallow left]
  | cons field fields ih =>
      rw [List.length_cons] at room
      have left : budget.fieldsSeen < limits.maxFields := by omega
      have later := @ih { budget with fieldsSeen := budget.fieldsSeen + 1 } (by simp only; omega)
      simp only [yieldFields, consume_of_room shallow left, later]

/-- Within the limits the budget does not show. -/
theorem Room.iterFieldsWithin_eq (room : Room limits depth budget data) :
    iterFieldsWithin limits depth budget data = iterFields data := by
  rw [iterFieldsWithin, if_neg (Nat.not_lt.mpr room.size)]
  exact yieldFields_of_room room.depth room.fields

/-- Bytes that are read to their end are followed by what the others yield. -/
theorem iterFields_append (whole : (iterFields a).2 = none) :
    iterFields (a ++ b) = ((iterFields a).1 ++ (iterFields b).1, (iterFields b).2) := by
  simp only [iterFields_eq_scan] at whole ⊢
  rw [scan_append (Option.map_eq_none_iff.mp whole)]

theorem iterFields_write (fit : ∀ f ∈ fields, f.Fits) : iterFields (write fields) = (fields, none) := by
  rw [iterFields_eq_scan, scan_write fit]
  rfl

/-- Both halves stay within the limits. -/
theorem Room.halves (whole : (iterFields a).2 = none) (room : Room limits depth budget (a ++ b)) :
    Room limits depth budget a ∧ Room limits depth budget b := by
  have size := room.size
  have charged := room.fields
  simp only [iterations, iterFields_append whole, List.length_append] at size charged
  constructor
  · refine ⟨by omega, room.depth, ?_⟩
    simp only [iterations, whole, Option.toList_none, List.length_nil]
    omega
  · refine ⟨by omega, room.depth, ?_⟩
    simp only [iterations]
    omega

/-- A message that the budget lets be read to its end is well formed. -/
theorem yieldFields_whole {ending : Option ParseException} (whole : (yieldFields limits depth ending fields budget).2 = none) :
    ending = none := by
  induction fields generalizing budget with
  | nil =>
      cases ending with
      | none => rfl
      | some exception =>
          rcases charged : ParseBudget.consume limits depth budget with ⟨r, after⟩
          cases r <;> simp [yieldFields, charged] at whole
  | cons field fields ih =>
      rcases charged : ParseBudget.consume limits depth budget with ⟨r, after⟩
      cases r with
      | error stopped => simp [yieldFields, charged] at whole
      | ok _ =>
          refine @ih after ?_
          simpa [yieldFields, charged] using whole

theorem iterFieldsWithin_whole (whole : (iterFieldsWithin limits depth budget data).2 = none) : (iterFields data).2 = none := by
  unfold iterFieldsWithin at whole
  split at whole
  · cases whole
  · exact yieldFields_whole whole

/-- Within the limits, bytes that are read to their end and then others yield the
    fields of both, with the error of the others; and fields whose keys and varints
    take ten bytes at most are yielded as they were written. -/
theorem field_iteration_is_homomorphic (limits : ParseLimits) (depth : Nat) (budget : ParseBudget) :
    (∀ a b, Room limits depth budget (a ++ b) → (iterFieldsWithin limits depth budget a).2 = none →
      iterFieldsWithin limits depth budget (a ++ b) =
        ((iterFieldsWithin limits depth budget a).1 ++ (iterFieldsWithin limits depth budget b).1,
          (iterFieldsWithin limits depth budget b).2)) ∧
    (∀ fields : List Field, (∀ f ∈ fields, f.Fits) → Room limits depth budget (write fields) →
      iterFieldsWithin limits depth budget (write fields) = (fields, none)) := by
  constructor
  · intro a b room succeeds
    have whole := iterFieldsWithin_whole succeeds
    obtain ⟨first, second⟩ := room.halves whole
    rw [room.iterFieldsWithin_eq, first.iterFieldsWithin_eq, second.iterFieldsWithin_eq, iterFields_append whole]
  · intro fields fit room
    rw [room.iterFieldsWithin_eq, iterFields_write fit]

/-- A name in field 1, and a key without its value. -/
theorem name_before_broken_field :
    iterFieldsWithin {} 0 {} (fieldBytes 1 [110, 111] ++ [8]) =
      ([⟨1, .delimited [110, 111]⟩], some (.protobufParseError "truncated_varint")) := by
  have name : fieldBytes 1 [110, 111] = [10, 2, 110, 111] := by
    simp [fieldBytes, writeVarint, lowByte]
  rw [name]
  have read : (iterFieldsWithin {} 0 {} [10, 2, 110, 111]).2 = none := by decide +kernel
  have room : Room {} 0 {} ([10, 2, 110, 111] ++ [8]) := ⟨by decide, by decide, by decide +kernel⟩
  rw [(field_iteration_is_homomorphic {} 0 {}).1 [10, 2, 110, 111] [8] room read]
  decide +kernel

/-- A field number of 68 bits is written, within the limits, and is not read back. -/
theorem wide_field_number_is_refused :
    1 ≤ (⟨2 ^ 67, .varint 0⟩ : Wire.Field).number ∧ (⟨2 ^ 67, .varint 0⟩ : Wire.Field).payload.Fits ∧
    Room {} 0 {} (write [⟨2 ^ 67, .varint 0⟩]) ∧
    iterFieldsWithin {} 0 {} (write [⟨2 ^ 67, .varint 0⟩]) ≠ ([⟨2 ^ 67, .varint 0⟩], none) := by
  have refused : iterFields (write [⟨2 ^ 67, .varint 0⟩]) = ([], some (raised .oversizedVarint)) := by
    have some : Field.write ⟨2 ^ 67, .varint 0⟩ ++ [] ≠ [] := by simp [Field.write, writeVarint_ne_nil]
    rw [iterFields_eq_scan, write, List.flatMap_singleton, ← List.append_nil (Field.write _),
      scan_of_error some (field_write_oversized [] (Nat.le_refl _))]
    rfl
  have room : Room {} 0 {} (write [⟨2 ^ 67, .varint 0⟩]) := by
    refine ⟨?_, by decide, ?_⟩
    · simp [write, Field.write, Field.key, Payload.wire, Payload.write, writeVarint]
    · rw [iterations, refused]
      decide
  refine ⟨by decide, by simp [Payload.Fits], room, ?_⟩
  rw [room.iterFieldsWithin_eq, refused]
  simp

end SentinelEdge.Runtime
