import Mathlib.Tactic.Common
import SentinelEdge.Runtime.OnnxParser

/-! # What the wire-format reader reads

Read at an offset, a buffer gives what the wire format reads off the rest of it.
So no read leaves the buffer, every loop ends, and a message inside a message is
shorter than the message around it.
-/

namespace SentinelEdge.Runtime

open Foundation Wire

/-- The text the program gives a fault. -/
def message : Fault → String
  | .truncatedVarint => "truncated_varint"
  | .oversizedVarint => "oversized_varint"
  | .invalidFieldNumber => "invalid_protobuf_field_number"
  | .truncatedFixed64 => "truncated_fixed64"
  | .truncatedLengthDelimited => "truncated_length_delimited"
  | .truncatedFixed32 => "truncated_fixed32"
  | .unsupportedWireType wire => "unsupported_wire_type:" ++ toString wire

/-- An offset reader gives the value and the rest that a list reader gives, or
    raises the text of its fault. -/
def Tracks {α : Type} (data : List UInt8) (x : Except ParseException (α × Nat)) (y : Except Fault (α × List UInt8)) : Prop :=
  match y with
  | .ok (a, rest) => ∃ next, x = .ok (a, next) ∧ rest = data.drop next ∧ next ≤ data.length
  | .error fault => x = .error (.protobufParseError (message fault))

variable {data : List UInt8}

theorem readVarintLoop_tracks {n offset value shift : Nat} (inside : offset ≤ data.length) :
    Tracks data (readVarintLoop data n offset value shift) (varintFrom n (data.drop offset) value shift) := by
  induction n generalizing offset value shift with
  | zero => rfl
  | succ n ih =>
      by_cases ends : data.length ≤ offset
      · simp only [readVarintLoop, if_pos ends, List.drop_eq_nil_of_le ends]
        rfl
      · have here : offset < data.length := Nat.lt_of_not_le ends
        have byte : byteAt data offset = .ok data[offset] := by simp [byteAt, here]
        rw [List.drop_eq_getElem_cons here]
        simp only [readVarintLoop, if_neg ends, byte, varintFrom, bind, Except.bind]
        by_cases last : data[offset] &&& 0x80 = 0
        · rw [if_pos last, if_pos last]
          exact ⟨offset + 1, rfl, rfl, here⟩
        · rw [if_neg last, if_neg last]
          exact ih here

theorem readVarint_tracks {offset : Nat} (inside : offset ≤ data.length) :
    Tracks data (readVarint data offset) (varint (data.drop offset)) := readVarintLoop_tracks inside

theorem readBlock_tracks {offset n : Nat} (fault : Fault) (inside : offset ≤ data.length) :
    Tracks data (readBlock data offset n (message fault)) (block n fault (data.drop offset)) := by
  by_cases short : data.length < offset + n
  · have fewer : (data.drop offset).length < n := by rw [List.length_drop]; omega
    simp only [readBlock, block, if_pos short, if_pos fewer]
    rfl
  · have enough : ¬ (data.drop offset).length < n := by rw [List.length_drop]; omega
    have taken : slice data offset (offset + n) = .ok ((data.drop offset).take n) := by
      rw [slice, if_pos (by omega), Nat.add_sub_cancel_left]
    simp only [readBlock, block, if_neg short, if_neg enough, taken]
    exact ⟨offset + n, rfl, by rw [List.drop_drop], by omega⟩

theorem Tracks.pure {α : Type} (a : α) {next : Nat} (inside : next ≤ data.length) :
    Tracks data (pure (a, next)) (pure (a, data.drop next)) := ⟨next, rfl, rfl, inside⟩

theorem Tracks.bind {α β : Type} {x : Except ParseException (α × Nat)} {y : Except Fault (α × List UInt8)}
    {f : α × Nat → Except ParseException (β × Nat)} {g : α × List UInt8 → Except Fault (β × List UInt8)}
    (tracks : Tracks data x y)
    (later : ∀ a next, next ≤ data.length → Tracks data (f (a, next)) (g (a, data.drop next))) :
    Tracks data (x >>= f) (y >>= g) := by
  cases y with
  | error fault =>
      have raised : x = .error (.protobufParseError (message fault)) := tracks
      subst raised
      rfl
  | ok r =>
      obtain ⟨a, rest⟩ := r
      obtain ⟨next, rfl, rfl, inside⟩ := tracks
      exact later a next inside

theorem readPayload_tracks {offset : Nat} (wire : Nat) (inside : offset ≤ data.length) :
    Tracks data (readPayload data offset wire) (payload (data.drop offset) wire) := by
  -- both readers branch on the same wire type
  fun_cases readPayload data offset wire
  · exact (readVarint_tracks inside).bind fun value next inside => .pure _ inside
  · exact (readBlock_tracks .truncatedFixed64 inside).bind fun value next inside => .pure _ inside
  · exact (readVarint_tracks inside).bind fun length next inside =>
      (readBlock_tracks .truncatedLengthDelimited inside).bind fun value next inside => .pure _ inside
  · exact (readBlock_tracks .truncatedFixed32 inside).bind fun value next inside => .pure _ inside
  · have unsupported : payload (data.drop offset) wire = .error (.unsupportedWireType wire) := by simp [payload, *]
    rw [unsupported]
    rfl

theorem nextField_tracks {offset : Nat} (inside : offset ≤ data.length) :
    Tracks data (nextField data offset) (field (data.drop offset)) := by
  refine (readVarint_tracks inside).bind fun key next inside => ?_
  simp only
  split
  · rfl
  · exact (readPayload_tracks _ inside).bind fun value next inside => .pure _ inside

/-- What the scan of a message ends with, as the program raises it. -/
def raised (fault : Fault) : ParseException := .protobufParseError (message fault)

theorem iterFrom_eq_scan {n offset : Nat} (inside : offset ≤ data.length) (fuel : data.length < n + offset) :
    iterFrom data n offset = ((scan (data.drop offset)).1, (scan (data.drop offset)).2.map raised) := by
  induction n generalizing offset with
  | zero => omega
  | succ n ih =>
      by_cases ends : offset < data.length
      · have some : data.drop offset ≠ [] := by simp [List.drop_eq_nil_iff]; omega
        have tracks := nextField_tracks inside
        cases read : field (data.drop offset) with
        | error fault =>
            rw [read] at tracks
            have raises : nextField data offset = .error (raised fault) := tracks
            simp [iterFrom, ends, raises, scan_of_error some read]
        | ok result =>
            obtain ⟨f, rest⟩ := result
            rw [read] at tracks
            obtain ⟨next, yields, rfl, inside'⟩ := tracks
            have shorter := (field_shorter read).1
            rw [List.length_drop, List.length_drop] at shorter
            simp [iterFrom, ends, yields, scan_of_ok read, ih inside' (by omega)]
      · have nothing : data.drop offset = [] := List.drop_eq_nil_of_le (by omega)
        simp [iterFrom, ends, nothing, scan_nil]

/-- `_iter_fields` reads the wire format. -/
theorem iterFields_eq_scan (data : List UInt8) : iterFields data = ((scan data).1, (scan data).2.map raised) := by
  simpa [iterFields] using @iterFrom_eq_scan data (data.length + 1) 0 (Nat.zero_le _) (by omega)

end SentinelEdge.Runtime
