import Mathlib.Data.Finset.Basic
import SentinelEdge.Foundation.Bursts
import SentinelEdge.Foundation.Checks
import SentinelEdge.Security.Hmac

/-! # Sensor frames

A frame is a magic number, a version, the length of the body, the body and a checksum of
all of it. It decodes to the payload it was encoded from, and nothing that a frame is a
proper prefix of is a frame.
-/

namespace SentinelEdge.Collector

open Foundation Domain Security Checks

inductive SensorFrameError where
  /-- `SensorFrameRejected` -/
  | rejected (message : String)
  | raised (e : Error)
  deriving DecidableEq, Repr

/-- A dictionary with string keys. -/
abbrev SensorPayload := List (String × Json)

namespace SensorFrame

def magic : List UInt8 := [0x53, 0x45]

def version : UInt8 := 1

def headerSize : Nat := 5

def crcSize : Nat := 4

def minFrameBytes : Nat := headerSize + crcSize

/-- `HEADER.pack(MAGIC, version, length)` -/
def packHeader (version : UInt8) (length : Nat) : List UInt8 := magic ++ version :: bigEndian 2 length

structure Header where
  magic : List UInt8
  version : UInt8
  length : Nat

/-- `HEADER.unpack` -/
def unpackHeader (bytes : List UInt8) : Header :=
  ⟨bytes.take 2, (bytes.drop 2).headD 0, ofBigEndian (bytes.drop 3)⟩

/-- `CRC.pack(zlib.crc32(covered) & 0xFFFFFFFF)` -/
def packCrc (covered : List UInt8) : List UInt8 := bigEndian crcSize (crc32 covered).toNat

/-- The bytes of a frame around its body. -/
def frameOf (body : List UInt8) : List UInt8 :=
  packHeader version body.length ++ body ++ packCrc (packHeader version body.length ++ body)

/-- `json.dumps` and `json.loads` with the options of the frames, on the bytes of the texts. -/
structure Codec where
  dumps : Json → Except Error (List UInt8)
  loads : List UInt8 → Except Error Json

/-- The exceptions of `json.dumps` that mean that a payload is not finite JSON. -/
def unencodable : Error → Bool
  | .typeError _ => true
  | e => e.isValueError

def encodeBody (codec : Codec) (payload : SensorPayload) : Except SensorFrameError (List UInt8) :=
  match codec.dumps (.obj payload) with
  | .ok body => .ok body
  | .error e =>
      if unencodable e then .error (.rejected "sensor frame payload is not finite JSON") else .error (.raised e)

def decodeBody (codec : Codec) (body : List UInt8) : Except SensorFrameError SensorPayload :=
  match codec.loads body with
  | .ok (.obj payload) => .ok payload
  | .ok _ => .error (.rejected "sensor frame payload must be an object")
  | .error e =>
      if e.isValueError then .error (.rejected "sensor frame payload is not finite JSON") else .error (.raised e)

end SensorFrame

open SensorFrame

variable (codec : SensorFrame.Codec)

def encodeSensorFrame (payload : SensorPayload) (version maxPayloadBytes : Int) : Except SensorFrameError (List UInt8) := do
  refuse (version ≠ SensorFrame.version.toNat) (.rejected "unsupported sensor frame version")
  let body ← encodeBody codec payload
  refuse (body = [] ∨ body.length > min maxPayloadBytes 65535) (.rejected "sensor frame payload exceeds configured bound")
  let header := packHeader SensorFrame.version body.length
  return header ++ body ++ packCrc (header ++ body)

def decodeSensorFrame (frame : List UInt8) (maxPayloadBytes : Int) : Except SensorFrameError SensorPayload := do
  refuse (maxPayloadBytes ≤ 0) (.raised (.valueError "max_payload_bytes must be positive"))
  refuse (frame.length < minFrameBytes) (.rejected "sensor frame is truncated")
  let header := unpackHeader (frame.take headerSize)
  refuse (header.magic ≠ magic) (.rejected "sensor frame magic mismatch")
  refuse (header.version ≠ version) (.rejected "unsupported sensor frame version")
  refuse (header.length > maxPayloadBytes) (.rejected "sensor frame payload exceeds configured bound")
  let expectedSize := headerSize + header.length + crcSize
  refuse (frame.length < expectedSize) (.rejected "sensor frame is truncated")
  refuse (frame.length ≠ expectedSize) (.rejected "sensor frame length mismatch")
  let body := (frame.drop headerSize).take header.length
  let actualCrc := ofBigEndian (frame.drop (frame.length - crcSize))
  refuse (actualCrc ≠ (crc32 (frame.take (frame.length - crcSize))).toNat) (.rejected "sensor frame CRC mismatch")
  decodeBody codec body

def authTagBytes : Nat := 32

variable (mac : HmacSha256)

def encodeAuthenticatedSensorFrame (payload : SensorPayload) (deviceKey : List UInt8) (version maxPayloadBytes : Int) :
    Except SensorFrameError (List UInt8) := do
  refuse (deviceKey = []) (.rejected "sensor device key is required")
  let frame ← encodeSensorFrame codec payload version maxPayloadBytes
  return frame ++ mac.digest deviceKey frame

def decodeAuthenticatedSensorFrame (frame deviceKey : List UInt8) (maxPayloadBytes : Int) :
    Except SensorFrameError SensorPayload := do
  refuse (deviceKey = []) (.rejected "sensor device key is required")
  refuse (frame.length ≤ authTagBytes) (.rejected "authenticated sensor frame is truncated")
  let body := frame.take (frame.length - authTagBytes)
  let tag := frame.drop (frame.length - authTagBytes)
  refuse (mac.digest deviceKey body ≠ tag) (.rejected "sensor frame authentication failed")
  decodeSensorFrame codec body maxPayloadBytes

variable {codec} {mac}

theorem length_packHeader (version : UInt8) (length : Nat) : (packHeader version length).length = headerSize := by
  rw [packHeader, List.length_append, List.length_cons, length_bigEndian]
  rfl

theorem length_packCrc (covered : List UInt8) : (packCrc covered).length = crcSize := length_bigEndian _ _

theorem length_frameOf (body : List UInt8) : (frameOf body).length = headerSize + body.length + crcSize := by
  rw [frameOf, List.length_append, List.length_append, length_packHeader, length_packCrc]

theorem unpackHeader_packHeader {version : UInt8} {length : Nat} (small : length ≤ 65535) :
    unpackHeader (packHeader version length) = ⟨magic, version, length⟩ := by
  have word : ofBigEndian (bigEndian 2 length) = length := ofBigEndian_bigEndian (by omega)
  unfold unpackHeader
  exact congrArg (Header.mk magic version) word

theorem unpackHeader_small {bytes : List UInt8} (whole : bytes.length = headerSize) : (unpackHeader bytes).length ≤ 65535 := by
  have word := ofBigEndian_lt (bytes.drop 3)
  rw [List.length_drop, whole] at word
  exact Nat.le_of_lt_succ word

/-- A header is made of its parts. -/
theorem packHeader_unpackHeader {bytes : List UInt8} (whole : bytes.length = headerSize)
    (isMagic : (unpackHeader bytes).magic = magic) :
    packHeader (unpackHeader bytes).version (unpackHeader bytes).length = bytes := by
  match bytes, whole with
  | [a, b, version, high, low], _ =>
      have word : bigEndian 2 (ofBigEndian [high, low]) = [high, low] := bigEndian_ofBigEndian [high, low]
      have first : [a, b] = magic := isMagic
      show magic ++ version :: bigEndian 2 (ofBigEndian [high, low]) = _
      rw [word, ← first]
      rfl

theorem packCrc_of_eq {covered crc : List UInt8} (whole : crc.length = crcSize)
    (same : ofBigEndian crc = (crc32 covered).toNat) : packCrc covered = crc := by
  rw [packCrc, ← same, ← whole]
  exact bigEndian_ofBigEndian crc

theorem decodeSensorFrame_ok_iff {frame : List UInt8} {maxPayloadBytes : Int} {payload : SensorPayload} :
    decodeSensorFrame codec frame maxPayloadBytes = .ok payload ↔
      ∃ body, frame = frameOf body ∧ 0 < maxPayloadBytes ∧ body.length ≤ min maxPayloadBytes 65535 ∧
        decodeBody codec body = .ok payload := by
  simp only [decodeSensorFrame, bind_eq_ok, refuse_eq_ok, exists_const, decide_eq_false_iff_not, not_not]
  constructor
  · rintro ⟨positive, long, isMagic, isVersion, bounded, -, size, crc, decoded⟩
    have header : (frame.take headerSize).length = headerSize := by
      rw [List.length_take]
      exact min_eq_left ((Nat.le_add_right _ _).trans (Nat.not_lt.mp long))
    have small := unpackHeader_small header
    have packed := packHeader_unpackHeader header isMagic
    generalize unpackHeader (frame.take headerSize) = h at isVersion bounded size decoded small packed
    rw [isVersion] at packed
    have covers : frame.length - crcSize = headerSize + h.length := by omega
    have body : ((frame.drop headerSize).take h.length).length = h.length := by
      rw [List.length_take, List.length_drop]
      omega
    have covered : frame.take (frame.length - crcSize) =
        packHeader version h.length ++ (frame.drop headerSize).take h.length := by
      rw [covers, List.take_add, packed]
    have checked : packCrc (frame.take (frame.length - crcSize)) = frame.drop (frame.length - crcSize) := by
      refine packCrc_of_eq ?_ crc
      rw [List.length_drop]
      omega
    refine ⟨(frame.drop headerSize).take h.length, ?_, Int.not_le.mp positive, ?_, decoded⟩
    · rw [frameOf, body, ← covered, checked, List.take_append_drop]
    · rw [body]
      omega
  · rintro ⟨body, rfl, positive, bounded, decoded⟩
    have small : body.length ≤ 65535 := by omega
    have header : (frameOf body).take headerSize = packHeader version body.length := by
      rw [frameOf, List.append_assoc]
      exact List.take_left' (length_packHeader _ _)
    have rest : (frameOf body).drop headerSize = body ++ packCrc (packHeader version body.length ++ body) := by
      rw [frameOf, List.append_assoc]
      exact List.drop_left' (length_packHeader _ _)
    have covered : (packHeader version body.length ++ body).length = (frameOf body).length - crcSize := by
      rw [length_frameOf, List.length_append, length_packHeader]
      omega
    have checked : (frameOf body).take ((frameOf body).length - crcSize) = packHeader version body.length ++ body :=
      List.take_left' covered
    have crc : (frameOf body).drop ((frameOf body).length - crcSize) = packCrc (packHeader version body.length ++ body) :=
      List.drop_left' covered
    rw [header, unpackHeader_packHeader small, rest, checked, crc, length_frameOf]
    refine ⟨Int.not_le.mpr positive, ?_, rfl, rfl, ?_, Nat.lt_irrefl _, rfl, ?_, ?_⟩
    · unfold minFrameBytes
      omega
    · dsimp only
      omega
    · exact ofBigEndian_bigEndian (crc32 _).isLt
    · rw [List.take_left' rfl]
      exact decoded

theorem encodeSensorFrame_ok_iff {payload : SensorPayload} {version maxPayloadBytes : Int} {frame : List UInt8} :
    encodeSensorFrame codec payload version maxPayloadBytes = .ok frame ↔ version = 1 ∧
      ∃ body, codec.dumps (.obj payload) = .ok body ∧ body ≠ [] ∧ body.length ≤ min maxPayloadBytes 65535 ∧ frame = frameOf body := by
  have dumped : ∀ body, encodeBody codec payload = .ok body ↔ codec.dumps (.obj payload) = .ok body := by
    intro body
    unfold encodeBody
    cases codec.dumps (.obj payload) with
    | ok _ => simp
    | error e =>
        dsimp only
        split <;> simp
  simp only [encodeSensorFrame, bind_eq_ok, refuse_eq_ok, exists_const, decide_eq_false_iff_not, not_not, dumped, not_or,
    Int.not_lt, gt_iff_lt, and_assoc]
  refine and_congr Iff.rfl (exists_congr fun body => and_congr_right fun _ => and_congr_right fun _ => and_congr_right fun _ => ?_)
  exact ⟨fun whole => (Except.ok.inj whole).symm, fun whole => congrArg Except.ok whole.symm⟩

/-- What `json.loads` reads back from the bytes that `json.dumps` wrote. -/
def RoundTrips (codec : SensorFrame.Codec) : Prop := ∀ value body, codec.dumps value = .ok body → codec.loads body = .ok value

theorem decode_encode (roundTrips : RoundTrips codec) {payload : SensorPayload} {version maxPayloadBytes : Int}
    {frame : List UInt8} (encoded : encodeSensorFrame codec payload version maxPayloadBytes = .ok frame) :
    decodeSensorFrame codec frame maxPayloadBytes = .ok payload := by
  obtain ⟨-, body, dumped, nonempty, bounded, rfl⟩ := encodeSensorFrame_ok_iff.mp encoded
  have some := List.length_pos_iff.mpr nonempty
  refine decodeSensorFrame_ok_iff.mpr ⟨body, rfl, by omega, bounded, ?_⟩
  rw [decodeBody, roundTrips _ _ dumped]

theorem decode_encode_authenticated (roundTrips : RoundTrips codec) {payload : SensorPayload} {deviceKey : List UInt8}
    {version maxPayloadBytes : Int} {frame : List UInt8}
    (encoded : encodeAuthenticatedSensorFrame codec mac payload deviceKey version maxPayloadBytes = .ok frame) :
    decodeAuthenticatedSensorFrame codec mac frame deviceKey maxPayloadBytes = .ok payload := by
  simp only [encodeAuthenticatedSensorFrame, bind_eq_ok, refuse_eq_ok, exists_const, decide_eq_false_iff_not] at encoded
  obtain ⟨keyed, inner, plain, whole⟩ := encoded
  cases whole
  have tag : (mac.digest deviceKey inner).length = authTagBytes := mac.length_digest deviceKey inner
  have long : 0 < inner.length := by
    obtain ⟨-, body, -, -, -, rfl⟩ := encodeSensorFrame_ok_iff.mp plain
    rw [length_frameOf]
    exact Nat.lt_add_left _ (by decide)
  have covers : inner.length = (inner ++ mac.digest deviceKey inner).length - authTagBytes := by
    rw [List.length_append, tag, Nat.add_sub_cancel]
  simp only [decodeAuthenticatedSensorFrame, bind_eq_ok, refuse_eq_ok, exists_const, decide_eq_false_iff_not, not_not]
  rw [List.take_left' covers, List.drop_left' covers, List.length_append, tag]
  exact ⟨keyed, by omega, rfl, decode_encode roundTrips plain⟩

/-- A frame is not a proper prefix of another. -/
theorem frameOf_prefix_free {body other : List UInt8} (small : body.length ≤ 65535) (small' : other.length ≤ 65535)
    (starts : frameOf body <+: frameOf other) : frameOf body = frameOf other := by
  have header : ∀ body, (frameOf body).take headerSize = packHeader version body.length := by
    intro body
    rw [frameOf, List.append_assoc]
    exact List.take_left' (length_packHeader _ _)
  have reaches : headerSize ≤ (frameOf body).length := by
    rw [length_frameOf, Nat.add_assoc]
    exact Nat.le_add_right _ _
  have same : packHeader version body.length = packHeader version other.length := by
    obtain ⟨rest, whole⟩ := starts
    rw [← header body, ← header other, ← whole, List.take_append_of_le_length reaches]
  have lengths : body.length = other.length := by
    have unpacked := congrArg unpackHeader same
    rw [unpackHeader_packHeader small, unpackHeader_packHeader small'] at unpacked
    exact congrArg Header.length unpacked
  exact starts.eq_of_length (by rw [length_frameOf, length_frameOf, lengths])

/-- Frames decode to what was encoded, and nothing else decodes: an accepted frame is the
    magic number, the version, the length, the body and its checksum, and is no proper
    prefix of another. -/
theorem frames_faithful (mac : HmacSha256) (codec : SensorFrame.Codec) (roundTrips : RoundTrips codec) :
    (∀ payload version maxPayloadBytes frame, encodeSensorFrame codec payload version maxPayloadBytes = .ok frame →
      decodeSensorFrame codec frame maxPayloadBytes = .ok payload) ∧
    (∀ payload deviceKey version maxPayloadBytes frame,
      encodeAuthenticatedSensorFrame codec mac payload deviceKey version maxPayloadBytes = .ok frame →
      decodeAuthenticatedSensorFrame codec mac frame deviceKey maxPayloadBytes = .ok payload) ∧
    (∀ frame maxPayloadBytes payload, decodeSensorFrame codec frame maxPayloadBytes = .ok payload →
      ∃ body : List UInt8, (body.length : Int) ≤ maxPayloadBytes ∧ body.length < 65536 ∧
        frame = [0x53, 0x45, 1] ++ bigEndian 2 body.length ++ body ++
          bigEndian 4 (crc32 ([0x53, 0x45, 1] ++ bigEndian 2 body.length ++ body)).toNat) ∧
    (∀ frame other maxPayloadBytes maxPayloadBytes' payload payload',
      decodeSensorFrame codec frame maxPayloadBytes = .ok payload →
      decodeSensorFrame codec other maxPayloadBytes' = .ok payload' → frame <+: other → frame = other) := by
  refine ⟨?_, ?_, ?_, ?_⟩
  · intro payload version maxPayloadBytes frame encoded
    exact decode_encode roundTrips encoded
  · intro payload deviceKey version maxPayloadBytes frame encoded
    exact decode_encode_authenticated roundTrips encoded
  · intro frame maxPayloadBytes payload decoded
    obtain ⟨body, rfl, positive, bounded, -⟩ := decodeSensorFrame_ok_iff.mp decoded
    exact ⟨body, by omega, by omega, rfl⟩
  · intro frame other maxPayloadBytes maxPayloadBytes' payload payload' decoded decoded' starts
    obtain ⟨body, rfl, -, bounded, -⟩ := decodeSensorFrame_ok_iff.mp decoded
    obtain ⟨body', rfl, -, bounded', -⟩ := decodeSensorFrame_ok_iff.mp decoded'
    exact frameOf_prefix_free (by omega) (by omega) starts

/-- One reading. -/
def reading : Json := .obj [("sequence", .int 4), ("state", .str "ok")]

/-- The codec on that reading. -/
def readingCodec : SensorFrame.Codec where
  dumps value :=
    if value = reading then .ok (encode reading.text) else .error (.typeError "Object is not JSON serializable")
  loads body := if body = encode reading.text then .ok reading else .error .jsonDecodeError

theorem readingCodec_roundTrips : RoundTrips readingCodec := by
  intro value body dumped
  unfold readingCodec at dumped
  dsimp only at dumped
  split at dumped
  · next same =>
      cases dumped
      have loads : readingCodec.loads (encode reading.text) =
          if encode reading.text = encode reading.text then .ok reading else .error .jsonDecodeError := rfl
      rw [same, loads, if_pos rfl]
  · cases dumped

theorem reading_decodes : ∃ frame, frame.length = 68 ∧
    decodeAuthenticatedSensorFrame readingCodec HmacSha256.mixing frame (encode "device-key") 4096 =
      .ok [("sequence", .int 4), ("state", .str "ok")] :=
  ⟨((encodeAuthenticatedSensorFrame readingCodec HmacSha256.mixing [("sequence", .int 4), ("state", .str "ok")]
      (encode "device-key") 1 4096).toOption).getD [], by decide +kernel,
    (frames_faithful HmacSha256.mixing readingCodec readingCodec_roundTrips).2.1 _ _ 1 _ _ (by decide +kernel)⟩

end SentinelEdge.Collector

/-! ## Frames with flipped bits

A frame that was damaged within 32 consecutive bits of its header and body, or in its
checksum alone, is rejected.
-/

namespace SentinelEdge.Collector

open Foundation Domain Security Checks SensorFrame

variable {codec : SensorFrame.Codec} {frame : List UInt8} {maxPayloadBytes : Int} {flipped : Finset Nat}

theorem refuse_rejects {α : Type} {condition : Bool} {reason : String} {next : Unit → Except SensorFrameError α}
    (later : condition = false → ∃ message, next () = .error (.rejected message)) :
    ∃ message, (refuse condition (.rejected reason) >>= next) = .error (.rejected message) := by
  cases failed : condition with
  | true => exact ⟨reason, rfl⟩
  | false => exact later failed

/-- What is not a frame around any body is rejected, before the body is read. -/
theorem decodeSensorFrame_rejects (positive : 0 < maxPayloadBytes) (noFrame : ∀ body : List UInt8, frame ≠ frameOf body) :
    ∃ message, decodeSensorFrame codec frame maxPayloadBytes = .error (.rejected message) := by
  have bounded : decide (maxPayloadBytes ≤ 0) = false := decide_eq_false (Int.not_le.mpr positive)
  unfold decodeSensorFrame
  rw [bounded, (refuse_eq_ok.mpr rfl : refuse false _ = .ok ()), ok_bind]
  dsimp only
  apply refuse_rejects
  intro long
  apply refuse_rejects
  intro isMagic
  apply refuse_rejects
  intro isVersion
  apply refuse_rejects
  intro small
  apply refuse_rejects
  intro reaches
  apply refuse_rejects
  intro ends
  apply refuse_rejects
  intro crc
  -- a codec that reads everything takes what has come this far
  have taken : decodeSensorFrame ⟨fun _ => .ok [], fun _ => .ok (.obj [])⟩ frame maxPayloadBytes = .ok [] := by
    simp only [decodeSensorFrame, bind_eq_ok, refuse_eq_ok, exists_const]
    exact ⟨bounded, long, isMagic, isVersion, small, reaches, ends, crc, rfl⟩
  obtain ⟨body, whole, -⟩ := decodeSensorFrame_ok_iff.mp taken
  exact absurd whole (noFrame body)

theorem packCrc_injective {covered other : List UInt8} (same : packCrc covered = packCrc other) :
    crc32 covered = crc32 other := by
  have words := congrArg ofBigEndian same
  rw [packCrc, packCrc, ofBigEndian_bigEndian (crc32 covered).isLt, ofBigEndian_bigEndian (crc32 other).isLt] at words
  exact BitVec.eq_of_toNat_eq words

/-- A frame with bits flipped within 32 consecutive ones of what its checksum covers, or in
    the checksum alone, is rejected. -/
theorem burst_errors_are_rejected {payload : SensorPayload} {encodedVersion encodedBound : Int}
    (encoded : encodeSensorFrame codec payload encodedVersion encodedBound = .ok frame) (nonempty : flipped.Nonempty)
    (placed : (∃ start, ∀ i ∈ flipped, start ≤ i ∧ i < start + 32 ∧ i < 8 * (frame.length - crcSize)) ∨
      ∀ i ∈ flipped, 8 * (frame.length - crcSize) ≤ i ∧ i < 8 * frame.length)
    (positive : 0 < maxPayloadBytes) :
    ∃ message, decodeSensorFrame codec (flipBits (fun i => i ∈ flipped) frame) maxPayloadBytes = .error (.rejected message) := by
  obtain ⟨-, body, -, -, -, rfl⟩ := encodeSensorFrame_ok_iff.mp encoded
  apply decodeSensorFrame_rejects positive
  intro other damaged
  -- the parts of the frame before the damage and behind it
  have lengths := congrArg List.length damaged
  rw [length_flipBits, length_frameOf, length_frameOf] at lengths
  have covers : (frameOf body).length - crcSize = (packHeader version body.length ++ body).length := by
    rw [length_frameOf, List.length_append, length_packHeader, Nat.add_sub_cancel]
  have ends : (frameOf body).length = (packHeader version body.length ++ body).length + crcSize := by
    rw [length_frameOf, List.length_append, length_packHeader]
  rw [covers, ends] at placed
  rw [frameOf, frameOf, flipBits_append] at damaged
  obtain ⟨front, back⟩ := List.append_inj damaged (by
    rw [length_flipBits, List.length_append, List.length_append, length_packHeader, length_packHeader]
    omega)
  rw [← front] at back
  generalize packHeader version body.length ++ body = covered at placed back
  obtain ⟨i, member⟩ := nonempty
  cases placed with
  | inl burst =>
      obtain ⟨start, within⟩ := burst
      have kept : flipBits (fun j => decide (8 * covered.length + j ∈ flipped)) (packCrc covered) = packCrc covered := by
        apply flipBits_of_none
        intro j _
        apply decide_eq_false
        intro beyond
        have inside := (within _ beyond).2.2
        omega
      have changed : crc32 (flipBits (fun i => decide (i ∈ flipped)) covered) ≠ crc32 covered :=
        crc32_flipBits_ne ⟨i, (within i member).2.2, decide_eq_true member⟩
          fun j _ isFlipped => ⟨(within j (of_decide_eq_true isFlipped)).1, (within j (of_decide_eq_true isFlipped)).2.1⟩
      rw [kept] at back
      exact changed (packCrc_injective back).symm
  | inr alone =>
      have kept : flipBits (fun j => decide (j ∈ flipped)) covered = covered := by
        apply flipBits_of_none
        intro j inside
        apply decide_eq_false
        intro early
        have behind := (alone j early).1
        omega
      have changed : flipBits (fun j => decide (8 * covered.length + j ∈ flipped)) (packCrc covered) ≠ packCrc covered := by
        obtain ⟨behind, inside⟩ := alone i member
        refine flipBits_ne (i := i - 8 * covered.length) ?_ ?_
        · rw [length_packCrc]
          omega
        · rw [Nat.add_sub_cancel' behind]
          exact decide_eq_true member
      rw [kept] at back
      exact changed back

/-- Two bits of the body, and one of the checksum. -/
theorem damaged_reading_is_rejected :
    (∃ message, decodeSensorFrame readingCodec
      (flipBits (fun i => i ∈ ({43, 50} : Finset Nat)) (frameOf (encode reading.text))) 4096 = .error (.rejected message)) ∧
    ∃ message, decodeSensorFrame readingCodec
      (flipBits (fun i => i ∈ ({287} : Finset Nat)) (frameOf (encode reading.text))) 4096 = .error (.rejected message) := by
  have encoded : encodeSensorFrame readingCodec [("sequence", .int 4), ("state", .str "ok")] 1 4096 =
      .ok (frameOf (encode reading.text)) := by decide +kernel
  have size : (frameOf (encode reading.text)).length = 36 := by decide +kernel
  constructor
  · refine burst_errors_are_rejected encoded ⟨43, by decide⟩ (Or.inl ⟨40, ?_⟩) (by decide)
    rw [size]
    decide
  · refine burst_errors_are_rejected encoded ⟨287, by decide⟩ (Or.inr ?_) (by decide)
    rw [size]
    decide

end SentinelEdge.Collector
