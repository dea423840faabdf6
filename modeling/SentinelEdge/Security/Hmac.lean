import SentinelEdge.Domain.Platform

/-! # Message authentication codes -/

namespace SentinelEdge.Security

open Foundation Domain

/-- `hmac.new(key, message, hashlib.sha256).digest()` -/
structure HmacSha256 where
  digest : List UInt8 → List UInt8 → List UInt8
  length_digest : ∀ key message, (digest key message).length = 32

/-- `bytes.hex` -/
def hex (bytes : List UInt8) : String := String.ofList (bytes.flatMap fun byte => UUID.hexDigits 2 byte.toNat)

/-- `hmac.new(key, message, hashlib.sha256).hexdigest()` -/
def HmacSha256.hexdigest (mac : HmacSha256) (key message : List UInt8) : String := hex (mac.digest key message)

/-- `text.encode()` -/
def encode (text : String) : List UInt8 := text.toByteArray.data.toList

def isAscii (text : String) : Bool := text.toList.all fun c => c.toNat < 128

/-- `hmac.compare_digest` on two strings. -/
def compareDigest (a b : String) : Except Error Bool :=
  if isAscii a && isAscii b then .ok (a == b)
  else .error (.typeError "comparing strings with non-ASCII characters is not supported")

theorem isAscii_ofList {chars : List Char} (ascii : ∀ c ∈ chars, c.toNat < 128) : isAscii (String.ofList chars) = true := by
  rw [isAscii, String.toList_ofList, List.all_eq_true]
  intro c member
  exact decide_eq_true (ascii c member)

theorem hexChar_ascii : ∀ d : Fin 16, (UUID.hexChar d).toNat < 128 := by decide

theorem hex_ascii {bytes : List UInt8} : ∀ c ∈ bytes.flatMap fun byte => UUID.hexDigits 2 byte.toNat, c.toNat < 128 := by
  intro c member
  obtain ⟨byte, -, digit⟩ := List.mem_flatMap.mp member
  obtain ⟨d, rfl⟩ := UUID.hexDigits_hexChar digit
  exact hexChar_ascii d

/-- Comparing with an ASCII text answers `True` for that text alone. -/
theorem compareDigest_iff {expected given : String} (ascii : isAscii expected = true) :
    compareDigest expected given = .ok true ↔ given = expected := by
  unfold compareDigest
  rw [ascii, Bool.true_and]
  constructor
  · intro same
    split at same
    · exact (eq_of_beq (Except.ok.inj same)).symm
    · cases same
  · rintro rfl
    rw [if_pos ascii, beq_self_eq_true]

/-- A code to evaluate on. -/
def HmacSha256.mixing : HmacSha256 where
  digest key message :=
    let mixed := (key ++ 0 :: message).foldl (fun n b => (n * 1000003 + b.toNat) % 2 ^ 255) key.length
    (List.range 32).map fun i => UInt8.ofNat (mixed / 256 ^ i)
  length_digest _ _ := by rw [List.length_map, List.length_range]

end SentinelEdge.Security
