import SentinelEdge.Foundation.Json
import SentinelEdge.Foundation.Text

/-! # What the program takes from outside itself

Times are instants in microseconds: every timestamp the program creates is
timezone-aware, so two of them always compare. Hashing, name-based UUIDs, square
roots and the text encodings are parameters; all the program relies on is that
JSON text it wrote decodes to the document it encoded.
-/

namespace SentinelEdge.Domain

open Foundation

/-- An aware `datetime`, as microseconds since the epoch. -/
abbrev DateTime := Int

/-- `datetime.max` in UTC. -/
def DateTime.max : DateTime := 253402300799999999

/-- The exceptions raised by the modelled code, with the texts it gives them. -/
inductive Error where
  | valueError (message : String)
  | keyError (key : String)
  /-- `sqlite3.IntegrityError`: a constraint of the named table is violated. -/
  | integrityError (table : String)
  /-- `json.JSONDecodeError` on a stored payload. -/
  | jsonDecodeError
  | authorizationError (message : String)
  /-- `pydantic.ValidationError` from a model constructor. -/
  | validationError (message : String)
  | assertionError
  | permissionError (message : String)
  | spoolExhaustedError (message : String)
  | admissionError (message : String)
  | runtimeError (message : String)
  | osError (message : String)
  | fileNotFoundError (message : String)
  /-- `OverflowError`: a date past the last one. -/
  | overflowError
  | indexError (message : String)
  | typeError (message : String)
  deriving DecidableEq, Repr

namespace Error

/-- `type(exc).__name__` -/
def typeName : Error → String
  | valueError _ => "ValueError"
  | keyError _ => "KeyError"
  | integrityError _ => "IntegrityError"
  | jsonDecodeError => "JSONDecodeError"
  | authorizationError _ => "AuthorizationError"
  | validationError _ => "ValidationError"
  | assertionError => "AssertionError"
  | permissionError _ => "PermissionError"
  | spoolExhaustedError _ => "SpoolExhaustedError"
  | admissionError _ => "AdmissionError"
  | runtimeError _ => "RuntimeError"
  | osError _ => "OSError"
  | fileNotFoundError _ => "FileNotFoundError"
  | overflowError => "OverflowError"
  | indexError _ => "IndexError"
  | typeError _ => "TypeError"

/-- `isinstance(exc, ValueError)` -/
def isValueError : Error → Bool
  | valueError _ | validationError _ | jsonDecodeError => true
  | _ => false

end Error

/-- The library functions the program calls. -/
structure Platform where
  /-- The strings that stand where a SHA-256 hex digest is expected. -/
  Digest : Type
  [digestEq : DecidableEq Digest]
  /-- The contents of a JSON text column. -/
  Text : Type
  [textEq : DecidableEq Text]
  /-- `sha256_bytes(canonical_json_bytes(payload))` -/
  sha256 : Json → Digest
  /-- A digest as it appears inside another document. -/
  hexdigest : Digest → String
  /-- `json.dumps(payload, sort_keys=True)` -/
  dumps : Json → Text
  /-- `json.loads`, `none` where it raises. -/
  loads : Text → Option Json
  loads_dumps : ∀ payload, loads (dumps payload) = some payload
  /-- `uuid5(NAMESPACE_URL, name)` -/
  uuid5 : String → UUID
  /-- A `datetime` in a JSON document. -/
  isoformat : DateTime → String
  /-- `hmac.new(secret, canonical_json_bytes(payload), sha256).hexdigest()` -/
  hmac : String → Json → Digest
  /-- `math.sqrt` -/
  sqrt : ℚ → ℚ
  /-- `str.lower` -/
  lower : String → String
  /-- `canonical_json_bytes` -/
  canonicalJsonBytes : Json → List UInt8
  /-- `sha256_bytes` of raw bytes. -/
  sha256Raw : List UInt8 → Digest
  /-- `"0" * 64` -/
  zeroDigest : Digest
  /-- `sha256_bytes(previous.encode("ascii") + canonical_json_bytes(payload))` -/
  sha256Chained : Digest → Json → Digest
  /-- `base64.b64encode(private_key.sign(message))` -/
  ed25519Sign : List UInt8 → List UInt8 → String
  /-- Whether `public_key.verify(b64decode(signature, validate=True), message)` returns;
      it raises `InvalidSignature` or a `ValueError` otherwise. -/
  ed25519Verify : List UInt8 → List UInt8 → String → Bool

attribute [instance] Platform.digestEq Platform.textEq

/-- A platform to evaluate on: a document is its own digest and its own text, so
    that different documents never collide. -/
def Platform.transparent : Platform where
  Digest := Json
  Text := Json
  sha256 := id
  hexdigest := Json.text
  dumps := id
  loads := some
  loads_dumps _ := rfl
  uuid5 name := UUID.ofNat (name.toList.foldl (fun n c => n * 256 + c.toNat) 0)
  isoformat t := toString t
  hmac secret payload := .arr [.str secret, payload]
  sqrt q := (Nat.sqrt (q.num.toNat * q.den) : ℚ) / q.den
  lower := String.map Char.toLower
  canonicalJsonBytes payload := payload.text.toList.map (fun c => UInt8.ofNat c.toNat)
  sha256Raw raw := .arr (raw.map (fun b => .int b.toNat))
  zeroDigest := .str (String.ofList (List.replicate 64 '0'))
  sha256Chained previous payload := .arr [previous, payload]
  ed25519Sign key message := String.ofList ((key ++ message).map (fun b => Char.ofNat b.toNat))
  ed25519Verify key message signature := signature = String.ofList ((key ++ message).map (fun b => Char.ofNat b.toNat))

/-- The same platform with name-based ids that depend on the whole name; texts are
    taken to be ASCII. -/
def Platform.mixing : Platform :=
  { Platform.transparent with
    lower := fun text => String.ofList (text.toByteArray.data.toList.map (fun b => (Char.ofNat b.toNat).toLower))
    uuid5 := fun name => UUID.ofNat (name.toByteArray.data.toList.foldl
      (fun n b => (n * 1000003 + b.toNat) % 170141183460469231731687303715884105727) 0) }

/-- The same platform with digests of 64 hexadecimal digits. -/
def Platform.hexadecimal : Platform :=
  { Platform.mixing with
    hexdigest := fun digest => String.ofList (UUID.hexDigits 64 (digest.text.toByteArray.data.toList.foldl
      (fun n b => (n * 1000003 + b.toNat) % 2 ^ 255) 0)) }

/-- The same platform again, quicker to evaluate. -/
def Platform.spelled : Platform :=
  { Platform.hexadecimal with canonicalJsonBytes := fun payload => payload.chars.map (fun c => UInt8.ofNat c.toNat) }

theorem spelled_eq : Platform.spelled = Platform.hexadecimal := by
  have bytes : Platform.spelled.canonicalJsonBytes = Platform.hexadecimal.canonicalJsonBytes := by
    funext payload
    exact congrArg (List.map _) (Json.text_toList payload).symm
  exact congrArg (fun encode => { Platform.hexadecimal with canonicalJsonBytes := encode }) bytes

/-- `hashlib.sha256(text.encode("utf-8")).hexdigest()` -/
def Platform.sha256Text (P : Platform) (text : String) : String :=
  P.hexdigest (P.sha256Raw text.toByteArray.data.toList)

/-- The lowercase hexadecimal digits. -/
def isHex (text : String) : Bool := text.toList.all (fun c => "0123456789abcdef".toList.contains c)

/-- `len(value) == 64 and all(c in "0123456789abcdef" for c in value.lower())` -/
def Platform.isSha256 (P : Platform) (value : String) : Bool := value.length = 64 && isHex (P.lower value)

theorem hexChar_lower : ∀ d : Fin 16, (String.utf8EncodeChar (UUID.hexChar d)).map (fun b => (Char.ofNat b.toNat).toLower) =
    [UUID.hexChar d] := by decide

theorem hexChar_isHex : ∀ d : Fin 16, "0123456789abcdef".toList.contains (UUID.hexChar d) = true := by decide

theorem hexadecimal_lower {text : List Char} (hex : ∀ c ∈ text, ∃ d : Fin 16, c = UUID.hexChar d) :
    Platform.hexadecimal.lower (String.ofList text) = String.ofList text := by
  have bytes : (text.flatMap String.utf8EncodeChar).map (fun b => (Char.ofNat b.toNat).toLower) = text := by
    induction text with
    | nil => rfl
    | cons c text ih =>
        obtain ⟨d, rfl⟩ := hex c (by simp)
        rw [List.flatMap_cons, List.map_append, hexChar_lower, ih (fun c member => hex c (by simp [member]))]
        rfl
  show String.ofList ((String.ofList text).toByteArray.data.toList.map _) = _
  rw [String.toByteArray_ofList, List.utf8Encode, List.toList_data_toByteArray, bytes]

theorem hexadecimal_isSha256 (digest : Platform.hexadecimal.Digest) :
    Platform.hexadecimal.isSha256 (Platform.hexadecimal.hexdigest digest) = true := by
  have digits : ∃ n, Platform.hexadecimal.hexdigest digest = String.ofList (UUID.hexDigits 64 n) := ⟨_, rfl⟩
  obtain ⟨n, digits⟩ := digits
  simp only [Platform.isSha256, digits, hexadecimal_lower (fun _ => UUID.hexDigits_hexChar), String.length_ofList,
    UUID.length_hexDigits, isHex, String.toList_ofList, decide_true, Bool.true_and, List.all_eq_true]
  intro c member
  obtain ⟨d, rfl⟩ := UUID.hexDigits_hexChar member
  exact hexChar_isHex d

/-- `str.isspace` on one character. -/
def isSpace (c : Char) : Bool :=
  let n := c.toNat
  (9 ≤ n && n ≤ 13) || (28 ≤ n && n ≤ 32) || n = 133 || n = 160 || n = 5760 || (8192 ≤ n && n ≤ 8202) ||
    n = 8232 || n = 8233 || n = 8239 || n = 8287 || n = 12288

/-- `not value.strip()` -/
def isBlank (value : String) : Bool := value.toList.all isSpace

/-- `value.strip()` -/
def strip (value : String) : String :=
  String.ofList ((value.toList.dropWhile isSpace).reverse.dropWhile isSpace).reverse

/-- `tuple(sorted(set(values)))` -/
def sortedSet (values : List String) : List String :=
  (values.foldr (fun v seen => if v ∈ seen then seen else v :: seen) []).foldr insertSorted []
where
  insertSorted (v : String) : List String → List String
    | [] => [v]
    | w :: rest => if v ≤ w then v :: w :: rest else w :: insertSorted v rest

theorem perm_insertSorted (v : String) (values : List String) : (sortedSet.insertSorted v values).Perm (v :: values) := by
  induction values with
  | nil => exact .refl _
  | cons w rest ih =>
      unfold sortedSet.insertSorted
      split
      · exact .refl _
      · exact (ih.cons w).trans (.swap v w rest)

theorem nodup_sortedSet (values : List String) : (sortedSet values).Nodup := by
  have distinct : (values.foldr (fun v seen => if v ∈ seen then seen else v :: seen) []).Nodup := by
    induction values with
    | nil => exact List.nodup_nil
    | cons v values ih =>
        rw [List.foldr_cons]
        split
        · exact ih
        · exact List.nodup_cons.mpr ⟨‹_›, ih⟩
  have sorted : ∀ rest : List String, (rest.foldr sortedSet.insertSorted []).Perm rest := by
    intro rest
    induction rest with
    | nil => exact .refl _
    | cons v rest ih => exact (perm_insertSorted v _).trans (ih.cons v)
  exact (sorted _).nodup_iff.mpr distinct

end SentinelEdge.Domain
