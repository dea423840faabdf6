import Mathlib.Data.List.DropRight
import SentinelEdge.Foundation.Checks
import SentinelEdge.Foundation.Text
import SentinelEdge.Foundation.Values

/-! # URLs

`urllib.parse` of Python 3.11 on texts: `urlsplit`, the parts of a network location, and
`geturl`; and what lower case and normal forms do to a network location.
-/

namespace SentinelEdge.Foundation

theorem toNat_lt (c : Char) : c.toNat < 0x110000 := by
  cases c.valid with
  | inl low => exact Nat.lt_trans low (by decide)
  | inr high => exact high.2

/-- The code point of a character. -/
def cp (c : Char) : CodePoint := ⟨c.toNat, toNat_lt c⟩

/-! ## Cutting a text -/

section Cutting

variable {α : Type} {c : α} {a b t : List α}

/-- What is stripped from the right ends before a character that stays. -/
theorem rdropWhile_append_cons {p : α → Bool} (solid : p c = false) (a b : List α) :
    (a ++ c :: b).rdropWhile p = a ++ c :: b.rdropWhile p := by
  induction b using List.reverseRecOn with
  | nil =>
      have last : List.rdropWhile p (a ++ [c]) = a ++ [c] := List.rdropWhile_concat_neg _ _ _ (by simp [solid])
      simpa using last
  | append_singleton b d ih =>
      have whole : a ++ c :: (b ++ [d]) = (a ++ c :: b) ++ [d] := by simp
      by_cases blank : p d = true
      · rw [whole, List.rdropWhile_concat_pos _ _ _ blank, List.rdropWhile_concat_pos _ _ _ blank]
        exact ih
      · rw [whole, List.rdropWhile_concat_neg _ _ _ blank, List.rdropWhile_concat_neg _ _ _ blank]
        simp

/-- Two texts with a part up to the first of some characters agree in both parts. -/
theorem append_inj_of_ends {p : α → Bool} {x y : List α} (cleanA : ∀ d ∈ a, p d = false) (cleanB : ∀ d ∈ b, p d = false)
    (endsX : ∀ d ∈ x.head?, p d = true) (endsY : ∀ d ∈ y.head?, p d = true) (same : a ++ x = b ++ y) : a = b ∧ x = y := by
  have front : ∀ {a x : List α}, (∀ d ∈ a, p d = false) → (∀ d ∈ x.head?, p d = true) →
      (a ++ x).takeWhile (fun d => !p d) = a := by
    intro a x clean ends
    rw [List.takeWhile_append_of_pos (by simpa using clean)]
    cases x with
    | nil => simp
    | cons d x => simp [ends d rfl]
  have first := congrArg (List.takeWhile fun d => !p d) same
  rw [front cleanA endsX, front cleanB endsY] at first
  subst first
  exact ⟨rfl, List.append_cancel_left same⟩

variable [DecidableEq α]

/-- `t.partition(c)[0]` -/
def before (c : α) (t : List α) : List α := t.takeWhile fun d => d ≠ c

/-- `t.partition(c)[2]` -/
def after (c : α) (t : List α) : List α := (t.dropWhile fun d => d ≠ c).tail

theorem not_mem_before (c : α) (t : List α) : c ∉ before c t := by
  intro member
  simpa using List.mem_takeWhile_imp member

theorem before_isPrefix (c : α) (t : List α) : before c t <+: t := List.takeWhile_prefix _

theorem after_isSuffix (c : α) (t : List α) : after c t <:+ t := (List.tail_suffix _).trans (List.dropWhile_suffix _)

theorem before_of_not_mem (absent : c ∉ t) : before c t = t := by
  apply List.takeWhile_eq_self_iff.mpr
  intro d member
  simpa using fun same : d = c => absent (same ▸ member)

theorem after_of_not_mem (absent : c ∉ t) : after c t = [] := by
  have none : (t.dropWhile fun d => d ≠ c) = [] := by
    apply List.dropWhile_eq_nil_iff.mpr
    intro d member
    simpa using fun same : d = c => absent (same ▸ member)
  rw [after, none]
  rfl

theorem before_append_cons (absent : c ∉ a) (b : List α) : before c (a ++ c :: b) = a := by
  have kept : ∀ d ∈ a, decide (d ≠ c) = true := fun d member => by simpa using fun same : d = c => absent (same ▸ member)
  rw [before, List.takeWhile_append_of_pos kept]
  simp

theorem after_append_cons (absent : c ∉ a) (b : List α) : after c (a ++ c :: b) = b := by
  have kept : ∀ d ∈ a, decide (d ≠ c) = true := fun d member => by simpa using fun same : d = c => absent (same ▸ member)
  rw [after, List.dropWhile_append_of_pos kept]
  simp

/-- A text with the character in it is what stands before it, the character, and what stands after. -/
theorem before_cons_after (member : c ∈ t) : before c t ++ c :: after c t = t := by
  induction t with
  | nil => cases member
  | cons d t ih =>
      by_cases same : d = c
      · simp [before, after, same]
      · have rest : c ∈ t := (List.mem_cons.mp member).resolve_left (Ne.symm same)
        simpa [before, after, same] using ih rest

end Cutting

namespace PyText

/-- `text.strip()` -/
def strip (t : PyText) : PyText := (t.dropWhile isSpace).rdropWhile isSpace

/-- `int(text)` of ASCII digits. -/
def number (t : PyText) : Nat := t.foldl (fun n c => n * 10 + (c.val - 48)) 0

def decimalText (n : Nat) : PyText := of (toString n)

def isAsciiDigit (c : CodePoint) : Bool := 48 ≤ c.val && c.val ≤ 57

theorem ofNat_toNat {c : Char} : (Fin.ofNat 0x110000 c.toNat : CodePoint).val = c.toNat :=
  Nat.mod_eq_of_lt (toNat_lt c)

theorem decimalText_digits {n : Nat} {c : CodePoint} (member : c ∈ decimalText n) : isAsciiDigit c = true := by
  obtain ⟨d, digit, rfl⟩ := List.mem_map.mp member
  have shown := decimal_isDigit digit
  simp only [Char.isDigit, Bool.and_eq_true, decide_eq_true_eq, ge_iff_le] at shown
  simp only [isAsciiDigit, ofNat_toNat, Bool.and_eq_true, decide_eq_true_eq]
  exact shown

theorem decimalText_ne_nil (n : Nat) : decimalText n ≠ [] := by
  intro none
  have text : (toString n).toList = [] := List.map_eq_nil_iff.mp none
  rw [Nat.toString_eq_repr, Nat.toList_repr] at text
  exact Nat.toDigits_ne_nil text

theorem number_decimalText (n : Nat) : number (decimalText n) = n := by
  have folded : ∀ (digits : List Char) (m : Nat),
      (digits.map fun c => (Fin.ofNat 0x110000 c.toNat : CodePoint)).foldl (fun n c => n * 10 + (c.val - 48)) m =
        Nat.ofDigitChars 10 digits m := by
    intro digits
    induction digits with
    | nil => exact fun m => rfl
    | cons d digits ih =>
        intro m
        rw [List.map_cons, List.foldl_cons, ih, Nat.ofDigitChars_cons, ofNat_toNat, Nat.mul_comm m]
        rfl
  rw [number, decimalText, of, folded, Nat.toString_eq_repr, Nat.toList_repr, Nat.ofDigitChars_ten_toDigits]

end PyText

/-! ## Splitting a URL -/

/-- What the code reads of an address that `ipaddress.ip_address` gives. -/
structure IpAddress where
  version4 : Bool := false
  isPrivate : Bool := false
  isLoopback : Bool := false
  isLinkLocal : Bool := false
  isMulticast : Bool := false
  isUnspecified : Bool := false
  isReserved : Bool := false

/-- The tables of characters and addresses. -/
structure UrlLibrary where
  /-- `str.lower` -/
  lower : PyText → PyText
  /-- `unicodedata.normalize("NFKC", text)` -/
  nfkc : PyText → PyText
  /-- `repr` -/
  repr : PyText → PyText
  /-- `ipaddress.ip_address`, `none` where it raises `ValueError`. -/
  ipAddress : PyText → Option IpAddress

/-- The `ValueError`s of `urllib.parse`. -/
inductive UrlError where
  | invalidIPv6
  | invalidFuture
  | notAnAddress (host : PyText)
  | ipv4InBrackets
  | netlocExpands (netloc : PyText)
  | portNotNumber (port : PyText)
  | portTooLong (digits : Nat)
  | portOutOfRange

def UrlError.text (lib : UrlLibrary) : UrlError → PyText
  | .invalidIPv6 => .of "Invalid IPv6 URL"
  | .invalidFuture => .of "IPvFuture address is invalid"
  | .notAnAddress host => lib.repr host ++ .of " does not appear to be an IPv4 or IPv6 address"
  | .ipv4InBrackets => .of "An IPv4 address cannot be in brackets"
  | .netlocExpands netloc => .of "netloc '" ++ netloc ++ .of "' contains invalid characters under NFKC normalization"
  | .portNotNumber port => .of "Port could not be cast to integer value as " ++ lib.repr port
  | .portTooLong digits => .of ("Exceeds the limit (4300 digits) for integer string conversion: value has " ++ toString digits ++
      " digits; use sys.set_int_max_str_digits() to increase the limit")
  | .portOutOfRange => .of "Port out of range 0-65535"

@[ext] structure SplitResult where
  scheme : PyText
  netloc : PyText
  path : PyText
  query : PyText
  fragment : PyText
  deriving DecidableEq

def isLetter (c : CodePoint) : Bool := (65 ≤ c.val && c.val ≤ 90) || (97 ≤ c.val && c.val ≤ 122)

/-- `scheme_chars` -/
def isSchemeChar (c : CodePoint) : Bool := isLetter c || PyText.isAsciiDigit c || c = cp '+' || c = cp '-' || c = cp '.'

def isHexDigit (c : CodePoint) : Bool := PyText.isAsciiDigit c || (65 ≤ c.val && c.val ≤ 70) || (97 ≤ c.val && c.val ≤ 102)

/-- None of the characters that `urlsplit` takes out. -/
def isSafe (c : CodePoint) : Bool := c ≠ cp '\t' && c ≠ cp '\r' && c ≠ cp '\n'

/-- What ends a network location. -/
def endsNetloc (c : CodePoint) : Bool := c = cp '/' || c = cp '?' || c = cp '#'

/-- What normalising may not bring into a network location. -/
def splitsNetloc (c : CodePoint) : Bool := endsNetloc c || c = cp '@' || c = cp ':'

namespace UrlLibrary

variable (lib : UrlLibrary)

/-- The scheme in lower case and what follows its colon, or nothing and the whole. -/
def splitScheme (url : PyText) : PyText × PyText :=
  if cp ':' ∈ url ∧ (before (cp ':') url).head?.any isLetter ∧ (before (cp ':') url).all isSchemeChar then
    (lib.lower (before (cp ':') url), after (cp ':') url)
  else ([], url)

/-- `_check_bracketed_host` -/
def checkBracketedHost (host : PyText) : Except UrlError Unit :=
  if host.head? = some (cp 'v') then
    let digits := host.tail.takeWhile isHexDigit
    let address := host.tail.dropWhile isHexDigit
    if digits ≠ [] ∧ address.head? = some (cp '.') ∧ address.tail ≠ [] ∧ cp '\n' ∉ address.tail then .ok ()
    else .error .invalidFuture
  else match lib.ipAddress host with
    | none => .error (.notAnAddress host)
    | some address => if address.version4 then .error .ipv4InBrackets else .ok ()

/-- The checks of brackets in `urlsplit`. -/
def checkBrackets (netloc : PyText) : Except UrlError Unit :=
  if cp '[' ∈ netloc then
    if cp ']' ∈ netloc then lib.checkBracketedHost (before (cp ']') (after (cp '[') netloc)) else .error .invalidIPv6
  else if cp ']' ∈ netloc then .error .invalidIPv6
  else .ok ()

/-- The characters of a network location that `_checknetloc` normalises. -/
def surrounding (netloc : PyText) : PyText := netloc.filter fun c => c ≠ cp '@' && c ≠ cp ':' && c ≠ cp '#' && c ≠ cp '?'

/-- `_checknetloc` -/
def checkNetloc (netloc : PyText) : Except UrlError Unit :=
  if netloc.all (fun c => c.val < 128) then .ok ()
  else if surrounding netloc = lib.nfkc (surrounding netloc) then .ok ()
  else if (lib.nfkc (surrounding netloc)).any splitsNetloc then .error (.netlocExpands netloc)
  else .ok ()

/-- `_splitnetloc` behind the slashes, where there are any. -/
def splitNetloc (url : PyText) : PyText × PyText :=
  if url.take 2 = [cp '/', cp '/'] then
    ((url.drop 2).takeWhile fun c => !endsNetloc c, (url.drop 2).dropWhile fun c => !endsNetloc c)
  else ([], url)

def urlsplit (url : PyText) : Except UrlError SplitResult := do
  let url := (url.dropWhile fun c => c.val ≤ 32).filter isSafe
  let scheme := lib.splitScheme url
  let netloc := splitNetloc scheme.2
  lib.checkBrackets netloc.1
  let rest := before (cp '#') netloc.2
  lib.checkNetloc netloc.1
  pure ⟨scheme.1, netloc.1, before (cp '?') rest, after (cp '?') rest, after (cp '#') netloc.2⟩

end UrlLibrary

/-- `uses_netloc` -/
def usesNetloc : List PyText :=
  ["", "ftp", "http", "gopher", "nntp", "telnet", "imap", "wais", "file", "mms", "https", "shttp", "snews", "prospero", "rtsp",
    "rtsps", "rtspu", "rsync", "svn", "svn+ssh", "sftp", "nfs", "git", "git+ssh", "ws", "wss"].map .of

namespace SplitResult

/-- `urlunsplit` -/
def geturl (u : SplitResult) : PyText :=
  let url :=
    if u.netloc ≠ [] ∨ (u.scheme ≠ [] ∧ usesNetloc.any fun name => u.scheme = name) ∨ u.path.take 2 = [cp '/', cp '/'] then
      cp '/' :: cp '/' :: u.netloc ++ (if u.path ≠ [] ∧ u.path.take 1 ≠ [cp '/'] then cp '/' :: u.path else u.path)
    else u.path
  let url := if u.scheme ≠ [] then u.scheme ++ cp ':' :: url else url
  let url := if u.query ≠ [] then url ++ cp '?' :: u.query else url
  if u.fragment ≠ [] then url ++ cp '#' :: u.fragment else url

/-- `netloc.rpartition("@")[2]` -/
def hostPart (u : SplitResult) : PyText := u.netloc.rtakeWhile fun c => c ≠ cp '@'

/-- `netloc.rpartition("@")[0]`, which there is where the location has the sign. -/
def userinfo (u : SplitResult) : Option PyText :=
  if cp '@' ∈ u.netloc then some (u.netloc.rdropWhile fun c => c ≠ cp '@').dropLast else none

def username (u : SplitResult) : Option PyText := u.userinfo.map (before (cp ':'))

def password (u : SplitResult) : Option PyText :=
  u.userinfo.bind fun info => if cp ':' ∈ info then some (after (cp ':') info) else none

/-- `_hostinfo`; there is no port where its text is empty. -/
def hostinfo (u : SplitResult) : PyText × PyText :=
  if cp '[' ∈ u.hostPart then
    let bracketed := after (cp '[') u.hostPart
    (before (cp ']') bracketed, after (cp ':') (after (cp ']') bracketed))
  else (before (cp ':') u.hostPart, after (cp ':') u.hostPart)

/-- In lower case up to a zone. -/
def lowerHost (lib : UrlLibrary) (host : PyText) : PyText :=
  lib.lower (before (cp '%') host) ++ (if cp '%' ∈ host then cp '%' :: after (cp '%') host else [])

/-- `hostname`, empty where it is `None`. -/
def hostname (lib : UrlLibrary) (u : SplitResult) : PyText :=
  if u.hostinfo.1 = [] then [] else lowerHost lib u.hostinfo.1

def port (u : SplitResult) : Except UrlError (Option Nat) :=
  let text := u.hostinfo.2
  if text = [] then .ok none
  else if text.all PyText.isAsciiDigit then
    if PyText.maxDigits < text.length then .error (.portTooLong text.length)
    else if PyText.number text ≤ 65535 then .ok (some (PyText.number text))
    else .error .portOutOfRange
  else .error (.portNotNumber text)

end SplitResult

/-! ## Lower case and normal forms -/

namespace UrlLibrary

/-- Normalising the character gives one that splits a network location. -/
def expands (lib : UrlLibrary) (c : CodePoint) : Bool := (lib.nfkc [c]).any splitsNetloc

/-- What Unicode says of the tables: `str.lower` puts one of its lower-case forms in the
    place of each character, and a normal form splits where one of the characters does. -/
structure Unicode (lib : UrlLibrary) (forms : CodePoint → List PyText) : Prop where
  lower : ∀ t, ∃ pieces, List.Forall₂ (fun c piece => piece ∈ forms c) t pieces ∧ lib.lower t = pieces.flatten
  full : ∀ c, ∀ piece ∈ forms c, piece ≠ []
  settled : ∀ c, ∀ piece ∈ forms c, ∀ d ∈ piece, forms d = [[d]]
  plain : ∀ c, ∀ piece ∈ forms c, ∀ d ∈ piece, d.val < 128 → isLetter d = false → d = c
  ascii : ∀ c : CodePoint, c.val < 128 → lib.nfkc [c] = [c]
  nfkc : ∀ t, (lib.nfkc t).any splitsNetloc = t.any lib.expands
  spread : ∀ c, ∀ piece ∈ forms c, ∀ d ∈ piece, lib.expands d = true → d = c

namespace Unicode

variable {lib : UrlLibrary} {forms : CodePoint → List PyText} {t a b : PyText} {c d : CodePoint}

theorem mem_lower (unicode : lib.Unicode forms) (member : d ∈ lib.lower t) : ∃ c ∈ t, ∃ piece ∈ forms c, d ∈ piece := by
  obtain ⟨pieces, beside, whole⟩ := unicode.lower t
  rw [whole] at member
  clear whole
  induction beside with
  | nil => cases member
  | cons first rest ih =>
      rw [List.flatten_cons, List.mem_append] at member
      cases member with
      | inl here => exact ⟨_, List.mem_cons_self, _, first, here⟩
      | inr there =>
          obtain ⟨c, among, piece, form, inside⟩ := ih there
          exact ⟨c, List.mem_cons_of_mem _ among, piece, form, inside⟩

theorem mem_of_lower (unicode : lib.Unicode forms) (member : d ∈ lib.lower t) (ascii : d.val < 128)
    (plain : isLetter d = false) : d ∈ t := by
  obtain ⟨c, among, piece, form, inside⟩ := unicode.mem_lower member
  exact unicode.plain c piece form d inside ascii plain ▸ among

theorem mem_of_expands (unicode : lib.Unicode forms) (member : d ∈ lib.lower t) (expands : lib.expands d = true) : d ∈ t := by
  obtain ⟨c, among, piece, form, inside⟩ := unicode.mem_lower member
  exact unicode.spread c piece form d inside expands ▸ among

/-- A text is in lower case if each of its characters is. -/
theorem lower_eq_self_iff (unicode : lib.Unicode forms) : lib.lower t = t ↔ ∀ c ∈ t, forms c = [[c]] := by
  constructor
  · intro same c member
    obtain ⟨_, _, piece, form, inside⟩ := unicode.mem_lower (same.symm ▸ member)
    exact unicode.settled _ piece form c inside
  · intro settled
    obtain ⟨pieces, beside, whole⟩ := unicode.lower t
    rw [whole]
    clear whole
    induction beside with
    | nil => rfl
    | cons first rest ih =>
        rw [settled _ List.mem_cons_self, List.mem_singleton] at first
        rw [first, List.flatten_cons, ih fun c member => settled c (List.mem_cons_of_mem _ member)]
        rfl

theorem lower_lower (unicode : lib.Unicode forms) (t : PyText) : lib.lower (lib.lower t) = lib.lower t := by
  apply unicode.lower_eq_self_iff.mpr
  intro d member
  obtain ⟨_, _, piece, form, inside⟩ := unicode.mem_lower member
  exact unicode.settled _ piece form d inside

theorem lower_of_subset (unicode : lib.Unicode forms) (same : lib.lower t = t) (within : ∀ c ∈ a, c ∈ t) : lib.lower a = a :=
  unicode.lower_eq_self_iff.mpr fun c member => unicode.lower_eq_self_iff.mp same c (within c member)

theorem lower_eq_nil (unicode : lib.Unicode forms) : lib.lower t = [] ↔ t = [] := by
  obtain ⟨pieces, beside, whole⟩ := unicode.lower t
  rw [whole]
  cases beside with
  | nil => simp
  | cons first rest => simp [unicode.full _ _ first]

/-- What ends a text in lower case ended it before. -/
theorem lower_getLast? (unicode : lib.Unicode forms) (last : (lib.lower t).getLast? = some d) (ascii : d.val < 128)
    (plain : isLetter d = false) : t.getLast? = some d := by
  obtain ⟨pieces, beside, whole⟩ := unicode.lower t
  rw [whole] at last
  clear whole
  induction beside with
  | nil => cases last
  | @cons c piece rest pieces first beside ih =>
      cases beside with
      | nil =>
          rw [List.flatten_cons, List.flatten_nil, List.append_nil] at last
          rw [unicode.plain c piece first d (List.mem_of_getLast? last) ascii plain]
          rfl
      | @cons c' piece' rest pieces second beside =>
          have filled : (piece' :: pieces).flatten ≠ [] := by simp [unicode.full _ _ second]
          rw [List.flatten_cons, List.getLast?_append_of_ne_nil _ filled] at last
          rw [List.getLast?_cons_cons]
          exact ih last

end Unicode

/-- A network location passes unless one of its characters splits it. -/
theorem checkNetloc_eq_ok {lib : UrlLibrary} {forms : CodePoint → List PyText} (unicode : lib.Unicode forms) {netloc : PyText}
    (clean : ∀ c ∈ netloc, endsNetloc c = false) :
    lib.checkNetloc netloc = .ok () ↔ ∀ c ∈ netloc, lib.expands c = true → c = cp '@' ∨ c = cp ':' := by
  have filtered : ∀ c, c ∈ surrounding netloc ↔ c ∈ netloc ∧ c ≠ cp '@' ∧ c ≠ cp ':' := by
    intro c
    have ends : c ∈ netloc → c ≠ cp '#' ∧ c ≠ cp '?' := by
      intro member
      have free := clean c member
      simp only [endsNetloc, Bool.or_eq_false_iff, decide_eq_false_iff_not] at free
      exact ⟨free.2, free.1.2⟩
    simp only [surrounding, List.mem_filter, Bool.and_eq_true, decide_eq_true_eq]
    constructor
    · intro kept
      exact ⟨kept.1, kept.2.1.1.1, kept.2.1.1.2⟩
    · intro kept
      exact ⟨kept.1, ⟨kept.2, (ends kept.1).1⟩, (ends kept.1).2⟩
  have whole : (surrounding netloc).any splitsNetloc = false := by
    simp only [List.any_eq_false]
    intro c member
    have kept := (filtered c).mp member
    simp [splitsNetloc, clean c kept.1, kept.2]
  have passes : (surrounding netloc).any lib.expands = false ↔ ∀ c ∈ netloc, lib.expands c = true → c = cp '@' ∨ c = cp ':' := by
    simp only [List.any_eq_false, filtered]
    constructor
    · intro none c member expands
      by_contra other
      exact none c ⟨member, not_or.mp other⟩ expands
    · intro free c kept expands
      cases free c kept.1 expands with
      | inl sign => exact kept.2.1 sign
      | inr colon => exact kept.2.2 colon
  rw [← passes, ← unicode.nfkc, checkNetloc]
  split
  · next ascii =>
      apply iff_of_true rfl
      rw [unicode.nfkc, passes]
      intro c member splits
      have small : c.val < 128 := by simpa using List.all_eq_true.mp ascii c member
      rw [expands, unicode.ascii c small] at splits
      simpa [splitsNetloc, clean c member] using splits
  · split
    · next same =>
        apply iff_of_true rfl
        rw [← same]
        exact whole
    · split
      · next found => simp [found]
      · next none => simpa using none

end UrlLibrary

end SentinelEdge.Foundation
