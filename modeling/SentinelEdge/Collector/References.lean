import SentinelEdge.Foundation.Urls

/-! # Submitted references

`validate_reference` admits a URL without fetching it and writes its canonical form, whose
network location is put together from the host and the port.
-/

namespace SentinelEdge.Collector

open Foundation Checks

inductive ReferenceState where
  | rejected | referenceOnly | resolutionPermitted
  deriving DecidableEq

def ReferenceState.value : ReferenceState → String
  | .rejected => "rejected"
  | .referenceOnly => "reference_only"
  | .resolutionPermitted => "resolution_permitted"

structure ReferenceDecision where
  canonicalUrl : PyText
  state : ReferenceState
  resolutionPermitted : Bool
  reasonCodes : List PyText
  deriving DecidableEq

/-- `host.rstrip(".").lower()` -/
def normalHost (lib : UrlLibrary) (host : PyText) : PyText := lib.lower (host.rdropWhile fun c => c = cp '.')

/-- A name of this host, or an address that is not a public one. -/
def isLocal (lib : UrlLibrary) (host : PyText) : Bool :=
  host = .of "localhost" || host = .of "localhost.localdomain" || (lib.ipAddress host).any fun literal =>
    literal.isPrivate || literal.isLoopback || literal.isLinkLocal || literal.isMulticast || literal.isUnspecified ||
      literal.isReserved

/-- `host` or `f"{host}:{port}"` -/
def withPort (host : PyText) : Option Nat → PyText
  | none => host
  | some port => host ++ cp ':' :: PyText.decimalText port

/-- A `ValueError` of the library as `str` gives it. -/
def raised {α : Type} (lib : UrlLibrary) : Except UrlError α → Except PyText α
  | .ok value => .ok value
  | .error error => .error (error.text lib)

/-- `_canonical_parts` -/
def canonicalParts (lib : UrlLibrary) (value : PyText) : Except PyText SplitResult := do
  let parsed ← raised lib (lib.urlsplit value.strip)
  refuse (lib.lower parsed.scheme ≠ .of "http" ∧ lib.lower parsed.scheme ≠ .of "https") (.of "reference URL must use http or https")
  refuse (parsed.hostname lib = []) (.of "reference URL must contain a host")
  refuse (parsed.username.isSome || parsed.password.isSome) (.of "reference URL must not contain userinfo")
  refuse (parsed.fragment ≠ []) (.of "reference URL must not contain a fragment")
  let host := normalHost lib (parsed.hostname lib)
  refuse (isLocal lib host) (.of "reference URL targets a local or reserved address")
  let port ← raised lib parsed.port
  refuse (port.any fun n => n < 1 || 65535 < n) (.of "reference URL port is invalid")
  pure { parsed with scheme := lib.lower parsed.scheme, netloc := withPort host port }

/-- What is decided on the parts of a URL that was not rejected. -/
def decisionOn (lib : UrlLibrary) (permitResolution : Bool) (allowedHosts : List PyText) (parsed : SplitResult) :
    ReferenceDecision :=
  if !permitResolution then ⟨parsed.geturl, .referenceOnly, false, [.of "resolution_not_permitted"]⟩
  else if !(allowedHosts.map (normalHost lib)).any fun host => normalHost lib (parsed.hostname lib) = host then
    ⟨parsed.geturl, .referenceOnly, false, [.of "host_not_allowlisted"]⟩
  else ⟨parsed.geturl, .resolutionPermitted, true, [.of "explicit_policy_and_allowlist"]⟩

def validateReference (lib : UrlLibrary) (permitResolution : Bool) (allowedHosts : List PyText) (value : PyText) :
    ReferenceDecision :=
  match canonicalParts lib value with
  | .error reason => ⟨value, .rejected, false, [reason]⟩
  | .ok parsed => decisionOn lib permitResolution allowedHosts parsed

/-! ## What is admitted -/

variable {lib : UrlLibrary} {u v : SplitResult} {value : PyText}

/-- The host of a split URL as it is compared. -/
def hostOf (lib : UrlLibrary) (u : SplitResult) : PyText := normalHost lib (u.hostname lib)

/-- The split URL passes the checks. -/
structure Admitted (lib : UrlLibrary) (u : SplitResult) (port : Option Nat) : Prop where
  scheme : lib.lower u.scheme ∈ [.of "http", .of "https"]
  named : u.hostname lib ≠ []
  bare : cp '@' ∉ u.netloc
  fragment : u.fragment = []
  remote : isLocal lib (hostOf lib u) = false
  reads : u.port = .ok port
  range : ∀ n ∈ port, 1 ≤ n ∧ n ≤ 65535

/-- The parts with the network location written anew. -/
def rebuilt (lib : UrlLibrary) (u : SplitResult) (port : Option Nat) : SplitResult :=
  { u with scheme := lib.lower u.scheme, netloc := withPort (hostOf lib u) port }

theorem raised_eq_ok {α : Type} {x : Except UrlError α} {a : α} : raised lib x = .ok a ↔ x = .ok a := by
  cases x <;> simp [raised]

theorem web_iff {scheme : PyText} : decide (scheme ≠ .of "http" ∧ scheme ≠ .of "https") = false ↔
    scheme ∈ [PyText.of "http", .of "https"] := by
  rw [decide_eq_false_iff_not, not_and_or, not_not, not_not, List.mem_pair]

theorem userinfo_none : (u.username.isSome || u.password.isSome) = false ↔ cp '@' ∉ u.netloc := by
  unfold SplitResult.username SplitResult.password SplitResult.userinfo
  split
  · next sign => simp [sign]
  · next bare => simp [bare]

theorem canonicalParts_eq_ok : canonicalParts lib value = .ok v ↔
    ∃ u port, lib.urlsplit value.strip = .ok u ∧ Admitted lib u port ∧ v = rebuilt lib u port := by
  constructor
  · intro returned
    obtain ⟨u, split, returned⟩ := bind_eq_ok.mp returned
    obtain ⟨_, scheme, returned⟩ := bind_eq_ok.mp returned
    obtain ⟨_, named, returned⟩ := bind_eq_ok.mp returned
    obtain ⟨_, bare, returned⟩ := bind_eq_ok.mp returned
    obtain ⟨_, fragment, returned⟩ := bind_eq_ok.mp returned
    obtain ⟨_, remote, returned⟩ := bind_eq_ok.mp returned
    obtain ⟨port, read, returned⟩ := bind_eq_ok.mp returned
    obtain ⟨_, range, returned⟩ := bind_eq_ok.mp returned
    refine ⟨u, port, raised_eq_ok.mp split, ?_, (Except.ok.inj returned).symm⟩
    exact {
      scheme := web_iff.mp (refuse_eq_ok.mp scheme)
      named := by simpa using refuse_eq_ok.mp named
      bare := userinfo_none.mp (refuse_eq_ok.mp bare)
      fragment := by simpa using refuse_eq_ok.mp fragment
      remote := refuse_eq_ok.mp remote
      reads := raised_eq_ok.mp read
      range := by
        intro n here
        have valid := refuse_eq_ok.mp range
        rw [Option.mem_def.mp here, Option.any_some] at valid
        simp only [Bool.or_eq_false_iff, decide_eq_false_iff_not] at valid
        omega }
  · intro found
    obtain ⟨u, port, split, admitted, rfl⟩ := found
    have range : port.any (fun n => n < 1 || 65535 < n) = false := by
      cases here : port with
      | none => rfl
      | some n =>
          have valid := admitted.range n here
          simp only [Option.any_some, Bool.or_eq_false_iff, decide_eq_false_iff_not]
          omega
    apply bind_eq_ok.mpr
    refine ⟨u, raised_eq_ok.mpr split, ?_⟩
    refine bind_eq_ok.mpr ⟨(), refuse_eq_ok.mpr (web_iff.mpr admitted.scheme), ?_⟩
    refine bind_eq_ok.mpr ⟨(), refuse_eq_ok.mpr (decide_eq_false admitted.named), ?_⟩
    refine bind_eq_ok.mpr ⟨(), refuse_eq_ok.mpr (userinfo_none.mpr admitted.bare), ?_⟩
    refine bind_eq_ok.mpr ⟨(), refuse_eq_ok.mpr (by simp [admitted.fragment]), ?_⟩
    refine bind_eq_ok.mpr ⟨(), refuse_eq_ok.mpr admitted.remote, ?_⟩
    refine bind_eq_ok.mpr ⟨port, raised_eq_ok.mpr admitted.reads, ?_⟩
    exact bind_eq_ok.mpr ⟨(), refuse_eq_ok.mpr range, rfl⟩

end SentinelEdge.Collector
