import SentinelEdge.Collector.CanonicalForms

/-! # Stable references

Whether the canonical form of a reference comes to the same decision again, and whether
the host it is permitted for is the one that was named.
-/

namespace SentinelEdge.Collector

open Foundation Checks

variable {lib : UrlLibrary} {forms : CodePoint → List PyText} {u v : SplitResult} {port : Option Nat} {value : PyText}
  {permit : Bool} {allowed : List PyText}

/-! ## When a canonical form is stable -/

theorem Taken.closing (taken : Taken lib u port) (unicode : lib.Unicode forms) :
    lib.checkBrackets (rebuilt lib u port).netloc = .ok () ↔ cp '[' ∉ (rebuilt lib u port).netloc := by
  have closed := taken.rebuilt_closed unicode
  unfold UrlLibrary.checkBrackets
  by_cases opens : cp '[' ∈ (rebuilt lib u port).netloc <;> simp [opens, closed]

/-- The second reading, where nothing is stripped from the canonical form. -/
theorem Taken.again_iff (taken : Taken lib u port) (unicode : lib.Unicode forms)
    (solid : endsBlank ((rebuilt lib u port).netloc ++ u.rest) = false) :
    (canonicalParts lib (rebuilt lib u port).geturl = .ok v ∧ v.geturl = (rebuilt lib u port).geturl) ↔
      v = rebuilt lib u port ∧ cp '[' ∉ (rebuilt lib u port).netloc ∧
        ∃ host port', Reads lib (rebuilt lib u port).netloc host port' := by
  have split := taken.split_again unicode solid
  have lowered : lib.lower (rebuilt lib u port).scheme = (rebuilt lib u port).scheme := unicode.lower_lower _
  have scheme : lib.lower (rebuilt lib u port).scheme ∈ [PyText.of "http", .of "https"] := by
    rw [lowered]
    exact taken.admitted.scheme
  have bare := taken.rebuilt_bare unicode
  have reads := fun plain port' => @admitted_iff_reads lib forms port' unicode (rebuilt lib u port) bare plain scheme
    taken.admitted.fragment
  rw [canonicalParts_eq_ok]
  constructor
  · intro ⟨⟨w, port', splits, admitted, made⟩, same⟩
    have again := Taken.of_split splits admitted
    rw [split] at splits
    obtain ⟨_, brackets, returned⟩ := bind_eq_ok.mp splits
    obtain rfl := Except.ok.inj returned
    have plain := (taken.closing unicode).mp brackets
    rw [made, again.geturl_written, taken.geturl_written, lowered] at same
    have netloc : (rebuilt lib (rebuilt lib u port) port').netloc = (rebuilt lib u port).netloc := by
      have rest : (rebuilt lib u port).rest = u.rest := rfl
      rw [rest] at same
      have tails := List.append_cancel_left same
      simp only [List.cons.injEq, true_and] at tails
      exact List.append_cancel_right tails
    refine ⟨?_, plain, ?_⟩
    · rw [made]
      refine SplitResult.ext lowered netloc rfl rfl rfl
    · obtain ⟨host, found⟩ := (reads plain port').mp ⟨admitted, netloc⟩
      exact ⟨host, port', found⟩
  · intro ⟨same, plain, host, port', found⟩
    obtain ⟨admitted, netloc⟩ := (reads plain port').mpr ⟨host, found⟩
    refine ⟨⟨rebuilt lib u port, port', ?_, admitted, ?_⟩, by rw [same]⟩
    · rw [split, (taken.closing unicode).mpr plain]
      rfl
    · rw [same]
      exact SplitResult.ext lowered.symm netloc.symm rfl rfl rfl

theorem length_hostOf_le (unicode : lib.Unicode forms) (bare : cp '@' ∉ u.netloc) (lowered : lib.lower u.netloc = u.netloc) :
    (hostOf lib u).length ≤ u.netloc.length := by
  have named : lib.lower u.hostinfo.1 = u.hostinfo.1 :=
    unicode.lower_of_subset lowered fun c member => SplitResult.hostinfo_subset bare member
  have undotted : lib.lower (u.hostinfo.1.rdropWhile fun c => c = cp '.') = u.hostinfo.1.rdropWhile fun c => c = cp '.' :=
    unicode.lower_of_subset named fun c member => (List.rdropWhile_prefix _ _).subset member
  rw [hostOf, normalHost, SplitResult.hostname_eq unicode, SplitResult.lowerHost_of_lower unicode named, undotted]
  exact (List.rdropWhile_prefix _ _).length_le.trans (SplitResult.length_hostinfo_le bare)

theorem endsBlank_append (a : PyText) {b : PyText} (filled : b ≠ []) : endsBlank (a ++ b) = endsBlank b := by
  rw [endsBlank, List.getLast?_append_of_ne_nil _ filled, endsBlank]

theorem endsBlank_withPort (host : PyText) (n : Nat) : endsBlank (withPort host (some n)) = false := by
  have whole : withPort host (some n) = (host ++ [cp ':']) ++ PyText.decimalText n := by simp [withPort]
  have filled := PyText.decimalText_ne_nil n
  rw [whole, endsBlank_append _ filled, endsBlank, List.getLast?_eq_getLast_of_ne_nil filled, Option.any_some]
  have digit := PyText.decimalText_digits (List.getLast_mem filled)
  simp only [PyText.isAsciiDigit, Bool.and_eq_true, decide_eq_true_eq] at digit
  simp only [PyText.isSpace, Bool.or_eq_false_iff, Bool.and_eq_false_iff, decide_eq_false_iff_not]
  omega

theorem rdropWhile_length_lt {t : PyText} (blank : endsBlank t = true) : (t.rdropWhile PyText.isSpace).length < t.length := by
  apply lt_of_le_of_ne (List.rdropWhile_prefix _ _).length_le
  intro same
  have kept := (List.rdropWhile_prefix PyText.isSpace t).eq_of_length same
  have filled : t ≠ [] := by
    intro none
    rw [none] at blank
    cases blank
  rw [endsBlank, List.getLast?_eq_getLast_of_ne_nil filled, Option.any_some] at blank
  exact List.rdropWhile_eq_self_iff.mp kept filled blank

theorem length_rest_le (t : PyText) :
    (before (cp '?') t ++ (if after (cp '?') t = [] then [] else cp '?' :: after (cp '?') t)).length ≤ t.length := by
  by_cases query : cp '?' ∈ t
  · have whole := congrArg List.length (before_cons_after query)
    split
    · simpa using (before_isPrefix (cp '?') t).length_le
    · exact whole.le
  · simp [before_of_not_mem query, after_of_not_mem query]

/-- A canonical form that loses its end does not come back. -/
theorem Taken.stripped (taken : Taken lib u port) (unicode : lib.Unicode forms)
    (blank : endsBlank ((rebuilt lib u port).netloc ++ u.rest) = true)
    (parts : canonicalParts lib (rebuilt lib u port).geturl = .ok v) :
    v.geturl ≠ (rebuilt lib u port).geturl := by
  intro same
  obtain ⟨w, port', splits, admitted, rfl⟩ := canonicalParts_eq_ok.mp parts
  have again := Taken.of_split splits admitted
  have clean := taken.rebuilt_clean unicode
  obtain ⟨-, -, letter, chars⟩ := scheme_facts taken.admitted.scheme
  have lowered : lib.lower (lib.lower u.scheme) = lib.lower u.scheme := unicode.lower_lower _
  have heads := rest_head (taken.clean.rooted taken.located)
  have safe := rest_safe clean
  have shorter := rdropWhile_length_lt blank
  have tails : ∀ {w : SplitResult}, lib.lower w.scheme = lib.lower u.scheme → Taken lib w port' →
      (rebuilt lib w port').geturl = (rebuilt lib u port).geturl →
        (rebuilt lib w port').netloc = (rebuilt lib u port).netloc ∧ w.rest = u.rest := by
    intro w scheme again same
    rw [again.geturl_written, taken.geturl_written, scheme] at same
    have tails := List.append_cancel_left same
    simp only [List.cons.injEq, true_and] at tails
    have heads' := rest_head (again.clean.rooted again.located)
    exact append_inj_of_ends (again.rebuilt_clean unicode).netloc clean.netloc heads' heads tails
  rw [taken.geturl_written, strip_written letter] at splits
  cases rest : u.rest with
  | cons d tail =>
      -- The network location is read as it was written, and what follows it is shorter.
      have ends : endsNetloc d = true := heads d (by rw [rest]; rfl)
      have solid : PyText.isSpace d = false := by
        have signs : d = cp '/' ∨ d = cp '?' ∨ d = cp '#' := by simpa [endsNetloc, or_assoc] using ends
        rcases signs with rfl | rfl | rfl <;> decide
      have cut : ((rebuilt lib u port).netloc ++ u.rest).rdropWhile PyText.isSpace =
          (rebuilt lib u port).netloc ++ d :: tail.rdropWhile PyText.isSpace := by
        rw [rest]
        exact rdropWhile_append_cons solid _ _
      have kept : ∀ c ∈ (rebuilt lib u port).netloc ++ d :: tail.rdropWhile PyText.isSpace, isSafe c = true := by
        intro c member
        apply safe
        rw [← cut] at member
        exact (List.rdropWhile_prefix _ _).subset member
      rw [cut, UrlLibrary.urlsplit_written letter chars lowered clean.netloc (by simpa using ends) kept] at splits
      obtain ⟨_, -, splits⟩ := bind_eq_ok.mp splits
      obtain ⟨_, -, splits⟩ := bind_eq_ok.mp splits
      obtain rfl := Except.ok.inj splits
      have length := congrArg List.length (tails lowered again same).2
      have bound := length_rest_le (before (cp '#') (d :: tail.rdropWhile PyText.isSpace))
      have prefixed := (before_isPrefix (cp '#') (d :: tail.rdropWhile PyText.isSpace)).length_le
      rw [cut, rest] at shorter
      simp only [List.length_append] at shorter
      rw [rest] at length
      have within := length.symm.le.trans (bound.trans prefixed)
      omega
  | nil =>
      -- The host itself loses its end.
      rw [rest, List.append_nil] at blank shorter
      have kept : ∀ c ∈ (rebuilt lib u port).netloc.rdropWhile PyText.isSpace, c ∈ (rebuilt lib u port).netloc :=
        fun c member => (List.rdropWhile_prefix _ _).subset member
      have whole : (rebuilt lib u port).netloc.rdropWhile PyText.isSpace =
          (rebuilt lib u port).netloc.rdropWhile PyText.isSpace ++ [] := (List.append_nil _).symm
      rw [rest, List.append_nil, whole,
        UrlLibrary.urlsplit_written letter chars lowered (fun c member => clean.netloc c (kept c member)) (by simp)
          (fun c member => clean.safe c (Or.inl (kept c (by simpa using member))))] at splits
      obtain ⟨_, -, splits⟩ := bind_eq_ok.mp splits
      obtain ⟨_, -, splits⟩ := bind_eq_ok.mp splits
      obtain rfl := Except.ok.inj splits
      have netloc := (tails lowered again same).1
      have hostPort : port = none := by
        cases port with
        | none => rfl
        | some n =>
            have digit := endsBlank_withPort (hostOf lib u) n
            exact absurd (digit.symm.trans blank) (by decide)
      subst hostPort
      cases port' with
      | some n =>
          rw [← netloc] at blank
          exact absurd ((endsBlank_withPort _ n).symm.trans blank) (by decide)
      | none =>
          have host : lib.lower (hostOf lib u) = hostOf lib u := unicode.lower_lower _
          have fixed := unicode.lower_of_subset host kept
          have bound := length_hostOf_le unicode again.admitted.bare fixed
          have within := (congrArg List.length netloc).symm.le.trans bound
          exact absurd shorter (not_lt.mpr within)

/-- The host the URL itself names, without trailing dots and in lower case. -/
def namedHost (lib : UrlLibrary) (value : PyText) : PyText :=
  match lib.urlsplit value.strip with
  | .ok u => hostOf lib u
  | .error _ => []

def normalizedAllowlist (lib : UrlLibrary) (allowed : List PyText) : List PyText := allowed.map (normalHost lib)

/-- What is not rejected comes to the same decision from its canonical form, and is only
    permitted for a host that is allowed. -/
def Stable (lib : UrlLibrary) (permit : Bool) (allowed : List PyText) (value : PyText) : Prop :=
  let first := validateReference lib permit allowed value
  let again := validateReference lib permit allowed first.canonicalUrl
  first.state ≠ .rejected →
    (again.state = first.state ∧ again.resolutionPermitted = first.resolutionPermitted ∧
      again.canonicalUrl = first.canonicalUrl) ∧
    (first.resolutionPermitted = true → namedHost lib value ∈ normalizedAllowlist lib allowed)

/-- The last part of the URL that is written. -/
def lastPart (lib : UrlLibrary) (u : SplitResult) (port : Option Nat) : PyText :=
  if u.query ≠ [] then u.query else if u.path ≠ [] then u.path else if port.isSome then [] else hostOf lib u

/-- Without its brackets the host is another one and a port. -/
structure ReadAsPort (lib : UrlLibrary) (permit : Bool) (allowed : List PyText) (host name : PyText) (n : Nat) : Prop where
  written : host = withPort name (some n)
  uncut : cp ':' ∉ name
  named : name ≠ []
  undotted : name.getLast? ≠ some (cp '.')
  remote : isLocal lib name = false
  range : 1 ≤ n ∧ n ≤ 65535
  allowed : permit = true → name ∈ normalizedAllowlist lib allowed → host ∈ normalizedAllowlist lib allowed

/-- Nothing of the URL gets lost in its canonical form. -/
structure Faithful (lib : UrlLibrary) (permit : Bool) (allowed : List PyText) (u : SplitResult) (port : Option Nat) : Prop where
  named : hostOf lib u ≠ []
  unbracketed : cp '[' ∉ hostOf lib u
  solid : endsBlank (lastPart lib u port) = false
  uncut : cp ':' ∉ hostOf lib u ∨ port = none ∧ ∃ name n, ReadAsPort lib permit allowed (hostOf lib u) name n

theorem decisionOn_permits {w : SplitResult} : (decisionOn lib permit allowed w).resolutionPermitted = true ↔
    permit = true ∧ hostOf lib w ∈ normalizedAllowlist lib allowed := by
  have listed : ((allowed.map (normalHost lib)).any fun host => normalHost lib (w.hostname lib) = host) = true ↔
      normalHost lib (w.hostname lib) ∈ allowed.map (normalHost lib) := by
    rw [List.any_eq_true]
    simp only [decide_eq_true_eq, exists_eq_right']
  rw [hostOf, normalizedAllowlist, ← listed, decisionOn]
  cases permit with
  | false => simp
  | true =>
      cases (allowed.map (normalHost lib)).any fun host => normalHost lib (w.hostname lib) = host with
      | false => simp
      | true => simp

theorem decisionOn_canonical (w : SplitResult) : (decisionOn lib permit allowed w).canonicalUrl = w.geturl := by
  unfold decisionOn
  repeat' split
  all_goals rfl

theorem decisionOn_state (w : SplitResult) : (decisionOn lib permit allowed w).state ≠ .rejected := by
  unfold decisionOn
  repeat' split
  all_goals simp

theorem endsBlank_lastPart (lib : UrlLibrary) (u : SplitResult) (port : Option Nat) :
    endsBlank ((rebuilt lib u port).netloc ++ u.rest) = endsBlank (lastPart lib u port) := by
  unfold lastPart SplitResult.rest
  by_cases query : u.query = []
  · by_cases path : u.path = []
    · cases port with
      | none => simp [query, path, rebuilt, withPort]
      | some n =>
          simp only [query, path, if_true, List.append_nil, ne_eq, not_true, if_false, Option.isSome_some]
          exact endsBlank_withPort _ n
    · simp only [query, path, if_true, List.append_nil, ne_eq, not_true, not_false_eq_true, if_false]
      exact endsBlank_append _ path
  · simp only [query, ne_eq, not_false_eq_true, if_true, if_false]
    rw [← List.append_assoc, List.append_cons]
    exact endsBlank_append _ query

theorem Taken.bracket_iff : cp '[' ∈ (rebuilt lib u port).netloc ↔ cp '[' ∈ hostOf lib u := by
  constructor
  · intro member
    rcases mem_withPort member with host | colon | digit
    · exact host
    · exact absurd colon (by decide)
    · exact absurd digit (by decide)
  · intro member
    cases port with
    | none => exact member
    | some n => exact List.mem_append_left _ member

/-- How the written location can be read, said of the host it was written for. -/
theorem Taken.reads_iff (taken : Taken lib u port) (unicode : lib.Unicode forms) (plain : cp '[' ∉ (rebuilt lib u port).netloc) :
    ((∃ host port', Reads lib (rebuilt lib u port).netloc host port') ∧
      (permit = true ∧ hostOf lib (rebuilt lib u port) ∈ normalizedAllowlist lib allowed →
        hostOf lib u ∈ normalizedAllowlist lib allowed)) ↔
    hostOf lib u ≠ [] ∧
      (cp ':' ∉ hostOf lib u ∨ port = none ∧ ∃ name n, ReadAsPort lib permit allowed (hostOf lib u) name n) := by
  have bare := taken.rebuilt_bare unicode
  have lowered : lib.lower (hostOf lib u) = hostOf lib u := unicode.lower_lower _
  constructor
  · intro ⟨⟨host, port', reads⟩, permits⟩
    have same := (reads.hostOf_eq unicode bare plain).2.2
    rcases reads_cases reads with ⟨colon, rfl, -⟩ | ⟨colon, rfl, port, whole⟩
    · exact ⟨reads.named, Or.inl colon⟩
    · obtain ⟨n, rfl⟩ := Option.isSome_iff_exists.mp port
      refine ⟨fun none => by simp [none] at colon, Or.inr ⟨rfl, host, n, ?_⟩⟩
      exact {
        written := whole
        uncut := reads.uncut
        named := reads.named
        undotted := reads.undotted
        remote := reads.remote
        range := reads.range n rfl
        allowed := fun permit allowed => permits ⟨permit, same.symm ▸ allowed⟩ }
  · intro ⟨named, either⟩
    have build : ∀ host port', Reads lib (rebuilt lib u port).netloc host port' →
        (permit = true → host ∈ normalizedAllowlist lib allowed → hostOf lib u ∈ normalizedAllowlist lib allowed) →
        (∃ host port', Reads lib (rebuilt lib u port).netloc host port') ∧
          (permit = true ∧ hostOf lib (rebuilt lib u port) ∈ normalizedAllowlist lib allowed →
            hostOf lib u ∈ normalizedAllowlist lib allowed) := by
      intro host port' reads permits
      refine ⟨⟨host, port', reads⟩, fun permitted => permits permitted.1 ?_⟩
      rw [← (reads.hostOf_eq unicode bare plain).2.2]
      exact permitted.2
    rcases either with colon | ⟨rfl, name, n, cut⟩
    · apply build (hostOf lib u) port ?_ fun _ allowed => allowed
      exact ⟨rfl, colon, named, lowered, host_undotted unicode u, taken.admitted.remote, taken.admitted.range⟩
    · apply build name (some n) ?_ cut.allowed
      refine ⟨cut.written, cut.uncut, cut.named, ?_, cut.undotted, cut.remote, ?_⟩
      · apply unicode.lower_of_subset lowered
        intro c member
        rw [cut.written]
        exact List.mem_append_left _ member
      · intro m same
        obtain rfl := Option.some.inj same
        exact cut.range

theorem stable_iff {w : SplitResult} (parts : canonicalParts lib value = .ok w) : Stable lib permit allowed value ↔
    (∃ v, (canonicalParts lib w.geturl = .ok v ∧ v.geturl = w.geturl) ∧
      (decisionOn lib permit allowed v).state = (decisionOn lib permit allowed w).state ∧
      (decisionOn lib permit allowed v).resolutionPermitted = (decisionOn lib permit allowed w).resolutionPermitted) ∧
    ((decisionOn lib permit allowed w).resolutionPermitted = true → namedHost lib value ∈ normalizedAllowlist lib allowed) := by
  have first : validateReference lib permit allowed value = decisionOn lib permit allowed w := by rw [validateReference, parts]
  simp only [Stable, first, decisionOn_canonical, ne_eq, decisionOn_state, not_false_eq_true, true_imp_iff]
  apply and_congr_left'
  cases again : canonicalParts lib w.geturl with
  | error reason =>
      have rejected : validateReference lib permit allowed w.geturl = ⟨w.geturl, .rejected, false, [reason]⟩ := by
        rw [validateReference, again]
      simp only [rejected]
      constructor
      · intro same
        exact absurd same.1.symm (decisionOn_state w)
      · intro ⟨_, ⟨returned, _⟩, _⟩
        cases returned
  | ok v =>
      have decided : validateReference lib permit allowed w.geturl = decisionOn lib permit allowed v := by
        rw [validateReference, again]
      rw [decided, decisionOn_canonical]
      constructor
      · intro ⟨state, permitted, url⟩
        exact ⟨v, ⟨rfl, url⟩, state, permitted⟩
      · intro ⟨_, ⟨returned, url⟩, state, permitted⟩
        obtain rfl := Except.ok.inj returned
        exact ⟨state, permitted, url⟩

/-- A reference is stable exactly if its canonical form loses nothing of it. -/
theorem reference_stable_iff (unicode : lib.Unicode forms) (permit : Bool) (allowed : List PyText) (value : PyText) :
    Stable lib permit allowed value ↔
      ∀ u port, lib.urlsplit value.strip = .ok u → Admitted lib u port → Faithful lib permit allowed u port := by
  cases parts : canonicalParts lib value with
  | error reason =>
      apply iff_of_true
      · intro kept
        simp [validateReference, parts] at kept
      · intro u port split admitted
        have returned := canonicalParts_eq_ok.mpr ⟨u, port, split, admitted, rfl⟩
        rw [parts] at returned
        cases returned
  | ok w =>
      obtain ⟨u, port, split, admitted, rfl⟩ := canonicalParts_eq_ok.mp parts
      have taken := Taken.of_split split admitted
      have named : namedHost lib value = hostOf lib u := by rw [namedHost, split]
      have only : (∀ u port, lib.urlsplit value.strip = .ok u → Admitted lib u port → Faithful lib permit allowed u port) ↔
          Faithful lib permit allowed u port := by
        constructor
        · intro every
          exact every u port split admitted
        · intro faithful u' port' split' admitted'
          rw [split] at split'
          obtain rfl := Except.ok.inj split'
          have reads := admitted'.reads
          rw [admitted.reads] at reads
          obtain rfl := Except.ok.inj reads
          exact faithful
      rw [only, stable_iff parts, named, decisionOn_permits]
      cases blank : endsBlank (lastPart lib u port) with
      | true =>
          have lost := fun v => @Taken.stripped lib forms u v port taken unicode ((endsBlank_lastPart lib u port).trans blank)
          apply iff_of_false
          · intro ⟨⟨v, ⟨again, url⟩, _⟩, _⟩
            exact lost v again url
          · intro faithful
            exact absurd (blank.symm.trans faithful.solid) (by decide)
      | false =>
          have again := fun v => @Taken.again_iff lib forms u v port taken unicode ((endsBlank_lastPart lib u port).trans blank)
          simp only [again]
          by_cases plain : cp '[' ∈ (rebuilt lib u port).netloc
          · apply iff_of_false
            · intro ⟨⟨_, ⟨_, closed, _⟩, _⟩, _⟩
              exact closed plain
            · intro faithful
              exact faithful.unbracketed (Taken.bracket_iff.mp plain)
          · have reads := @Taken.reads_iff lib forms u port permit allowed taken unicode plain
            constructor
            · intro ⟨⟨_, ⟨_, _, found⟩, _⟩, permits⟩
              obtain ⟨filled, uncut⟩ := reads.mp ⟨found, permits⟩
              exact ⟨filled, fun bracket => plain (Taken.bracket_iff.mpr bracket), blank, uncut⟩
            · intro faithful
              obtain ⟨found, permits⟩ := reads.mpr ⟨faithful.named, faithful.uncut⟩
              exact ⟨⟨_, ⟨rfl, plain, found⟩, rfl, rfl⟩, permits⟩

/-! ## Tables of ASCII texts -/

theorem lowered_lt {c : CodePoint} (upper : 65 ≤ c.val ∧ c.val ≤ 90) : c.val + 32 < 0x110000 := by omega

def asciiLower (c : CodePoint) : CodePoint :=
  if upper : 65 ≤ c.val ∧ c.val ≤ 90 then ⟨c.val + 32, lowered_lt upper⟩ else c

/-- As Python has it for ASCII texts, and with one address, a public one. -/
def asciiLibrary : UrlLibrary where
  lower t := t.map asciiLower
  nfkc t := t
  repr t := cp '\'' :: t ++ [cp '\'']
  ipAddress host := if host = .of "2606:4700::1111" then some {} else none

theorem asciiLower_cases (c : CodePoint) :
    (65 ≤ c.val ∧ c.val ≤ 90 ∧ (asciiLower c).val = c.val + 32) ∨ (¬(65 ≤ c.val ∧ c.val ≤ 90) ∧ asciiLower c = c) := by
  unfold asciiLower
  split
  · next upper => exact Or.inl ⟨upper.1, upper.2, rfl⟩
  · next other => exact Or.inr ⟨other, rfl⟩

theorem eq_of_form {c d : CodePoint} {piece : PyText} (form : piece ∈ [[asciiLower c]]) (member : d ∈ piece) : d = asciiLower c := by
  rw [List.mem_singleton.mp form] at member
  exact List.mem_singleton.mp member

theorem asciiLower_asciiLower (c : CodePoint) : asciiLower (asciiLower c) = asciiLower c := by
  cases asciiLower_cases (asciiLower c) with
  | inr other => exact other.2
  | inl upper =>
      cases asciiLower_cases c with
      | inl before => omega
      | inr before =>
          rw [before.2] at upper
          exact absurd ⟨upper.1, upper.2.1⟩ before.1

theorem asciiLibrary_unicode : asciiLibrary.Unicode (fun c => [[asciiLower c]]) where
  lower t := by
    refine ⟨t.map fun c => [asciiLower c], ?_, ?_⟩
    · apply List.forall₂_map_right_iff.mpr
      simp
    · exact List.map_eq_flatMap
  full := by simp
  settled := by
    intro c piece form d member
    rw [eq_of_form form member, asciiLower_asciiLower]
  plain := by
    intro c piece form d member _ plain
    have image := eq_of_form form member
    cases asciiLower_cases c with
    | inr other => exact image.trans other.2
    | inl upper =>
        have letter : isLetter d = true := by
          simp only [isLetter, image, Bool.or_eq_true, Bool.and_eq_true, decide_eq_true_eq]
          omega
        exact absurd (plain.symm.trans letter) (by decide)
  ascii := fun c _ => rfl
  nfkc t := by
    have same : asciiLibrary.expands = splitsNetloc := by
      funext c
      simp [UrlLibrary.expands, asciiLibrary]
    rw [same]
    rfl
  spread := by
    intro c piece form d member splits
    have image := eq_of_form form member
    cases asciiLower_cases c with
    | inr other => exact image.trans other.2
    | inl upper =>
        have range : 97 ≤ d.val := by
          rw [image]
          omega
        have signs : ∀ sign : CodePoint, sign.val < 97 → d ≠ sign := by
          intro sign low same
          rw [same] at range
          omega
        simp [UrlLibrary.expands, asciiLibrary, splitsNetloc, endsNetloc, signs (cp '/') (by decide), signs (cp '?') (by decide),
          signs (cp '#') (by decide), signs (cp '@') (by decide), signs (cp ':') (by decide)] at splits

theorem example_stable : Stable asciiLibrary true [.of "example.com"] (.of "HTTPS://Example.COM./path?q") := by
  apply (reference_stable_iff asciiLibrary_unicode true [.of "example.com"] (.of "HTTPS://Example.COM./path?q")).mpr
  intro u port split admitted
  have parts : asciiLibrary.urlsplit (PyText.of "HTTPS://Example.COM./path?q").strip =
      .ok ⟨.of "https", .of "Example.COM.", .of "/path", .of "q", []⟩ := by rfl
  obtain rfl := Except.ok.inj (parts.symm.trans split)
  exact ⟨by decide +kernel, by decide +kernel, rfl, Or.inl (by decide +kernel)⟩

/-- The canonical form of an address in brackets is rejected when it is read. -/
theorem bracketed_not_stable :
    (validateReference asciiLibrary false [] (.of "https://[2606:4700::1111]/")).state = .referenceOnly ∧
      (validateReference asciiLibrary false [] (.of "https://[2606:4700::1111]/")).canonicalUrl = .of "https://2606:4700::1111/" ∧
      (validateReference asciiLibrary false [] (.of "https://2606:4700::1111/")).state = .rejected ∧
      ¬ Stable asciiLibrary false [] (.of "https://[2606:4700::1111]/") := by
  have state : (validateReference asciiLibrary false [] (.of "https://[2606:4700::1111]/")).state = .referenceOnly := by
    decide +kernel
  have url : (validateReference asciiLibrary false [] (.of "https://[2606:4700::1111]/")).canonicalUrl =
      .of "https://2606:4700::1111/" := by decide +kernel
  have again : (validateReference asciiLibrary false [] (.of "https://2606:4700::1111/")).state = .rejected := by decide +kernel
  refine ⟨state, url, again, fun stable => ?_⟩
  have kept := (stable (by rw [state]; decide)).1.1
  rw [url, again, state] at kept
  cases kept

/-- Another host is allowed than the one the URL names. -/
example : (validateReference asciiLibrary true [.of "2606"] (.of "https://[2606:4700::1111]/")).resolutionPermitted = true ∧
    namedHost asciiLibrary (.of "https://[2606:4700::1111]/") = .of "2606:4700::1111" := by
  decide +kernel

end SentinelEdge.Collector
