import SentinelEdge.Collector.References
import SentinelEdge.Foundation.UrlParts

/-! # Canonical forms of references

What a canonical form is written of, and how its network location is read: the host has
lost the brackets it stood in.
-/

namespace SentinelEdge.Collector

open Foundation Checks

variable {lib : UrlLibrary} {forms : CodePoint → List PyText} {u : SplitResult} {port port' : Option Nat} {value : PyText}

/-! ## The network location that is written -/

/-- A split URL that was admitted, with what splitting it has checked. -/
structure Taken (lib : UrlLibrary) (u : SplitResult) (port : Option Nat) : Prop where
  admitted : Admitted lib u port
  clean : u.Clean
  brackets : lib.checkBrackets u.netloc = .ok ()
  passes : lib.checkNetloc u.netloc = .ok ()

theorem Taken.of_split (split : lib.urlsplit value = .ok u) (admitted : Admitted lib u port) : Taken lib u port := by
  obtain ⟨clean, brackets, passes⟩ := UrlLibrary.urlsplit_clean split
  exact ⟨admitted, clean, brackets, passes⟩

/-- A character of the host that lower case does not make is one of the name. -/
theorem mem_of_host (unicode : lib.Unicode forms) {c : CodePoint} (member : c ∈ hostOf lib u)
    (kept : ∀ t, c ∈ lib.lower t → c ∈ t) : c ∈ u.hostinfo.1 := by
  have named := (List.rdropWhile_prefix _ _).subset (kept _ member)
  rw [SplitResult.hostname_eq unicode] at named
  exact SplitResult.mem_of_lowerHost named (kept _)

theorem plain_of_host (unicode : lib.Unicode forms) {c : CodePoint} (member : c ∈ hostOf lib u) (ascii : c.val < 128)
    (plain : isLetter c = false) : c ∈ u.hostinfo.1 :=
  mem_of_host unicode member fun _ lowered => unicode.mem_of_lower lowered ascii plain

/-- A host that is compared does not end in a dot. -/
theorem host_undotted (unicode : lib.Unicode forms) (u : SplitResult) : (hostOf lib u).getLast? ≠ some (cp '.') := by
  intro last
  have ends := unicode.lower_getLast? last (by decide) (by decide)
  have filled : (u.hostname lib).rdropWhile (fun c => c = cp '.') ≠ [] := by
    intro none
    rw [none] at ends
    cases ends
  have undotted := List.rdropWhile_last_not (fun c => decide (c = cp '.')) (u.hostname lib) filled
  rw [List.getLast?_eq_getLast_of_ne_nil filled, Option.some.injEq] at ends
  simp [ends] at undotted

theorem mem_withPort {host : PyText} {c : CodePoint} (member : c ∈ withPort host port) :
    c ∈ host ∨ c = cp ':' ∨ PyText.isAsciiDigit c = true := by
  cases port with
  | none => exact Or.inl member
  | some n =>
      cases List.mem_append.mp member with
      | inl within => exact Or.inl within
      | inr text =>
          cases List.mem_cons.mp text with
          | inl colon => exact Or.inr (Or.inl colon)
          | inr digit => exact Or.inr (Or.inr (PyText.decimalText_digits digit))

/-- A sign in the location that is written comes from the one that was read. -/
theorem sign_of_written (unicode : lib.Unicode forms) {c : CodePoint}
    (member : c ∈ withPort (hostOf lib u) port) (ascii : c.val < 128) (plain : isLetter c = false) (apart : c ≠ cp ':')
    (digit : PyText.isAsciiDigit c = false) : c ∈ u.hostinfo.1 := by
  rcases mem_withPort member with host | colon | number
  · exact plain_of_host unicode host ascii plain
  · exact absurd colon apart
  · simp [digit] at number

theorem Taken.rebuilt_bare (taken : Taken lib u port) (unicode : lib.Unicode forms) : cp '@' ∉ (rebuilt lib u port).netloc := by
  intro sign
  have named := sign_of_written unicode sign (by decide) (by decide) (by decide) (by decide)
  exact taken.admitted.bare (SplitResult.hostinfo_subset taken.admitted.bare named)

theorem Taken.rebuilt_closed (taken : Taken lib u port) (unicode : lib.Unicode forms) : cp ']' ∉ (rebuilt lib u port).netloc := by
  intro closes
  have named := sign_of_written unicode closes (by decide) (by decide) (by decide) (by decide)
  exact SplitResult.hostinfo_closed taken.admitted.bare taken.brackets named

theorem Taken.located (taken : Taken lib u port) : u.netloc ≠ [] := by
  intro none
  apply taken.admitted.named
  have info : u.hostinfo.1 = [] := by
    apply List.eq_nil_iff_forall_not_mem.mpr
    intro c member
    have known := SplitResult.hostinfo_subset taken.admitted.bare member
    rw [none] at known
    cases known
  simp [SplitResult.hostname, info]

/-- The parts that are written are where splitting leaves them. -/
theorem Taken.rebuilt_clean (taken : Taken lib u port) (unicode : lib.Unicode forms) :
    (rebuilt lib u port).Clean where
  netloc := by
    intro c member
    by_contra ends
    rw [Bool.not_eq_false] at ends
    have signs : c = cp '/' ∨ c = cp '?' ∨ c = cp '#' := by simpa [endsNetloc, or_assoc] using ends
    have known : c ∈ u.netloc := by
      apply SplitResult.hostinfo_subset taken.admitted.bare
      rcases signs with rfl | rfl | rfl <;> exact sign_of_written unicode member (by decide) (by decide) (by decide) (by decide)
    have free := taken.clean.netloc c known
    rw [ends] at free
    cases free
  path := taken.clean.path
  query := taken.clean.query
  rooted := fun _ => taken.clean.rooted taken.located
  safe := by
    intro c member
    rcases member with netloc | tail
    · by_contra unkept
      have signs : c = cp '\t' ∨ c = cp '\r' ∨ c = cp '\n' := by
        simp only [isSafe, Bool.and_eq_true, decide_eq_true_eq] at unkept
        tauto
      have known : c ∈ u.netloc := by
        apply SplitResult.hostinfo_subset taken.admitted.bare
        rcases signs with rfl | rfl | rfl <;> exact sign_of_written unicode netloc (by decide) (by decide) (by decide) (by decide)
      exact unkept (taken.clean.safe c (Or.inl known))
    · exact taken.clean.safe c (Or.inr tail)

/-- Writing the location brings in nothing that normalising splits. -/
theorem Taken.rebuilt_passes (taken : Taken lib u port) (unicode : lib.Unicode forms) :
    lib.checkNetloc (rebuilt lib u port).netloc = .ok () := by
  have free := (UrlLibrary.checkNetloc_eq_ok unicode taken.clean.netloc).mp taken.passes
  apply (UrlLibrary.checkNetloc_eq_ok unicode (taken.rebuilt_clean unicode).netloc).mpr
  intro c member splits
  rcases mem_withPort member with host | colon | digit
  · have named := mem_of_host unicode host fun _ lowered => unicode.mem_of_expands lowered splits
    exact free c (SplitResult.hostinfo_subset taken.admitted.bare named) splits
  · exact Or.inr colon
  · simp only [PyText.isAsciiDigit, Bool.and_eq_true, decide_eq_true_eq] at digit
    rw [UrlLibrary.expands, unicode.ascii c (by omega)] at splits
    have signs : ∀ d : CodePoint, 57 < d.val ∨ d.val < 48 → c ≠ d := by
      intro d outside same
      rw [same] at digit
      omega
    simp [splitsNetloc, endsNetloc, signs (cp '/') (by decide), signs (cp '?') (by decide), signs (cp '#') (by decide),
      signs (cp '@') (by decide), signs (cp ':') (by decide)] at splits

/-! ## Reading a canonical form -/

theorem scheme_facts {scheme : PyText} (web : scheme ∈ [PyText.of "http", .of "https"]) :
    scheme ∈ usesNetloc ∧ scheme ≠ [] ∧ scheme.head?.any isLetter = true ∧ ∀ c ∈ scheme, isSchemeChar c = true := by
  simp only [List.mem_cons, List.not_mem_nil, or_false] at web
  have known : ∀ name ∈ ["http", "https"], PyText.of name ∈ usesNetloc := by
    intro name member
    apply List.mem_map_of_mem
    simp only [List.mem_cons, List.not_mem_nil, or_false] at member
    rcases member with rfl | rfl <;> simp
  rcases web with rfl | rfl
  · exact ⟨known _ (by simp), by decide, by decide, List.all_eq_true.mp (by decide)⟩
  · exact ⟨known _ (by simp), by decide, by decide, List.all_eq_true.mp (by decide)⟩

/-- Whitespace ends the text. -/
def endsBlank (t : PyText) : Bool := t.getLast?.any PyText.isSpace

theorem strip_after_letter {a b : PyText} {c : CodePoint} (letter : a.head?.any isLetter = true)
    (solid : PyText.isSpace c = false) :
    (a ++ c :: b).strip = a ++ c :: b.rdropWhile PyText.isSpace := by
  have start : (a ++ c :: b).dropWhile PyText.isSpace = a ++ c :: b := by
    cases a with
    | nil => cases letter
    | cons d a =>
        have first : PyText.isSpace d = false := by
          simp only [List.head?_cons, Option.any_some, isLetter, Bool.or_eq_true, Bool.and_eq_true, decide_eq_true_eq] at letter
          simp only [PyText.isSpace, Bool.or_eq_false_iff, Bool.and_eq_false_iff, decide_eq_false_iff_not]
          omega
        simp [first]
  rw [PyText.strip, start]
  exact rdropWhile_append_cons solid a b

/-- The text of a web URL. -/
def written (scheme netloc rest : PyText) : PyText := scheme ++ cp ':' :: cp '/' :: cp '/' :: (netloc ++ rest)

theorem strip_written {scheme netloc rest : PyText} (letter : scheme.head?.any isLetter = true) :
    (written scheme netloc rest).strip = scheme ++ cp ':' :: cp '/' :: cp '/' :: (netloc ++ rest).rdropWhile PyText.isSpace := by
  have solid : PyText.isSpace (cp '/') = false := by decide
  have whole : written scheme netloc rest = (scheme ++ [cp ':', cp '/']) ++ cp '/' :: (netloc ++ rest) := by simp [written]
  have letter' : (scheme ++ [cp ':', cp '/']).head?.any isLetter = true := by
    cases scheme with
    | nil => cases letter
    | cons c scheme => exact letter
  rw [whole, strip_after_letter letter' solid]
  simp

theorem rest_head {w : SplitResult} (rooted : ∀ c ∈ w.path.head?, c = cp '/') : ∀ c ∈ w.rest.head?, endsNetloc c = true := by
  intro c first
  have delimiters : endsNetloc (cp '/') = true ∧ endsNetloc (cp '?') = true := by decide
  unfold SplitResult.rest at first
  cases path : w.path with
  | cons d path =>
      rw [path] at first rooted
      obtain rfl : d = c := by simpa using first
      exact rooted d rfl ▸ delimiters.1
  | nil =>
      rw [path] at first
      split at first
      · cases first
      · obtain rfl : cp '?' = c := by simpa using first
        exact delimiters.2

theorem rest_safe {w : SplitResult} (clean : w.Clean) : ∀ c ∈ w.netloc ++ w.rest, isSafe c = true := by
  intro c member
  have sign : isSafe (cp '?') = true := by decide
  simp only [SplitResult.rest, List.mem_append] at member
  rcases member with netloc | path | query
  · exact clean.safe c (Or.inl netloc)
  · exact clean.safe c (Or.inr (Or.inl path))
  · split at query
    · cases query
    · cases List.mem_cons.mp query with
      | inl mark => exact mark ▸ sign
      | inr within => exact clean.safe c (Or.inr (Or.inr within))

theorem Taken.geturl_written (taken : Taken lib u port) :
    (rebuilt lib u port).geturl = written (lib.lower u.scheme) (rebuilt lib u port).netloc u.rest := by
  obtain ⟨uses, filled, -⟩ := scheme_facts taken.admitted.scheme
  exact SplitResult.geturl_eq uses filled taken.admitted.fragment (taken.clean.rooted taken.located)

/-- Where nothing is stripped, the canonical form splits into the parts it was written from. -/
theorem Taken.split_again (taken : Taken lib u port) (unicode : lib.Unicode forms)
    (solid : endsBlank ((rebuilt lib u port).netloc ++ u.rest) = false) :
    lib.urlsplit (rebuilt lib u port).geturl.strip = (do
      lib.checkBrackets (rebuilt lib u port).netloc
      pure (rebuilt lib u port)) := by
  have clean := taken.rebuilt_clean unicode
  obtain ⟨-, -, letter, chars⟩ := scheme_facts taken.admitted.scheme
  have rooted := taken.clean.rooted taken.located
  have kept : ((rebuilt lib u port).netloc ++ u.rest).rdropWhile PyText.isSpace = (rebuilt lib u port).netloc ++ u.rest := by
    apply List.rdropWhile_eq_self_iff.mpr
    intro filled
    rw [endsBlank, List.getLast?_eq_getLast_of_ne_nil filled, Option.any_some] at solid
    simp [solid]
  have splits := SplitResult.splits_rest clean
  rw [taken.geturl_written, strip_written letter, kept,
    UrlLibrary.urlsplit_written letter chars (unicode.lower_lower _) clean.netloc (rest_head rooted) (rest_safe clean),
    taken.rebuilt_passes unicode]
  have fragment : (rebuilt lib u port).fragment = [] := taken.admitted.fragment
  have same : (⟨lib.lower u.scheme, (rebuilt lib u port).netloc, before (cp '?') (before (cp '#') u.rest),
      after (cp '?') (before (cp '#') u.rest), after (cp '#') u.rest⟩ : SplitResult) = rebuilt lib u port := by
    have rest : (rebuilt lib u port).rest = u.rest := rfl
    rw [← rest, splits.1, splits.2.1, splits.2.2, ← fragment]
    rfl
  rw [same]
  rfl

/-- The network location is that of the host and port, which pass the checks. -/
structure Reads (lib : UrlLibrary) (netloc host : PyText) (port : Option Nat) : Prop where
  written : netloc = withPort host port
  uncut : cp ':' ∉ host
  named : host ≠ []
  lowered : lib.lower host = host
  undotted : host.getLast? ≠ some (cp '.')
  remote : isLocal lib host = false
  range : ∀ n ∈ port, 1 ≤ n ∧ n ≤ 65535

theorem normalHost_eq {host : PyText} (lowered : lib.lower host = host) (undotted : host.getLast? ≠ some (cp '.')) :
    normalHost lib host = host := by
  have kept : host.rdropWhile (fun c => c = cp '.') = host := by
    apply List.rdropWhile_eq_self_iff.mpr
    intro filled dot
    apply undotted
    rw [List.getLast?_eq_getLast_of_ne_nil filled, of_decide_eq_true dot]
  rw [normalHost, kept, lowered]

theorem Reads.hostOf_eq (unicode : lib.Unicode forms) {w : SplitResult} {host : PyText} (bare : cp '@' ∉ w.netloc)
    (plain : cp '[' ∉ w.netloc) (reads : Reads lib w.netloc host port) :
    w.hostinfo = (host, after (cp ':') w.netloc) ∧ w.hostname lib = host ∧ hostOf lib w = host := by
  have info : w.hostinfo = (host, after (cp ':') w.netloc) := by
    rw [SplitResult.hostinfo_of_unbracketed bare plain]
    congr 1
    rw [reads.written]
    cases port with
    | none => exact before_of_not_mem reads.uncut
    | some n => exact before_append_cons reads.uncut _
  have named : w.hostname lib = host := by
    rw [SplitResult.hostname_eq unicode, info]
    exact SplitResult.lowerHost_of_lower unicode reads.lowered
  refine ⟨info, named, ?_⟩
  rw [hostOf, named, normalHost_eq reads.lowered reads.undotted]

/-- The written parts are admitted again as they are exactly if their location is read so. -/
theorem admitted_iff_reads (unicode : lib.Unicode forms) {w : SplitResult} (bare : cp '@' ∉ w.netloc) (plain : cp '[' ∉ w.netloc)
    (scheme : lib.lower w.scheme ∈ [PyText.of "http", .of "https"]) (fragment : w.fragment = []) :
    (Admitted lib w port ∧ withPort (hostOf lib w) port = w.netloc) ↔ ∃ host, Reads lib w.netloc host port := by
  have info := SplitResult.hostinfo_of_unbracketed bare plain
  constructor
  · intro ⟨admitted, same⟩
    refine ⟨hostOf lib w, same.symm, ?_, ?_, unicode.lower_lower _, host_undotted unicode w, admitted.remote, admitted.range⟩
    · intro colon
      have cut := plain_of_host unicode colon (by decide) (by decide)
      rw [info] at cut
      exact not_mem_before _ _ cut
    · intro none
      apply admitted.named
      have empty : before (cp ':') w.netloc = [] := by
        rw [← same, none]
        cases port with
        | none => rfl
        | some n => exact before_append_cons (a := []) List.not_mem_nil _
      simp [SplitResult.hostname, info, empty]
  · intro ⟨host, reads⟩
    obtain ⟨info, named, same⟩ := reads.hostOf_eq unicode bare plain
    refine ⟨{
      scheme := scheme
      named := named ▸ reads.named
      bare := bare
      fragment := fragment
      remote := same ▸ reads.remote
      reads := ?_
      range := reads.range }, ?_⟩
    · cases port with
      | none =>
          apply SplitResult.port_none
          rw [info, reads.written]
          exact after_of_not_mem reads.uncut
      | some n =>
          apply SplitResult.port_of_decimal _ (reads.range n rfl).2
          rw [info, reads.written]
          exact after_append_cons reads.uncut _
    · rw [same, ← reads.written]

/-- How the canonical location of a host and port is read: with that host and port, or, where
    the host has a colon, with what follows it as the port. -/
theorem reads_cases {host host' : PyText} (reads : Reads lib (withPort host port) host' port') :
    (cp ':' ∉ host ∧ host' = host ∧ port' = port) ∨
      (cp ':' ∈ host ∧ port = none ∧ port'.isSome ∧ host = withPort host' port') := by
  have whole := reads.written
  by_cases colon : cp ':' ∈ host
  · refine Or.inr ⟨colon, ?_⟩
    cases port' with
    | none =>
        have cut : cp ':' ∈ host' := by
          have member : cp ':' ∈ withPort host port := by
            cases port with
            | none => exact colon
            | some m => exact List.mem_append_left _ colon
          rw [whole] at member
          exact member
        exact absurd cut reads.uncut
    | some n =>
        cases port with
        | none => exact ⟨rfl, rfl, whole⟩
        | some m =>
            -- A second colon would be a digit of the port.
            have parts := before_cons_after colon
            simp only [withPort] at whole
            rw [← parts, List.append_assoc, List.cons_append] at whole
            have rest := (split_at_separator (not_mem_before _ _) reads.uncut whole).2
            have digit : PyText.isAsciiDigit (cp ':') = true := by
              apply PyText.decimalText_digits (n := n)
              rw [← rest]
              simp
            exact absurd digit (by decide)
  · refine Or.inl ⟨colon, ?_⟩
    cases port with
    | none =>
        cases port' with
        | none => exact ⟨whole.symm, rfl⟩
        | some n =>
            have cut : cp ':' ∈ host := by
              simp only [withPort] at whole
              simp [whole]
            exact absurd cut colon
    | some m =>
        cases port' with
        | none =>
            have cut : cp ':' ∈ host' := by
              simp only [withPort] at whole
              simp [← whole]
            exact absurd cut reads.uncut
        | some n =>
            obtain ⟨same, digits⟩ := split_at_separator colon reads.uncut whole
            have number := congrArg PyText.number digits
            rw [PyText.number_decimalText, PyText.number_decimalText] at number
            exact ⟨same.symm, congrArg some number.symm⟩

end SentinelEdge.Collector
