import SentinelEdge.Foundation.Urls

/-! # The parts of a URL

What splitting leaves in each part. A URL that is put together from such parts splits into
them again, and a host in lower case is read as it is.
-/

namespace SentinelEdge.Foundation

/-! ## Round trips -/

namespace SplitResult

/-- The characters are where `urlsplit` leaves them. -/
structure Clean (u : SplitResult) : Prop where
  netloc : ∀ c ∈ u.netloc, endsNetloc c = false
  path : cp '?' ∉ u.path ∧ cp '#' ∉ u.path
  query : cp '#' ∉ u.query
  rooted : u.netloc ≠ [] → ∀ c ∈ u.path.head?, c = cp '/'
  safe : ∀ c, c ∈ u.netloc ∨ c ∈ u.path ∨ c ∈ u.query → isSafe c = true

/-- What follows the network location, without a fragment. -/
def rest (u : SplitResult) : PyText := u.path ++ (if u.query = [] then [] else cp '?' :: u.query)

end SplitResult

namespace UrlLibrary

variable {lib : UrlLibrary} {u : SplitResult} {url : PyText}

theorem splitScheme_subset (lib : UrlLibrary) (url : PyText) {c : CodePoint} (member : c ∈ (lib.splitScheme url).2) :
    c ∈ url := by
  unfold splitScheme at member
  split at member
  · exact (after_isSuffix _ _).subset member
  · exact member

theorem splitNetloc_subset (url : PyText) {c : CodePoint} (member : c ∈ (splitNetloc url).1 ∨ c ∈ (splitNetloc url).2) :
    c ∈ url := by
  unfold splitNetloc at member
  split at member
  · cases member with
    | inl within => exact List.mem_of_mem_drop ((List.takeWhile_subset _) within)
    | inr beyond => exact List.mem_of_mem_drop ((List.dropWhile_subset _) beyond)
  · simpa using member

theorem splitNetloc_netloc (url : PyText) : ∀ c ∈ (splitNetloc url).1, endsNetloc c = false := by
  intro c member
  unfold splitNetloc at member
  split at member
  · simpa using List.mem_takeWhile_imp member
  · cases member

theorem splitNetloc_rest (url : PyText) (netloc : (splitNetloc url).1 ≠ []) :
    ∀ c ∈ (splitNetloc url).2.head?, endsNetloc c = true := by
  intro c member
  unfold splitNetloc at netloc member
  split at member
  · rw [Option.mem_def] at member
    have filled : (List.dropWhile (fun c => !endsNetloc c) (List.drop 2 url)) ≠ [] := by
      intro none
      simp [none] at member
    have first := List.head_dropWhile_not (fun c => !endsNetloc c) filled
    rw [List.head?_eq_some_head filled, Option.some.injEq] at member
    simpa [member] using first
  · next other => simp [other] at netloc

/-- What a URL is split into, and the checks it has passed. -/
theorem urlsplit_clean (returned : lib.urlsplit url = .ok u) :
    u.Clean ∧ lib.checkBrackets u.netloc = .ok () ∧ lib.checkNetloc u.netloc = .ok () := by
  obtain ⟨_, brackets, returned⟩ := Checks.bind_eq_ok.mp returned
  obtain ⟨_, passes, returned⟩ := Checks.bind_eq_ok.mp returned
  obtain rfl := Except.ok.inj returned
  refine ⟨?_, brackets, passes⟩
  have safe : ∀ c ∈ (url.dropWhile fun c => c.val ≤ 32).filter isSafe, isSafe c = true := by
    intro c member
    exact (List.mem_filter.mp member).2
  generalize (url.dropWhile fun c => c.val ≤ 32).filter isSafe = kept at *
  generalize scheme : (lib.splitScheme kept).2 = rest
  have within : ∀ c, c ∈ (splitNetloc rest).1 ∨ c ∈ (splitNetloc rest).2 → isSafe c = true := by
    intro c member
    apply safe
    apply splitScheme_subset lib
    rw [scheme]
    exact splitNetloc_subset rest member
  exact {
    netloc := splitNetloc_netloc rest
    path := by
      refine ⟨not_mem_before _ _, fun member => ?_⟩
      exact not_mem_before _ _ ((before_isPrefix _ _).subset member)
    query := fun member => not_mem_before _ _ ((after_isSuffix _ _).subset member)
    rooted := by
      intro netloc c first
      have delimiter := splitNetloc_rest rest netloc
      have head : ∀ {d : CodePoint} {t : PyText}, c ∈ (before d t).head? → c ≠ d ∧ c ∈ t.head? := by
        intro d t member
        have within := List.mem_of_mem_head? member
        refine ⟨fun same => not_mem_before d t (by rwa [same] at within), ?_⟩
        cases t with
        | nil => cases member
        | cons e t =>
            by_cases here : e = d
            · simp [before, here] at member
            · simpa [before, here] using member
      obtain ⟨notQuery, first⟩ := head first
      obtain ⟨notFragment, first⟩ := head first
      simpa [endsNetloc, notQuery, notFragment] using delimiter c first
    safe := by
      intro c member
      have before' := fun {d : CodePoint} {t : PyText} => (before_isPrefix d t).subset
      have after' := fun {d : CodePoint} {t : PyText} => (after_isSuffix d t).subset
      rcases member with netloc | path | query
      · exact within c (Or.inl netloc)
      · exact within c (Or.inr (before' (before' path)))
      · exact within c (Or.inr (before' (after' query))) }

/-- A URL that is written out splits where it was put together. -/
theorem urlsplit_written {scheme netloc rest : PyText} (letter : scheme.head?.any isLetter = true)
    (chars : ∀ c ∈ scheme, isSchemeChar c = true) (fixed : lib.lower scheme = scheme) (clean : ∀ c ∈ netloc, endsNetloc c = false)
    (ends : ∀ c ∈ rest.head?, endsNetloc c = true) (safe : ∀ c ∈ netloc ++ rest, isSafe c = true) :
    lib.urlsplit (scheme ++ cp ':' :: cp '/' :: cp '/' :: (netloc ++ rest)) = (do
      lib.checkBrackets netloc
      lib.checkNetloc netloc
      pure ⟨scheme, netloc, before (cp '?') (before (cp '#') rest), after (cp '?') (before (cp '#') rest),
        after (cp '#') rest⟩) := by
  have plain : ∀ c, isSchemeChar c = true → c.val > 32 ∧ isSafe c = true ∧ c ≠ cp ':' := by
    intro c scheme
    have above : c.val > 32 ∧ c.val ≠ 58 := by
      simp only [isSchemeChar, isLetter, PyText.isAsciiDigit, Bool.or_eq_true, Bool.and_eq_true, decide_eq_true_eq] at scheme
      rcases scheme with (((letter | digit) | rfl) | rfl) | rfl
      · omega
      · omega
      · decide
      · decide
      · decide
    refine ⟨above.1, ?_, fun same => above.2 (same ▸ rfl)⟩
    have tabs : ∀ d : CodePoint, d.val ≤ 32 → c ≠ d := fun d low same => absurd above.1 (by rw [same]; omega)
    simp [isSafe, tabs (cp '\t') (by decide), tabs (cp '\r') (by decide), tabs (cp '\n') (by decide)]
  let url := scheme ++ cp ':' :: cp '/' :: cp '/' :: (netloc ++ rest)
  have start : (url.dropWhile fun c => c.val ≤ 32) = url := by
    cases scheme with
    | nil => cases letter
    | cons c scheme =>
        have high := (plain c (chars c List.mem_cons_self)).1
        simp [url, high]
  have kept : url.filter isSafe = url := by
    apply List.filter_eq_self.mpr
    intro c member
    have signs : isSafe (cp ':') = true ∧ isSafe (cp '/') = true := by decide
    simp only [url, List.mem_append, List.mem_cons] at member
    rcases member with scheme | rfl | rfl | rfl | tail
    · exact (plain c (chars c scheme)).2.1
    · exact signs.1
    · exact signs.2
    · exact signs.2
    · exact safe c (List.mem_append.mpr tail)
  have noColon : cp ':' ∉ scheme := fun member => (plain _ (chars _ member)).2.2 rfl
  have split : lib.splitScheme url = (scheme, cp '/' :: cp '/' :: (netloc ++ rest)) := by
    have every : scheme.all isSchemeChar = true := List.all_eq_true.mpr chars
    simp only [splitScheme, url, before_append_cons noColon, after_append_cons noColon, letter, every, fixed]
    simp
  have free : ∀ c ∈ netloc, (!endsNetloc c) = true := fun c member => by simp [clean c member]
  have taken : (rest.takeWhile fun c => !endsNetloc c) = [] ∧ (rest.dropWhile fun c => !endsNetloc c) = rest := by
    cases rest with
    | nil => exact ⟨rfl, rfl⟩
    | cons c rest =>
        have delimiter := ends c rfl
        simp [delimiter]
  have located : splitNetloc (cp '/' :: cp '/' :: (netloc ++ rest)) = (netloc, rest) := by
    simp [splitNetloc, List.takeWhile_append_of_pos free, List.dropWhile_append_of_pos free, taken]
  rw [urlsplit]
  simp only [url] at start kept split
  simp only [start, kept, split, located]

end UrlLibrary

namespace SplitResult

variable {u : SplitResult}

theorem splits_rest (clean : u.Clean) :
    before (cp '?') (before (cp '#') u.rest) = u.path ∧ after (cp '?') (before (cp '#') u.rest) = u.query ∧
      after (cp '#') u.rest = [] := by
  have noHash : cp '#' ∉ u.rest := by
    have apart : cp '#' ≠ cp '?' := by decide
    unfold rest
    split <;> simp [clean.path.2, clean.query, apart]
  rw [before_of_not_mem noHash, after_of_not_mem noHash]
  unfold rest
  split
  · next none => simp [before_of_not_mem clean.path.1, after_of_not_mem clean.path.1, none]
  · exact ⟨before_append_cons clean.path.1 _, after_append_cons clean.path.1 _, rfl⟩

/-- A URL with a network location is its scheme, the location and the rest. -/
theorem geturl_eq (uses : u.scheme ∈ usesNetloc) (scheme : u.scheme ≠ []) (fragment : u.fragment = [])
    (rooted : ∀ c ∈ u.path.head?, c = cp '/') :
    u.geturl = u.scheme ++ cp ':' :: cp '/' :: cp '/' :: (u.netloc ++ u.rest) := by
  have path : (if u.path ≠ [] ∧ u.path.take 1 ≠ [cp '/'] then cp '/' :: u.path else u.path) = u.path := by
    cases here : u.path with
    | nil => simp
    | cons c path =>
        have first := rooted c (by rw [here]; rfl)
        simp [first]
  have used : (usesNetloc.any fun name => u.scheme = name) = true := List.any_eq_true.mpr ⟨_, uses, by simp⟩
  have located : u.netloc ≠ [] ∨ (u.scheme ≠ [] ∧ usesNetloc.any fun name => u.scheme = name) ∨ u.path.take 2 = [cp '/', cp '/'] :=
    Or.inr (Or.inl ⟨scheme, used⟩)
  rw [geturl, if_pos located, path, if_pos scheme, fragment, rest]
  by_cases query : u.query = []
  · simp [query]
  · simp [query]

end SplitResult

/-! ## Hosts and ports -/

namespace SplitResult

variable {lib : UrlLibrary} {forms : CodePoint → List PyText} {u : SplitResult} {name : PyText} {c : CodePoint}

theorem mem_of_lowerHost (member : c ∈ lowerHost lib name)
    (kept : c ∈ lib.lower (before (cp '%') name) → c ∈ before (cp '%') name) : c ∈ name := by
  cases List.mem_append.mp member with
  | inl lowered => exact (before_isPrefix _ _).subset (kept lowered)
  | inr zone =>
      split at zone
      · next percent =>
          cases List.mem_cons.mp zone with
          | inl sign => exact sign ▸ percent
          | inr after => exact (after_isSuffix _ _).subset after
      · cases zone

/-- A host in lower case stays as it is. -/
theorem lowerHost_of_lower (unicode : lib.Unicode forms) (same : lib.lower name = name) : lowerHost lib name = name := by
  have lowered := unicode.lower_of_subset same fun c member => (before_isPrefix (cp '%') name).subset member
  rw [lowerHost, lowered]
  split
  · next percent => exact before_cons_after percent
  · next absent => rw [before_of_not_mem absent, List.append_nil]

theorem hostname_eq (unicode : lib.Unicode forms) (u : SplitResult) : u.hostname lib = lowerHost lib u.hostinfo.1 := by
  unfold hostname
  split
  · next none =>
      have nothing : lib.lower [] = [] := unicode.lower_eq_nil.mpr rfl
      simp [none, lowerHost, before, nothing]
  · rfl

theorem hostPart_eq (bare : cp '@' ∉ u.netloc) : u.hostPart = u.netloc := by
  apply List.rtakeWhile_eq_self_iff.mpr
  intro c member
  simpa using fun same : c = cp '@' => bare (same ▸ member)

theorem hostinfo_of_unbracketed (bare : cp '@' ∉ u.netloc) (plain : cp '[' ∉ u.netloc) :
    u.hostinfo = (before (cp ':') u.netloc, after (cp ':') u.netloc) := by
  rw [hostinfo, hostPart_eq bare, if_neg plain]

theorem hostinfo_subset (bare : cp '@' ∉ u.netloc) (member : c ∈ u.hostinfo.1) : c ∈ u.netloc := by
  rw [hostinfo, hostPart_eq bare] at member
  split at member
  · exact (after_isSuffix _ _).subset ((before_isPrefix _ _).subset member)
  · exact (before_isPrefix _ _).subset member

theorem length_hostinfo_le (bare : cp '@' ∉ u.netloc) : u.hostinfo.1.length ≤ u.netloc.length := by
  rw [hostinfo, hostPart_eq bare]
  split
  · exact (before_isPrefix _ _).length_le.trans (after_isSuffix _ _).length_le
  · exact (before_isPrefix _ _).length_le

/-- What brackets leave of a host has no closing one. -/
theorem hostinfo_closed (bare : cp '@' ∉ u.netloc) (brackets : lib.checkBrackets u.netloc = .ok ()) :
    cp ']' ∉ u.hostinfo.1 := by
  rw [hostinfo, hostPart_eq bare]
  split
  · exact not_mem_before _ _
  · next plain =>
      intro member
      have closes := (before_isPrefix _ _).subset member
      rw [UrlLibrary.checkBrackets, if_neg plain, if_pos closes] at brackets
      cases brackets

theorem port_of_decimal {n : Nat} (text : u.hostinfo.2 = PyText.decimalText n) (range : n ≤ 65535) : u.port = .ok (some n) := by
  have digits : (PyText.decimalText n).all PyText.isAsciiDigit = true :=
    List.all_eq_true.mpr fun c member => PyText.decimalText_digits member
  have short : (PyText.decimalText n).length ≤ 5 := by
    rw [PyText.decimalText, PyText.of, List.length_map, Nat.toString_eq_repr, Nat.toList_repr]
    exact (Nat.length_toDigits_le_iff (by decide) (by decide)).mpr (by omega)
  have fits : ¬ PyText.maxDigits < (PyText.decimalText n).length := by
    have most : PyText.maxDigits = 4300 := rfl
    omega
  rw [port, text]
  simp only [if_neg (PyText.decimalText_ne_nil n), digits, if_true, if_neg fits, PyText.number_decimalText, if_pos range]

theorem port_none (text : u.hostinfo.2 = []) : u.port = .ok none := by simp [port, text]

end SplitResult

end SentinelEdge.Foundation
