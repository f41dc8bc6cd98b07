import SupervisorRpc.Proofs.Endpoint.Paths

/-! The spellings of a path.  The path of a socket may be written on its own, behind a scheme and a colon,
or behind a scheme, a colon and the two slashes of an authority that is empty.  The main statement says
that all three are read as the same address: the first from the text as it stands, the others from the
path that the text is split into. -/

namespace SupervisorRpc

namespace Url

variable {path scheme after : Text} {authority : Option Text}

/-- The text begins with a slash that no other slash follows, and nothing in it ends a path or is
ignored in a URL. -/
structure IsPath (path : Text) : Prop where
  slash : path.head? = some (point '/')
  single : ¬text "//" <+: path
  plain : ∀ c ∈ path, c ∉ text "#?\t\r\n"

instance (path : Text) : Decidable (IsPath path) :=
  decidable_of_iff (path.head? = some (point '/') ∧ ¬text "//" <+: path ∧
      ∀ c ∈ path, c ∉ text "#?\t\r\n")
    ⟨fun ⟨hslash, hsingle, hplain⟩ => ⟨hslash, hsingle, hplain⟩,
      fun h => ⟨h.slash, h.single, h.plain⟩⟩

namespace IsPath

theorem ne_nil (h : IsPath path) : path ≠ [] := by
  rintro rfl
  cases h.slash

/-- Nothing in a path is ignored. -/
theorem filter_eq (h : IsPath path) : path.filter (!isIgnored ·) = path := by
  rw [List.filter_eq_self]
  intro c hc
  rw [Bool.not_eq_true', ← Bool.not_eq_true]
  intro hignored
  simp only [isIgnored, Bool.or_eq_true, decide_eq_true_eq] at hignored
  rcases hignored with (rfl | rfl) | rfl <;> exact h.plain _ hc (by decide)

theorem cleaned_eq (h : IsPath path) : cleaned path = path := by
  obtain ⟨rest, rfl⟩ := List.head?_eq_some_iff.mp h.slash
  have hslash : (!isIgnored (point '/')) = true := by decide
  rw [cleaned_cons (by decide), ← List.filter_cons_of_pos (p := (!isIgnored ·)) hslash, h.filter_eq]

theorem splitAuthority_eq (h : IsPath path) : splitAuthority path = (none, path) :=
  (splitAuthority_cases path).resolve_left fun ⟨rest, hpath⟩ => h.single ⟨rest, hpath.symm⟩

/-- Two slashes in front of a path are those of an authority that is empty. -/
theorem splitAuthority_slashes (h : IsPath path) :
    splitAuthority (text "//" ++ path) = (some [], path) := by
  obtain ⟨rest, rfl⟩ := List.head?_eq_some_iff.mp h.slash
  have hslash : ¬(!endsAuthority (point '/')) = true := by decide
  rw [splitAuthority_append, List.takeWhile_cons_of_neg (p := (!endsAuthority ·)) hslash,
    List.dropWhile_cons_of_neg (p := (!endsAuthority ·)) hslash]

/-- Neither a fragment nor a query is cut off a path. -/
theorem cut_eq (h : IsPath path) :
    (Text.cut (point '?') (Text.cut (point '#') path).1).1 = path := by
  rw [Text.cut_of_notMem fun hc => h.plain _ hc (by decide)]
  dsimp only
  rw [Text.cut_of_notMem fun hc => h.plain _ hc (by decide)]

/-- The parts of a scheme, a colon and a text that is split into an empty authority, or none, and a
path. -/
theorem partsOf_eq (h : IsPath path) (hscheme : isScheme scheme = true)
    (hafter : splitAuthority (after.filter (!isIgnored ·)) = (authority, path))
    (hauthority : authority.getD [] = []) :
    partsOf (scheme ++ point ':' :: after) = ⟨scheme.map CodePoint.asciiLower, [], path⟩ := by
  have hparts := partsOf_scheme hscheme after
  rw [hafter] at hparts
  rw [hparts, h.cut_eq, hauthority]

theorem partsOf_colon (h : IsPath path) (hscheme : isScheme scheme = true) :
    partsOf (scheme ++ text ":" ++ path) = ⟨scheme.map CodePoint.asciiLower, [], path⟩ := by
  have hafter : splitAuthority (path.filter (!isIgnored ·)) = (none, path) := by
    rw [h.filter_eq, h.splitAuthority_eq]
  rw [List.append_assoc]
  exact h.partsOf_eq hscheme hafter rfl

theorem partsOf_slashes (h : IsPath path) (hscheme : isScheme scheme = true) :
    partsOf (scheme ++ text "://" ++ path) = ⟨scheme.map CodePoint.asciiLower, [], path⟩ := by
  have hkept : (text "//").filter (!isIgnored ·) = text "//" := by decide
  have hafter : splitAuthority ((text "//" ++ path).filter (!isIgnored ·)) = (some [], path) := by
    rw [List.filter_append, hkept, h.filter_eq, h.splitAuthority_slashes]
  rw [List.append_assoc]
  exact h.partsOf_eq hscheme hafter rfl

theorem authority_eq (h : IsPath path) : (partsOf path).authority = [] := by
  rw [authority_of_not_hasScheme (not_hasScheme_of_slash h.slash)]
  apply leadingAuthority_eq_nil
  rw [h.cleaned_eq]
  exact h.single

end IsPath

theorem isScheme_ne_nil (h : isScheme scheme = true) : scheme ≠ [] := by
  rintro rfl
  cases h

end Url

namespace Endpoint

variable {path scheme url : Text}

/-- A URL of another scheme than that of TCP and without an authority is the path that it names. -/
theorem parse_namedPath (home : Text) (hscheme : (Url.partsOf url).scheme ≠ tcpScheme)
    (hauthority : (Url.partsOf url).authority = []) (hne : namedPath url ≠ []) :
    parse home (some url) = .ok ⟨url, .unix (namedPath url)⟩ := by
  have hcheck : Url.checkAuthority (Url.partsOf url).authority = .ok () := by
    rw [hauthority]
    rfl
  rw [parse_eq_ok_iff, Option.getD_some, addressOf_of_accepted hcheck, if_neg hscheme, if_neg hne]
  exact ⟨rfl, rfl⟩

theorem parse_schemed (home : Text) (hpath : Url.IsPath path) (hscheme : Url.isScheme scheme = true)
    (hother : scheme.map CodePoint.asciiLower ≠ tcpScheme)
    (hparts : Url.partsOf url = ⟨scheme.map CodePoint.asciiLower, [], path⟩) :
    parse home (some url) = .ok ⟨url, .unix path⟩ := by
  have hlower : scheme.map CodePoint.asciiLower ≠ [] := by
    simpa using Url.isScheme_ne_nil hscheme
  have hnamed : namedPath url = path := by
    rw [namedPath, hparts, if_neg hlower]
  have hother' : (Url.partsOf url).scheme ≠ tcpScheme := by
    rw [hparts]
    exact hother
  have hauthority : (Url.partsOf url).authority = [] := congrArg Url.Parts.authority hparts
  have hne : namedPath url ≠ [] := by
    rw [hnamed]
    exact hpath.ne_nil
  have hparse := parse_namedPath home hother' hauthority hne
  rwa [hnamed] at hparse

theorem parse_bare (home : Text) (hpath : Url.IsPath path) :
    parse home (some path) = .ok ⟨path, .unix path⟩ := by
  have hnone : (Url.partsOf path).scheme = [] :=
    Url.scheme_of_not_hasScheme (Url.not_hasScheme_of_slash hpath.slash)
  have hnamed : namedPath path = path := if_pos hnone
  have hother : (Url.partsOf path).scheme ≠ tcpScheme := by
    rw [hnone]
    exact tcpScheme_ne_nil.symm
  have hne : namedPath path ≠ [] := by
    rw [hnamed]
    exact hpath.ne_nil
  have hparse := parse_namedPath home hother hpath.authority_eq hne
  rwa [hnamed] at hparse

/-- The ways to write a path with and without a scheme. -/
def spellings (scheme path : Text) : List Text :=
  [scheme ++ text "://" ++ path, scheme ++ text ":" ++ path, path]

/-- A path on its own, behind a scheme and behind a scheme with two slashes is one and the same endpoint
of a Unix domain socket, whatever scheme it is but that of TCP and whatever the path holds but a
delimiter or what is ignored. -/
theorem parse_spellings (home : Text) (hpath : Url.IsPath path)
    (hscheme : Url.isScheme scheme = true)
    (hother : scheme.map CodePoint.asciiLower ≠ tcpScheme) :
    ∀ url ∈ spellings scheme path, ∃ e, parse home (some url) = .ok e ∧ e.url = url ∧
      e.scheme = unixScheme ∧ e.path? = some path ∧ e.address = .unix path ∧ e.label = path := by
  have hread : ∀ url ∈ spellings scheme path,
      parse home (some url) = .ok ⟨url, .unix path⟩ := by
    simp only [spellings, List.mem_cons, List.not_mem_nil, or_false]
    rintro url (rfl | rfl | rfl)
    · exact parse_schemed home hpath hscheme hother (hpath.partsOf_slashes hscheme)
    · exact parse_schemed home hpath hscheme hother (hpath.partsOf_colon hscheme)
    · exact parse_bare home hpath
  intro url hurl
  exact ⟨_, hread url hurl, rfl, rfl, rfl, rfl, rfl⟩

/-- A scheme with capitals and signs, and a path with a colon, an `@`, brackets, slashes further on, a
blank and half of a surrogate pair. -/
theorem parse_spellings_signs :
    let path : Text := text "/run:a@b/[c]//d " ++ [CodePoint.ofNat 0xD800]
    Url.IsPath path ∧ ∀ url ∈ spellings "Tcp+v1.-" path,
      ∃ e, parse "/" (some url) = .ok e ∧ e.url = url ∧ e.scheme = unixScheme ∧
        e.path? = some path ∧ e.address = .unix path ∧ e.label = path := by
  intro path
  have hpath : Url.IsPath path := by decide
  exact ⟨hpath, parse_spellings "/" hpath (by decide) (by decide)⟩

end Endpoint

end SupervisorRpc
