import SupervisorRpc.Proofs.Endpoint.Reading

/-! Paths in place of URLs.  A text without a scheme is the path of a socket as it stands, and so is the
path in the home directory.  The main statement says so of all such texts but those that begin with two
slashes: what comes behind these is checked as if it were an authority, and the text is refused if the
check fails. -/

namespace SupervisorRpc

namespace Url

variable {t : Text} {c : CodePoint}

/-- What stands between two slashes at the beginning of a text and the next delimiter. -/
def leadingAuthority (t : Text) : Text := (splitAuthority (cleaned t)).1.getD []

theorem authority_of_not_hasScheme (h : ∀ written, ¬HasScheme t written) :
    (partsOf t).authority = leadingAuthority t := by
  show (splitAuthority (splitScheme (cleaned t)).2).1.getD [] = _
  rw [splitScheme_of_not_hasScheme h, leadingAuthority]

theorem leadingAuthority_eq_nil (h : ¬text "//" <+: cleaned t) : leadingAuthority t = [] := by
  rw [leadingAuthority]
  rcases splitAuthority_cases (cleaned t) with ⟨rest, hslashes⟩ | hnone
  · exact absurd ⟨rest, hslashes.symm⟩ h
  · rw [hnone]
    rfl

/-- A text passes the check if it does not begin with two slashes, and also if it has no brackets and
nothing that is mistaken for a delimiter. -/
theorem checkAuthority_leadingAuthority (h : ¬text "//" <+: cleaned t ∨
      point '[' ∉ t ∧ point ']' ∉ t ∧ ∀ c ∈ t, c.val ∉ confusables) :
    checkAuthority (leadingAuthority t) = .ok () := by
  rcases h with hslashes | ⟨hopen, hclose, hplain⟩
  · rw [leadingAuthority_eq_nil hslashes]
    rfl
  · have hmem : ∀ c ∈ leadingAuthority t, c ∈ t := fun c hc =>
      (mem_cleaned (mem_splitAuthority hc).1).1
    exact checkAuthority_of_plain (mt (hmem _) hopen) (mt (hmem _) hclose) fun c hc =>
      hplain c (hmem c hc)

end Url

theorem Text.dropRightWhile_prefix (p : CodePoint → Bool) (t : Text) : dropRightWhile p t <+: t := by
  rw [dropRightWhile, ← List.reverse_suffix, List.reverse_reverse]
  exact List.dropWhile_suffix p

namespace Endpoint

variable {home : Text} {url : Option Text}

theorem head?_defaultSocketPath (h : home.head? = some (point '/')) :
    (defaultSocketPath home).head? = some (point '/') := by
  rw [defaultSocketPath]
  cases hdirectory : Text.dropRightWhile (· = point '/') home with
  | nil => rfl
  | cons c rest =>
    have hprefix := Text.dropRightWhile_prefix (· = point '/') home
    rw [hdirectory] at hprefix
    obtain ⟨ending, rfl⟩ := hprefix
    exact h

/-- A path stands in place of a URL: a text that is not empty and has no scheme, or no text at all, with a
home directory that begins with a slash. -/
def NamesPath (home : Text) : Option Text → Prop
  | some t => t ≠ [] ∧ ∀ written, ¬Url.HasScheme t written
  | none => home.head? = some (point '/')

theorem NamesPath.not_hasScheme (h : NamesPath home url) :
    url.getD (defaultSocketPath home) ≠ [] ∧
      ∀ written, ¬Url.HasScheme (url.getD (defaultSocketPath home)) written := by
  cases url with
  | some t => exact h
  | none =>
    have hhead := head?_defaultSocketPath h
    refine ⟨?_, Url.not_hasScheme_of_slash hhead⟩
    intro hnil
    rw [Option.getD_none] at hnil
    rw [hnil] at hhead
    cases hhead

/-- A path is kept as it stands, whatever it holds, as the path, the address and the label of an endpoint
of a Unix domain socket, unless it begins with two slashes and what is between them and the next
delimiter is refused as an authority.  Without brackets and code points that are mistaken for delimiters
it is not. -/
theorem parse_path (h : NamesPath home url) :
    let given := url.getD (defaultSocketPath home)
    (match Url.checkAuthority (Url.leadingAuthority given) with
      | .ok _ => ∃ e, parse home url = .ok e ∧ e.scheme = unixScheme ∧ e.path? = some given ∧
          e.address = .unix given ∧ e.label = given
      | .error err => parse home url = .error (.url err)) ∧
    (¬text "//" <+: Url.cleaned given ∨
        point '[' ∉ given ∧ point ']' ∉ given ∧ (∀ c ∈ given, c.val ∉ Url.confusables) →
      Url.checkAuthority (Url.leadingAuthority given) = .ok ()) := by
  intro given
  obtain ⟨hne, hscheme⟩ := h.not_hasScheme
  have hauthority := Url.authority_of_not_hasScheme hscheme
  have hnil : (Url.partsOf given).scheme = [] := Url.scheme_of_not_hasScheme hscheme
  refine ⟨?_, Url.checkAuthority_leadingAuthority⟩
  cases hcheck : Url.checkAuthority (Url.leadingAuthority given) with
  | error err =>
    have haddress : addressOf given = .error (.url err) :=
      addressOf_of_refused (hauthority ▸ hcheck)
    show (addressOf given).map _ = _
    rw [haddress]
    rfl
  | ok _ =>
    have hpath : namedPath given = given := if_pos hnil
    have hother : (Url.partsOf given).scheme ≠ tcpScheme := by
      rw [hnil]
      exact tcpScheme_ne_nil.symm
    have haddress : addressOf given = .ok (.unix given) := by
      rw [addressOf_of_accepted (hauthority ▸ hcheck), if_neg hother, hpath, if_neg hne]
    exact ⟨⟨given, .unix given⟩, parse_eq_ok_iff.mpr ⟨rfl, haddress⟩, rfl, rfl, rfl, rfl⟩

/-- Two slashes, delimiters, a blank, a tab, brackets and a letter beyond ASCII. -/
theorem parse_path_slashes :
    let path : Text := "//run#?[ \té"
    NamesPath "/" (some path) ∧
      ∃ e, parse "/" (some path) = .ok e ∧ e.scheme = unixScheme ∧ e.path? = some path ∧
        e.address = .unix path ∧ e.label = path := by
  intro path
  have hpath : NamesPath "/" (some path) := ⟨by decide, Url.not_hasScheme_of_slash rfl⟩
  have hparse := (parse_path hpath).1
  have hcheck : Url.checkAuthority (Url.leadingAuthority path) = .ok () := by decide +kernel
  rw [Option.getD_some, hcheck] at hparse
  exact ⟨hpath, hparse⟩

/-- A bracket behind two slashes, in a path and in the name of the home directory. -/
theorem parse_path_refused :
    (NamesPath "/" (some "//[run/gonit.sock") ∧
        parse "/" (some "//[run/gonit.sock") = .error (.url .brackets)) ∧
      NamesPath "//[srv" none ∧ parse "//[srv" none = .error (.url .brackets) :=
  ⟨⟨⟨by decide, Url.not_hasScheme_of_slash rfl⟩, by decide +kernel⟩, rfl, by decide +kernel⟩

end Endpoint

end SupervisorRpc
