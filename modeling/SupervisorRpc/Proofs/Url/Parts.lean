import Mathlib.Data.List.TakeWhile
import SupervisorRpc.Proofs.Text.Cutting
import SupervisorRpc.Proofs.Text.Points
import SupervisorRpc.Url.Basic

/-! What a URL is taken apart to.  `Url.partsOf` gives its parts, and `Url.checkAuthority` decides
whether the authority among them is accepted: nothing else makes a URL fail.  The main statements say
which scheme a URL has, and which parts a URL has that is written part by part. -/

namespace SupervisorRpc

namespace Url

variable {url written authority tail : Text} {c : CodePoint}

/-- The parts of a URL, whether or not its authority is accepted. -/
def partsOf (url : Text) : Parts :=
  let (scheme, afterScheme) := splitScheme (cleaned url)
  let (authority?, afterAuthority) := splitAuthority afterScheme
  ⟨scheme, authority?.getD [], (Text.cut (point '?') (Text.cut (point '#') afterAuthority).1).1⟩

/-- What an authority has to pass. -/
def checkAuthority (authority : Text) : Except Error Unit := do
  checkBrackets authority
  checkConfusables authority

theorem split_eq (url : Text) :
    split url = (checkAuthority (partsOf url).authority).map fun _ => partsOf url := by
  rw [split, checkAuthority, partsOf]
  dsimp only
  cases checkBrackets ((splitAuthority (splitScheme (cleaned url)).2).1.getD []) with
  | error e => rfl
  | ok _ =>
    cases checkConfusables ((splitAuthority (splitScheme (cleaned url)).2).1.getD []) <;> rfl

/-! ### The scheme -/

/-- `written` stands as a scheme in front of the first colon of a URL. -/
def HasScheme (url written : Text) : Prop :=
  isScheme written = true ∧ ∃ after, cleaned url = written ++ point ':' :: after

theorem isSchemePoint_of_mem (h : isScheme written = true) (hc : c ∈ written) :
    isSchemePoint c = true := by
  rw [isScheme, Bool.and_eq_true] at h
  exact List.all_eq_true.mp h.2 c hc

theorem colon_notMem_scheme (h : isScheme written = true) : point ':' ∉ written := fun hc =>
  absurd (isSchemePoint_of_mem h hc) (by decide)

theorem splitScheme_append (h : isScheme written = true) (after : Text) :
    splitScheme (written ++ point ':' :: after) = (written.map CodePoint.asciiLower, after) := by
  rw [splitScheme, Text.cut_append (colon_notMem_scheme h)]
  exact if_pos h

theorem splitScheme_of_schemeless {t : Text}
    (h : ∀ written after, isScheme written = true → t ≠ written ++ point ':' :: after) :
    splitScheme t = ([], t) := by
  rw [splitScheme]
  rcases Text.cut_cases (point ':') t with ⟨-, hcut⟩ | ⟨before, after, -, ht, hcut⟩
  · rw [hcut]
  · rw [hcut]
    exact if_neg fun hscheme => h before after hscheme ht

theorem scheme_of_hasScheme (h : HasScheme url written) :
    (partsOf url).scheme = written.map CodePoint.asciiLower := by
  obtain ⟨hscheme, after, hcleaned⟩ := h
  show (splitScheme (cleaned url)).1 = _
  rw [hcleaned, splitScheme_append hscheme]

theorem splitScheme_of_not_hasScheme (h : ∀ written, ¬HasScheme url written) :
    splitScheme (cleaned url) = ([], cleaned url) :=
  splitScheme_of_schemeless fun written after hscheme hcleaned =>
    h written ⟨hscheme, after, hcleaned⟩

theorem scheme_of_not_hasScheme (h : ∀ written, ¬HasScheme url written) :
    (partsOf url).scheme = [] :=
  congrArg Prod.fst (splitScheme_of_not_hasScheme h)

/-- The scheme of a URL is the one that is written, in lower case. -/
theorem scheme_eq_iff {scheme : Text} (h : scheme ≠ []) : (partsOf url).scheme = scheme ↔
    ∃ written, HasScheme url written ∧ written.map CodePoint.asciiLower = scheme := by
  constructor
  · intro hscheme
    by_cases hwritten : ∃ written, HasScheme url written
    · obtain ⟨written, hwritten⟩ := hwritten
      exact ⟨written, hwritten, (scheme_of_hasScheme hwritten).symm.trans hscheme⟩
    · have hnone := scheme_of_not_hasScheme (not_exists.mp hwritten)
      exact absurd (hscheme.symm.trans hnone) h
  · rintro ⟨written, hwritten, rfl⟩
    exact scheme_of_hasScheme hwritten

/-! ### The authority -/

theorem splitAuthority_append (rest : Text) :
    splitAuthority (text "//" ++ rest) =
      (some (rest.takeWhile (!endsAuthority ·)), rest.dropWhile (!endsAuthority ·)) :=
  rfl

theorem splitAuthority_cases (t : Text) :
    (∃ rest, t = text "//" ++ rest) ∨ splitAuthority t = (none, t) := by
  match t with
  | [] | [_] => exact .inr rfl
  | a :: b :: rest =>
    by_cases h : a = point '/' ∧ b = point '/'
    · obtain ⟨rfl, rfl⟩ := h
      exact .inl ⟨rest, rfl⟩
    · exact .inr (if_neg h)

theorem mem_splitAuthority {t : Text} (h : c ∈ (splitAuthority t).1.getD []) :
    c ∈ t ∧ endsAuthority c = false := by
  rcases splitAuthority_cases t with ⟨rest, rfl⟩ | hnone
  · rw [splitAuthority_append] at h
    have hrest : c ∈ rest := (List.takeWhile_prefix _).subset h
    have hends := List.mem_takeWhile_imp h
    exact ⟨List.mem_append_right _ hrest, by simpa using hends⟩
  · rw [hnone] at h
    cases h

theorem mem_splitScheme {t : Text} (h : c ∈ (splitScheme t).2) : c ∈ t := by
  rw [splitScheme] at h
  rcases Text.cut_cases (point ':') t with ⟨-, hcut⟩ | ⟨before, after, -, ht, hcut⟩
  · rwa [hcut] at h
  · rw [hcut] at h
    dsimp only at h
    split at h
    · rw [ht]
      exact List.mem_append_right _ (List.mem_cons_of_mem _ h)
    · exact h

theorem mem_cleaned (h : c ∈ cleaned url) : c ∈ url ∧ isIgnored c = false := by
  obtain ⟨hmem, hkept⟩ := List.mem_filter.mp h
  exact ⟨(List.dropWhile_suffix _).subset hmem, by simpa using hkept⟩

/-- No delimiter ends up in an authority, and nothing that is ignored in a URL. -/
theorem mem_authority (h : c ∈ (partsOf url).authority) :
    endsAuthority c = false ∧ isIgnored c = false := by
  have hsplit : c ∈ (splitAuthority (splitScheme (cleaned url)).2).1.getD [] := h
  obtain ⟨hmem, hends⟩ := mem_splitAuthority hsplit
  exact ⟨hends, (mem_cleaned (mem_splitScheme hmem)).2⟩

/-! ### URLs that are written part by part -/

theorem not_isIgnored_of_lt (h : 0x20 < c.val) : isIgnored c = false := by
  rw [← Bool.not_eq_true]
  intro hignored
  simp only [isIgnored, Bool.or_eq_true, decide_eq_true_eq] at hignored
  rcases hignored with (rfl | rfl) | rfl <;> exact absurd h (by decide)

theorem lt_of_isSchemePoint (h : isSchemePoint c = true) : 0x20 < c.val := by
  have hsigns : ∀ c ∈ text "+-.", 0x20 < c.val := by decide
  simp only [isSchemePoint, CodePoint.isAsciiLetter, Bool.or_eq_true, decide_eq_true_eq] at h
  rcases h with ((h | h) | h) | h
  · exact Nat.lt_of_lt_of_le (by decide) (CodePoint.within_iff.mp h).1
  · exact Nat.lt_of_lt_of_le (by decide) (CodePoint.within_iff.mp h).1
  · exact Nat.lt_of_lt_of_le (by decide) (CodePoint.within_iff.mp h).1
  · exact hsigns c h

theorem not_isIgnored_of_endsAuthority (h : endsAuthority c = true) : isIgnored c = false := by
  simp only [endsAuthority, Bool.or_eq_true, decide_eq_true_eq] at h
  rcases h with (rfl | rfl) | rfl <;> decide

theorem cleaned_cons (h : 0x20 < c.val) (rest : Text) :
    cleaned (c :: rest) = c :: rest.filter (!isIgnored ·) := by
  rw [cleaned, List.dropWhile_cons_of_neg (by simpa using h),
    List.filter_cons_of_pos (by simp [not_isIgnored_of_lt h])]

theorem cleaned_scheme (h : isScheme written = true) (after : Text) :
    cleaned (written ++ point ':' :: after) =
      written ++ point ':' :: after.filter (!isIgnored ·) := by
  have hlt : ∀ c ∈ written, 0x20 < c.val := fun c hc =>
    lt_of_isSchemePoint (isSchemePoint_of_mem h hc)
  cases written with
  | nil => cases h
  | cons first rest =>
    obtain ⟨hfirst, hrest⟩ := List.forall_mem_cons.mp hlt
    have hkept : rest.filter (!isIgnored ·) = rest := by
      rw [List.filter_eq_self]
      intro c hc
      rw [not_isIgnored_of_lt (hrest c hc)]
      rfl
    rw [List.cons_append, cleaned_cons hfirst, List.filter_append, hkept]
    rfl

/-- A text that begins with a slash has no scheme. -/
theorem not_hasScheme_of_slash (h : url.head? = some (point '/')) (written : Text) :
    ¬HasScheme url written := by
  rintro ⟨hscheme, after, hcleaned⟩
  obtain ⟨rest, rfl⟩ := List.head?_eq_some_iff.mp h
  rw [cleaned_cons (by decide)] at hcleaned
  cases written with
  | nil => cases hscheme
  | cons first others =>
    obtain ⟨rfl, -⟩ := List.cons.inj hcleaned
    exact absurd (isSchemePoint_of_mem hscheme List.mem_cons_self) (by decide)

/-- The parts of a URL that begins with a scheme. -/
theorem partsOf_scheme (h : isScheme written = true) (after : Text) :
    let (authority?, afterAuthority) := splitAuthority (after.filter (!isIgnored ·))
    partsOf (written ++ point ':' :: after) = ⟨written.map CodePoint.asciiLower, authority?.getD [],
      (Text.cut (point '?') (Text.cut (point '#') afterAuthority).1).1⟩ := by
  rw [partsOf, cleaned_scheme h, splitScheme_append h]

/-- The scheme and the authority of a URL that has them in front of a tail: what comes behind an
authority begins with a delimiter. -/
theorem partsOf_authority (hscheme : isScheme written = true)
    (hauthority : ∀ c ∈ authority, endsAuthority c = false ∧ isIgnored c = false)
    (htail : ∀ c ∈ tail.head?, endsAuthority c = true) :
    (partsOf (written ++ text "://" ++ authority ++ tail)).scheme =
        written.map CodePoint.asciiLower ∧
      (partsOf (written ++ text "://" ++ authority ++ tail)).authority = authority := by
  have hurl : written ++ text "://" ++ authority ++ tail =
      written ++ point ':' :: (text "//" ++ (authority ++ tail)) := by
    simp only [List.append_assoc]
    rfl
  have hkept : authority.filter (!isIgnored ·) = authority := by
    rw [List.filter_eq_self]
    intro c hc
    rw [(hauthority c hc).2]
    rfl
  -- What begins the tail is a delimiter and so is not ignored: the authority cannot run on behind it.
  have hstops : (tail.filter (!isIgnored ·)).takeWhile (!endsAuthority ·) = [] := by
    cases tail with
    | nil => rfl
    | cons c rest =>
      have hc : endsAuthority c = true := htail c rfl
      rw [List.filter_cons_of_pos (by simp [not_isIgnored_of_endsAuthority hc]),
        List.takeWhile_cons_of_neg (by simp [hc])]
  have hall : ∀ c ∈ authority, (!endsAuthority c) = true := fun c hc => by
    rw [(hauthority c hc).1]
    rfl
  have hparts := partsOf_scheme hscheme (text "//" ++ (authority ++ tail))
  rw [List.filter_append, List.filter_append, hkept] at hparts
  have hslashes : (text "//").filter (!isIgnored ·) = text "//" := by decide
  rw [hslashes, splitAuthority_append, List.takeWhile_append_of_pos hall, hstops,
    List.append_nil] at hparts
  rw [hurl, hparts]
  exact ⟨rfl, rfl⟩

end Url

end SupervisorRpc
