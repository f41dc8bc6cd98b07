import SupervisorRpc.Method.Catalogue
import SupervisorRpc.Method.Name
import SupervisorRpc.Proofs.Text.Case
import SupervisorRpc.Proofs.Text.Cutting

/-! Method names in PascalCase.  A name is put in it segment by segment, no underscore is left, and a name
in PascalCase stands for itself.  Names in snake case lose nothing: `Method.snakeCase` gives them back.
`Method.Snake` says which names these are; the known methods are among them. -/

namespace SupervisorRpc

namespace Method

/-! ### PascalCase -/

theorem pascalCase_append (a b : Text) :
    pascalCase (a ++ point '_' :: b) = pascalCase a ++ pascalCase b := by
  rw [pascalCase, Text.segments_append, List.flatMap_append]
  rfl

theorem pascalCase_of_notMem {name : Text} (h : point '_' ∉ name) :
    pascalCase name = capitalized name := by
  rw [pascalCase, Text.segments_of_notMem h, List.flatMap_singleton]

theorem underscore_notMem_capitalized {segment : Text} (h : point '_' ∉ segment) :
    point '_' ∉ capitalized segment := by
  cases segment with
  | nil => exact h
  | cons c rest =>
    obtain ⟨hc, hrest⟩ : point '_' ≠ c ∧ point '_' ∉ rest := by simpa using h
    rw [capitalized, List.mem_append, not_or]
    refine ⟨fun hmem => ?_, hrest⟩
    rcases CodePoint.mem_upper hmem with heq | hupper | hwide
    · exact hc heq
    · exact absurd hupper (by decide)
    · exact absurd hwide (by decide)

theorem underscore_notMem_pascalCase (name : Text) : point '_' ∉ pascalCase name := by
  intro hmem
  obtain ⟨segment, hsegment, hmem⟩ := List.mem_flatMap.mp hmem
  exact underscore_notMem_capitalized (Text.notMem_of_mem_segments hsegment) hmem

/-- A name in PascalCase begins in upper case, also where the upper case of a letter is more than one
code point. -/
theorem upper_head?_pascalCase (name : Text) : ∀ c ∈ (pascalCase name).head?, c.upper = [c] := by
  rw [pascalCase]
  generalize Text.segments (point '_') name = pieces
  induction pieces with
  | nil => simp
  | cons piece pieces ih =>
    cases piece with
    | nil => exact ih
    | cons c rest =>
      obtain ⟨d, more, hupper, hd⟩ := c.upper_head
      intro e he
      obtain rfl : d = e := by simpa [capitalized, hupper] using he
      exact hd

theorem capitalized_of_upper {segment : Text} (h : ∀ c ∈ segment.head?, c.upper = [c]) :
    capitalized segment = segment := by
  cases segment with
  | nil => rfl
  | cons c rest =>
    rw [capitalized, h c rfl]
    rfl

theorem pascalCase_pascalCase (name : Text) : pascalCase (pascalCase name) = pascalCase name := by
  rw [pascalCase_of_notMem (underscore_notMem_pascalCase name)]
  exact capitalized_of_upper (upper_head?_pascalCase name)

/-- A sharp s and a ligature become two letters, and a digraph becomes the one in upper case. -/
example : pascalCase "ß_ﬁx_ǆa" = "SSFIxǄa" ∧ pascalCase "SSFIxǄa" = "SSFIxǄa" := by decide +kernel

/-- What begins in lower case is not in PascalCase. -/
theorem pascalCase_ne {t : Text} (h : ∃ c ∈ t.head?, c.upper ≠ [c]) (name : Text) :
    pascalCase name ≠ t := by
  rintro rfl
  obtain ⟨c, hc, hupper⟩ := h
  exact hupper (upper_head?_pascalCase name c hc)

/-- The known methods begin in lower case, so that no name in PascalCase is one of them. -/
theorem arity?_pascalCase (name : Text) : arity? (pascalCase name) = none := by
  have hlower : ∀ entry ∈ catalogue, ∃ c ∈ entry.1.head?, c.upper ≠ [c] := by decide +kernel
  rw [arity?, List.lookup_eq_none_iff]
  intro entry hentry
  exact bne_iff_ne.mpr (pascalCase_ne (hlower entry hentry) name)

/-! ### Snake case -/

/-- A word of ASCII: a small letter, and then small letters and digits. -/
def IsWord : Text → Prop
  | [] => False
  | c :: rest => c.isAsciiLower = true ∧ ∀ d ∈ rest, d.isAsciiLower = true ∨ d.isAsciiDigit = true

instance : DecidablePred IsWord
  | [] => inferInstanceAs (Decidable False)
  | c :: rest => inferInstanceAs (Decidable
      (c.isAsciiLower = true ∧ ∀ d ∈ rest, d.isAsciiLower = true ∨ d.isAsciiDigit = true))

/-- A name in snake case: one or more words with an underscore between each two. -/
def Snake (name : Text) : Prop :=
  ∃ words, words ≠ [] ∧ (∀ word ∈ words, IsWord word) ∧ name = Text.join [point '_'] words

/-- `t` with an underscore before every capital and the capital in lower case, but no underscore before
the first capital unless there were some already, as `begun` says. -/
def snakeFrom (begun : Bool) : Text → Text
  | [] => []
  | c :: rest =>
    if c.isAsciiUpper then
      (if begun then [point '_'] else []) ++ c.asciiLower :: snakeFrom true rest
    else c :: snakeFrom begun rest

/-- A name in PascalCase with an underscore before every capital but the first, and the capitals in
lower case. -/
def snakeCase (name : Text) : Text := snakeFrom false name

theorem IsWord.ascii {word : Text} (h : IsWord word) {c : CodePoint} (hc : c ∈ word) :
    c.isAsciiLower = true ∨ c.isAsciiDigit = true := by
  cases word with
  | nil => cases hc
  | cons d rest =>
    rcases List.mem_cons.mp hc with rfl | hc
    · exact .inl h.1
    · exact h.2 c hc

theorem IsWord.underscore_notMem {word : Text} (h : IsWord word) : point '_' ∉ word := fun hmem =>
  absurd (h.ascii hmem) (by decide)

theorem segments_join_words {words : List Text} (hne : words ≠ []) (h : ∀ word ∈ words, IsWord word) :
    Text.segments (point '_') (Text.join [point '_'] words) = words :=
  Text.segments_join hne fun word hword => (h word hword).underscore_notMem

theorem snake_iff {name : Text} :
    Snake name ↔ ∀ word ∈ Text.segments (point '_') name, IsWord word := by
  constructor
  · rintro ⟨words, hne, hwords, rfl⟩
    rwa [segments_join_words hne hwords]
  · intro h
    exact ⟨_, Text.segments_ne_nil _ _, h, (Text.join_segments _ _).symm⟩

instance : DecidablePred Snake := fun _ => decidable_of_iff _ snake_iff.symm

theorem IsWord.isAscii_capitalized {word : Text} (h : IsWord word) :
    ∀ c ∈ capitalized word, c.isAscii = true := by
  have hascii : ∀ {c : CodePoint} {lo hi : Nat}, hi < 0x80 → c.within lo hi = true →
      c.isAscii = true := fun hhi hc =>
    CodePoint.isAscii_iff.mpr (Nat.lt_of_le_of_lt (CodePoint.within_iff.mp hc).2 hhi)
  cases word with
  | nil => exact h.elim
  | cons d rest =>
    obtain ⟨capital, hupper, hcapital, -⟩ := CodePoint.upper_of_isAsciiLower h.1
    intro c hc
    rw [capitalized, hupper, List.singleton_append] at hc
    rcases List.mem_cons.mp hc with rfl | hc
    · exact hascii (by decide) hcapital
    · rcases h.2 c hc with hsmall | hdigit
      · exact hascii (by decide) hsmall
      · exact hascii (by decide) hdigit

theorem Snake.isAscii_pascalCase {name : Text} (h : Snake name) :
    ∀ c ∈ pascalCase name, c.isAscii = true := by
  obtain ⟨words, hne, hwords, rfl⟩ := h
  rw [pascalCase, segments_join_words hne hwords]
  intro c hc
  obtain ⟨word, hword, hc⟩ := List.mem_flatMap.mp hc
  exact (hwords word hword).isAscii_capitalized c hc

theorem snakeFrom_append {begun : Bool} {t : Text} (h : ∀ c ∈ t, c.isAsciiUpper = false)
    (u : Text) : snakeFrom begun (t ++ u) = t ++ snakeFrom begun u := by
  induction t with
  | nil => rfl
  | cons c t ih =>
    obtain ⟨hc, ht⟩ := List.forall_mem_cons.mp h
    rw [List.cons_append, snakeFrom, if_neg (by simp [hc]), ih ht, List.cons_append]

/-- A capitalized word is read back as the word, behind an underscore unless it is the first. -/
theorem snakeFrom_capitalized {word : Text} (h : IsWord word) (begun : Bool) (t : Text) :
    snakeFrom begun (capitalized word ++ t) =
      (if begun then [point '_'] else []) ++ word ++ snakeFrom true t := by
  cases word with
  | nil => exact h.elim
  | cons c rest =>
    obtain ⟨d, hupper, hcapital, hlower⟩ := CodePoint.upper_of_isAsciiLower h.1
    have hrest : ∀ e ∈ rest, e.isAsciiUpper = false := by
      intro e he
      rw [← Bool.not_eq_true, CodePoint.isAsciiUpper, CodePoint.within_iff]
      rcases h.2 e he with hsmall | hdigit
      · have := CodePoint.within_iff.mp hsmall
        omega
      · have := CodePoint.isAsciiDigit_iff.mp hdigit
        omega
    rw [capitalized, hupper, List.singleton_append, List.cons_append, snakeFrom, if_pos hcapital,
      hlower, snakeFrom_append hrest]
    simp

theorem snakeFrom_words {words : List Text} (h : ∀ word ∈ words, IsWord word) :
    snakeFrom true (words.flatMap capitalized) = words.flatMap (point '_' :: ·) := by
  induction words with
  | nil => rfl
  | cons word words ih =>
    obtain ⟨hword, hwords⟩ := List.forall_mem_cons.mp h
    rw [List.flatMap_cons, snakeFrom_capitalized hword, ih hwords, List.flatMap_cons]
    simp

/-- A name in snake case is read back from PascalCase. -/
theorem snakeCase_pascalCase {name : Text} (h : Snake name) : snakeCase (pascalCase name) = name := by
  obtain ⟨words, hne, hwords, rfl⟩ := h
  rw [pascalCase, segments_join_words hne hwords]
  cases words with
  | nil => exact absurd rfl hne
  | cons word words =>
    obtain ⟨hword, hwords⟩ := List.forall_mem_cons.mp hwords
    rw [List.flatMap_cons, snakeCase, snakeFrom_capitalized hword, snakeFrom_words hwords,
      Text.join_cons]
    simp

/-- Words that begin with a digit, and empty words, cannot be told any more. -/
example : pascalCase "a_1" = pascalCase "a1" ∧ pascalCase "a__b" = pascalCase "a_b" := by
  decide +kernel

theorem snake_of_arity? {name : Text} {arity : Nat} (h : arity? name = some arity) : Snake name := by
  have hsnake : ∀ entry ∈ catalogue, Snake entry.1 := by decide +kernel
  obtain ⟨before, after, hcatalogue, -⟩ := List.lookup_eq_some_iff.mp h
  exact hsnake (name, arity) (by simp [hcatalogue])

end Method

end SupervisorRpc
