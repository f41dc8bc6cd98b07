import SupervisorRpc.Options.Parse

/-! Reading command lines, one option after the other.  `Grammar.Stands` says that arguments stand for a
setting, however the command line goes on behind them.  From options that stand for their settings a
whole command line is read, with a command and its arguments behind them or with a target among them. -/

namespace SupervisorRpc

namespace Options

variable {κ : Type} {g : Grammar κ}

/-- The tokens are what their arguments are classified as. -/
def Grammar.Classified (g : Grammar κ) (tokens : List (Text × Token κ)) : Prop :=
  ∀ t ∈ tokens, t.1 ≠ separator ∧ g.classify t.1 = .ok t.2

theorem Grammar.Classified.append {first second : List (Text × Token κ)}
    (hfirst : g.Classified first) (hsecond : g.Classified second) :
    g.Classified (first ++ second) := by
  intro t ht
  rcases List.mem_append.mp ht with ht | ht
  · exact hfirst t ht
  · exact hsecond t ht

theorem Grammar.Classified.tokens_eq {tokens : List (Text × Token κ)} (h : g.Classified tokens) :
    g.tokens (tokens.map Prod.fst) = .ok tokens := by
  induction tokens with
  | nil => rfl
  | cons t tokens ih =>
    obtain ⟨⟨hseparator, hclassify⟩, hrest⟩ := List.forall_mem_cons.mp h
    rw [List.map_cons, Grammar.tokens, if_neg hseparator, hclassify]
    simp only [ih hrest]
    rfl

/-- Before the separator nothing is classified as one. -/
theorem Grammar.classify_ne_separator (g : Grammar κ) (arg : Text) :
    g.classify arg ≠ .ok .separator := by
  unfold Grammar.classify
  dsimp only
  repeat' split
  all_goals simp

theorem Grammar.Classified.isSeparator {tokens : List (Text × Token κ)} (h : g.Classified tokens) :
    ∀ t ∈ tokens, isSeparator t = false := by
  intro t ht
  obtain ⟨-, hclassify⟩ := h t ht
  obtain ⟨arg, token⟩ := t
  cases token with
  | separator => exact absurd hclassify (g.classify_ne_separator arg)
  | plain | option => rfl

theorem Grammar.Classified.takeWhile_isSeparator {tokens : List (Text × Token κ)}
    (h : g.Classified tokens) : tokens.takeWhile Options.isSeparator = [] := by
  cases tokens with
  | nil => rfl
  | cons t tokens =>
    have ht := h.isSeparator t List.mem_cons_self
    rw [List.takeWhile_cons_of_neg (by simp [ht])]

theorem Grammar.classify_plain {arg : Text} (h : arg.head? ≠ some (point '-')) :
    g.classify arg = .ok .plain := if_pos h

theorem ne_separator_of_head? {arg : Text} (h : arg.head? ≠ some (point '-')) :
    arg ≠ separator := by
  rintro rfl
  exact h rfl

theorem Grammar.classify_name {name : Text} {spec : Spec κ} (hhead : name.head? = some (point '-'))
    (hfind : g.find? name = some spec) :
    g.classify name = .ok (.option ⟨some spec, name, none⟩) := by
  rw [Grammar.classify, if_neg (not_not_intro hhead), hfind]

/-- A name with a value behind an equals sign, where no name has an equals sign in it. -/
theorem Grammar.classify_joined {name : Text} {spec : Spec κ}
    (hhead : name.head? = some (point '-')) (hfind : g.find? name = some spec)
    (hnames : ∀ spec ∈ g.options, ∀ name ∈ spec.names, point '=' ∉ name) (value : Text) :
    g.classify (name ++ point '=' :: value) = .ok (.option ⟨some spec, name, some value⟩) := by
  have hspec : spec ∈ g.options ∧ name ∈ spec.names := by
    rw [Grammar.find?, List.find?_eq_some_iff_append] at hfind
    obtain ⟨hname, before, after, hoptions, -⟩ := hfind
    rw [hoptions]
    exact ⟨List.mem_append_right _ List.mem_cons_self, of_decide_eq_true hname⟩
  have hnone : g.find? (name ++ point '=' :: value) = none := by
    rw [Grammar.find?, List.find?_eq_none]
    intro spec hspec hmem
    exact hnames spec hspec _ (of_decide_eq_true hmem) (by simp)
  have hne : name ≠ [] := by
    rintro rfl
    cases hhead
  have hhead' : (name ++ point '=' :: value).head? = some (point '-') := by
    rw [List.head?_append, hhead]
    rfl
  have hlength : (name ++ point '=' :: value).length ≠ 1 := by
    have hpos := List.length_pos_iff.mpr hne
    rw [List.length_append, List.length_cons]
    omega
  have hcut : cutValue (name ++ point '=' :: value) = (name, some value) :=
    Text.cut_append (hnames spec hspec.1 _ hspec.2) value
  rw [Grammar.classify, if_neg (not_not_intro hhead'), hnone]
  dsimp only
  rw [if_neg hlength, hcut, Option.bind_some, hfind]

/-- What was read, with settings in front of it. -/
def Parsed.after (before : List (Setting κ)) (p : Parsed κ) : Parsed κ :=
  { p with settings := before ++ p.settings }

theorem Parsed.after_settings (before settings : List (Setting κ)) (p : Parsed κ) :
    { p.after before with settings := (p.after before).settings ++ settings } =
      ({ p with settings := p.settings ++ settings } : Parsed κ).after before := by
  simp [after]

variable [DecidableEq κ]

theorem Grammar.readFrom_nil (g : Grammar κ) (fuel : Nat) (pending : Option Positional)
    (read : Parsed κ) : g.readFrom fuel pending [] read = .ok read := by
  cases fuel <;> rfl

theorem Grammar.readFrom_option {arg name : Text} {value : Option Text} {spec : Spec κ}
    {rest rest' : List (Text × Token κ)} {setting : Setting κ}
    (htake : g.take spec ⟨some spec, name, value⟩ rest = .ok ([setting], rest'))
    (hfinal : g.isFinal setting = false) (fuel : Nat) (pending : Option Positional)
    (read : Parsed κ) :
    g.readFrom (fuel + 1) pending ((arg, .option ⟨some spec, name, value⟩) :: rest) read =
      g.readFrom fuel pending rest' { read with settings := read.settings ++ [setting] } := by
  rw [Grammar.readFrom]
  simp only [htake, List.any_cons, hfinal, List.any_nil, Bool.or_self, Bool.false_eq_true,
    if_false]

/-- A positional argument takes the plain argument that it meets, and `count` arguments after it. -/
theorem Grammar.readFrom_plain {p : Positional} {arg : Text} {rest : List (Text × Token κ)}
    {count : Nat} (htakes : p.takes ((arg, .plain) :: rest) = count + 1) (fuel : Nat)
    (read : Parsed κ) :
    g.readFrom (fuel + 1) (some p) ((arg, .plain) :: rest) read =
      g.readFrom fuel none (rest.drop count)
        { read with positional := some (arg :: (rest.take count).map Prod.fst) } := by
  rw [Grammar.readFrom]
  · simp [htakes]
  · exact List.cons_ne_nil _ _
  · intro arg use rest' h
    cases h

/-- Arguments stand for a setting: they are read as it, whatever follows them. -/
def Grammar.Stands (g : Grammar κ) (words : List Text) (setting : Setting κ) : Prop :=
  ∃ tokens, tokens.map Prod.fst = words ∧ g.Classified tokens ∧
    ∀ fuel pending rest read, g.readFrom (fuel + 1) pending (tokens ++ rest) read =
      g.readFrom fuel pending rest { read with settings := read.settings ++ [setting] }

/-- The name is that of an option with the key; `valued` says whether the option takes a value. -/
def Grammar.Names (g : Grammar κ) (name : Text) (key : κ) (valued : Bool) : Prop :=
  name.head? = some (point '-') ∧ name ≠ separator ∧
    ∃ spec, g.find? name = some spec ∧ spec.key = key ∧ spec.metavar.isSome = valued

variable {name : Text} {key : κ}

theorem Grammar.stands_flag (h : g.Names name key false) (hfinal : g.isFinal (.flag key) = false) :
    g.Stands [name] (.flag key) := by
  obtain ⟨hhead, hname, spec, hfind, rfl, hmetavar⟩ := h
  refine ⟨[(name, .option ⟨some spec, name, none⟩)], rfl, ?_, ?_⟩
  · intro t ht
    rw [List.mem_singleton.mp ht]
    exact ⟨hname, Grammar.classify_name hhead hfind⟩
  · intro fuel pending rest read
    apply Grammar.readFrom_option _ hfinal
    have hnone : spec.metavar.isNone = true := by simpa using hmetavar
    simp [Grammar.take, Spec.take, hnone, Except.map]

theorem Grammar.stands_value (h : g.Names name key true) {value : Text}
    (hvalue : value.head? ≠ some (point '-')) :
    g.Stands [name, value] (.value key (some value)) := by
  obtain ⟨hhead, hname, spec, hfind, rfl, hmetavar⟩ := h
  refine ⟨[(name, .option ⟨some spec, name, none⟩), (value, .plain)], rfl, ?_, ?_⟩
  · intro t ht
    simp only [List.mem_cons, List.not_mem_nil, or_false] at ht
    rcases ht with rfl | rfl
    · exact ⟨hname, Grammar.classify_name hhead hfind⟩
    · exact ⟨ne_separator_of_head? hvalue, Grammar.classify_plain hvalue⟩
  · intro fuel pending rest read
    refine Grammar.readFrom_option ?_ rfl fuel pending read
    have hsome : spec.metavar.isNone = false := by simpa using hmetavar
    simp [Grammar.take, Spec.take, hsome, plain?, Except.map]

theorem Grammar.stands_joined (h : g.Names name key true)
    (hnames : ∀ spec ∈ g.options, ∀ name ∈ spec.names, point '=' ∉ name) {value : Text}
    (hvalue : value.head? ≠ some (point '-')) :
    g.Stands [name ++ point '=' :: value] (.value key (some value)) := by
  obtain ⟨hhead, -, spec, hfind, rfl, hmetavar⟩ := h
  refine ⟨[(name ++ point '=' :: value, .option ⟨some spec, name, some value⟩)], rfl, ?_, ?_⟩
  · intro t ht
    rw [List.mem_singleton.mp ht]
    refine ⟨?_, Grammar.classify_joined hhead hfind hnames value⟩
    intro hseparator
    have hmem : point '=' ∈ separator := hseparator ▸ List.mem_append_right _ List.mem_cons_self
    exact absurd hmem (by decide)
  · intro fuel pending rest read
    refine Grammar.readFrom_option ?_ rfl fuel pending read
    have hjoined : g.joined spec name value = .ok ([.value spec.key (some value)], none) := by
      cases value with
      | nil => simp [Grammar.joined, hmetavar]
      | cons c tail =>
        have hne := ne_separator_of_head? hvalue
        simp [Grammar.joined, hmetavar, hne]
    simp [Grammar.take, hjoined]

variable {ι : Type} {words : ι → List Text} {setting : ι → Setting κ}

theorem Grammar.Stands.ne_nil {words : List Text} {setting : Setting κ}
    (h : g.Stands words setting) : words ≠ [] := by
  rintro rfl
  obtain ⟨tokens, hwords, -, hread⟩ := h
  obtain rfl := List.map_eq_nil_iff.mp hwords
  have hnothing := hread 0 none [] ⟨[], none, []⟩
  rw [List.append_nil, Grammar.readFrom_nil, Grammar.readFrom_nil] at hnothing
  simp at hnothing

/-- Uses of options that stand for their settings are read as these settings.  There are at least as
many arguments as uses. -/
theorem Grammar.stands_uses {uses : List ι} (h : ∀ u ∈ uses, g.Stands (words u) (setting u)) :
    ∃ tokens, tokens.map Prod.fst = uses.flatMap words ∧ g.Classified tokens ∧
      uses.length ≤ tokens.length ∧
      ∀ fuel pending rest read, g.readFrom (fuel + uses.length) pending (tokens ++ rest) read =
        g.readFrom fuel pending rest { read with settings := read.settings ++ uses.map setting } := by
  -- The induction is on the uses: the first is read with all others among what follows it.
  induction uses with
  | nil =>
    refine ⟨[], rfl, fun t ht => absurd ht List.not_mem_nil, Nat.le_refl _, ?_⟩
    intro fuel pending rest read
    simp
  | cons u uses ih =>
    obtain ⟨hu, huses⟩ := List.forall_mem_cons.mp h
    have hne := hu.ne_nil
    obtain ⟨first, hwords, hclassified, hread⟩ := hu
    obtain ⟨second, hwords', hclassified', hlength, hread'⟩ := ih huses
    refine ⟨first ++ second, ?_, hclassified.append hclassified', ?_, ?_⟩
    · rw [List.map_append, hwords, hwords', List.flatMap_cons]
    · have hpos : 0 < first.length := by
        rw [← List.length_map (f := Prod.fst), hwords]
        exact List.length_pos_iff.mpr hne
      rw [List.length_append, List.length_cons]
      omega
    · intro fuel pending rest read
      rw [List.length_cons, ← Nat.add_assoc, List.append_assoc, hread, hread']
      simp

/-- Options before a command: the command takes all arguments from its name on. -/
theorem Grammar.parse_command {uses : List ι} (huses : ∀ u ∈ uses, g.Stands (words u) (setting u))
    {metavar help : Text} {choices : List (Text × Text)}
    (hpositional : g.positional = some (.command metavar help choices)) {name : Text}
    (hname : name.head? ≠ some (point '-')) {rest : List (Text × Token κ)}
    (hrest : g.Classified rest) :
    g.parse (uses.flatMap words ++ name :: rest.map Prod.fst) =
      .ok ⟨uses.map setting, some (name :: rest.map Prod.fst), []⟩ := by
  obtain ⟨tokens, hwords, hclassified, hlength, hread⟩ := Grammar.stands_uses huses
  have hcommand : g.Classified ((name, .plain) :: rest) :=
    List.forall_mem_cons.mpr ⟨⟨ne_separator_of_head? hname, classify_plain hname⟩, hrest⟩
  have htokens : g.tokens (uses.flatMap words ++ name :: rest.map Prod.fst) =
      .ok (tokens ++ (name, .plain) :: rest) := by
    rw [← (hclassified.append hcommand).tokens_eq, List.map_append, hwords]
    rfl
  -- Every use takes one step and the command another; the fuel that remains is not needed.
  obtain ⟨fuel, hfuel⟩ : ∃ fuel, (tokens ++ (name, .plain) :: rest).length + 1 =
      fuel + 1 + uses.length := by
    refine ⟨tokens.length - uses.length + (rest.length + 1), ?_⟩
    rw [List.length_append, List.length_cons]
    omega
  have htakes : (Positional.command metavar help choices).takes ((name, .plain) :: rest) =
      rest.length + 1 := rfl
  rw [Grammar.parse, htokens, hpositional]
  dsimp only
  rw [hfuel, hread, Grammar.readFrom_plain htakes, List.drop_length, Grammar.readFrom_nil,
    List.take_length, List.nil_append]

/-- Options before and after a target. -/
theorem Grammar.parse_target {before after : List ι}
    (hbefore : ∀ u ∈ before, g.Stands (words u) (setting u))
    (hafter : ∀ u ∈ after, g.Stands (words u) (setting u)) {metavar help : Text}
    (hpositional : g.positional = some (.target metavar help)) {name : Text}
    (hname : name.head? ≠ some (point '-')) :
    g.parse (before.flatMap words ++ name :: after.flatMap words) =
      .ok ⟨(before ++ after).map setting, some [name], []⟩ := by
  obtain ⟨first, hwords, hclassified, hlength, hread⟩ := Grammar.stands_uses hbefore
  obtain ⟨second, hwords', hclassified', hlength', hread'⟩ := Grammar.stands_uses hafter
  have htarget : g.Classified ((name, .plain) :: second) :=
    List.forall_mem_cons.mpr ⟨⟨ne_separator_of_head? hname, classify_plain hname⟩, hclassified'⟩
  have htokens : g.tokens (before.flatMap words ++ name :: after.flatMap words) =
      .ok (first ++ (name, .plain) :: second) := by
    rw [← (hclassified.append htarget).tokens_eq, List.map_append, hwords, List.map_cons, hwords']
  obtain ⟨fuel, hfuel⟩ : ∃ fuel, (first ++ (name, .plain) :: second).length + 1 =
      fuel + after.length + 1 + before.length := by
    refine ⟨first.length - before.length + (second.length - after.length) + 1, ?_⟩
    rw [List.length_append, List.length_cons]
    omega
  have htakes : (Positional.target metavar help).takes ((name, .plain) :: second) = 0 + 1 := by
    have hnone := hclassified'.takeWhile_isSeparator
    simp [Positional.takes, Options.isSeparator, plain?, hnone]
  rw [Grammar.parse, htokens, hpositional]
  dsimp only
  rw [hfuel, hread, Grammar.readFrom_plain htakes, List.drop_zero, ← List.append_nil second, hread',
    Grammar.readFrom_nil]
  simp

/-! ### A flag in front -/

/-- Settings that were read before stay in front of what is read. -/
theorem Grammar.readFrom_after (before : List (Setting κ)) (fuel : Nat)
    (pending : Option Positional) (tokens : List (Text × Token κ)) (read : Parsed κ) :
    g.readFrom fuel pending tokens (read.after before) =
      (g.readFrom fuel pending tokens read).map (Parsed.after before) := by
  -- The cases are those of the reading: nothing left, an option unknown, refused, final or not, plain
  -- arguments that nothing takes, and those that the positional argument takes.
  fun_induction Grammar.readFrom g fuel pending tokens read with
  | case1 => rfl
  | case2 => rfl
  | case3 fuel pending arg use rest read hspec ih =>
    rw [Grammar.readFrom, hspec]
    exact ih
  | case4 fuel pending arg use rest read spec hspec e htake =>
    rw [Grammar.readFrom, hspec]
    simp only [htake]
    rfl
  | case5 fuel pending arg use rest read spec hspec settings rest' htake read' hfinal =>
    rw [Grammar.readFrom, hspec]
    simp only [htake, hfinal, if_true, Parsed.after_settings]
    rfl
  | case6 fuel pending arg use rest read spec hspec settings rest' htake read' hfinal ih =>
    rw [Grammar.readFrom, hspec]
    simp only [htake, hfinal, Parsed.after_settings]
    exact ih
  | case7 fuel pending rest read hnil hoption htakes others ih =>
    rw [Grammar.readFrom, htakes]
    · exact ih
    · exact hnil
    · exact hoption
  | case8 fuel pending rest read hnil hoption htakes ih =>
    rw [Grammar.readFrom]
    · split
      · exact absurd ‹_› htakes
      · exact ih
    · exact hnil
    · exact hoption

/-- A flag in front of a command line is read before all else. -/
theorem Grammar.parse_flag {name : Text} {key : κ} (h : g.Names name key false)
    (hfinal : g.isFinal (.flag key) = false) (args : List Text) :
    g.parse (name :: args) = (g.parse args).map (Parsed.after [.flag key]) := by
  obtain ⟨hhead, hname, spec, hfind, rfl, hmetavar⟩ := h
  have hnone : spec.metavar.isNone = true := by simpa using hmetavar
  rw [Grammar.parse, Grammar.parse, Grammar.tokens, if_neg hname, classify_name hhead hfind]
  cases g.tokens args with
  | error e => rfl
  | ok tokens =>
    have htake : g.take spec ⟨some spec, name, none⟩ tokens = .ok ([.flag spec.key], tokens) := by
      simp [Grammar.take, Spec.take, hnone, Except.map]
    exact (Grammar.readFrom_option htake hfinal _ g.positional ⟨[], none, []⟩).trans
      (Grammar.readFrom_after [.flag spec.key] _ _ tokens ⟨[], none, []⟩)
/-! ### What was read -/

def Setting.valueOf? (key : κ) : Setting κ → Option (Option Text)
  | .value k given => if k = key then some given else none
  | .flag _ => none

def Setting.isFlag (key : κ) : Setting κ → Bool
  | .flag k => k = key
  | .value _ _ => false

namespace Parsed

variable {uses : List ι} {positional : Option (List Text)} {extras : List Text}

theorem value?_map {given? : ι → Option Text}
    (h : ∀ u, (setting u).valueOf? key = (given? u).map some) :
    value? ⟨uses.map setting, positional, extras⟩ key =
      (uses.filterMap given?).getLast?.map some := by
  have hvalues : (uses.map setting).filterMap (Setting.valueOf? key) =
      (uses.filterMap given?).map some := by
    rw [List.filterMap_map, List.map_filterMap]
    congr 1
    funext u
    exact h u
  rw [← List.getLast?_map, ← hvalues]
  rfl

theorem has_map {isFlag : ι → Bool} (h : ∀ u, (setting u).isFlag key = isFlag u) :
    has ⟨uses.map setting, positional, extras⟩ key = uses.any isFlag := by
  have hflags : (uses.map setting).any (Setting.isFlag key) = uses.any isFlag := by
    rw [List.any_map]
    congr 1
    funext u
    exact h u
  exact hflags

end Parsed

end Options

end SupervisorRpc
