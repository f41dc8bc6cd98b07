import SupervisorRpc.CommandLine
import SupervisorRpc.Proofs.Options.Reading

/-! Command lines with an action on a target.  Global options stand before the action in any order and
number, the last value of each counts, and flags for a group stand before or after the target. -/

namespace SupervisorRpc

namespace CommandLine

open Options

/-- A use of an option before the command.  An option with a short name may go by the long one, and a
value may be joined to the name. -/
inductive GlobalUse where
  | verbose (long : Bool)
  | rpcUrl (joined : Bool) (url : Text)
  | otlpEndpoint (joined : Bool) (endpoint : Text)

def valueWords (name : Text) (joined : Bool) (value : Text) : List Text :=
  if joined then [name ++ point '=' :: value] else [name, value]

namespace GlobalUse

def words : GlobalUse → List Text
  | verbose long => [if long then "--verbose" else "-v"]
  | rpcUrl joined url => valueWords "--rpc-url" joined url
  | otlpEndpoint joined endpoint => valueWords "--otlp-endpoint" joined endpoint

def setting : GlobalUse → Setting GlobalOption
  | verbose _ => .flag .verbose
  | rpcUrl _ url => .value .rpcUrl (some url)
  | otlpEndpoint _ endpoint => .value .otlpEndpoint (some endpoint)

def isVerbose : GlobalUse → Bool
  | verbose _ => true
  | _ => false

def url? : GlobalUse → Option Text
  | rpcUrl _ url => some url
  | _ => none

def endpoint? : GlobalUse → Option Text
  | otlpEndpoint _ endpoint => some endpoint
  | _ => none

/-- The value, if there is one, does not begin with a hyphen. -/
def Regular : GlobalUse → Prop
  | verbose _ => True
  | rpcUrl _ value | otlpEndpoint _ value => value.head? ≠ some (point '-')

instance (u : GlobalUse) : Decidable u.Regular :=
  match u with
  | verbose _ => .isTrue trivial
  | rpcUrl _ value | otlpEndpoint _ value =>
    inferInstanceAs (Decidable (value.head? ≠ some (point '-')))

end GlobalUse

/-- The flag for a group, by its long name or its short one. -/
def groupWord (long : Bool) : Text := if long then "--group" else "-g"

/-- A command line with an action: global options, the action, and its target among flags for a
group. -/
structure ActionLine where
  globals : List GlobalUse
  action : Text
  before : List Bool
  name : Text
  after : List Bool
  regular : ∀ u ∈ globals, u.Regular
  known : action ∈ actions
  named : name ≠ []
  plain : name.head? ≠ some (point '-')

namespace ActionLine

variable (l : ActionLine)

def args : List Text :=
  l.globals.flatMap GlobalUse.words ++
    l.action :: (l.before.map groupWord ++ l.name :: l.after.map groupWord)

def url? : Option Text := (l.globals.filterMap GlobalUse.url?).getLast?

def endpoint? : Option Text := (l.globals.filterMap GlobalUse.endpoint?).getLast?

def verbose : Bool := l.globals.any GlobalUse.isVerbose

def group : Bool := !(l.before ++ l.after).isEmpty

/-- The method that the action stands for. -/
def method : Text :=
  l.action ++
    if l.name = Method.everything then text "_all"
    else if l.group then text "_group" else text "_process"

def params : List Text := if l.name = Method.everything then [] else [l.name]

end ActionLine

section Global

variable (rpcUrl : Text)

theorem grammar_names : ∀ spec ∈ (grammar rpcUrl).options, ∀ name ∈ spec.names,
    point '=' ∉ name := by
  simp only [grammar, helpOption, List.forall_mem_cons, List.not_mem_nil, false_implies, implies_true,
    and_true]
  decide

theorem names_verbose (long : Bool) :
    (grammar rpcUrl).Names (if long then "--verbose" else "-v") .verbose false := by
  cases long <;> exact ⟨rfl, by decide, _, rfl, rfl, rfl⟩

theorem names_rpcUrl : (grammar rpcUrl).Names "--rpc-url" .rpcUrl true :=
  ⟨rfl, by decide, _, rfl, rfl, rfl⟩

theorem names_otlpEndpoint : (grammar rpcUrl).Names "--otlp-endpoint" .otlpEndpoint true :=
  ⟨rfl, by decide, _, rfl, rfl, rfl⟩

theorem stands_valueWords {name : Text} {key : GlobalOption} (h : (grammar rpcUrl).Names name key true)
    (joined : Bool) {value : Text} (hvalue : value.head? ≠ some (point '-')) :
    (grammar rpcUrl).Stands (valueWords name joined value) (.value key (some value)) := by
  cases joined with
  | false => exact Grammar.stands_value h hvalue
  | true => exact Grammar.stands_joined h (grammar_names rpcUrl) hvalue

theorem GlobalUse.Regular.stands {u : GlobalUse} (h : u.Regular) :
    (grammar rpcUrl).Stands u.words u.setting := by
  cases u with
  | verbose long => exact Grammar.stands_flag (names_verbose rpcUrl long) rfl
  | rpcUrl joined url => exact stands_valueWords rpcUrl (names_rpcUrl rpcUrl) joined h
  | otlpEndpoint joined endpoint =>
    exact stands_valueWords rpcUrl (names_otlpEndpoint rpcUrl) joined h

/-- Before the command is known, a flag for a group is an option that nothing is known about. -/
theorem classify_groupWord (long : Bool) :
    (grammar rpcUrl).classify (groupWord long) = .ok (.option ⟨none, groupWord long, none⟩) := by
  cases long <;> rfl

end Global

/-! ### What the settings amount to -/

section Parsed

variable (globals : List GlobalUse) (positional : Option (List Text)) (extras : List Text)

theorem value?_rpcUrl :
    Parsed.value? ⟨globals.map GlobalUse.setting, positional, extras⟩ GlobalOption.rpcUrl =
      (globals.filterMap GlobalUse.url?).getLast?.map some := by
  apply Parsed.value?_map
  intro u
  cases u <;> rfl

theorem value?_otlpEndpoint :
    Parsed.value? ⟨globals.map GlobalUse.setting, positional, extras⟩ GlobalOption.otlpEndpoint =
      (globals.filterMap GlobalUse.endpoint?).getLast?.map some := by
  apply Parsed.value?_map
  intro u
  cases u <;> rfl

theorem has_verbose :
    Parsed.has ⟨globals.map GlobalUse.setting, positional, extras⟩ GlobalOption.verbose =
      globals.any GlobalUse.isVerbose := by
  apply Parsed.has_map
  intro u
  cases u <;> rfl

theorem has_help :
    Parsed.has ⟨globals.map GlobalUse.setting, positional, extras⟩ GlobalOption.help = false := by
  have hnone : ∀ u : GlobalUse, u.setting.isFlag GlobalOption.help = false := by
    intro u
    cases u <;> rfl
  rw [Parsed.has_map hnone]
  simp

end Parsed

/-- The flag for more of the log, in front of a command line, makes it verbose and changes nothing
else. -/
theorem read_verbose (rpcUrl : Text) (layout : Layout) (long : Bool) (args : List Text) :
    read rpcUrl layout ((if long then "--verbose" else "-v") :: args) =
      (read rpcUrl layout args).map fun i => { i with verbose := true } := by
  rw [read, read, Grammar.parse_flag (names_verbose rpcUrl long) rfl]
  cases (grammar rpcUrl).parse args with
  | error e => rfl
  | ok parsed =>
    obtain ⟨settings, positional, extras⟩ := parsed
    -- The flag says nothing about help, the URL and the endpoint, nor about the command.
    have hhelp : Parsed.has ⟨.flag .verbose :: settings, positional, extras⟩ GlobalOption.help =
        Parsed.has ⟨settings, positional, extras⟩ .help := rfl
    have hmap : (Except.ok ⟨settings, positional, extras⟩ : Except UsageError _).map
        (Parsed.after [.flag GlobalOption.verbose]) =
          .ok ⟨.flag .verbose :: settings, positional, extras⟩ := rfl
    rw [hmap]
    dsimp only
    rw [hhelp]
    cases Parsed.has ⟨settings, positional, extras⟩ GlobalOption.help with
    | true => rfl
    | false =>
      cases positional with
      | none => cases extras <;> rfl
      | some taken =>
        cases taken with
        | nil => cases extras <;> rfl
        | cons name rest =>
          dsimp only
          cases readCommand rpcUrl layout name rest with
          | error notice => rfl
          | ok read =>
            obtain ⟨command, more⟩ := read
            dsimp only
            cases extras ++ more <;> rfl

/-! ### Actions -/

section Action

variable {action : Text} (haction : action ∈ actions)

include haction

theorem any_actions : actions.any (· = action) = true :=
  List.any_eq_true.mpr ⟨action, haction, decide_eq_true rfl⟩

theorem any_commands : commands.any (·.1 = action) = true := by
  rw [commands, List.any_append, List.any_map]
  exact Bool.or_eq_true_iff.mpr (.inl (any_actions haction))

theorem action_head? : action.head? ≠ some (point '-') := by
  revert action
  decide

theorem commandGrammar_action : commandGrammar action =
    ⟨program ++ text " " ++ action,
      [helpOption .help, ⟨.group, ["-g", "--group"], none, "NAME is a process group", false⟩],
      some (.target "name" "Process or group name, or 'all'")⟩ := by
  simp [commandGrammar, any_actions haction]

theorem stands_groupWord (long : Bool) :
    (commandGrammar action).Stands [groupWord long] (.flag .group) := by
  rw [commandGrammar_action haction]
  apply Grammar.stands_flag _ rfl
  cases long <;> exact ⟨rfl, by decide, _, rfl, rfl, rfl⟩

end Action

namespace ActionLine

variable (l : ActionLine) (rpcUrl : Text) (layout : Layout)

/-- Flags for a group and a target among them are read as the action on that target. -/
theorem readCommand_eq :
    readCommand rpcUrl layout l.action
        (l.before.map groupWord ++ l.name :: l.after.map groupWord) =
      .ok (.action l.action (some l.name) l.group, []) := by
  have hstands : ∀ longs : List Bool, ∀ long ∈ longs,
      (commandGrammar l.action).Stands [groupWord long] (.flag .group) :=
    fun _ long _ => stands_groupWord l.known long
  have hpositional : (commandGrammar l.action).positional =
      some (.target "name" "Process or group name, or 'all'") := by
    rw [commandGrammar_action l.known]
  have hparse : (commandGrammar l.action).parse
      (l.before.map groupWord ++ l.name :: l.after.map groupWord) =
        .ok ⟨(l.before ++ l.after).map fun _ => .flag .group, some [l.name], []⟩ := by
    rw [List.map_eq_flatMap, List.map_eq_flatMap]
    exact Grammar.parse_target (hstands l.before) (hstands l.after) hpositional l.plain
  have hhelp : Parsed.has ⟨(l.before ++ l.after).map fun _ => .flag .group, some [l.name], []⟩
      CommandOption.help = false := by
    rw [Parsed.has_map fun _ => rfl]
    simp [Setting.isFlag]
  have hgroup : Parsed.has ⟨(l.before ++ l.after).map fun _ => .flag .group, some [l.name], []⟩
      CommandOption.group = l.group := by
    rw [Parsed.has_map fun _ => rfl, group]
    cases l.before ++ l.after <;> simp [Setting.isFlag]
  have htarget : targetOf [l.name] = some l.name := by
    have hne := ne_separator_of_head? l.plain
    simp [targetOf, hne]
  rw [readCommand, any_commands l.known]
  dsimp only
  rw [hparse]
  dsimp only
  rw [hhelp, hgroup, any_actions l.known, Option.getD_some, htarget]
  rfl

/-- A command line with an action is read as the action on its target, with the last of the values
that the options before it give. -/
theorem read_eq :
    read rpcUrl layout l.args =
      .ok ⟨l.url?.map some, l.endpoint?.map some, l.verbose,
        some (.action l.action (some l.name) l.group)⟩ := by
  -- To the grammar of the whole command line the flags are unknown options; it leaves them to the
  -- action with all else that stands behind it.
  have hunknown : ∀ longs : List Bool, (grammar rpcUrl).Classified
      (longs.map fun long => (groupWord long, .option ⟨none, groupWord long, none⟩)) := by
    intro longs t ht
    obtain ⟨long, -, rfl⟩ := List.mem_map.mp ht
    refine ⟨?_, classify_groupWord rpcUrl long⟩
    cases long <;> decide
  have hplain : (grammar rpcUrl).Classified [(l.name, .plain)] :=
    List.forall_mem_singleton.mpr ⟨ne_separator_of_head? l.plain, Grammar.classify_plain l.plain⟩
  have hrest := ((hunknown l.before).append hplain).append (hunknown l.after)
  have hparse := Grammar.parse_command (fun u hu => (l.regular u hu).stands rpcUrl) rfl
    (action_head? l.known) hrest
  simp only [List.map_append, List.map_map, List.map_cons, List.append_assoc, List.cons_append,
    List.nil_append] at hparse
  have hwords : (Prod.fst ∘ fun long : Bool =>
      ((groupWord long, .option ⟨none, groupWord long, none⟩) : Text × Token GlobalOption)) =
        groupWord := rfl
  rw [hwords] at hparse
  rw [read, args, hparse]
  simp [has_help, has_verbose, value?_rpcUrl, value?_otlpEndpoint, l.readCommand_eq rpcUrl layout,
    url?, endpoint?, verbose]

theorem call_eq :
    (Command.action l.action (some l.name) l.group).call = .ok (l.method, l.params) := by
  rw [Command.call, Method.ofAction, Option.getD_some, method, params]
  split
  · exact absurd ‹l.name = []› l.named
  · split
    · rfl
    · cases l.group <;> rfl

end ActionLine

end CommandLine

end SupervisorRpc
