import SupervisorRpc.Text.Quoted

/-! Grammars of command lines: options by name, and at most one positional argument, which is either a
target that may be left out or a command with arguments of its own. -/

namespace SupervisorRpc

namespace Options

/-- An option.  Its names begin with one hyphen or two; `metavar` names its value if it takes one.  A
final option ends the reading of the command line. -/
structure Spec (κ : Type) where
  key : κ
  names : List Text
  metavar : Option Text
  help : Text
  final : Bool

/-- The positional argument of a grammar. -/
inductive Positional where
  /-- One argument that may be left out. -/
  | target (name help : Text)
  /-- One of some commands, each with a line of help, and whatever follows it. -/
  | command (name help : Text) (choices : List (Text × Text))

/-- What a command line may hold. -/
structure Grammar (κ : Type) where
  program : Text
  options : List (Spec κ)
  positional : Option Positional

/-- Why a command line is refused. -/
inductive UsageError where
  /-- An abbreviation of several options. -/
  | ambiguous (given : Text) (candidates : List Text)
  /-- An option without the value that it takes. -/
  | valueMissing (names : List Text)
  /-- An option with a value that it does not take. -/
  | valueIgnored (names : List Text) (value : Text)
  | unknownCommand (positional given : Text) (choices : List Text)
  | unrecognized (arguments : List Text)
  /-- A complaint of the program itself. -/
  | other (message : Text)
deriving DecidableEq

def UsageError.message : UsageError → Text
  | ambiguous given candidates =>
    text "ambiguous option: " ++ given ++ text " could match " ++ Text.join (text ", ") candidates
  | valueMissing names =>
    text "argument " ++ Text.join (text "/") names ++ text ": expected one argument"
  | valueIgnored names value =>
    text "argument " ++ Text.join (text "/") names ++ text ": ignored explicit argument " ++
      value.quoted
  | unknownCommand positional given choices =>
    text "argument " ++ positional ++ text ": invalid choice: " ++ given.quoted ++
      text " (choose from " ++ Text.join (text ", ") (choices.map Text.quoted) ++ text ")"
  | unrecognized arguments =>
    text "unrecognized arguments: " ++ Text.join (text " ") arguments
  | other message => message

/-- The option with the given name. -/
def Grammar.find? {κ : Type} (g : Grammar κ) (name : Text) : Option (Spec κ) :=
  g.options.find? fun spec => name ∈ spec.names

end Options

end SupervisorRpc
