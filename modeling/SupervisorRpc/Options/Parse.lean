import SupervisorRpc.Options.Grammar
import SupervisorRpc.Text.Class

/-! Reading command lines.  Every argument is first classified: an option, the separator `--`, or a
plain argument; after the separator all are plain.  Then options take their values, and the
positional argument takes the first plain arguments that it can.  Long options may be abbreviated,
short options without values may be joined, and what nothing takes is left over. -/

namespace SupervisorRpc

namespace Options

variable {κ : Type}

/-- An argument read as an option: the option if it is known, the name that it goes by, and a value
that is part of the argument. -/
structure OptionUse (κ : Type) where
  spec : Option (Spec κ)
  name : Text
  value : Option Text

/-- What an argument is. -/
inductive Token (κ : Type) where
  | separator
  | plain
  | option (use : OptionUse κ)

/-- The separator, after which all arguments are plain. -/
def separator : Text := "--"

/-- A negative number, which is no option: digits after a hyphen, with a point before the last
digits or without.  A line end may follow. -/
def isNegativeNumber (t : Text) : Bool :=
  match t with
  | [] => false
  | c :: rest =>
    let number := if rest.getLast? = some (point '\n') then rest.dropLast else rest
    let isDigits (d : Text) : Bool := !d.isEmpty && d.all CodePoint.isDigit
    c = point '-' &&
      match Text.cut (point '.') number with
      | (whole, none) => isDigits whole
      | (whole, some fraction) => whole.all CodePoint.isDigit && isDigits fraction

/-- An argument cut at its first `=`. -/
def cutValue (arg : Text) : Text × Option Text := Text.cut (point '=') arg

/-- The options that an argument may stand for: by the start of a long name, or by a short name with
a value or more short names behind it. -/
def Grammar.candidates (g : Grammar κ) (arg : Text) : List (OptionUse κ) :=
  match arg with
  | first :: second :: tail =>
    g.options.flatMap fun spec =>
      spec.names.filterMap fun name =>
        if second = point '-' then
          let (start, value) := cutValue arg
          if start.isPrefixOf name then some ⟨some spec, name, value⟩ else none
        else if name = [first, second] then some ⟨some spec, name, some tail⟩
        else if arg.isPrefixOf name then some ⟨some spec, name, none⟩
        else none
  | _ => []

/-- What an argument before the separator is. -/
def Grammar.classify (g : Grammar κ) (arg : Text) : Except UsageError (Token κ) :=
  if arg.head? ≠ some (point '-') then .ok .plain
  else
    match g.find? arg with
    | some spec => .ok (.option ⟨some spec, arg, none⟩)
    | none =>
      if arg.length = 1 then .ok .plain
      else
        let (name, value) := cutValue arg
        match value.bind fun _ => g.find? name with
        | some spec => .ok (.option ⟨some spec, name, value⟩)
        | none =>
          match g.candidates arg with
          | [use] => .ok (.option use)
          | [] =>
            if isNegativeNumber arg ∨ point ' ' ∈ arg then .ok .plain
            else .ok (.option ⟨none, arg, none⟩)
          | several => .error (.ambiguous arg (several.map OptionUse.name))

/-- The arguments of a command line with what they are. -/
def Grammar.tokens (g : Grammar κ) : List Text → Except UsageError (List (Text × Token κ))
  | [] => .ok []
  | arg :: rest =>
    if arg = separator then .ok ((arg, .separator) :: rest.map fun a => (a, .plain))
    else
      match g.classify arg with
      | .error e => .error e
      | .ok token => (g.tokens rest).map ((arg, token) :: ·)

/-- What a command line says, one thing after the other. -/
inductive Setting (κ : Type) where
  | flag (key : κ)
  /-- A value, unless it was the separator. -/
  | value (key : κ) (value : Option Text)

/-- The settings of an option behind whose name `given` stands in the same argument: its value, or
more short names.  The last of these may still want a value from the next argument. -/
def Grammar.joined (g : Grammar κ) (spec : Spec κ) (name : Text) :
    (given : Text) → Except UsageError (List (Setting κ) × Option (Spec κ))
  | [] =>
    if spec.metavar.isSome then .ok ([.value spec.key (some [])], none)
    else .error (.valueIgnored spec.names [])
  | c :: tail =>
    if spec.metavar.isSome then
      .ok ([.value spec.key (if c :: tail = separator then none else some (c :: tail))], none)
    else if name[1]? = some (point '-') then .error (.valueIgnored spec.names (c :: tail))
    else
      let next := [point '-', c]
      match g.find? next with
      | none => .error (.valueIgnored spec.names (c :: tail))
      | some other =>
        match tail with
        | [] => .ok ([.flag spec.key], some other)
        | d :: more =>
          (g.joined other next (d :: more)).map fun r => (.flag spec.key :: r.1, r.2)

/-- A plain argument at the front. -/
def plain? : List (Text × Token κ) → Option (Text × List (Text × Token κ))
  | (arg, .plain) :: rest => some (arg, rest)
  | _ => none

/-- The setting of an option with nothing behind its name, and the arguments after it. -/
def Spec.take (spec : Spec κ) (rest : List (Text × Token κ)) :
    Except UsageError (Setting κ × List (Text × Token κ)) :=
  if spec.metavar.isNone then .ok (.flag spec.key, rest)
  else
    match plain? rest with
    | none => .error (.valueMissing spec.names)
    | some (value, rest) => .ok (.value spec.key (some value), rest)

/-- The settings of an option that `rest` follows, and the arguments after it. -/
def Grammar.take (g : Grammar κ) (spec : Spec κ) (use : OptionUse κ)
    (rest : List (Text × Token κ)) :
    Except UsageError (List (Setting κ) × List (Text × Token κ)) :=
  match use.value with
  | none => (spec.take rest).map fun r => ([r.1], r.2)
  | some given =>
    match g.joined spec use.name given with
    | .error e => .error e
    | .ok (settings, none) => .ok (settings, rest)
    | .ok (settings, some last) => (last.take rest).map fun r => (settings ++ [r.1], r.2)

def isSeparator : Text × Token κ → Bool
  | (_, .separator) => true
  | _ => false

def isOption : Text × Token κ → Bool
  | (_, .option _) => true
  | _ => false

/-- What a command line holds: its settings in order, the arguments that its positional argument
took, and those left over. -/
structure Parsed (κ : Type) where
  settings : List (Setting κ)
  positional : Option (List Text)
  extras : List Text

/-- How many of the arguments at hand the positional argument takes: a command takes all if there is
a plain one for its name, a target takes one and the separators around it. -/
def Positional.takes (p : Positional) (rest : List (Text × Token κ)) : Nat :=
  let separators := (rest.takeWhile isSeparator).length
  let after := rest.drop separators
  match p with
  | .command _ _ _ => if (plain? after).isSome then rest.length else 0
  | .target _ _ =>
    let plain := if (plain? after).isSome then 1 else 0
    separators + plain + ((after.drop plain).takeWhile isSeparator).length

/-- A setting that ends the reading of the command line. -/
def Grammar.isFinal [DecidableEq κ] (g : Grammar κ) : Setting κ → Bool
  | .flag key => g.options.any fun spec => spec.final && spec.key = key
  | .value _ _ => false

/-- Reads classified arguments; `pending` is the positional argument if it is still to come, and
`fuel` bounds the number of steps. -/
def Grammar.readFrom [DecidableEq κ] (g : Grammar κ) :
    (fuel : Nat) → (pending : Option Positional) → List (Text × Token κ) → Parsed κ →
      Except UsageError (Parsed κ)
  | 0, _, _, read => .ok read
  | _ + 1, _, [], read => .ok read
  | fuel + 1, pending, (arg, .option use) :: rest, read =>
    match use.spec with
    | none => g.readFrom fuel pending rest { read with extras := read.extras ++ [arg] }
    | some spec =>
      match g.take spec use rest with
      | .error e => .error e
      | .ok (settings, rest) =>
        let read := { read with settings := read.settings ++ settings }
        if settings.any g.isFinal then .ok read else g.readFrom fuel pending rest read
  | fuel + 1, pending, rest, read =>
    match (pending.map fun p => p.takes rest).getD 0 with
    | 0 =>
      let others := rest.takeWhile (!isOption ·)
      g.readFrom fuel pending (rest.drop others.length)
        { read with extras := read.extras ++ others.map Prod.fst }
    | count =>
      g.readFrom fuel none (rest.drop count)
        { read with positional := some ((rest.take count).map Prod.fst) }

/-- Reads a command line. -/
def Grammar.parse [DecidableEq κ] (g : Grammar κ) (args : List Text) : Except UsageError (Parsed κ) :=
  match g.tokens args with
  | .error e => .error e
  | .ok tokens => g.readFrom (tokens.length + 1) g.positional tokens ⟨[], none, []⟩

namespace Parsed

/-- The last value that an option got. -/
def value? [DecidableEq κ] (p : Parsed κ) (key : κ) : Option (Option Text) :=
  (p.settings.filterMap fun setting =>
    match setting with
    | .value k value => if k = key then some value else none
    | .flag _ => none).getLast?

/-- An option without a value stands on the command line. -/
def has [DecidableEq κ] (p : Parsed κ) (key : κ) : Bool :=
  p.settings.any fun setting =>
    match setting with
    | .flag k => k = key
    | .value _ _ => false

end Parsed

/-- The target among the arguments that the positional argument took: the first separator does not
count. -/
def targetOf (taken : List Text) : Option Text := (taken.erase separator).head?

end Options

end SupervisorRpc
