import SupervisorRpc.Options.Grammar
import SupervisorRpc.Text.Class
import SupervisorRpc.Text.Wrap

/-! The usage line and the help text of a grammar, laid out for a terminal of some width.  Entries
stand in two columns; the second begins where the widest entry ends, but never past a fixed
column, and an entry too wide for the first has its help on the next line. -/

namespace SupervisorRpc

namespace Options

variable {κ : Type}

/-- The width of a terminal: an integer of any script's digits, perhaps with a sign, blanks other than
information separators around it, and single underscores between digits.  Anything else, and what
is not positive, counts as 80. -/
def columns (setting : Option Text) : Nat :=
  let trimmed := Text.trim (fun c => c.isBlank && !c.within 0x1C 0x1F) (setting.getD [])
  let (negative, unsigned) :=
    match trimmed with
    | [] => (false, [])
    | c :: rest =>
      if c = point '-' then (true, rest)
      else if c = point '+' then (false, rest)
      else (false, trimmed)
  let groups := Text.segments (point '_') unsigned
  let valid := groups.all fun group => !group.isEmpty && group.all CodePoint.isDigit
  let digits := groups.flatten.filterMap CodePoint.digitValue?
  let number := digits.foldl (fun n d => 10 * n + d) 0
  if valid ∧ digits.length ≤ 4300 ∧ ¬negative ∧ number ≠ 0 then number else 80

/-- How a help text is laid out: the width of its lines, and the last column at which the second
column of entries may begin. -/
structure Layout where
  width : Int
  helpColumn : Nat

/-- Two columns of the terminal stay free. -/
def Layout.ofColumns (columns : Nat) : Layout :=
  let width : Int := columns - 2
  ⟨width, (min 24 (max (width - 20) 4)).toNat⟩

/-- What stands before a usage line. -/
def usageHead : Text := "usage: "

/-- The parts of a usage line that stand for options. -/
def Spec.usage (spec : Spec κ) : Text :=
  let name := spec.names.head?.getD []
  match spec.metavar with
  | none => text "[" ++ name ++ text "]"
  | some metavar => text "[" ++ name ++ text " " ++ metavar ++ text "]"

/-- The choices of a command in braces. -/
def choiceList (choices : List (Text × Text)) : Text :=
  text "\x7b" ++ Text.join (text ",") (choices.map Prod.fst) ++ text "\x7d"

/-- The parts of a usage line that stand for the positional argument. -/
def Positional.usage : Positional → List Text
  | target name _ => [text "[" ++ name ++ text "]"]
  | command _ _ choices => [choiceList choices, text "..."]

/-- Parts with spaces between them on lines of `width`, each after `indent` spaces; `used` columns of
the line are taken and `line` stands on it. -/
def flowFrom (width : Int) (indent : Nat) : (used : Int) → (line : List Text) → List Text → List Text
  | _, [], [] => []
  | _, line, [] => [Text.join (text " ") line]
  | used, line, part :: rest =>
    if width < used + 1 + part.length ∧ line ≠ [] then
      Text.join (text " ") line ::
        flowFrom width indent ((indent : Int) + part.length) [part] rest
    else flowFrom width indent (used + part.length + 1) (line ++ [part]) rest

/-- Lines, each after `indent` spaces. -/
def indented (indent : Nat) (lines : List Text) : List Text :=
  lines.map fun line => Text.spaces indent ++ line

/-- The usage of a grammar.  If it does not fit on a line, options and positional argument begin lines
of their own, under one another after the program's name if that is short enough. -/
def Grammar.usage (g : Grammar κ) (layout : Layout) : Text :=
  let options := g.options.map Spec.usage
  let positional := (g.positional.map Positional.usage).getD []
  let whole := usageHead ++ Text.join (text " ") (g.program :: options ++ positional)
  let beside := usageHead.length + g.program.length
  let flow (indent : Nat) (used : Int) (parts : List Text) := flowFrom layout.width indent used [] parts
  if (whole.length : Int) ≤ layout.width then whole
  else if 4 * (beside : Int) ≤ 3 * layout.width then
    let indent := beside + 1
    let first := flow indent ((usageHead.length : Int) - 1) (g.program :: options)
    let second := flow indent ((indent : Int) - 1) positional
    usageHead ++ Text.join (text "\n")
      (first.take 1 ++ indented indent (first.drop 1) ++ indented indent second)
  else
    let indent := usageHead.length
    let all := flow indent ((indent : Int) - 1) (options ++ positional)
    let lines :=
      if 1 < all.length then
        flow indent ((indent : Int) - 1) options ++ flow indent ((indent : Int) - 1) positional
      else all
    usageHead ++ Text.join (text "\n") (g.program :: indented indent lines)

/-- An entry of a help text: what it explains, how far that is indented, and the explanation. -/
structure Entry where
  indent : Nat
  head : Text
  help : Text

/-- The lines of an entry whose explanation begins at `column`. -/
def Entry.lines (layout : Layout) (column : Nat) (e : Entry) : List Text :=
  let width := (max (layout.width - column) 11).toNat
  let help := Text.fill width (Text.collapse e.help)
  let head := Text.spaces e.indent ++ e.head
  let besides : Int := (column : Int) - e.indent - 2
  if (e.head.length : Int) ≤ besides then
    (Text.padRight column head ++ help.head?.getD []) :: indented column (help.drop 1)
  else head :: indented column help

/-- The entry of an option: all its names, each with the value that it takes. -/
def Spec.entry (spec : Spec κ) : Entry :=
  let withValue (name : Text) : Text :=
    match spec.metavar with
    | none => name
    | some metavar => name ++ text " " ++ metavar
  ⟨2, Text.join (text ", ") (spec.names.map withValue), spec.help⟩

/-- The entries of a positional argument: itself, and its commands below it. -/
def Positional.entries : Positional → List Entry
  | target name help => [⟨2, name, help⟩]
  | command _ help choices =>
    ⟨2, choiceList choices, help⟩ :: choices.map fun choice => ⟨4, choice.1, choice.2⟩

/-- Where explanations begin: two columns after the widest entry, all entries indented alike. -/
def helpColumn (layout : Layout) (entries : List Entry) : Nat :=
  let widest := (entries.map fun e => e.head.length).foldl max 0
  min (widest + 4) layout.helpColumn

/-- Entries under a heading. -/
def sectionText (layout : Layout) (column : Nat) (heading : Text) (entries : List Entry) : Text :=
  Text.join (text "\n") ((heading ++ text ":") :: entries.flatMap (Entry.lines layout column))

/-- The help of a grammar, with a description and a closing text that stand as they are. -/
def Grammar.help (g : Grammar κ) (layout : Layout) (description closing : Text) : Text :=
  let positional := (g.positional.map Positional.entries).getD []
  let options := g.options.map Spec.entry
  let column := helpColumn layout (positional ++ options)
  let blocks :=
    [g.usage layout, description,
      if positional.isEmpty then []
      else sectionText layout column "positional arguments" positional,
      sectionText layout column "options" options, closing]
  Text.join (text "\n\n") (blocks.filter (!·.isEmpty)) ++ text "\n"

/-- What is written when a command line is refused. -/
def Grammar.refusal (g : Grammar κ) (layout : Layout) (e : UsageError) : Text :=
  g.usage layout ++ text "\n" ++ g.program ++ text ": error: " ++ e.message ++ text "\n"

end Options

end SupervisorRpc
