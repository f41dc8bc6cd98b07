import SupervisorRpc.Text.Class

/-! Text between quotes, as error messages show it: every code point without a visible form is
escaped, so the quoted form fits on a line and shows which code points it holds. -/

namespace SupervisorRpc

namespace Text

/-- The quote around a text: an apostrophe, or a double quote where that saves escaping. -/
def quoteMark (t : Text) : CodePoint :=
  if point '\'' ∈ t ∧ point '"' ∉ t then point '"' else point '\''

/-- A code point between quotes `mark`. -/
def quotedPoint (mark c : CodePoint) : Text :=
  if c = mark ∨ c = point '\\' then [point '\\', c]
  else if c = point '\t' then text "\\t"
  else if c = point '\n' then text "\\n"
  else if c = point '\r' then text "\\r"
  else if c.isPrintable then [c]
  else if c.val < 0x100 then text "\\x" ++ hex 2 c.val
  else if c.val < 0x10000 then text "\\u" ++ hex 4 c.val
  else text "\\U" ++ hex 8 c.val

/-- A text between quotes. -/
def quoted (t : Text) : Text :=
  quoteMark t :: t.flatMap (quotedPoint (quoteMark t)) ++ [quoteMark t]

/-- A list of texts, each between quotes, in brackets. -/
def quotedList (ts : List Text) : Text :=
  text "[" ++ join (text ", ") (ts.map quoted) ++ text "]"

end Text

end SupervisorRpc
