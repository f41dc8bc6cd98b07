import SupervisorRpc.Text.Basic
import SupervisorRpc.Text.Class.Unprintable
import SupervisorRpc.Text.Class.Word
import SupervisorRpc.Text.Class.Zero

/-! Classes of code points: blanks, digits, letters and what has a visible form.  ASCII code points
are decided without the tables. -/

namespace SupervisorRpc

namespace CodePoint

/-- `c` lies in one of `ranges`. -/
def inRanges (c : CodePoint) (ranges : List (Nat × Nat)) : Bool :=
  ranges.any fun range => c.within range.1 range.2

/-- The blanks of ASCII: tab, the line ends, vertical tab, form feed and space. -/
def isAsciiBlank (c : CodePoint) : Bool := c.within 0x09 0x0D || c.val = 0x20

/-- The blanks of all scripts, information separators included. -/
def isBlank (c : CodePoint) : Bool :=
  c.isAsciiBlank || c.within 0x1C 0x1F || c.val = 0x85 || c.val = 0xA0 || c.val = 0x1680 ||
    c.within 0x2000 0x200A || c.within 0x2028 0x2029 || c.val = 0x202F || c.val = 0x205F ||
    c.val = 0x3000

/-- The value of a decimal digit of any script. -/
def digitValue? (c : CodePoint) : Option Nat :=
  (zeros.find? fun first => c.within first (first + 9)).map (c.val - ·)

/-- A decimal digit of any script. -/
def isDigit (c : CodePoint) : Bool := c.digitValue?.isSome

/-- A letter or number of any script, or the underscore. -/
def isWord (c : CodePoint) : Bool :=
  if c.isAscii then c.isAsciiLetter || c.isAsciiDigit || c.val = 0x5F else c.inRanges wordRanges

/-- A word code point that is no decimal digit. -/
def isLetter (c : CodePoint) : Bool := c.isWord && !c.isDigit

/-- `c` has a visible form or is the space. -/
def isPrintable (c : CodePoint) : Bool :=
  if c.isAscii then c.within 0x20 0x7E else !c.inRanges unprintableRanges

end CodePoint

namespace Text

/-- `t` is one or more ASCII digits. -/
def isAsciiNumber (t : Text) : Bool := !t.isEmpty && t.all CodePoint.isAsciiDigit

end Text

end SupervisorRpc
