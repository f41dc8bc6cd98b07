import SupervisorRpc.Json.Basic

/-! Reading JSON.  Each parser takes the front of a text and returns what it read with the rest.  A
flaw keeps how much of the text remained where it was found, so the same flaw is reported whatever
stands before.  Besides the standard the decoder accepts `NaN` and infinities, surrogate escapes
that stand alone, and repeated keys; it refuses integers of too many digits and too much nesting. -/

namespace SupervisorRpc

namespace Json

/-- What a text lacks, or has too much of, at some place. -/
inductive Complaint where
  | value
  | name
  | colon
  | comma
  | unterminated
  | control
  | escape
  | hexEscape
  | extra
  | byteOrderMark
deriving DecidableEq

/-- The two kinds of nesting. -/
inductive Nesting where
  | array
  | object
deriving DecidableEq

/-- Why a text is not read. -/
inductive Flaw where
  /-- A complaint at the place where `remaining` code points are left. -/
  | misplaced (complaint : Complaint) (remaining : Nat)
  /-- An integer of `count` digits. -/
  | digits (count : Nat)
  /-- Nesting past the limit. -/
  | depth (nesting : Nesting)
deriving DecidableEq

/-- What was read, and the rest of the text. -/
abbrev Parsed (α : Type) := Except Flaw (α × Text)

/-- A complaint at the front of `rest`. -/
def complain {α : Type} (complaint : Complaint) (rest : Text) : Except Flaw α :=
  .error (.misplaced complaint rest.length)

/-- How many arrays and objects may be inside one another where hardly any of the stack is in use yet. -/
def usualLimit : Nat := 985

/-- The blanks between tokens. -/
def isBlank (c : CodePoint) : Bool :=
  c = point ' ' || c = point '\t' || c = point '\n' || c = point '\r'

def skipBlanks (t : Text) : Text := t.dropWhile isBlank

/-- The code point of the escape that ends in a letter. -/
def escaped? (c : CodePoint) : Option CodePoint :=
  if c = point '"' ∨ c = point '\\' ∨ c = point '/' then some c
  else if c = point 'n' then some (point '\n')
  else if c = point 't' then some (point '\t')
  else if c = point 'r' then some (point '\r')
  else if c = point 'b' then some (CodePoint.ofNat 0x08)
  else if c = point 'f' then some (CodePoint.ofNat 0x0C)
  else none

/-- The code point of a surrogate pair. -/
def joined (high low : CodePoint) : CodePoint :=
  CodePoint.ofNat (0x10000 + (high.val - 0xD800) * 0x400 + (low.val - 0xDC00))

/-- Where the reader of a string is. -/
inductive StringPlace where
  /-- Between code points; `half` says that the last one is a high surrogate from an escape. -/
  | between (half : Bool)
  /-- After a backslash; `back` is the text from the backslash on. -/
  | escape (half : Bool) (back : Text)
  /-- Among the digits of an escape: how many are left to read, their value so far, and the text from
  the `u` on. -/
  | unit (half : Bool) (left : Nat) (value : Nat) (back : Text)

/-- Adds the 16-bit unit of an escape to what was read, in reverse order, and tells whether it is the
first half of a pair.  The second half of a pair joins the first if that came from an escape too. -/
def addUnit (half : Bool) (read : Text) (unit : CodePoint) : Bool × Text :=
  match half && unit.isLowSurrogate, read with
  | true, high :: before => (false, joined high unit :: before)
  | _, _ => (unit.isHighSurrogate, unit :: read)

/-- Reads a string up to its closing quote.  `start` is the text from the opening quote on, and `read`
is what was read, in reverse order. -/
def stringFrom (start : Text) : StringPlace → (read : Text) → Text → Parsed Text
  | .between _, _, [] => complain .unterminated start
  | .between half, read, c :: rest =>
    if c = point '"' then .ok (read.reverse, rest)
    else if c = point '\\' then stringFrom start (.escape half (c :: rest)) read rest
    else if c.val < 0x20 then complain .control (c :: rest)
    else stringFrom start (.between false) (c :: read) rest
  | .escape _ _, _, [] => complain .unterminated start
  | .escape half back, read, c :: rest =>
    if c = point 'u' then stringFrom start (.unit half 4 0 (c :: rest)) read rest
    else
      match escaped? c with
      | some d => stringFrom start (.between false) (d :: read) rest
      | none => complain .escape back
  | .unit _ _ _ back, _, [] => complain .hexEscape back
  | .unit half left value back, read, c :: rest =>
    match c.hexValue? with
    | none => complain .hexEscape back
    | some digit =>
      let value := value * 16 + digit
      if left ≤ 1 then
        if rest.isEmpty then complain .hexEscape back
        else
          let added := addUnit half read (CodePoint.ofNat value)
          stringFrom start (.between added.1) added.2 rest
      else stringFrom start (.unit half (left - 1) value back) read rest

/-- The string whose opening quote stands before `rest`. -/
def stringBody (rest : Text) : Parsed Text :=
  stringFrom (point '"' :: rest) (.between false) [] rest

/-- The rest of a text after `word`, if it begins with `word`. -/
def after? (word t : Text) : Option Text :=
  if word.isPrefixOf t then some (t.drop word.length) else none

/-- The digits at the front of a text, and the rest. -/
def digits (t : Text) : Text × Text :=
  (t.takeWhile (·.isAsciiDigit), t.dropWhile (·.isAsciiDigit))

/-- The digits of the whole part at the front of a text: one zero, or digits that begin with
another. -/
def wholeDigits (t : Text) : Text × Text :=
  match t with
  | [] => ([], [])
  | c :: rest =>
    if c = point '0' then ([c], rest) else digits t

/-- The digits after a point at the front of a text, if there are any. -/
def fractionDigits (t : Text) : Text × Text :=
  match t with
  | c :: rest =>
    let (places, others) := digits rest
    if c = point '.' ∧ places ≠ [] then (places, others) else ([], t)
  | [] => ([], [])

/-- The exponent at the front of a text, if there is one. -/
def exponent? (t : Text) : Option (Int × Text) :=
  match t with
  | [] => none
  | c :: rest =>
    if c = point 'e' ∨ c = point 'E' then
      let (negative, unsigned) :=
        match rest with
        | s :: others =>
          if s = point '-' then (true, others)
          else if s = point '+' then (false, others)
          else (false, rest)
        | [] => (false, [])
      let (written, others) := digits unsigned
      if written = [] then none
      else
        let n := Text.digitsValue written
        some (if negative then -(n : Int) else (n : Int), others)
    else none

/-- The number at the front of a text.  What does not continue a number is left in the rest. -/
def parseNumber (t : Text) : Parsed Json :=
  let (negative, unsigned) :=
    match t with
    | c :: rest => if c = point '-' then (true, rest) else (false, t)
    | [] => (false, [])
  let (whole, afterWhole) := wholeDigits unsigned
  if whole = [] then complain .value t
  else
    let (fraction, afterFraction) := fractionDigits afterWhole
    match fraction, exponent? afterFraction with
    | [], none =>
      if digitLimit < whole.length then .error (.digits whole.length)
      else
        let n : Int := Text.digitsValue whole
        .ok (.number (.int (if negative then -n else n)), afterWhole)
    | _, found =>
      let (exponent, rest) := found.getD (0, afterFraction)
      let significand := Text.digitsValue (whole ++ fraction)
      let value := Binary64.ofDecimal negative significand (exponent - fraction.length)
      .ok (.number (.float value), rest)

/-- The words that stand for values. -/
def words : List (Text × Json) :=
  [("null", .null), ("true", .bool true), ("false", .bool false),
    ("NaN", .number (.float (0.0 / 0.0))),
    ("Infinity", .number (.float (1.0 / 0.0))),
    ("-Infinity", .number (.float (-1.0 / 0.0)))]

/-- The word or number at the front of a text. -/
def parseScalar (t : Text) : Parsed Json :=
  match words.findSome? fun word => (after? word.1 t).map fun rest => (word.2, rest) with
  | some found => .ok found
  | none => parseNumber t

/-- Items up to the closing bracket; `read` are those before, in reverse order.  Every item takes one
code point of `room`; a room as long as the text is enough, since an item takes at least one there
too. -/
def itemsFrom (item : Text → Parsed Json) :
    (room : Text) → (read : List Json) → Text → Parsed (List Json)
  | [], _, t => complain .comma t
  | _ :: room, read, t =>
    match item t with
    | .error flaw => .error flaw
    | .ok (value, rest) =>
      match skipBlanks rest with
      | [] => complain .comma []
      | c :: others =>
        if c = point ']' then .ok ((value :: read).reverse, others)
        else if c = point ',' then itemsFrom item room (value :: read) (skipBlanks others)
        else complain .comma (c :: others)

/-- The items of the array whose opening bracket stands before `rest`. -/
def arrayBody (item : Text → Parsed Json) (rest : Text) : Parsed (List Json) :=
  match skipBlanks rest with
  | [] => complain .value []
  | c :: others =>
    if c = point ']' then .ok ([], others)
    else itemsFrom item (c :: others) [] (c :: others)

/-- The key at the front of a text, and its colon. -/
def memberKey (t : Text) : Parsed Text :=
  match t with
  | [] => complain .name []
  | c :: rest =>
    if c = point '"' then
      match stringBody rest with
      | .error flaw => .error flaw
      | .ok (key, others) =>
        match skipBlanks others with
        | [] => complain .colon []
        | d :: more =>
          if d = point ':' then .ok (key, skipBlanks more) else complain .colon (d :: more)
    else complain .name (c :: rest)

/-- Members up to the closing brace, like the items of an array. -/
def membersFrom (item : Text → Parsed Json) :
    (room : Text) → (read : List (Text × Json)) → Text → Parsed (List (Text × Json))
  | [], _, t => complain .comma t
  | _ :: room, read, t =>
    match memberKey t with
    | .error flaw => .error flaw
    | .ok (key, afterKey) =>
      match item afterKey with
      | .error flaw => .error flaw
      | .ok (value, rest) =>
        match skipBlanks rest with
        | [] => complain .comma []
        | c :: others =>
          if c = point '\x7d' then .ok (((key, value) :: read).reverse, others)
          else if c = point ',' then
            membersFrom item room ((key, value) :: read) (skipBlanks others)
          else complain .comma (c :: others)

/-- The members of the object whose opening brace stands before `rest`. -/
def objectBody (item : Text → Parsed Json) (rest : Text) : Parsed (List (Text × Json)) :=
  match skipBlanks rest with
  | [] => complain .name []
  | c :: others =>
    if c = point '\x7d' then .ok ([], others)
    else membersFrom item (c :: others) [] (c :: others)

/-- The value at the front of a text, with at most `depth` arrays and objects inside one another. -/
def parseValue : (depth : Nat) → Text → Parsed Json
  | _, [] => complain .value []
  | 0, c :: rest =>
    if c = point '"' then (stringBody rest).map fun r => (string r.1, r.2)
    else if c = point '[' then .error (.depth .array)
    else if c = point '\x7b' then .error (.depth .object)
    else parseScalar (c :: rest)
  | depth + 1, c :: rest =>
    if c = point '"' then (stringBody rest).map fun r => (string r.1, r.2)
    else if c = point '[' then (arrayBody (parseValue depth) rest).map fun r => (array r.1, r.2)
    else if c = point '\x7b' then
      (objectBody (parseValue depth) rest).map fun r => (object (Members.ofList r.1), r.2)
    else parseScalar (c :: rest)

/-- The mark that some encoders put in front of a text. -/
def byteOrderMark : CodePoint := ⟨0xFEFF, by decide⟩

/-- The value that a whole text denotes, with at most `limit` arrays and objects inside one another:
reading one inside another takes up a part of the stack. -/
def decode (t : Text) (limit : Nat := usualLimit) : Except Flaw Json :=
  if t.head? = some byteOrderMark then complain .byteOrderMark t
  else
    match parseValue limit (skipBlanks t) with
    | .error flaw => .error flaw
    | .ok (result, rest) =>
      match skipBlanks rest with
      | [] => .ok result
      | c :: others => complain .extra (c :: others)

def Complaint.text : Complaint → Text
  | .value => "Expecting value"
  | .name => "Expecting property name enclosed in double quotes"
  | .colon => "Expecting ':' delimiter"
  | .comma => "Expecting ',' delimiter"
  | .unterminated => "Unterminated string starting at"
  | .control => "Invalid control character at"
  | .escape => "Invalid \\escape"
  | .hexEscape => "Invalid \\uXXXX escape"
  | .extra => "Extra data"
  | .byteOrderMark => "Unexpected UTF-8 BOM (decode using utf-8-sig)"

/-- The place in a text after its first `position` code points: line and column from 1. -/
def place (t : Text) (position : Nat) : Text :=
  let before := t.take position
  let line := before.count (point '\n') + 1
  let column := (before.reverse.takeWhile (· ≠ point '\n')).length + 1
  text "line " ++ Text.ofNat line ++ text " column " ++ Text.ofNat column ++ text " (char " ++
    Text.ofNat position ++ text ")"

def Nesting.text : Nesting → Text
  | .array => "array"
  | .object => "object"

/-- The message about a flaw of the text `t`. -/
def Flaw.message (t : Text) : Flaw → Text
  | .misplaced complaint remaining =>
    complaint.text ++ SupervisorRpc.text ": " ++ place t (t.length - remaining)
  | .digits count =>
    SupervisorRpc.text "Exceeds the limit (" ++ Text.ofNat digitLimit ++
      SupervisorRpc.text " digits) for integer string conversion: value has " ++ Text.ofNat count ++
      SupervisorRpc.text " digits; use sys.set_int_max_str_digits() to increase the limit"
  | .depth nesting =>
    SupervisorRpc.text "maximum recursion depth exceeded while decoding a JSON " ++ nesting.text ++
      SupervisorRpc.text " from a unicode string"

end Json

end SupervisorRpc
