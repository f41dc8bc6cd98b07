import SupervisorRpc.Json.Basic

/-! Writing JSON.  Every written text is ASCII: other code points are escaped, those past U+FFFF as
surrogate pairs.  `Spacing` says what stands after separators, `Json.encode` writes on one line and
`Json.indented` on one line per item.  A value may have too much in it to be written; `Json.excess?`
says what, before a text is made. -/

namespace SupervisorRpc

namespace Json

/-- What stands between items and between a key and its value. -/
structure Spacing where
  comma : Text
  colon : Text

/-- No blanks at all, as in requests. -/
def compact : Spacing := ⟨",", ":"⟩

/-- A space after each separator, as in messages. -/
def spaced : Spacing := ⟨", ", ": "⟩

/-- The escape of a 16-bit unit. -/
def unitEscape (unit : Nat) : Text := text "\\u" ++ Text.hex 4 unit

/-- A code point of a string. -/
def encodePoint (c : CodePoint) : Text :=
  if c = point '"' then text "\\\""
  else if c = point '\\' then text "\\\\"
  else if c = point '\n' then text "\\n"
  else if c = point '\r' then text "\\r"
  else if c = point '\t' then text "\\t"
  else if c.val = 0x08 then text "\\b"
  else if c.val = 0x0C then text "\\f"
  else if c.within 0x20 0x7E then [c]
  else if c.val < 0x10000 then unitEscape c.val
  else
    let offset := c.val - 0x10000
    unitEscape (0xD800 + offset / 0x400) ++ unitEscape (0xDC00 + offset % 0x400)

/-- A string with its quotes. -/
def encodeString (t : Text) : Text := point '"' :: t.flatMap encodePoint ++ [point '"']

def openBracket : Text := "["
def closeBracket : Text := "]"
def openBrace : Text := "\x7b"
def closeBrace : Text := "\x7d"

mutual

/-- A value on one line. -/
def encode (s : Spacing) : Json → Text
  | null => "null"
  | bool b => if b then "true" else "false"
  | number n => n.toText
  | string t => encodeString t
  | array items => openBracket ++ encodeItems s items ++ closeBracket
  | object members => openBrace ++ encodeMembers s members ++ closeBrace

/-- Items with separators between them. -/
def encodeItems (s : Spacing) : List Json → Text
  | [] => []
  | [item] => encode s item
  | item :: rest => encode s item ++ s.comma ++ encodeItems s rest

/-- Members with separators between them. -/
def encodeMembers (s : Spacing) : List (Text × Json) → Text
  | [] => []
  | [(key, value)] => encodeString key ++ s.colon ++ encode s value
  | (key, value) :: rest =>
    encodeString key ++ s.colon ++ encode s value ++ s.comma ++ encodeMembers s rest

end

/-- A line end and the indentation of the given level, two spaces each. -/
def lineBreak (level : Nat) : Text := point '\n' :: Text.spaces (2 * level)

mutual

/-- A value on one line per item, at a level of indentation.  Empty arrays and objects stay on their
line. -/
def indentedAt (level : Nat) : Json → Text
  | null => "null"
  | bool b => if b then "true" else "false"
  | number n => n.toText
  | string t => encodeString t
  | array [] => openBracket ++ closeBracket
  | array (item :: rest) =>
    openBracket ++ lineBreak (level + 1) ++ indentedAt (level + 1) item ++
      indentedItems (level + 1) rest ++ lineBreak level ++ closeBracket
  | object [] => openBrace ++ closeBrace
  | object ((key, value) :: rest) =>
    openBrace ++ lineBreak (level + 1) ++ encodeString key ++ text ": " ++
      indentedAt (level + 1) value ++ indentedMembers (level + 1) rest ++ lineBreak level ++
      closeBrace

/-- The items after the first. -/
def indentedItems (level : Nat) : List Json → Text
  | [] => []
  | item :: rest =>
    point ',' :: lineBreak level ++ indentedAt level item ++ indentedItems level rest

/-- The members after the first. -/
def indentedMembers (level : Nat) : List (Text × Json) → Text
  | [] => []
  | (key, value) :: rest =>
    point ',' :: lineBreak level ++ encodeString key ++ text ": " ++ indentedAt level value ++
      indentedMembers level rest

end

/-- A value on one line per item. -/
def indented (value : Json) : Text := indentedAt 0 value

/-- What there is too much of in a value. -/
inductive Excess where
  /-- The digits of an integer. -/
  | digits
  /-- Arrays and objects inside one another. -/
  | depth
deriving DecidableEq

def Excess.message : Excess → Text
  | .digits =>
    text "Exceeds the limit (" ++ Text.ofNat digitLimit ++
      text " digits) for integer string conversion; " ++
      text "use sys.set_int_max_str_digits() to increase the limit"
  | .depth => "maximum recursion depth exceeded while encoding a JSON object"

mutual

/-- What keeps a value from being written where at most `room` arrays and objects may be inside one
another: what comes first, in the order in which the value is written. -/
def excess? : (room : Nat) → Json → Option Excess
  | _, number (.int i) =>
    if digitLimit < (Text.ofNat i.natAbs).length then some .digits else none
  | 0, array _ => some .depth
  | 0, object _ => some .depth
  | room + 1, array items => itemsExcess? room items
  | room + 1, object members => membersExcess? room members
  | _, _ => none

def itemsExcess? (room : Nat) : List Json → Option Excess
  | [] => none
  | item :: rest => (excess? room item).or (itemsExcess? room rest)

def membersExcess? (room : Nat) : List (Text × Json) → Option Excess
  | [] => none
  | (_, value) :: rest => (excess? room value).or (membersExcess? room rest)

end

end Json

end SupervisorRpc
