import Mathlib.Data.List.Chain
import SupervisorRpc.Json.Basic

/-! Which texts write a value.  `Written depth v t` says that the text `t` writes the value `v` with at
most `depth` arrays and objects inside one another: with any blanks between tokens, any of the ways
to write a code point of a string, and the members of an object in any order and number.  Numbers
are integers, and strings hold no surrogate pair as two halves.  The grammar is stated without the
reader. -/

namespace SupervisorRpc

/-- No first half of a surrogate pair is directly followed by a second half. -/
def Text.Unpaired (t : Text) : Prop :=
  t.IsChain fun a b => ¬(a.isHighSurrogate = true ∧ b.isLowSurrogate = true)

instance (t : Text) : Decidable t.Unpaired :=
  inferInstanceAs (Decidable (List.IsChain _ t))

namespace Json

/-- Blanks, as they may stand between tokens. -/
def Blanks (t : Text) : Prop :=
  ∀ c ∈ t, c = point ' ' ∨ c = point '\t' ∨ c = point '\n' ∨ c = point '\r'

/-- The escapes of one letter: the letter, and the number of the code point that it stands for. -/
def letterEscapes : List (Char × Nat) :=
  [('"', 0x22), ('\\', 0x5C), ('/', 0x2F), ('b', 0x08), ('f', 0x0C), ('n', 0x0A), ('r', 0x0D),
    ('t', 0x09)]

/-- The text is the escape of a 16-bit unit: four hexadecimal digits in either case. -/
inductive UnitWritten : Nat → Text → Prop
  | mk {a b c d : CodePoint} {i j k l : Nat} (ha : a.hexValue? = some i)
      (hb : b.hexValue? = some j) (hc : c.hexValue? = some k) (hd : d.hexValue? = some l) :
      UnitWritten (((i * 16 + j) * 16 + k) * 16 + l) [point '\\', point 'u', a, b, c, d]

/-- The text writes a code point of a string: as it is, by a letter, by a unit, or as two units. -/
inductive PointWritten : CodePoint → Text → Prop
  | plain {c : CodePoint} (hc : 0x20 ≤ c.val) (hquote : c ≠ point '"') (hslash : c ≠ point '\\') :
      PointWritten c [c]
  | letter {c : CodePoint} {letter : Char} (h : (letter, c.val) ∈ letterEscapes) :
      PointWritten c [point '\\', point letter]
  | unit {c : CodePoint} {t : Text} (h : UnitWritten c.val t) : PointWritten c t
  | pair {c : CodePoint} {high low : Nat} {t u : Text} (hhigh : 0xD800 ≤ high ∧ high ≤ 0xDBFF)
      (hlow : 0xDC00 ≤ low ∧ low ≤ 0xDFFF)
      (hc : c.val = 0x10000 + (high - 0xD800) * 0x400 + (low - 0xDC00))
      (ht : UnitWritten high t) (hu : UnitWritten low u) : PointWritten c (t ++ u)

/-- The text writes the code points of a string, between its quotes. -/
inductive PointsWritten : Text → Text → Prop
  | nil : PointsWritten [] []
  | cons {c : CodePoint} {s t u : Text} (hc : PointWritten c t) (hs : PointsWritten s u) :
      PointsWritten (c :: s) (t ++ u)

/-- The text writes a string with its quotes. -/
inductive StringWritten : Text → Text → Prop
  | mk {s t : Text} (hs : s.Unpaired) (h : PointsWritten s t) :
      StringWritten s (point '"' :: t ++ [point '"'])

/-- The text writes an integer of at most 4300 digits. -/
inductive IntegerWritten : Int → Text → Prop
  | plain {n : Nat} (h : (Text.ofNat n).length ≤ 4300) : IntegerWritten n (Text.ofNat n)
  | negative {n : Nat} (h : (Text.ofNat n).length ≤ 4300) :
      IntegerWritten (-n) (point '-' :: Text.ofNat n)

/-- The text writes a value that has no values inside it. -/
inductive ScalarWritten : Json → Text → Prop
  | null : ScalarWritten .null "null"
  | true : ScalarWritten (.bool true) "true"
  | false : ScalarWritten (.bool false) "false"
  | integer {i : Int} {t : Text} (h : IntegerWritten i t) : ScalarWritten (.number (.int i)) t
  | string {s t : Text} (h : StringWritten s t) : ScalarWritten (.string s) t

section

variable {α : Type}

/-- The text writes something with blanks around it. -/
inductive Padded (W : α → Text → Prop) : α → Text → Prop
  | mk {a : α} {before t after : Text} (hbefore : Blanks before) (h : W a t)
      (hafter : Blanks after) : Padded W a (before ++ t ++ after)

/-- The text writes one thing after another, with commas between them. -/
inductive Separated (W : α → Text → Prop) : List α → Text → Prop
  | one {a : α} {t : Text} (h : W a t) : Separated W [a] t
  | cons {a : α} {rest : List α} {t u : Text} (h : W a t) (hrest : Separated W rest u) :
      Separated W (a :: rest) (t ++ point ',' :: u)

/-- The text writes what stands between two brackets. -/
inductive Listed (W : α → Text → Prop) : List α → Text → Prop
  | empty {t : Text} (h : Blanks t) : Listed W [] t
  | some {as : List α} {t : Text} (h : Separated (Padded W) as t) : Listed W as t

end

/-- The text writes a member, its value as `inner` says. -/
inductive MemberWritten (inner : Json → Text → Prop) : Text × Json → Text → Prop
  | mk {key k before after t : Text} {v : Json} (hkey : StringWritten key k)
      (hbefore : Blanks before) (hafter : Blanks after) (h : inner v t) :
      MemberWritten inner (key, v) (k ++ before ++ point ':' :: after ++ t)

/-- The text writes an object by its members in writing order, their values as `inner` says. -/
inductive ObjectWritten (inner : Json → Text → Prop) : List (Text × Json) → Text → Prop
  | mk {members : List (Text × Json)} {t : Text} (h : Listed (MemberWritten inner) members t) :
      ObjectWritten inner members (point '\x7b' :: t ++ [point '\x7d'])

/-- The text writes a value, the values inside it as `inner` says. -/
inductive Layer (inner : Json → Text → Prop) : Json → Text → Prop
  | scalar {v : Json} {t : Text} (h : ScalarWritten v t) : Layer inner v t
  | array {items : List Json} {t : Text} (h : Listed inner items t) :
      Layer inner (.array items) (point '[' :: t ++ [point ']'])
  | object {members : List (Text × Json)} {t : Text} (h : ObjectWritten inner members t) :
      Layer inner (.object (Members.ofList members)) t

/-- The text writes a value with at most `depth` arrays and objects inside one another. -/
def Written : (depth : Nat) → Json → Text → Prop
  | 0 => ScalarWritten
  | depth + 1 => Layer (Written depth)

end Json

end SupervisorRpc
