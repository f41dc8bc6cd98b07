/-! Text as the list of its code points.  A code point may be a surrogate: a JSON escape can name
half of a surrogate pair on its own, so text is wider than `String`.  `Text.cut`, `Text.cutLast`
and `Text.segments` take text apart at a separator; each loses nothing but the separators. -/

namespace SupervisorRpc

/-- A Unicode code point, surrogates included. -/
structure CodePoint where
  val : Nat
  isLt : val < 0x110000
deriving DecidableEq

/-- Text: a list of code points. -/
abbrev Text := List CodePoint

namespace CodePoint

/-- The code point of a character. -/
def ofChar (c : Char) : CodePoint :=
  ⟨c.toNat, by
    have h := c.valid
    simp only [UInt32.isValidChar, Nat.isValidChar] at h
    simp only [Char.toNat]
    omega⟩

instance : Coe Char CodePoint := ⟨ofChar⟩

instance : Inhabited CodePoint := ⟨ofChar ' '⟩

@[ext] theorem ext {a b : CodePoint} (h : a.val = b.val) : a = b := by
  cases a; cases b; simp_all

/-- The code point numbered `n`, or U+FFFD where there is none. -/
def ofNat (n : Nat) : CodePoint :=
  if h : n < 0x110000 then ⟨n, h⟩ else ⟨0xFFFD, by decide⟩

theorem val_ofNat {n : Nat} (h : n < 0x110000) : (ofNat n).val = n := by
  simp [ofNat, h]

/-- The replacement character U+FFFD. -/
def replacement : CodePoint := ⟨0xFFFD, by decide⟩

/-- `c` lies between `lo` and `hi`, both included. -/
def within (c : CodePoint) (lo hi : Nat) : Bool := lo ≤ c.val && c.val ≤ hi

/-- The first half of a surrogate pair. -/
def isHighSurrogate (c : CodePoint) : Bool := c.within 0xD800 0xDBFF

/-- The second half of a surrogate pair. -/
def isLowSurrogate (c : CodePoint) : Bool := c.within 0xDC00 0xDFFF

def isSurrogate (c : CodePoint) : Bool := c.within 0xD800 0xDFFF

def isAscii (c : CodePoint) : Bool := c.val < 0x80

def isAsciiDigit (c : CodePoint) : Bool := c.within 0x30 0x39

def isAsciiUpper (c : CodePoint) : Bool := c.within 0x41 0x5A

def isAsciiLower (c : CodePoint) : Bool := c.within 0x61 0x7A

def isAsciiLetter (c : CodePoint) : Bool := c.isAsciiUpper || c.isAsciiLower

/-- The ASCII letters in lower case and every other code point as it is. -/
def asciiLower (c : CodePoint) : CodePoint :=
  if c.isAsciiUpper then ofNat (c.val + 0x20) else c

/-- The value of a hexadecimal digit. -/
def hexValue? (c : CodePoint) : Option Nat :=
  if c.isAsciiDigit then some (c.val - 0x30)
  else if c.within 0x41 0x46 then some (c.val - 0x37)
  else if c.within 0x61 0x66 then some (c.val - 0x57)
  else none

def isHexDigit (c : CodePoint) : Bool := c.hexValue?.isSome

end CodePoint

/-- The code point of a character. -/
abbrev point (c : Char) : CodePoint := CodePoint.ofChar c

namespace Text

/-- The code points of a string. -/
def ofString (s : String) : Text := s.toList.map CodePoint.ofChar

instance : Coe String Text := ⟨ofString⟩

end Text

/-- The text of a string. -/
abbrev text (s : String) : Text := Text.ofString s

namespace Text

/-- The string of a text; a surrogate, which no string can hold, becomes U+FFFD. -/
def toString (t : Text) : String :=
  String.ofList (t.map fun c => if c.isSurrogate then '\uFFFD' else Char.ofNat c.val)

/-- What stands before the first `c`, and after it if there is one. -/
def cut (c : CodePoint) (t : Text) : Text × Option Text :=
  (t.takeWhile (· != c), (t.dropWhile (· != c)).tail?)

/-- What stands before the last `c` if there is one, and after it. -/
def cutLast (c : CodePoint) (t : Text) : Option Text × Text :=
  let reversed := t.reverse
  ((reversed.dropWhile (· != c)).tail?.map List.reverse, (reversed.takeWhile (· != c)).reverse)

theorem cut_of_notMem {c : CodePoint} {t : Text} (h : c ∉ t) : cut c t = (t, none) := by
  have all : ∀ d ∈ t, (d != c) = true := fun d hd => bne_iff_ne.mpr fun e => h (e ▸ hd)
  have taken : t.takeWhile (· != c) = t := by
    simpa using @List.takeWhile_append_of_pos _ (· != c) t [] all
  have dropped : t.dropWhile (· != c) = [] := by
    simpa using @List.dropWhile_append_of_pos _ (· != c) t [] all
  rw [cut, taken, dropped]
  rfl

theorem cut_append {c : CodePoint} {before : Text} (h : c ∉ before) (after : Text) :
    cut c (before ++ c :: after) = (before, some after) := by
  have all : ∀ d ∈ before, (d != c) = true := fun d hd => bne_iff_ne.mpr fun e => h (e ▸ hd)
  rw [cut, List.takeWhile_append_of_pos all, List.dropWhile_append_of_pos all]
  simp

theorem cutLast_of_notMem {c : CodePoint} {t : Text} (h : c ∉ t) : cutLast c t = (none, t) := by
  have reversed : c ∉ t.reverse := by simpa using h
  have found := cut_of_notMem reversed
  simp only [cut, Prod.mk.injEq] at found
  simp [cutLast, found]

theorem cutLast_append {c : CodePoint} (before : Text) {after : Text} (h : c ∉ after) :
    cutLast c (before ++ c :: after) = (some before, after) := by
  have reversed : c ∉ after.reverse := by simpa using h
  have found := cut_append reversed before.reverse
  simp only [cut, Prod.mk.injEq] at found
  simp [cutLast, found]

/-- The pieces between the occurrences of `c`: one more than there are occurrences. -/
def segments (c : CodePoint) : Text → List Text
  | [] => [[]]
  | d :: rest =>
    if d = c then [] :: segments c rest
    else
      match segments c rest with
      | [] => [[d]]
      | first :: others => (d :: first) :: others

theorem segments_ne_nil (c : CodePoint) (t : Text) : segments c t ≠ [] := by
  cases t with
  | nil => simp [segments]
  | cons d rest =>
    rw [segments]
    split
    · simp
    · split <;> simp

/-- The pieces with `separator` between each two. -/
def join (separator : Text) (pieces : List Text) : Text := separator.intercalate pieces

/-- Nothing but the separators is lost. -/
theorem join_segments (c : CodePoint) (t : Text) : join [c] (segments c t) = t := by
  induction t with
  | nil => rfl
  | cons d rest ih =>
    obtain ⟨first, others, found⟩ := List.exists_cons_of_ne_nil (segments_ne_nil c rest)
    rw [segments]
    rw [found] at ih ⊢
    split
    · next h => simp [join, List.intercalate, List.intersperse] at ih ⊢; simp [h, ih]
    · cases others <;> simp_all [join, List.intercalate, List.intersperse]

/-- `t` without the code points at its end that satisfy `p`. -/
def dropRightWhile (p : CodePoint → Bool) (t : Text) : Text := (t.reverse.dropWhile p).reverse

/-- `t` without the code points at both ends that satisfy `p`. -/
def trim (p : CodePoint → Bool) (t : Text) : Text := dropRightWhile p (t.dropWhile p)

/-- A natural number in decimal digits. -/
def ofNat (n : Nat) : Text := ofString n.repr

/-- An integer in decimal digits, with a sign if it is negative. -/
def ofInt (i : Int) : Text := if i < 0 then point '-' :: ofNat i.natAbs else ofNat i.natAbs

/-- The number that a list of decimal digits denotes. -/
def digitsValue (digits : Text) : Nat := digits.foldl (fun n d => 10 * n + (d.val - 0x30)) 0

/-- A digit of a number in base 16, in lower case. -/
def hexDigit (n : Nat) : CodePoint := CodePoint.ofNat (if n < 10 then 0x30 + n else 0x57 + n)

/-- The lowest `width` digits of `n` in base 16, in lower case. -/
def hex : (width : Nat) → (n : Nat) → Text
  | 0, _ => []
  | width + 1, n => hex width (n / 16) ++ [hexDigit (n % 16)]

/-- `n` spaces. -/
def spaces (n : Nat) : Text := List.replicate n (point ' ')

/-- `t` followed by as many spaces as bring it to `width` code points. -/
def padRight (width : Nat) (t : Text) : Text := t ++ spaces (width - t.length)

end Text

end SupervisorRpc
