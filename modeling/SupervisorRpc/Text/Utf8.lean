import SupervisorRpc.Text.Basic

/-! UTF-8.  `Utf8.segments` cuts a byte string into encoded code points and ill-formed stretches, each
as long as the bytes that could still have begun a code point.  Strict decoding reports the first
ill-formed stretch, and replacing decoding writes U+FFFD for each: both read the same segments. -/

namespace SupervisorRpc

namespace Utf8

/-- A byte from its value. -/
def byte (n : Nat) : UInt8 := UInt8.ofNat n

/-- The bytes of a code point.  A surrogate gets the three bytes of its place in the code, which no
decoder accepts. -/
def encodePoint (c : CodePoint) : List UInt8 :=
  if c.val < 0x80 then [byte c.val]
  else if c.val < 0x800 then [byte (0xC0 + c.val / 0x40), byte (0x80 + c.val % 0x40)]
  else if c.val < 0x10000 then
    [byte (0xE0 + c.val / 0x1000), byte (0x80 + c.val / 0x40 % 0x40), byte (0x80 + c.val % 0x40)]
  else
    [byte (0xF0 + c.val / 0x40000), byte (0x80 + c.val / 0x1000 % 0x40),
      byte (0x80 + c.val / 0x40 % 0x40), byte (0x80 + c.val % 0x40)]

/-- The bytes of a text. -/
def encode (t : Text) : List UInt8 := t.flatMap encodePoint

/-- A run of surrogates, which strict encoding refuses: where it starts, and its length less one. -/
structure SurrogateRun where
  start : Nat
  first : CodePoint
  more : Nat
deriving DecidableEq

/-- The first run of surrogates of a text. -/
def surrogateRun? (t : Text) : Option SurrogateRun :=
  match t.dropWhile (!·.isSurrogate) with
  | [] => none
  | c :: rest =>
    some ⟨(t.takeWhile (!·.isSurrogate)).length, c, (rest.takeWhile (·.isSurrogate)).length⟩

/-- Why bytes are no code point. -/
inductive Reason where
  | invalidStart
  | invalidContinuation
  | unexpectedEnd
deriving DecidableEq

/-- A stretch of a byte string: the encoding of a code point, or bytes that are none. -/
inductive Segment where
  | scalar (c : CodePoint)
  | illFormed (bytes : List UInt8) (reason : Reason)
deriving DecidableEq

/-- The bytes of a segment. -/
def Segment.bytes : Segment → List UInt8
  | .scalar c => encodePoint c
  | .illFormed bytes _ => bytes

/-- What a first byte says: the bits that it carries, how many bytes follow, and between which
bounds the next one lies. -/
structure Lead where
  bits : Nat
  following : Nat
  low : Nat
  high : Nat

/-- The meaning of a first byte.  Bounds on the second byte exclude overlong forms, surrogates and
values past the last code point. -/
def lead? (b : UInt8) : Option Lead :=
  let n := b.toNat
  if n < 0x80 then some ⟨n, 0, 0x80, 0xBF⟩
  else if n < 0xC2 then none
  else if n < 0xE0 then some ⟨n - 0xC0, 1, 0x80, 0xBF⟩
  else if n = 0xE0 then some ⟨0, 2, 0xA0, 0xBF⟩
  else if n = 0xED then some ⟨0xD, 2, 0x80, 0x9F⟩
  else if n < 0xF0 then some ⟨n - 0xE0, 2, 0x80, 0xBF⟩
  else if n = 0xF0 then some ⟨0, 3, 0x90, 0xBF⟩
  else if n < 0xF4 then some ⟨n - 0xF0, 3, 0x80, 0xBF⟩
  else if n = 0xF4 then some ⟨4, 3, 0x80, 0x8F⟩
  else none

/-- Reads `following` more bytes of a code point after `taken`, which carry `bits` so far; the next
byte lies between `low` and `high`. -/
def follow (taken : List UInt8) (bits low high : Nat) : (following : Nat) → List UInt8 → Segment
  | 0, _ => .scalar (CodePoint.ofNat bits)
  | _ + 1, [] => .illFormed taken .unexpectedEnd
  | following + 1, b :: rest =>
    if low ≤ b.toNat ∧ b.toNat ≤ high then
      follow (taken ++ [b]) (bits * 0x40 + (b.toNat - 0x80)) 0x80 0xBF following rest
    else .illFormed taken .invalidContinuation

/-- The segment at the front of the byte string `b :: rest`. -/
def front (b : UInt8) (rest : List UInt8) : Segment :=
  match lead? b with
  | none => .illFormed [b] .invalidStart
  | some l => follow [b] l.bits l.low l.high l.following rest

/-- The segments of a byte string after `skip` bytes, behind `found` in reverse order. -/
def segmentsFrom (found : List Segment) : (skip : Nat) → List UInt8 → List Segment
  | _, [] => found.reverse
  | skip + 1, _ :: rest => segmentsFrom found skip rest
  | 0, b :: rest =>
    let segment := front b rest
    segmentsFrom (segment :: found) (segment.bytes.length - 1) rest

/-- The segments of a byte string. -/
def segments (bytes : List UInt8) : List Segment := segmentsFrom [] 0 bytes

/-- Why a byte string is no encoded text: its first ill-formed stretch and where that starts. -/
structure Malformed where
  position : Nat
  bytes : List UInt8
  reason : Reason
deriving DecidableEq

/-- The code points of segments, behind `decoded` in reverse order, or the first ill-formed one;
`position` bytes come before the segments. -/
def scalars (decoded : Text) (position : Nat) : List Segment → Except Malformed Text
  | [] => .ok decoded.reverse
  | .scalar c :: rest => scalars (c :: decoded) (position + (encodePoint c).length) rest
  | .illFormed bytes reason :: _ => .error ⟨position, bytes, reason⟩

/-- Strict decoding. -/
def decode (bytes : List UInt8) : Except Malformed Text := scalars [] 0 (segments bytes)

/-- The code point that stands for a segment in replacing decoding. -/
def Segment.replaced : Segment → CodePoint
  | .scalar c => c
  | .illFormed _ _ => CodePoint.replacement

/-- Replacing decoding. -/
def decodeReplacing (bytes : List UInt8) : Text := (segments bytes).map Segment.replaced

def Reason.text : Reason → Text
  | .invalidStart => "invalid start byte"
  | .invalidContinuation => "invalid continuation byte"
  | .unexpectedEnd => "unexpected end of data"

/-- The message about bytes that are no encoded text. -/
def Malformed.message (m : Malformed) : Text :=
  let last := m.position + m.bytes.length - 1
  let place :=
    match m.bytes with
    | [b] => text "byte 0x" ++ Text.hex 2 b.toNat ++ text " in position " ++ Text.ofNat m.position
    | _ => text "bytes in position " ++ Text.ofNat m.position ++ text "-" ++ Text.ofNat last
  text "'utf-8' codec can't decode " ++ place ++ text ": " ++ m.reason.text

/-- The message about a text that has no encoding. -/
def SurrogateRun.message (r : SurrogateRun) : Text :=
  let place :=
    if r.more = 0 then
      text "character '\\u" ++ Text.hex 4 r.first.val ++ text "' in position " ++ Text.ofNat r.start
    else
      text "characters in position " ++ Text.ofNat r.start ++ text "-" ++
        Text.ofNat (r.start + r.more)
  text "'utf-8' codec can't encode " ++ place ++ text ": surrogates not allowed"

end Utf8

end SupervisorRpc
