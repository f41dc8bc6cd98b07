import SupervisorRpc.Text.Basic

/-! The internet addresses that may stand between brackets in a URL, as predicates on text. -/

namespace SupervisorRpc

namespace Url

/-- One of the four numbers of an IPv4 address: at most 255, without leading zeros. -/
def isOctet (t : Text) : Bool :=
  t.all CodePoint.isAsciiDigit && 1 ≤ t.length && t.length ≤ 3 &&
    (t.length = 1 || t.head? ≠ some (point '0')) && Text.digitsValue t ≤ 255

/-- Four numbers with points between them. -/
def isIPv4 (t : Text) : Bool :=
  let octets := Text.segments (point '.') t
  octets.length = 4 && octets.all isOctet

/-- One of the eight groups of an IPv6 address. -/
def isGroup (t : Text) : Bool := t.all CodePoint.isHexDigit && 1 ≤ t.length && t.length ≤ 4

/-- The groups before or after `::`; the colons at the very end of an address leave one empty
piece. -/
def isHalf (pieces : List Text) : Bool := pieces = [[]] || pieces.all isGroup

/-- How many groups a half has. -/
def halfLength (pieces : List Text) : Nat := if pieces = [[]] then 0 else pieces.length

/-- Pieces between colons that make an IPv6 address: eight groups, or fewer with one `::`. -/
def isIPv6Pieces (pieces : List Text) : Bool :=
  let inner := pieces.tail.dropLast
  match inner.count [] with
  | 0 => pieces.length = 8 && pieces.all isGroup
  | 1 =>
    let before := pieces.take (inner.idxOf [] + 1)
    let after := pieces.drop (inner.idxOf [] + 2)
    pieces.length ≤ 9 && isHalf before && isHalf after && halfLength before + halfLength after ≤ 7
  | _ => false

/-- An IPv6 address without a zone.  An IPv4 address may stand in place of the last two groups. -/
def isIPv6Unscoped (t : Text) : Bool :=
  let pieces := Text.segments (point ':') t
  let last := pieces.getLast?.getD []
  3 ≤ pieces.length &&
    if point '.' ∈ last then isIPv4 last && isIPv6Pieces (pieces.dropLast ++ [text "0", text "0"])
    else isIPv6Pieces pieces

/-- An IPv6 address, with or without a zone after `%`. -/
def isIPv6 (t : Text) : Bool :=
  match Text.cut (point '%') t with
  | (address, none) => isIPv6Unscoped address
  | (address, some zone) => !zone.isEmpty && point '%' ∉ zone && isIPv6Unscoped address

/-- An address of a later version: `v`, its number in base 16, a point and more. -/
def isFutureAddress (t : Text) : Bool :=
  match t with
  | [] => false
  | c :: rest =>
    let version := rest.takeWhile CodePoint.isHexDigit
    let others := rest.dropWhile CodePoint.isHexDigit
    c = point 'v' && !version.isEmpty && others.head? = some (point '.') && 2 ≤ others.length &&
      point '\n' ∉ others

end Url

end SupervisorRpc
