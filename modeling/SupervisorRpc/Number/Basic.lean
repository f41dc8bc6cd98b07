import SupervisorRpc.Text.Basic
import SupervisorRpc.Number.Shortest

/-! Numbers: integers of any size and double-precision numbers, with the arithmetic of a clock and
the two ways in which they are written. -/

namespace SupervisorRpc

/-- A number is an integer or a double-precision number, and keeps which of the two it is. -/
inductive Number where
  | int (i : Int)
  | float (x : Float)

namespace Number

instance : Inhabited Number := ⟨.int 0⟩

/-- The double-precision number nearest to a number.  An integer beyond the largest one has none. -/
def toFloat? : Number → Option Float
  | int i => Binary64.ofInt? i
  | float x => some x

/-- The difference; exact between integers.  There is none where an integer beyond the largest
double-precision number meets such a number. -/
def sub? : Number → Number → Option Number
  | int i, int j => some (int (i - j))
  | x, y => do
    let x ← x.toFloat?
    let y ← y.toFloat?
    return float (x - y)

/-- A thousand times a number; exact for an integer. -/
def thousandfold : Number → Number
  | int i => int (i * 1000)
  | float x => float (x * 1000.0)

/-- A number counts as nothing when it is zero. -/
def isZero : Number → Bool
  | int i => i = 0
  | float x => x == 0.0

/-- How a double-precision number is written with the fewest digits. -/
structure Layout where
  /-- The least decimal exponent that is written without an exponent. -/
  leastPositional : Int
  /-- The least decimal exponent from which an exponent is written again. -/
  leastScientific : Int
  /-- The least count of digits of a written exponent. -/
  exponentDigits : Nat
  infinity : Text
  notANumber : Text

/-- Numbers of messages: positional from `0.0001` up to below `10 ^ 16`. -/
def layout : Layout where
  leastPositional := -4
  leastScientific := 16
  exponentDigits := 2
  infinity := "Infinity"
  notANumber := "NaN"

def sign (negative : Bool) : Text := if negative then "-" else []

/-- Digits without an exponent; a whole number ends in `.0`. -/
def positional (digits : Text) (exponent : Int) : Text :=
  if exponent < 0 then
    text "0." ++ List.replicate (-1 - exponent).toNat (point '0') ++ digits
  else
    let whole := exponent.toNat + 1
    let padded := digits ++ List.replicate (whole - digits.length) (point '0')
    let fraction := padded.drop whole
    padded.take whole ++ point '.' :: (if fraction.isEmpty then text "0" else fraction)

/-- Digits with an exponent, its sign always written. -/
def scientific (l : Layout) (digits : Text) (exponent : Int) : Text :=
  let places := Text.ofNat exponent.natAbs
  let zeros := List.replicate (l.exponentDigits - places.length) (point '0')
  let fraction := digits.drop 1
  digits.take 1 ++ (if fraction.isEmpty then [] else point '.' :: fraction) ++
    text (if exponent < 0 then "e-" else "e+") ++ zeros ++ places

/-- A double-precision number in the fewest digits that read back as it. -/
def floatText (l : Layout) (x : Float) : Text :=
  match Binary64.decode x with
  | .notANumber => l.notANumber
  | .infinite negative => sign negative ++ l.infinity
  | .finite negative significand exponent =>
    if significand = 0 then sign negative ++ "0.0"
    else
      let decimal := Binary64.shortest significand exponent
      let digits := Text.ofNat decimal.digits
      let leading := decimal.power + digits.length - 1
      sign negative ++
        if l.leastPositional ≤ leading ∧ leading < l.leastScientific then positional digits leading
        else scientific l digits leading

/-- A number as messages write it. -/
def toText : Number → Text
  | int i => Text.ofInt i
  | float x => floatText layout x

/-- A double-precision number with exactly two places after the point, a tie going to the even last
digit. -/
def floatCents (x : Float) : Text :=
  match Binary64.decode x with
  | .notANumber => "nan"
  | .infinite negative => sign negative ++ "inf"
  | .finite negative significand exponent =>
    let scaled := Binary64.scale 2 (significand * 100) 1 exponent
    let cents := Binary64.roundDiv scaled.1 scaled.2
    sign negative ++ Text.ofNat (cents / 100) ++
      [point '.', Text.hexDigit (cents / 10 % 10), Text.hexDigit (cents % 10)]

/-- A number with exactly two places after the point, rounded to double precision first. -/
def toCents? (x : Number) : Option Text := x.toFloat?.map floatCents

end Number

end SupervisorRpc
