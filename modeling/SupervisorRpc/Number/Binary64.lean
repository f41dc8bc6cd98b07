/-! Double-precision numbers as exact fractions.  `Binary64.decode` reads the sign, significand and
exponent of a number; `Binary64.nearest` goes from an exact fraction to the nearest number, a tie
to the one with an even significand. -/

namespace SupervisorRpc

namespace Binary64

/-- What a double-precision number is: `± significand * 2 ^ exponent`, an infinity, or none. -/
inductive Value where
  | finite (negative : Bool) (significand : Nat) (exponent : Int)
  | infinite (negative : Bool)
  | notANumber
deriving DecidableEq

/-- The least exponent of a number; the gap between the least numbers is `2 ^ leastExponent`. -/
def leastExponent : Int := -1074

/-- Sign, significand and exponent of a number. -/
def decode (x : Float) : Value :=
  let bits := x.toBits.toNat
  let negative := bits / Nat.pow 2 63 = 1
  let biased : Nat := bits / Nat.pow 2 52 % Nat.pow 2 11
  let fraction : Nat := bits % Nat.pow 2 52
  if biased = 0x7FF then
    if fraction = 0 then .infinite negative else .notANumber
  else if biased = 0 then .finite negative fraction leastExponent
  else .finite negative (Nat.pow 2 52 + fraction) ((biased : Int) - 1 + leastExponent)

/-- The quotient of two natural numbers rounded to the nearest one, a tie to the even one. -/
def roundDiv (num den : Nat) : Nat :=
  let q := num / den
  let r := num % den
  if 2 * r < den then q
  else if den < 2 * r then q + 1
  else q + q % 2

/-- `num / den` times `base ^ power`, as a fraction. -/
def scale (base num den : Nat) (power : Int) : Nat × Nat :=
  if power < 0 then (num, den * base.pow power.natAbs) else (num * base.pow power.natAbs, den)

/-- The exponent at which `num / den` has a significand of 53 bits, or the least exponent. -/
def significandExponent (num den : Nat) : Int :=
  let guess : Int := num.log2 - den.log2 - 52
  let scaled := scale 2 num den (-guess)
  let exponent := if scaled.1 < scaled.2 * Nat.pow 2 52 then guess - 1 else guess
  max exponent leastExponent

/-- The bits of the number nearest to `num / den`.  A significand that rounding takes to the next
power of two carries over into the exponent. -/
def nearestBits (num den : Nat) : Nat :=
  if num = 0 then 0
  else
    let exponent := significandExponent num den
    let scaled := scale 2 num den (-exponent)
    min (roundDiv scaled.1 scaled.2 + (exponent - leastExponent).toNat * Nat.pow 2 52)
      (0x7FF * Nat.pow 2 52)

/-- The number nearest to `± num / den`; beyond the largest number, an infinity. -/
def nearest (negative : Bool) (num den : Nat) : Float :=
  Float.ofBits (nearestBits num den + if negative then Nat.pow 2 63 else 0).toUInt64

/-- The number nearest to `± digits * 10 ^ power`.  Powers far outside the range of exponents are
decided without computing them. -/
def ofDecimal (negative : Bool) (digits : Nat) (power : Int) : Float :=
  let magnitude : Int := digits.log2 * 30103 / 100000 + power
  if digits = 0 ∨ magnitude < -400 then nearest negative 0 1
  else if 400 < magnitude then nearest negative (Nat.pow 2 1024) 1
  else
    let scaled := scale 10 digits 1 power
    nearest negative scaled.1 scaled.2

/-- The number nearest to an integer, unless that lies beyond the largest number. -/
def ofInt? (i : Int) : Option Float :=
  if nearestBits i.natAbs 1 < 0x7FF * Nat.pow 2 52 then some (nearest (i < 0) i.natAbs 1) else none

end Binary64

end SupervisorRpc
