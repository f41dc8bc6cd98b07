import SupervisorRpc.Number.Binary64

/-! The fewest decimal digits that read back as a given double-precision number.  For each count of
digits the two neighbours of the number on that decimal grid are tried; the first grid with a
neighbour among the reals that round to the number wins, and of two such neighbours the nearer. -/

namespace SupervisorRpc

namespace Binary64

/-- A decimal: `digits * 10 ^ power`. -/
structure Decimal where
  digits : Nat
  power : Int
deriving DecidableEq

/-- The count of decimal digits of `n`. -/
def digitCount (n : Nat) : Nat := n.repr.length

/-- The greatest `k` with `10 ^ k ≤ num / den`, for a positive fraction. -/
def magnitude (num den : Nat) : Int :=
  let guess : Int := digitCount num - digitCount den
  let scaled := scale 10 num den (-guess)
  if scaled.2 ≤ scaled.1 then guess else guess - 1

/-- The reals that round to `significand * 2 ^ exponent`, in units of `2 ^ (exponent - 2)`: the
number itself and the ends of the interval.  The gap below a power of two is half the gap above. -/
structure Interval where
  low : Nat
  middle : Nat
  high : Nat
  closed : Bool

def interval (significand : Nat) (exponent : Int) : Interval :=
  let below := if significand = Nat.pow 2 52 ∧ leastExponent < exponent then 1 else 2
  ⟨4 * significand - below, 4 * significand, 4 * significand + 2, significand % 2 = 0⟩

/-- The decimal `digits * 10 ^ power` lies in the interval whose unit is `unit.1 / unit.2`. -/
def Interval.contains (i : Interval) (unit : Nat × Nat) (digits : Nat) (power : Int) : Bool :=
  let decimal := scale 10 digits 1 power
  let place := decimal.1 * unit.2
  let low := i.low * unit.1 * decimal.2
  let high := i.high * unit.1 * decimal.2
  if i.closed then low ≤ place && place ≤ high else low < place && place < high

/-- The neighbour of the interval's middle on the grid of multiples of `10 ^ power` that lies in the
interval; of two, the nearer, and in a tie the even one. -/
def Interval.onGrid? (i : Interval) (unit : Nat × Nat) (power : Int) : Option Nat :=
  let scaled := scale 10 (i.middle * unit.1) unit.2 (-power)
  let below := scaled.1 / scaled.2
  let nearer := roundDiv scaled.1 scaled.2
  let farther := if nearer = below then below + 1 else below
  if i.contains unit nearer power then some nearer
  else if i.contains unit farther power then some farther
  else none

/-- A decimal without zeros at its end. -/
def Decimal.normal : (fuel : Nat) → Decimal → Decimal
  | 0, d => d
  | fuel + 1, d =>
    if d.digits % 10 = 0 then normal fuel ⟨d.digits / 10, d.power + 1⟩ else d

/-- The decimal with the fewest digits that rounds to `significand * 2 ^ exponent`, for a positive
significand.  Seventeen digits always suffice. -/
def shortest (significand : Nat) (exponent : Int) : Decimal :=
  let i := interval significand exponent
  let unit := scale 2 1 1 (exponent - 2)
  let top := magnitude (i.middle * unit.1) unit.2
  let found := (List.range 17).findSome? fun (n : Nat) =>
    let power := top - n
    (i.onGrid? unit power).map fun digits => Decimal.mk digits power
  (found.getD ⟨significand, exponent⟩).normal 17

end Binary64

end SupervisorRpc
