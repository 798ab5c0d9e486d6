import ShapeFlow.Binary.Rounding

/-!
The fewest decimal digits that determine a number of a binary format, and among those the decimal
nearest to the number.
-/

namespace ShapeFlow.Binary

/-- The number `digits * 10 ^ exponent`. -/
structure Decimal where
  digits : Nat
  exponent : Int
  deriving DecidableEq

def floorLog10 (num den : Nat) : Int :=
  if den ≤ num then ((Nat.toDigits 10 (num / den)).length : Int) - 1
  else -((Nat.toDigits 10 ((den - 1) / num)).length : Int)

/-- The numbers that round to a given one, as multiples of a common unit. The ends belong to the
interval if the mantissa is even. -/
structure Interval where
  low : Nat
  middle : Nat
  high : Nat
  closed : Bool

/-- A quarter of the last place, as an exponent of two, is the unit of the interval. -/
def Format.interval (format : Format) (number : Magnitude) : Interval where
  low :=
    if number.mantissa = Nat.pow 2 (format.precision - 1) ∧
        format.minExponent < number.exponent then
      4 * number.mantissa - 1
    else 4 * number.mantissa - 2
  middle := 4 * number.mantissa
  high := 4 * number.mantissa + 2
  closed := number.mantissa % 2 = 0

def Interval.scale (interval : Interval) (factor : Nat) : Interval :=
  { interval with
    low := interval.low * factor
    middle := interval.middle * factor
    high := interval.high * factor }

def Interval.contains (interval : Interval) (value : Nat) : Bool :=
  if interval.closed then interval.low ≤ value && value ≤ interval.high
  else interval.low < value && value < interval.high

/-- Of the two multiples of `unit` around the middle, the nearer one inside the interval; the even
one if both are equally near. -/
def Interval.neighbour? (interval : Interval) (unit : Nat) : Option Nat :=
  let below := interval.middle / unit
  let above := below + 1
  let toBelow := interval.middle - below * unit
  let toAbove := above * unit - interval.middle
  match interval.contains (below * unit), interval.contains (above * unit) with
  | true, true =>
    if toBelow < toAbove then some below
    else if toAbove < toBelow then some above
    else if below % 2 = 0 then some below else some above
  | true, false => some below
  | false, true => some above
  | false, false => none

/-- The decimal with `count` digits for a positive number whose leading digit stands at `leading`.
-/
def Format.decimalOfLength? (format : Format) (number : Magnitude) (leading : Int) (count : Nat) :
    Option Decimal :=
  let place := leading - (count - 1 : Nat)
  let quarter := number.exponent - 2
  let interval :=
    (format.interval number).scale (Nat.pow 2 quarter.toNat * Nat.pow 10 (-place).toNat)
  let unit := Nat.pow 2 (-quarter).toNat * Nat.pow 10 place.toNat
  (interval.neighbour? unit).map fun digits => ⟨digits, place⟩

/-- The shortest decimal of a positive number; seventeen digits determine every number. -/
def Format.shortest (format : Format) (number : Magnitude) : Decimal :=
  let ratio := number.ratio
  let leading := floorLog10 ratio.1 ratio.2
  ((List.range 17).findSome? fun count =>
    format.decimalOfLength? number leading (count + 1)).getD ⟨0, 0⟩

end ShapeFlow.Binary
