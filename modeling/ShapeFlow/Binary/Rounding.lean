/-!
Binary floating-point formats and the rounding of exact quotients to them: to the nearest number of
the format, and to the even one of two that are equally near.
-/

namespace ShapeFlow.Binary

/-- The number `mantissa * 2 ^ exponent`. -/
structure Magnitude where
  mantissa : Nat
  exponent : Int
  deriving DecidableEq

def Magnitude.ratio (number : Magnitude) : Nat × Nat :=
  (number.mantissa * Nat.pow 2 number.exponent.toNat, Nat.pow 2 (-number.exponent).toNat)

/-- Mantissas have at most `precision` bits, exponents lie between the two bounds. -/
structure Format where
  precision : Nat
  minExponent : Int
  maxExponent : Int

def binary32 : Format := ⟨24, -149, 104⟩

def binary64 : Format := ⟨53, -1074, 971⟩

/-- The quotient rounded to the nearest natural number, a half to the even neighbour. -/
def roundHalfEven (num den : Nat) : Nat :=
  if 2 * (num % den) < den ∨ (2 * (num % den) = den ∧ num / den % 2 = 0) then num / den
  else num / den + 1

/-- The largest exponent of two that is at most the quotient of two positive numbers. -/
def floorLog2 (num den : Nat) : Int :=
  let estimate : Int := (num.log2 : Int) - (den.log2 : Int)
  if den * Nat.pow 2 estimate.toNat ≤ num * Nat.pow 2 (-estimate).toNat then estimate
  else estimate - 1

namespace Format

def lastPlace (format : Format) (num den : Nat) : Int :=
  max format.minExponent (floorLog2 num den - (format.precision - 1 : Nat))

/-- A mantissa that rounding has carried to one bit too many gives up its last one. -/
def normalize (format : Format) (number : Magnitude) : Magnitude :=
  if number.mantissa = Nat.pow 2 format.precision then
    ⟨Nat.pow 2 (format.precision - 1), number.exponent + 1⟩
  else number

/-- The number of the format nearest to a quotient; none if it lies beyond the largest one. -/
def round? (format : Format) (num den : Nat) : Option Magnitude :=
  if num = 0 then some ⟨0, format.minExponent⟩
  else
    let place := format.lastPlace num den
    let mantissa := roundHalfEven (num * Nat.pow 2 (-place).toNat) (den * Nat.pow 2 place.toNat)
    let number := format.normalize ⟨mantissa, place⟩
    if format.maxExponent < number.exponent then none else some number

def mul? (format : Format) (a b : Magnitude) : Option Magnitude :=
  format.round? (a.ratio.1 * b.ratio.1) (a.ratio.2 * b.ratio.2)

def div? (format : Format) (a b : Magnitude) : Option Magnitude :=
  format.round? (a.ratio.1 * b.ratio.2) (a.ratio.2 * b.ratio.1)

end Format

end ShapeFlow.Binary
